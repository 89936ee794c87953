import TauriPlatform.ImportValidation

/-!
# Reading the rows of a spreadsheet

`ImportEngine.parseBuffer` bounds what the `xlsx` package makes of a file.  The package leaves
blank rows out, and `validate` numbers the rows which it is handed.
-/

namespace TauriPlatform

/-! ## The package -/

structure SheetCell where
  w : PlainValue
  v : PlainValue

structure SheetRange where
  firstRow : Int
  firstColumn : Int
  lastRow : Int
  lastColumn : Int

namespace SheetRange

variable (range : SheetRange)

def rowCount : Int := range.lastRow - range.firstRow + 1

def columnCount : Int := range.lastColumn - range.firstColumn + 1

end SheetRange

/-- A worksheet: its used range under `!ref`, and its cells by their addresses. -/
structure Worksheet where
  ref : Option String
  cell : String → Option SheetCell

structure Workbook where
  sheetNames : List String
  sheets : String → Option Worksheet

/-- The options of `sheet_to_json`. -/
structure SheetToJsonOptions where
  defval : PlainValue
  raw : Bool
  blankrows : Bool := false

/-- A record, whose keys are the texts of the header, with the row which it was made of. -/
structure RawRow where
  entries : List (String × PlainValue)
  rowNum : Int

/-- What is used of `xlsx`, and which rows are blank to it. -/
structure XlsxPackage where
  read : (sheetRows : Nat) → (buffer : List UInt8) → Except Raised Workbook
  decodeRange : String → Except Raised SheetRange
  encodeCell : (row column : Int) → String
  sheetToJson : Worksheet → SheetToJsonOptions → Except Raised (List RawRow)
  isBlankRow : Worksheet → Int → Bool

namespace ImportEngine

/-! ## Limits -/

def maxImportFileBytes : Nat := 10 * 1024 * 1024
def maxImportSheets : Nat := 8
def maxImportRows : Nat := 10000
def maxImportCells : Nat := 100000
def maxImportCellStringLength : Nat := 64 * 1024
def maxImportParseMs : Int := 5000

structure ParseReadings where
  startedAt : Int
  afterRead : Int
  atEnd : Int

def assertParseBudget (startedAt now : Int) : Except Thrown Unit :=
  if now - startedAt > maxImportParseMs then
    throw (validationError "Spreadsheet parsing exceeded the resource budget"
      "The uploaded file took too long to process" "imp_parse_budget")
  else return ()

def reportAs {α : Type} (problem userMessage correlationId : String) :
    Except Raised α → Except Thrown α
  | .ok value => return value
  | .error raised => do
      let text ← raised.text
      throw (validationError s!"{problem}: {text}" userMessage correlationId)

def isSafeInteger (value : Int) : Bool :=
  value.natAbs ≤ maxSafeInteger

def invalidRange {α : Type} : Except Raised α → Except Thrown α :=
  reportAs "Spreadsheet worksheet range is invalid"
    "The uploaded spreadsheet dimensions are invalid" "imp_invalid_worksheet_range"

def checkRange (range : SheetRange) : Except Thrown Unit :=
  if range.rowCount < 0 ∨ range.columnCount < 0 ∨ !isSafeInteger range.rowCount ∨
      !isSafeInteger range.columnCount then
    invalidRange (.error (.error (.string "Error") (.string "Invalid worksheet range")))
  else if range.rowCount > maxImportRows + 1 then
    throw (validationError "Worksheet exceeds the maximum row count"
      "The uploaded worksheet has too many rows" "imp_row_limit")
  else if range.rowCount * range.columnCount > maxImportCells then
    throw (validationError "Worksheet range exceeds the maximum cell count"
      "The uploaded worksheet has too many cells" "imp_cell_limit")
  else return ()

def checkRows : Nat → List RawRow → Except Thrown Unit
  | _, [] => return ()
  | cellCount, row :: rest =>
      if cellCount + row.entries.length > maxImportCells then
        throw (validationError "Worksheet exceeds the maximum cell count"
          "The uploaded worksheet has too many cells" "imp_cell_limit")
      else if row.entries.any fun entry =>
          entry.2.string?.any fun text => maxImportCellStringLength < jsLength text then
        throw (validationError "Worksheet contains an oversized cell"
          "The uploaded worksheet contains a value that is too large" "imp_cell_string_limit")
      else checkRows (cellCount + row.entries.length) rest

def boundRows (rows : List RawRow) : Except Thrown (List RawRow) :=
  if rows.length > maxImportRows then
    throw (validationError "Worksheet exceeds the maximum row count"
      "The uploaded worksheet has too many rows" "imp_row_limit")
  else do
    checkRows 0 rows
    return rows

section Package

variable (package : XlsxPackage) (toLocaleLowerCase : String → String)

/-! ## The worksheet -/

def worksheetBounds (worksheet : Worksheet) : Except Thrown (Option SheetRange) :=
  match worksheet.ref with
  | none => return none
  | some ref =>
      if ref = "" then return none
      else do
        let range ← invalidRange (package.decodeRange ref)
        checkRange range
        return some range

def heading (cell : Option SheetCell) : Except Thrown String := do
  let value := (cell.map fun cell => PlainValue.orElse cell.v cell.w).getD .undefined
  let text ← (PlainValue.orElse (.string "") value).text
  return String.ofList ((text.toList.dropWhile isJsWhitespace).rdropWhile isJsWhitespace)

def checkHeadings (worksheet : Worksheet) (row : Int) :
    (seen : List String) → (columns : List Int) → Except Thrown Unit
  | _, [] => return ()
  | seen, column :: rest => do
      let header ← heading (worksheet.cell (package.encodeCell row column))
      let normalizedHeader := toLocaleLowerCase header
      if normalizedHeader = "" then
        throw (validationError s!"Worksheet contains an empty header at column {column + 1}"
          "Every imported column must have a heading" "imp_empty_header")
      else if normalizedHeader ∈ seen then
        throw (validationError s!"Worksheet contains duplicate header '{header}'"
          "The uploaded worksheet contains duplicate column headings" "imp_duplicate_header")
      else checkHeadings worksheet row (seen ++ [normalizedHeader]) rest

/-- The numbers from `start` on. -/
def numbersFrom (start : Int) : (count : Nat) → List Int
  | 0 => []
  | count + 1 => start :: numbersFrom (start + 1) count

/-- `parseBuffer` from the worksheet on. -/
def worksheetRows (worksheet : Worksheet) : Except Thrown (List RawRow) := do
  match ← worksheetBounds package worksheet with
  | none => pure ()
  | some range =>
      checkHeadings package toLocaleLowerCase worksheet range.firstRow []
        (numbersFrom range.firstColumn range.columnCount.toNat)
  let rows ← reportAs "Spreadsheet row conversion failed"
    "The uploaded spreadsheet rows could not be read" "imp_row_conversion_failed"
    (package.sheetToJson worksheet { defval := .null, raw := false })
  boundRows rows

/-- `parseBuffer` up to the worksheet. -/
def firstWorksheet (readings : ParseReadings) (buffer : List UInt8) :
    Except Thrown Worksheet := do
  if buffer.length > maxImportFileBytes then
    throw (validationError "Import file exceeds the maximum allowed size"
      "The uploaded file is too large" "imp_file_size_limit")
  let workbook ← reportAs "Spreadsheet parsing failed"
    "The uploaded file could not be read as a spreadsheet" "imp_parse_failed"
    (package.read (maxImportRows + 2) buffer)
  assertParseBudget readings.startedAt readings.afterRead
  if workbook.sheetNames.length > maxImportSheets then
    throw (validationError "Workbook exceeds the maximum sheet count"
      "The uploaded workbook has too many sheets" "imp_sheet_limit")
  let firstSheetName := workbook.sheetNames.headD ""
  if firstSheetName = "" then
    throw (validationError "Spreadsheet contains no sheets" "The uploaded file is empty"
      "imp_empty_file")
  match workbook.sheets firstSheetName with
  | none =>
      throw (validationError s!"Spreadsheet worksheet '{firstSheetName}' is missing"
        "The uploaded spreadsheet is incomplete" "imp_missing_worksheet")
  | some worksheet => return worksheet

def parseBuffer (readings : ParseReadings) (buffer : List UInt8) :
    Except Thrown (List RawRow) := do
  let worksheet ← firstWorksheet package readings buffer
  let rows ← worksheetRows package toLocaleLowerCase worksheet
  assertParseBudget readings.startedAt readings.atEnd
  return rows

end Package

/-! ## Formats -/

inductive ImportFormat where
  | csv
  | xlsx
  | xls
  deriving DecidableEq

def ImportFormat.text : ImportFormat → String
  | csv => "csv"
  | xlsx => "xlsx"
  | xls => "xls"

def xlsxSignature : List UInt8 := [0x50, 0x4b, 0x03, 0x04]

def xlsSignature : List UInt8 := [0xd0, 0xcf, 0x11, 0xe0, 0xa1, 0xb1, 0x1a, 0xe1]

def detectFormat (bytes : List UInt8) : Except Thrown ImportFormat :=
  if xlsxSignature.isPrefixOf bytes then return .xlsx
  else if xlsSignature.isPrefixOf bytes then return .xls
  else if (String.fromUTF8? ⟨bytes.toArray⟩).isSome && !bytes.contains 0 then return .csv
  else
    throw (validationError "Import file format could not be identified"
      "The uploaded file format is not supported" "imp_unknown_format")

def assertAcceptedFormat (bytes : List UInt8) (acceptedFormats : List ImportFormat) :
    Except Thrown Unit := do
  let detected ← detectFormat bytes
  if detected ∉ acceptedFormats then
    throw (validationError ("Import format is not accepted: " ++ detected.text)
      "The uploaded file format is not accepted for this import" "imp_format_not_accepted")

def acceptedRows (package : XlsxPackage) (toLocaleLowerCase : String → String)
    (readings : ParseReadings) (buffer : List UInt8) (acceptedFormats : List ImportFormat) :
    Except Thrown (List RawRow) := do
  assertAcceptedFormat buffer acceptedFormats
  parseBuffer package toLocaleLowerCase readings buffer

def validateBuffer {State : Type} (package : XlsxPackage) (toLocaleLowerCase : String → String)
    (readings : ParseReadings) (buffer : List UInt8) (acceptedFormats : List ImportFormat)
    (validateRow : RowValidator State RawRow) (state : State) :
    Except Thrown ImportValidationResult × State :=
  match acceptedRows package toLocaleLowerCase readings buffer acceptedFormats with
  | .error thrown => (.error thrown, state)
  | .ok rows => validate validateRow rows state

/-! ## The rows of the records -/

section Rows

variable (package : XlsxPackage) (worksheet : Worksheet)

def usedRange? : Option SheetRange :=
  worksheet.ref.bind fun ref => (package.decodeRange ref).toOption

def dataRows : List Int :=
  match usedRange? package worksheet with
  | none => []
  | some range => numbersFrom (range.firstRow + 1) (range.lastRow - range.firstRow).toNat

def recordRows : List Int :=
  (dataRows package worksheet).filter fun row => !package.isBlankRow worksheet row

/-- How many rows above the header are not used and how many rows between the header and the
given one are blank; the header is the first row of the used range. -/
def rowsPassedOver (row : Int) : Int :=
  (match usedRange? package worksheet with
    | none => 0
    | some range => range.firstRow) +
  (dataRows package worksheet).countP fun above =>
    above < row && package.isBlankRow worksheet above

/-- `sheet_to_json` takes the first row of the used range as the header, and leaves blank rows
out unless it is told otherwise. -/
structure SkipsBlankRows (package : XlsxPackage) : Prop where
  records : ∀ worksheet options rows, options.blankrows = false →
    package.sheetToJson worksheet options = .ok rows →
      rows.map RawRow.rowNum = recordRows package worksheet

end Rows

theorem le_of_mem_numbersFrom {start number : Int} {count : Nat}
    (hmem : number ∈ numbersFrom start count) : start ≤ number := by
  induction count generalizing start with
  | zero => cases hmem
  | succ count ih =>
      rcases List.mem_cons.mp hmem with rfl | hlater
      · exact le_rfl
      · have hle := ih hlater
        omega

theorem filter_numbersFrom_getElem? (isBlank : Int → Bool) {start row : Int} {count index : Nat}
    (hrow : ((numbersFrom start count).filter fun row => !isBlank row)[index]? = some row) :
    start ≤ row ∧ row = start + index +
      ((numbersFrom start count).countP fun above => above < row && isBlank above : Nat) := by
  induction count generalizing start index with
  | zero => cases hrow
  | succ count ih =>
      rw [numbersFrom, List.filter_cons] at hrow
      rw [numbersFrom, List.countP_cons]
      cases hblank : isBlank start with
      | true =>
          rw [hblank] at hrow
          obtain ⟨hstart, hvalue⟩ := ih hrow
          have hbelow : start < row := by omega
          simp only [hbelow, decide_true, Bool.and_self, if_true]
          refine ⟨by omega, ?_⟩
          push_cast
          omega
      | false =>
          rw [hblank] at hrow
          simp only [Bool.and_false, Bool.false_eq_true, if_false, Nat.add_zero]
          cases index with
          | zero =>
              have hstart : start = row := Option.some.inj hrow
              have hnone : ((numbersFrom (start + 1) count).countP fun above =>
                  above < row && isBlank above) = 0 := by
                rw [List.countP_eq_zero]
                intro above hmem
                have hle := le_of_mem_numbersFrom hmem
                have hbelow : ¬ above < row := by omega
                simp [hbelow]
              refine ⟨hstart.le, ?_⟩
              rw [hnone]
              omega
          | succ index =>
              obtain ⟨hstart, hvalue⟩ := ih hrow
              refine ⟨by omega, ?_⟩
              push_cast
              omega

variable {package : XlsxPackage} {worksheet : Worksheet}

theorem row_of_record {row : Int} {index : Nat}
    (hrow : (recordRows package worksheet)[index]? = some row) :
    row = index + 1 + rowsPassedOver package worksheet row := by
  unfold recordRows dataRows at hrow
  unfold rowsPassedOver dataRows
  cases hrange : usedRange? package worksheet with
  | none =>
      rw [hrange] at hrow
      cases hrow
  | some range =>
      rw [hrange] at hrow
      have hvalue := (filter_numbersFrom_getElem? (package.isBlankRow worksheet) hrow).2
      dsimp only
      omega

/-! ## The reported rows -/

/-- The errors of each record carry the number which its row has in the spreadsheet, where rows
count from one. -/
def PointsAt (rows : List RawRow) (answers : List (Except Raised PlainValue))
    (result : ImportValidationResult) : Prop :=
  ∃ added : List Collected, SettleEach 0 answers added ∧
    result.errors = added.flatMap Collected.errors ∧
    ∀ (index : Nat) row contribution, rows[index]? = some row →
      added[index]? = some contribution →
        ∀ error ∈ contribution.errors, (error.rowIndex : Int) = row.rowNum + 1

/-- Each record which the callback rejects stands right below the header and the records before
it, with the header in the first row. -/
def StandsInPlace (package : XlsxPackage) (worksheet : Worksheet) (rows : List RawRow)
    (answers : List (Except Raised PlainValue)) : Prop :=
  ∀ (index : Nat) row answer, rows[index]? = some row → answers[index]? = some answer →
    keptData? answer = none → rowsPassedOver package worksheet row.rowNum = 0

theorem settled_rowIndex {answer : Except Raised PlainValue} {index : Nat}
    {contribution : Collected} (hsettles : contribution.Settles answer (index + 2))
    {error : RowValidationError} (herror : error ∈ contribution.errors) :
    keptData? answer = none ∧ error.rowIndex = index + 2 := by
  unfold Collected.Settles at hsettles
  cases hkept : keptData? answer with
  | some data =>
      rw [hkept] at hsettles
      subst hsettles
      cases herror
  | none =>
      rw [hkept] at hsettles
      exact ⟨rfl, hsettles.1.marked error herror⟩

variable {rows : List RawRow}

theorem pointsAt_iff (hrows : rows.map RawRow.rowNum = recordRows package worksheet)
    {answers : List (Except Raised PlainValue)} (hlength : answers.length = rows.length)
    {result : ImportValidationResult} (hpartitions : Partitions answers result) :
    PointsAt rows answers result ↔ StandsInPlace package worksheet rows answers := by
  have hvalue : ∀ (index : Nat) row, rows[index]? = some row →
      row.rowNum = index + 1 + rowsPassedOver package worksheet row.rowNum := by
    intro index row hrow
    apply row_of_record
    rw [← hrows, List.getElem?_map, hrow]
    rfl
  constructor
  · rintro ⟨added, hsettle, -, hpoints⟩ index row answer hrow hanswer hrejected
    obtain ⟨contribution, hcontribution, hsettles⟩ := hsettle.getElem? hanswer
    have herrors : contribution.errors ≠ [] := by
      unfold Collected.Settles at hsettles
      rw [hrejected] at hsettles
      exact hsettles.2
    obtain ⟨error, herror⟩ := List.exists_mem_of_ne_nil _ herrors
    have hreported := hpoints index row contribution hrow hcontribution error herror
    have hindex := (settled_rowIndex hsettles herror).2
    have hrowNum := hvalue index row hrow
    omega
  · intro hplace
    obtain ⟨-, added, hsettle, -, herrors⟩ := hpartitions
    refine ⟨added, hsettle, herrors, ?_⟩
    intro index row contribution hrow hcontribution error herror
    have hindex : index < answers.length := by
      rw [hlength]
      exact (List.getElem?_eq_some_iff.mp hrow).1
    have hanswer : answers[index]? = some answers[index] := List.getElem?_eq_getElem hindex
    obtain ⟨same, hsame, hsettles⟩ := hsettle.getElem? hanswer
    cases hcontribution.symm.trans hsame
    obtain ⟨hrejected, hreported⟩ := settled_rowIndex hsettles herror
    have hpassed := hplace index row answers[index] hrow hanswer hrejected
    have hrowNum := hvalue index row hrow
    omega

theorem reportAs_eq_ok {α : Type} {problem userMessage correlationId : String}
    {outcome : Except Raised α} {value : α}
    (hok : reportAs problem userMessage correlationId outcome = .ok value) :
    outcome = .ok value := by
  cases outcome with
  | ok result => exact congrArg Except.ok (Except.ok.inj hok)
  | error raised =>
      obtain ⟨_, -, hthrown⟩ := bind_eq_ok hok
      cases hthrown

theorem boundRows_eq_ok {converted : List RawRow} (hok : boundRows converted = .ok rows) :
    converted = rows := by
  unfold boundRows at hok
  split_ifs at hok
  obtain ⟨_, -, hreturned⟩ := bind_eq_ok hok
  exact Except.ok.inj hreturned

theorem sheetRows_of_worksheetRows {toLocaleLowerCase : String → String}
    (hparsed : worksheetRows package toLocaleLowerCase worksheet = .ok rows) :
    package.sheetToJson worksheet { defval := .null, raw := false } = .ok rows := by
  obtain ⟨range, -, hparsed⟩ := bind_eq_ok hparsed
  have hrest : (do
      let rows ← reportAs "Spreadsheet row conversion failed"
        "The uploaded spreadsheet rows could not be read" "imp_row_conversion_failed"
        (package.sheetToJson worksheet { defval := .null, raw := false })
      boundRows rows) = .ok rows := by
    cases range with
    | none => exact hparsed
    | some range =>
        obtain ⟨_, -, hparsed⟩ := bind_eq_ok hparsed
        exact hparsed
  obtain ⟨converted, hconverted, hbound⟩ := bind_eq_ok hrest
  rw [← boundRows_eq_ok hbound]
  exact reportAs_eq_ok hconverted

/-- What is reported for a worksheet points at its rows as long as no row is passed over above
the records which are rejected. -/
theorem validate_pointsAt_iff {package : XlsxPackage} (hskips : SkipsBlankRows package)
    {toLocaleLowerCase : String → String} {readings : ParseReadings} {buffer : List UInt8}
    {worksheet : Worksheet} {rows : List RawRow}
    (hworksheet : firstWorksheet package readings buffer = .ok worksheet)
    (hparsed : parseBuffer package toLocaleLowerCase readings buffer = .ok rows)
    {State : Type} (validateRow : RowValidator State RawRow) (state : State) :
    (∀ result later, validate validateRow rows state = (.ok result, later) →
        PointsAt rows (answers validateRow 0 rows state) result) ↔
      ((∀ answer ∈ answers validateRow 0 rows state, HasText answer) →
        StandsInPlace package worksheet rows (answers validateRow 0 rows state)) := by
  have hrows : rows.map RawRow.rowNum = recordRows package worksheet := by
    obtain ⟨same, hsame, hparsed⟩ := bind_eq_ok hparsed
    cases hworksheet.symm.trans hsame
    obtain ⟨parsed, hworksheetRows, hparsed⟩ := bind_eq_ok hparsed
    obtain ⟨_, -, hparsed⟩ := bind_eq_ok hparsed
    cases hparsed
    exact hskips.records worksheet _ _ rfl (sheetRows_of_worksheetRows hworksheetRows)
  have hlength : (answers validateRow 0 rows state).length = rows.length :=
    length_answers validateRow 0 rows state
  rcases validate_cases validateRow rows state with
    ⟨htexts, result, later, hvalidated, hpartitions⟩ | ⟨hthrows, thrown, later, hvalidated⟩
  · rw [hvalidated]
    have hiff := pointsAt_iff hrows hlength hpartitions
    constructor
    · exact fun hpoints _ => hiff.mp (hpoints result later rfl)
    · intro hplace _ _ hok
      cases hok
      exact hiff.mpr (hplace htexts)
  · rw [hvalidated]
    exact ⟨fun _ htexts => absurd htexts hthrows, fun _ _ _ hok => nomatch hok⟩

/-! ## A worksheet with a blank row -/

def gappedSheet : Worksheet where
  ref := some "A1:A3"
  cell address :=
    if address = "A1" then some ⟨.string "name", .string "name"⟩
    else if address = "A3" then some ⟨.string "x", .string "x"⟩
    else none

def gappedBuffer : List UInt8 :=
  [0x6e, 0x61, 0x6d, 0x65, 0x0a, 0x0a, 0x78, 0x0a]

def gappedRows : List RawRow :=
  [⟨[("name", .string "x")], 2⟩]

def gappedPackage : XlsxPackage where
  read _ _ := .ok ⟨["Sheet1"], fun name => if name = "Sheet1" then some gappedSheet else none⟩
  decodeRange ref :=
    if ref = "A1:A3" then .ok ⟨0, 0, 2, 0⟩
    else .error (.error (.string "Error") (.string "unexpected range"))
  encodeCell row _ := if row = 0 then "A1" else if row = 1 then "A2" else "A3"
  sheetToJson worksheet _ := .ok (if worksheet.ref = some "A1:A3" then gappedRows else [])
  isBlankRow _ row := row = 1

theorem gappedPackage_skipsBlankRows : SkipsBlankRows gappedPackage where
  records worksheet options rows _ hrows := by
    cases hrows
    unfold recordRows dataRows usedRange?
    cases hused : worksheet.ref with
    | none => rfl
    | some ref =>
        by_cases hknown : ref = "A1:A3"
        · subst hknown
          rfl
        · simp [gappedPackage, hknown, Except.toOption]

def firstReadings : ParseReadings :=
  ⟨0, 0, 0⟩

def rejectAll : RowValidator Unit RawRow :=
  fun state _ _ => (.ok (.object [("valid", .bool false)]), state)

theorem validate_pointsAt_iff_gapped :
    (∀ result later, validate rejectAll gappedRows () = (.ok result, later) →
        PointsAt gappedRows (answers rejectAll 0 gappedRows ()) result) ↔
      ((∀ answer ∈ answers rejectAll 0 gappedRows (), HasText answer) →
        StandsInPlace gappedPackage gappedSheet gappedRows
          (answers rejectAll 0 gappedRows ())) :=
  validate_pointsAt_iff gappedPackage_skipsBlankRows
    (show firstWorksheet gappedPackage firstReadings gappedBuffer = .ok gappedSheet by rfl)
    (show parseBuffer gappedPackage id firstReadings gappedBuffer = .ok gappedRows by rfl)
    rejectAll ()

/-- The record in the third row is reported for the second one. -/
theorem gapped_pointsElsewhere :
    parseBuffer gappedPackage id firstReadings gappedBuffer = .ok gappedRows ∧
      ¬ ∀ result later, validate rejectAll gappedRows () = (.ok result, later) →
        PointsAt gappedRows (answers rejectAll 0 gappedRows ()) result := by
  refine ⟨by rfl, fun hpoints => ?_⟩
  have hrows : gappedRows.map RawRow.rowNum = recordRows gappedPackage gappedSheet := by rfl
  rcases validate_cases rejectAll gappedRows () with
    ⟨-, result, later, hvalidated, hpartitions⟩ | ⟨hthrows, -⟩
  · have hplace := (pointsAt_iff hrows rfl hpartitions).mp (hpoints result later hvalidated)
    have hpassed := hplace 0 ⟨[("name", .string "x")], 2⟩ _ rfl rfl rfl
    revert hpassed
    decide
  · exact hthrows (by decide)

end ImportEngine
end TauriPlatform
