import TauriPlatform.PlainValue
import TauriPlatform.Rfc4180

/-!
# Exports

`ExportEngine.toCsv` writes the records of an export as comma-separated text.  A text which a
spreadsheet would take for a formula is written behind an apostrophe.
-/

namespace TauriPlatform

/-! ## Definitions -/

/-- What an accessor gives.  Of any other value, such as a date, an array or an object, only what
`String` makes of it counts. -/
inductive ExportValue where
  | undefined
  | null
  | bool (value : Bool)
  | number (value : NumberValue)
  | bigint (value : Int)
  | string (value : String)
  | other (text : Except Thrown String)

structure ExportColumn (Record : Type) where
  header : String
  accessor : Record → ExportValue

structure ExportDefinition (Record : Type) where
  sheetName : Option String
  columns : List (ExportColumn Record)

namespace ExportEngine

/-- `/^[\s\uFEFF]*[=+\-@]/`. -/
def startsFormula (chars : List Char) : Bool :=
  (chars.dropWhile isJsWhitespace).head?.any fun c => c ∈ ['=', '+', '-', '@']

def sanitizeSpreadsheetString (value : String) : String :=
  if startsFormula value.toList then "'" ++ value else value

def escapeCsv (value : String) : String :=
  if value.toList.any fun c => c ∈ [',', '"', '\n', '\r'] then
    "\"" ++ String.ofList (Rfc4180.double value.toList) ++ "\""
  else value

def checkHeaders : (seen headers : List String) → Except Thrown Unit
  | _, [] => return ()
  | seen, header :: rest =>
      if isBlank header then
        throw (validationError "Export column headers must not be empty"
          "The export configuration is invalid" "exp_empty_header")
      else if sanitizeSpreadsheetString header ∈ seen then
        throw (validationError s!"Duplicate export column header '{header}'"
          "The export configuration contains duplicate columns" "exp_duplicate_header")
      else checkHeaders (seen ++ [sanitizeSpreadsheetString header]) rest

def validateSheetName (sheetName : String) : Except Thrown Unit :=
  if isBlank sheetName ∨ jsLength sheetName > 31 ∨
      sheetName.toList.any (fun c => c ∈ ['\\', '/', '?', '*', '[', ']', ':']) ∨
      sheetName.toList.head? = some '\'' ∨ sheetName.toList.getLast? = some '\'' then
    throw (validationError s!"Invalid XLSX worksheet name '{sheetName}'"
      "The export worksheet name is invalid" "exp_sheet_name")
  else return ()

section Engine

variable {Record : Type} (records : List Record) (definition : ExportDefinition Record)

def validateDefinition : Except Thrown Unit :=
  if definition.columns.length = 0 then
    throw (validationError "Export definition must contain at least one column"
      "The export configuration is invalid" "exp_empty_columns")
  else checkHeaders [] (definition.columns.map ExportColumn.header)

/-! ## Comma-separated text -/

def cellText : ExportValue → Except Thrown String
  | .undefined | .null => return ""
  | .string value => return sanitizeSpreadsheetString value
  | .bool value => return if value then "true" else "false"
  | .number value => return value.text
  | .bigint value => return toString value
  | .other text => text

def csvRow (record : Record) : Except Thrown String := do
  let cells ← definition.columns.mapM fun column => do
    return escapeCsv (← cellText (column.accessor record))
  return ",".intercalate cells

def toCsv : Except Thrown String := do
  validateDefinition definition
  let headerRow := ",".intercalate
    (definition.columns.map fun column => escapeCsv (sanitizeSpreadsheetString column.header))
  let dataRows ← records.mapM (csvRow definition)
  return "\r\n".intercalate (headerRow :: dataRows)

end Engine

/-! ## Cells -/

theorem startsFormula_sanitize (value : String) :
    startsFormula (sanitizeSpreadsheetString value).toList = false := by
  unfold sanitizeSpreadsheetString
  split_ifs with hformula
  · rw [String.toList_append]
    rfl
  · exact Bool.eq_false_iff.mpr hformula

theorem isTextData_of_plain {value : String}
    (hplain : ¬ value.toList.any (fun c => c ∈ [',', '"', '\n', '\r']) = true) :
    ∀ c ∈ value.toList, Rfc4180.isTextData c = true := by
  intro c hc
  rw [List.any_eq_true] at hplain
  have hnone : ¬ c ∈ [',', '"', '\n', '\r'] :=
    fun hmem => hplain ⟨c, hc, decide_eq_true hmem⟩
  simp only [List.mem_cons, List.not_mem_nil, or_false, not_or] at hnone
  simp [Rfc4180.isTextData, hnone]

theorem field_escapeCsv (value : String) :
    Rfc4180.Field (escapeCsv value).toList value.toList := by
  unfold escapeCsv
  split_ifs with hspecial
  · simp only [String.toList_append, String.toList_ofList]
    exact .quoted value.toList
  · exact .plain (isTextData_of_plain hspecial)

/-! ## The decoded table -/

section Table

variable {Record : Type} {records : List Record} {definition : ExportDefinition Record}

def Holds (record : Record) (column : ExportColumn Record) (cell : List Char) : Prop :=
  cellText (column.accessor record) = .ok (String.ofList cell)

def headerCells (definition : ExportDefinition Record) : List (List Char) :=
  definition.columns.map fun column => (sanitizeSpreadsheetString column.header).toList

variable {record : Record}

theorem cells_of_escaped {columns : List (ExportColumn Record)} {escaped : List String}
    (hescaped : List.Forall₂ (fun column text => (do
      return escapeCsv (← cellText (column.accessor record))) = Except.ok text) columns escaped) :
    ∃ cells, List.Forall₂ Rfc4180.Field (escaped.map String.toList) cells ∧
      List.Forall₂ (Holds record) columns cells := by
  induction hescaped with
  | nil => exact ⟨[], .nil, .nil⟩
  | @cons column text _ _ hcell _ ih =>
      obtain ⟨cells, hfields, hholds⟩ := ih
      obtain ⟨value, hvalue, htext⟩ := bind_eq_ok hcell
      rw [← Except.ok.inj htext]
      refine ⟨value.toList :: cells, .cons (field_escapeCsv value) hfields, .cons ?_ hholds⟩
      rw [Holds, String.ofList_toList]
      exact hvalue

theorem csvRow_eq_ok {text : String} (hrow : csvRow definition record = .ok text) :
    ∃ texts cells, text.toList = [','].intercalate texts ∧
      List.Forall₂ Rfc4180.Field texts cells ∧
      List.Forall₂ (Holds record) definition.columns cells := by
  obtain ⟨escaped, hescaped, htext⟩ := bind_eq_ok hrow
  obtain ⟨cells, hfields, hholds⟩ := cells_of_escaped (forall₂_of_mapM_eq_ok hescaped)
  refine ⟨escaped.map String.toList, cells, ?_, hfields, hholds⟩
  rw [← Except.ok.inj htext, String.toList_intercalate]
  rfl

theorem rows_of_texts {texts : List String}
    (htexts : List.Forall₂ (fun record text => csvRow definition record = .ok text) records
      texts) :
    ∃ fields rows, texts.map String.toList = fields.map (fun row => [','].intercalate row) ∧
      List.Forall₂ (List.Forall₂ Rfc4180.Field) fields rows ∧
      List.Forall₂ (fun record row => List.Forall₂ (Holds record) definition.columns row)
        records rows := by
  induction htexts with
  | nil => exact ⟨[], [], rfl, .nil, .nil⟩
  | cons hrow _ ih =>
      obtain ⟨fields, rows, htexts, hfields, hholds⟩ := ih
      obtain ⟨rowFields, row, htext, hrowFields, hrowHolds⟩ := csvRow_eq_ok hrow
      exact ⟨rowFields :: fields, row :: rows, by rw [List.map_cons, List.map_cons, htext, htexts],
        .cons hrowFields hfields, .cons hrowHolds hholds⟩

theorem headerFields (definition : ExportDefinition Record) :
    List.Forall₂ Rfc4180.Field
      ((definition.columns.map fun column =>
        escapeCsv (sanitizeSpreadsheetString column.header)).map String.toList)
      (headerCells definition) := by
  unfold headerCells
  induction definition.columns with
  | nil => exact .nil
  | cons column columns ih => exact .cons (field_escapeCsv _) ih

theorem columns_ne_nil (hvalid : validateDefinition definition = .ok ()) :
    definition.columns ≠ [] := by
  intro hnone
  unfold validateDefinition at hvalid
  rw [hnone] at hvalid
  cases hvalid

theorem length_of_holds {rows : List (List (List Char))}
    (hholds : List.Forall₂ (fun record row => List.Forall₂ (Holds record) definition.columns row)
      records rows) {row : List (List Char)} (hrow : row ∈ rows) :
    row.length = definition.columns.length := by
  induction hholds with
  | nil => cases hrow
  | cons hfirst _ ih =>
      rcases List.mem_cons.mp hrow with rfl | hlater
      · exact hfirst.length_eq.symm
      · exact ih hlater

theorem decode_toCsv {text : String} (hcsv : toCsv records definition = .ok text) :
    ∃ rows, Rfc4180.decode text.toList = some (headerCells definition :: rows) ∧
      List.Forall₂ (fun record row => List.Forall₂ (Holds record) definition.columns row)
        records rows := by
  obtain ⟨_, hvalid, hcsv⟩ := bind_eq_ok hcsv
  obtain ⟨texts, htexts, htext⟩ := bind_eq_ok hcsv
  obtain ⟨fields, rows, hjoined, hfields, hholds⟩ := rows_of_texts (forall₂_of_mapM_eq_ok htexts)
  have hcolumns := columns_ne_nil hvalid
  refine ⟨rows, Rfc4180.decode_of_text ?_, hholds⟩
  have htable := Rfc4180.text_of_table (.cons (headerFields definition) hfields)
    (List.cons_ne_nil _ _) ?_
  · rw [← Except.ok.inj htext, String.toList_intercalate, List.map_cons, hjoined,
      String.toList_intercalate]
    exact htable
  · intro row hrow
    rcases List.mem_cons.mp hrow with rfl | hdata
    · exact fun hnone => hcolumns (List.map_eq_nil_iff.mp hnone)
    · intro hnone
      have hlength := length_of_holds hholds hdata
      rw [hnone] at hlength
      exact hcolumns (List.length_eq_zero_iff.mp hlength.symm)

theorem forall₂_of_mem {α β : Type} {relation stronger : α → β → Prop} {left : List α}
    {right : List β} (himp : ∀ a ∈ left, ∀ b, relation a b → stronger a b)
    (hrelated : List.Forall₂ relation left right) : List.Forall₂ stronger left right := by
  induction hrelated with
  | nil => exact .nil
  | cons hfirst _ ih =>
      exact .cons (himp _ List.mem_cons_self _ hfirst)
        (ih fun a ha => himp a (List.mem_cons_of_mem _ ha))

theorem exists_of_forall₂ {α β : Type} {relation : α → β → Prop} {left : List α}
    {right : List β} (hrelated : List.Forall₂ relation left right) {a : α} (ha : a ∈ left) :
    ∃ b, relation a b := by
  induction hrelated with
  | nil => cases ha
  | cons hfirst _ ih =>
      rcases List.mem_cons.mp ha with rfl | hlater
      · exact ⟨_, hfirst⟩
      · exact ih hlater

theorem mapM_isOk {ε α β : Type} {f : α → Except ε β} {items : List α}
    (hitems : ∀ item ∈ items, ∃ result, f item = .ok result) :
    ∃ results, items.mapM f = .ok results := by
  induction items with
  | nil => exact ⟨[], rfl⟩
  | cons item items ih =>
      obtain ⟨result, hresult⟩ := hitems item List.mem_cons_self
      obtain ⟨results, hresults⟩ := ih fun other hother =>
        hitems other (List.mem_cons_of_mem _ hother)
      rw [List.mapM_cons, hresult, hresults]
      exact ⟨_, rfl⟩

theorem toCsv_isOk (hvalid : validateDefinition definition = .ok ())
    (htexts : ∀ record ∈ records, ∀ column ∈ definition.columns,
      ∃ text, cellText (column.accessor record) = .ok text) :
    ∃ text, toCsv records definition = .ok text := by
  have hrows : ∀ record ∈ records, ∃ text, csvRow definition record = .ok text := by
    intro record hrecord
    obtain ⟨cells, hcells⟩ := mapM_isOk (f := fun column : ExportColumn Record => do
      return escapeCsv (← cellText (column.accessor record))) fun column hcolumn => by
        obtain ⟨text, htext⟩ := htexts record hrecord column hcolumn
        rw [htext]
        exact ⟨_, rfl⟩
    rw [csvRow, hcells]
    exact ⟨_, rfl⟩
  obtain ⟨dataRows, hdataRows⟩ := mapM_isOk hrows
  rw [toCsv, hvalid]
  simp only [bind, Except.bind, hdataRows]
  exact ⟨_, rfl⟩

/-! ## Safe exports -/

def IsNumeric : ExportValue → Prop
  | .number _ => True
  | .bigint _ => True
  | _ => False

/-- The text of a value which is written as `String` makes it is no formula; any other value is
of the declared type of an accessor, or a big integer. -/
def IsHarmless : ExportValue → Prop
  | .other text => ∃ written, text = .ok written ∧ startsFormula written.toList = false
  | _ => True

/-- The text is read back as a row of sanitised headers and one row for each record with one cell
for each column in order, of which only numbers begin as a formula does. -/
def ExportsSafely (records : List Record) (definition : ExportDefinition Record) : Prop :=
  ∃ text rows, toCsv records definition = .ok text ∧
    Rfc4180.decode text.toList = some (headerCells definition :: rows) ∧
    List.Forall₂ (fun record row => List.Forall₂ (fun column cell => Holds record column cell ∧
      (IsNumeric (column.accessor record) ∨ startsFormula cell = false))
        definition.columns row) records rows

theorem cellText_of_harmless {value : ExportValue} (hharmless : IsHarmless value) :
    ∃ text, cellText value = .ok text ∧ (IsNumeric value ∨ startsFormula text.toList = false) := by
  cases value with
  | undefined => exact ⟨"", rfl, .inr rfl⟩
  | null => exact ⟨"", rfl, .inr rfl⟩
  | bool value =>
      refine ⟨_, rfl, .inr ?_⟩
      cases value
      · decide
      · decide
  | number value => exact ⟨_, rfl, .inl trivial⟩
  | bigint value => exact ⟨_, rfl, .inl trivial⟩
  | string value => exact ⟨_, rfl, .inr (startsFormula_sanitize value)⟩
  | other text =>
      obtain ⟨written, rfl, hsafe⟩ := hharmless
      exact ⟨written, rfl, .inr hsafe⟩

theorem harmless_of_holds {column : ExportColumn Record} {cell : List Char}
    (hholds : Holds record column cell)
    (hsafe : IsNumeric (column.accessor record) ∨ startsFormula cell = false) :
    IsHarmless (column.accessor record) := by
  unfold Holds at hholds
  cases hvalue : column.accessor record with
  | other text =>
      rw [hvalue] at hholds hsafe
      refine ⟨String.ofList cell, hholds, ?_⟩
      rw [String.toList_ofList]
      exact hsafe.resolve_left id
  | _ => trivial

theorem forall₂_safe {rows : List (List (List Char))}
    (hharmless : ∀ record ∈ records, ∀ column ∈ definition.columns,
      IsHarmless (column.accessor record))
    (hholds : List.Forall₂ (fun record row => List.Forall₂ (Holds record) definition.columns row)
      records rows) :
    List.Forall₂ (fun record row => List.Forall₂ (fun column cell => Holds record column cell ∧
      (IsNumeric (column.accessor record) ∨ startsFormula cell = false))
        definition.columns row) records rows := by
  refine forall₂_of_mem (fun record hrecord row hrow => ?_) hholds
  refine forall₂_of_mem (fun column hcolumn cell hcell => ?_) hrow
  obtain ⟨text, htext, hsafe⟩ := cellText_of_harmless (hharmless record hrecord column hcolumn)
  have hsame : text = String.ofList cell := Except.ok.inj (htext.symm.trans hcell)
  rw [hsame, String.toList_ofList] at hsafe
  exact ⟨hcell, hsafe⟩

/-- An export of a valid definition is lossless and safe exactly where every value is harmless. -/
theorem toCsv_exportsSafely_iff (records : List Record) {definition : ExportDefinition Record}
    (hvalid : validateDefinition definition = .ok ()) :
    ExportsSafely records definition ↔
      ∀ record ∈ records, ∀ column ∈ definition.columns, IsHarmless (column.accessor record) := by
  constructor
  · rintro ⟨text, rows, -, -, hrows⟩ record hrecord column hcolumn
    obtain ⟨row, hrow⟩ := exists_of_forall₂ hrows hrecord
    obtain ⟨cell, hholds, hsafe⟩ := exists_of_forall₂ hrow hcolumn
    exact harmless_of_holds hholds hsafe
  · intro hharmless
    obtain ⟨text, hcsv⟩ := toCsv_isOk hvalid fun record hrecord column hcolumn => by
      obtain ⟨written, hwritten, -⟩ :=
        cellText_of_harmless (hharmless record hrecord column hcolumn)
      exact ⟨written, hwritten⟩
    obtain ⟨rows, hdecoded, hholds⟩ := decode_toCsv hcsv
    exact ⟨text, rows, hcsv, hdecoded, forall₂_safe hharmless hholds⟩

end Table

/-! ## One column -/

def valueColumn : ExportDefinition ExportValue where
  sheetName := none
  columns := [⟨"value", id⟩]

theorem toCsv_exportsSafely_iff_values :
    ExportsSafely [.string "=1+1", .number (.finite (.integer (-5)))] valueColumn ↔
      ∀ record ∈ [ExportValue.string "=1+1", .number (.finite (.integer (-5)))],
        ∀ column ∈ valueColumn.columns, IsHarmless (column.accessor record) :=
  toCsv_exportsSafely_iff _ (show validateDefinition valueColumn = .ok () by rfl)

/-- The array `["=1+1"]` is written as the formula which it holds. -/
theorem exported_formula :
    ∃ text, toCsv [.other (.ok "=1+1")] valueColumn = .ok text ∧
      ¬ ExportsSafely [.other (.ok "=1+1")] valueColumn := by
  refine ⟨_, rfl, ?_⟩
  rintro ⟨text, rows, -, -, hrows⟩
  obtain ⟨row, hrow⟩ := exists_of_forall₂ hrows List.mem_cons_self
  obtain ⟨cell, hholds, hsafe⟩ := exists_of_forall₂ hrow List.mem_cons_self
  obtain ⟨written, hwritten, hharmless⟩ := harmless_of_holds hholds hsafe
  rw [← Except.ok.inj hwritten] at hharmless
  revert hharmless
  decide

end ExportEngine
end TauriPlatform
