import TauriPlatform.NativeRequest

/-!
# The responses of the native side

`query_json` adds up an estimate for each cell before it converts the cell, and gives up above a
bound.  A response which it does return holds every row, and is no longer than the bound, up to
the brackets around the rows.
-/

namespace TauriPlatform.NativeQuery

open DurableDatabase SerdeJson NativeRequest

variable {F : Type}

/-- `ValueRef`; a real which is not finite is none, and a text may have any bytes. -/
inductive ValueRef (F : Type) where
  | null
  | integer (value : Int64)
  | real (value : Option F)
  | text (bytes : List UInt8)
  | blob (bytes : List UInt8)

/-! ## Texts -/

def utf8CharWidth (byte : UInt8) : Nat :=
  if byte < 0x80 then 1
  else if byte < 0xC2 then 0
  else if byte < 0xE0 then 2
  else if byte < 0xF0 then 3
  else if byte < 0xF5 then 4
  else 0

def isContinuation (byte : UInt8) : Bool :=
  byte &&& 192 = 128

def goesOn (first second : UInt8) : Bool :=
  if first = 0xE0 then 0xA0 ≤ second && second ≤ 0xBF
  else if first = 0xED then 0x80 ≤ second && second ≤ 0x9F
  else if first = 0xF0 then 0x90 ≤ second && second ≤ 0xBF
  else if first = 0xF4 then 0x80 ≤ second && second ≤ 0x8F
  else 0x80 ≤ second && second ≤ 0xBF

def replacement : Char := '\uFFFD'

def decodeChar (byte : UInt8) (rest : List UInt8) : Char × Nat :=
  let second := rest.getD 0 0
  let third := rest.getD 1 0
  let fourth := rest.getD 2 0
  match utf8CharWidth byte with
  | 1 => (Char.ofNat byte.toNat, 0)
  | 2 =>
      if isContinuation second then
        (Char.ofNat (byte.toNat % 32 * 64 + second.toNat % 64), 1)
      else (replacement, 0)
  | 3 =>
      if goesOn byte second then
        if isContinuation third then
          (Char.ofNat (byte.toNat % 16 * 4096 + second.toNat % 64 * 64 + third.toNat % 64), 2)
        else (replacement, 1)
      else (replacement, 0)
  | 4 =>
      if goesOn byte second then
        if isContinuation third then
          if isContinuation fourth then
            (Char.ofNat (byte.toNat % 8 * 262144 + second.toNat % 64 * 4096 +
              third.toNat % 64 * 64 + fourth.toNat % 64), 3)
          else (replacement, 2)
        else (replacement, 1)
      else (replacement, 0)
  | _ => (replacement, 0)

def decodeAfter : Nat → List UInt8 → List Char
  | _, [] => []
  | taken + 1, _ :: rest => decodeAfter taken rest
  | 0, byte :: rest =>
      let (c, taken) := decodeChar byte rest
      c :: decodeAfter taken rest

def fromUtf8Lossy (bytes : List UInt8) : List Char :=
  decodeAfter 0 bytes

example : fromUtf8Lossy [0x61, 0xC3, 0xA9, 0xE2, 0x82, 0x62, 0xFF] =
    ['a', 'é', replacement, 'b', replacement] := by
  decide

/-! ## Blobs -/

def table : List Char :=
  "ABCDEFGHIJKLMNOPQRSTUVWXYZabcdefghijklmnopqrstuvwxyz0123456789+/".toList

def base64Digit (value : UInt32) : Char :=
  table.getD (value &&& 63).toNat '='

def base64Chunk (chunk : List UInt8) : List Char :=
  let b1 := chunk.getD 0 0
  let b2 := chunk.getD 1 0
  let b3 := chunk.getD 2 0
  let n := b1.toUInt32 <<< 16 ||| b2.toUInt32 <<< 8 ||| b3.toUInt32
  [base64Digit (n >>> 18), base64Digit (n >>> 12),
    if chunk.length > 1 then base64Digit (n >>> 6) else '=',
    if chunk.length > 2 then base64Digit n else '=']

def base64Encode : List UInt8 → List Char
  | [] => []
  | [b1] => base64Chunk [b1]
  | [b1, b2] => base64Chunk [b1, b2]
  | b1 :: b2 :: b3 :: rest => base64Chunk [b1, b2, b3] ++ base64Encode rest

example : base64Encode [0x4D, 0x61, 0x6E, 0x4D] = "TWFuTQ==".toList := by
  decide

/-! ## Rows -/

def rawSize : ValueRef F → Nat
  | .text bytes => bytes.length
  | .blob bytes => bytes.length
  | _ => 8

def cellValue : ValueRef F → Value F
  | .null => .null
  | .integer value => .number (Number.ofInt64 value)
  | .real (some value) => .number (.float value)
  | .real none => .null
  | .text bytes => .string (String.ofList (fromUtf8Lossy bytes))
  | .blob bytes => .string (String.ofList ("blob:".toList ++ base64Encode bytes))

/-- `obj[key] = value` in an object with ordered keys. -/
def setEntry (key : String) (value : Value F) :
    List (String × Value F) → List (String × Value F)
  | [] => [(key, value)]
  | (other, old) :: rest =>
      if key = other then (key, value) :: rest
      else if key < other then (key, value) :: (other, old) :: rest
      else (other, old) :: setEntry key value rest

def resultLimit (message : String) : NativeError :=
  DurableDatabase.databaseError "db_result_limit" message

def convertCells (row : List (ValueRef F)) :
    List String → Nat → List (String × Value F) → Nat →
      Except NativeError (List (String × Value F) × Nat)
  | [], _, entries, estimated => .ok (entries, estimated)
  | colName :: rest, i, entries, estimated =>
      match row[i]? with
      | none =>
          .error (DurableDatabase.databaseError "db_query_value" s!"Invalid column index: {i}")
      | some rawValue =>
          let estimated := saturatingAdd (saturatingAdd (saturatingAdd estimated
            (saturatingMul (rawSize rawValue) 6)) (saturatingMul (utf8Length colName.toList) 6)) 16
          if rawSize rawValue > maxQueryResultBytes ∨ estimated > maxQueryResultBytes then
            .error (resultLimit "Query result exceeds the maximum response size")
          else convertCells row rest (i + 1) (setEntry colName (cellValue rawValue) entries)
            estimated

/-- The loop over what `rows.next()` gives, with the results and the estimate so far. -/
def convertRows (colNames : List String) :
    List (Except String (List (ValueRef F))) → List (Value F) → Nat →
      Except NativeError (List (Value F))
  | [], results, _ => .ok results
  | .error message :: _, _, _ =>
      .error (DurableDatabase.databaseError "db_query_next" message)
  | .ok row :: rest, results, estimated =>
      if results.length ≥ maxQueryResultRows then
        .error (resultLimit "Query result exceeds the maximum row count")
      else
        match convertCells row colNames 0 [] estimated with
        | .error error => .error error
        | .ok (entries, estimated) =>
            convertRows colNames rest (results ++ [.object entries]) estimated

def columnNames : List (Except String String) → Except NativeError (List String)
  | [] => .ok []
  | .error message :: _ =>
      .error (DurableDatabase.databaseError "db_query_column_name" message)
  | .ok colName :: rest => (columnNames rest).map (colName :: ·)

/-- A prepared statement: what SQLite says of its columns, and of its rows under parameters. -/
structure Prepared (F : Type) where
  readonly : Bool
  columns : List (Except String String)
  query : List (SqlParam F) → Except String (List (Except String (List (ValueRef F))))

def disallowedSql (message : String) : NativeError :=
  .new "disallowed_sql" message "Unauthorized database operation" "sql_safety_err"

def queryJson (floatText : F → List Char) (prepare : String → Except String (Prepared F))
    (sql : String) (params : List (Value F)) : Except NativeError (Value F) := do
  (validateSafeSql sql).mapError disallowedSql
  let _ ← NativeRequest.validateSqlRequest floatText sql params
  let statement ← (prepare sql).mapError (DurableDatabase.databaseError "db_query_prepare")
  if !statement.readonly then
    throw (DurableDatabase.databaseError "db_query_readonly"
      "Database query command only accepts read-only SQL statements")
  if statement.columns.length > maxQueryResultColumns then
    throw (resultLimit "Query result exceeds the maximum column count")
  let colNames ← columnNames statement.columns
  let rows ← (statement.query (params.map (jsonValueToSqlParam floatText))).mapError
    (DurableDatabase.databaseError "db_query_execute")
  let results ← convertRows colNames rows [] 0
  return .object [("rows", .array results)]

/-! ## Lengths of cells -/

theorem length_decodeAfter_le (taken : Nat) (bytes : List UInt8) :
    (decodeAfter taken bytes).length ≤ bytes.length := by
  induction bytes generalizing taken with
  | nil => simp [decodeAfter]
  | cons byte rest ih =>
      cases taken with
      | zero => exact Nat.succ_le_succ (ih _)
      | succ taken => exact (ih taken).trans (Nat.le_succ _)

theorem mem_base64Chunk {chunk : List UInt8} {c : Char} (hmem : c ∈ base64Chunk chunk) :
    c ∈ '=' :: table := by
  have hdigit : ∀ value : UInt32, base64Digit value ∈ '=' :: table := by
    intro value
    rw [base64Digit, List.getD_eq_getElem?_getD]
    cases hget : table[(value &&& 63).toNat]? with
    | none => exact List.mem_cons_self
    | some digit => exact List.mem_cons_of_mem _ (List.mem_of_getElem? hget)
  simp only [base64Chunk, List.mem_cons, List.not_mem_nil, or_false] at hmem
  rcases hmem with rfl | rfl | rfl | rfl
  · exact hdigit _
  · exact hdigit _
  · split_ifs
    · exact hdigit _
    · exact List.mem_cons_self
  · split_ifs
    · exact hdigit _
    · exact List.mem_cons_self

theorem base64Encode_bounds (bytes : List UInt8) :
    (base64Encode bytes).length ≤ 4 * bytes.length ∧
      ∀ c ∈ base64Encode bytes, c ∈ '=' :: table := by
  induction bytes using base64Encode.induct with
  | case1 => exact ⟨le_rfl, fun _ hmem => absurd hmem List.not_mem_nil⟩
  | case2 b1 => exact ⟨le_rfl, fun _ => mem_base64Chunk⟩
  | case3 b1 b2 => exact ⟨Nat.le_add_left _ _, fun _ => mem_base64Chunk⟩
  | case4 b1 b2 b3 rest ih =>
      have hchunk : (base64Chunk [b1, b2, b3]).length = 4 := rfl
      rw [base64Encode]
      constructor
      · rw [List.length_append, hchunk]
        simp only [List.length_cons]
        omega
      · intro c hmem
        rcases List.mem_append.mp hmem with hfirst | hrest
        · exact mem_base64Chunk hfirst
        · exact ih.2 c hrest

theorem utf8Length_flatMap_eq {chars : List Char}
    (hplain : ∀ c ∈ chars, utf8Length (quoteChar c) = 1) :
    utf8Length (chars.flatMap quoteChar) = chars.length := by
  induction chars with
  | nil => rfl
  | cons c rest ih =>
      obtain ⟨hfirst, hrest⟩ := List.forall_mem_cons.mp hplain
      rw [List.flatMap_cons, utf8Length_append, hfirst, ih hrest, List.length_cons, Nat.add_comm]

theorem utf8Length_quoteText_blob (bytes : List UInt8) :
    utf8Length (quoteText (String.ofList ("blob:".toList ++ base64Encode bytes))) ≤
      4 * bytes.length + 7 := by
  obtain ⟨hlength, htable⟩ := base64Encode_bounds bytes
  have hall : ('=' :: table).all (fun c => utf8Length (quoteChar c) == 1) := by decide
  have hplain : ∀ c ∈ '=' :: table, utf8Length (quoteChar c) = 1 := by
    intro c hc
    exact eq_of_beq (List.all_eq_true.mp hall c hc)
  have hencoded := utf8Length_flatMap_eq fun c hmem => hplain c (htable c hmem)
  have hblob : utf8Length ("blob:".toList.flatMap quoteChar) = 5 := by decide
  have hquote : '"'.utf8Size = 1 := rfl
  simp only [quoteText, String.toList_ofList, List.flatMap_append, List.cons_append,
    List.append_assoc, utf8Length_cons, utf8Length_append, utf8Length_nil, hencoded, hblob, hquote]
  omega

variable {floatText : F → List Char}

theorem integer?_ofInt64 (value : Int64) :
    ∃ integer, (Number.ofInt64 value : Number F).integer? = some integer := by
  unfold Number.ofInt64
  split_ifs
  · exact ⟨_, rfl⟩
  · exact ⟨_, rfl⟩

theorem bytes_cellValue_le (hprinted : ∀ value, utf8Length (floatText value) ≤ 24)
    (rawValue : ValueRef F) :
    (cellValue rawValue).bytes floatText ≤ rawSize rawValue * 6 + 12 := by
  have hnull : utf8Length "null".toList ≤ 8 * 6 + 12 := by decide
  cases rawValue with
  | null => exact hnull
  | integer value =>
      obtain ⟨integer, hinteger⟩ :
          ∃ integer, (Number.ofInt64 value : Number F).integer? = some integer :=
        integer?_ofInt64 value
      have htext : utf8Length ((Number.ofInt64 value).text floatText) ≤ 20 :=
        Number.utf8Length_text_le hinteger
      exact htext.trans (Nat.le_add_left 20 40)
  | real value =>
      cases value with
      | none => exact hnull
      | some value => exact (hprinted value).trans (Nat.le_add_left 24 36)
  | text bytes =>
      have hquoted := utf8Length_quoteText_le_length (String.ofList (fromUtf8Lossy bytes))
      have hlength := length_decodeAfter_le 0 bytes
      rw [String.toList_ofList, fromUtf8Lossy] at hquoted
      simp only [cellValue, Value.bytes, Value.serialize, rawSize, fromUtf8Lossy]
      omega
  | blob bytes =>
      have hquoted := utf8Length_quoteText_blob bytes
      simp only [cellValue, Value.bytes, Value.serialize, rawSize]
      omega

/-! ## Entries -/

theorem lookup_cons_eq {β : Type} (key name : String) (value : β) (rest : List (String × β)) :
    ((key, value) :: rest).lookup name =
      if name = key then some value else rest.lookup name := by
  rw [List.lookup_cons]
  by_cases hname : name = key
  · simp [hname]
  · have hother : (name == key) = false := by simpa using hname
    rw [hother, if_neg hname]

theorem lookup_setEntry (key name : String) (value : Value F)
    (entries : List (String × Value F)) :
    (setEntry key value entries).lookup name =
      if name = key then some value else entries.lookup name := by
  induction entries with
  | nil => rw [setEntry, lookup_cons_eq]
  | cons entry rest ih =>
      obtain ⟨other, old⟩ := entry
      rw [setEntry]
      by_cases hsame : key = other
      · rw [if_pos hsame, lookup_cons_eq, lookup_cons_eq, hsame]
        split_ifs with hname
        · rfl
        · rfl
      · rw [if_neg hsame]
        by_cases hlt : key < other
        · rw [if_pos hlt, lookup_cons_eq]
        · rw [if_neg hlt, lookup_cons_eq, lookup_cons_eq, ih]
          by_cases hname : name = other
          · rw [if_pos hname, if_pos hname, if_neg fun hkey => hsame (hkey.symm.trans hname)]
          · rw [if_neg hname, if_neg hname]

def entriesCost (floatText : F → List Char) (entries : List (String × Value F)) : Nat :=
  (entries.map fun entry => entryBytes floatText entry + 1).sum

theorem entriesCost_setEntry_le (key : String) (value : Value F)
    (entries : List (String × Value F)) :
    entriesCost floatText (setEntry key value entries) ≤
      entriesCost floatText entries + (entryBytes floatText (key, value) + 1) := by
  induction entries with
  | nil => simp [setEntry, entriesCost]
  | cons entry rest ih =>
      obtain ⟨other, old⟩ := entry
      rw [setEntry]
      split_ifs
      · simp only [entriesCost, List.map_cons, List.sum_cons]
        omega
      · simp only [entriesCost, List.map_cons, List.sum_cons]
        omega
      · simp only [entriesCost, List.map_cons, List.sum_cons] at ih ⊢
        omega

variable {estimated : Nat}

theorem cellEstimate_eq {raw name : Nat}
    (hlt : saturatingAdd (saturatingAdd (saturatingAdd estimated (saturatingMul raw 6))
      (saturatingMul name 6)) 16 < usizeMax) :
    saturatingAdd (saturatingAdd (saturatingAdd estimated (saturatingMul raw 6))
      (saturatingMul name 6)) 16 = estimated + raw * 6 + name * 6 + 16 := by
  unfold saturatingAdd saturatingMul at hlt ⊢
  omega

theorem entryBytes_cell_le (hprinted : ∀ value, utf8Length (floatText value) ≤ 24)
    (colName : String) (rawValue : ValueRef F) :
    entryBytes floatText (colName, cellValue rawValue) + 1 ≤
      rawSize rawValue * 6 + utf8Length colName.toList * 6 + 16 := by
  have hcell := bytes_cellValue_le hprinted rawValue
  have hkey := utf8Length_quoteText_le colName
  rw [entryBytes]
  dsimp only
  omega

/-! ## Rows as objects -/

/-- An object which has under each name the last cell of the columns with that name. -/
def Represents (colNames : List String) (row : List (ValueRef F)) (value : Value F) : Prop :=
  ∃ entries, value = .object entries ∧
    ∀ name, entries.lookup name = ((colNames.zip row).reverse.lookup name).map cellValue

variable {colNames : List String}

theorem convertCells_eq_ok (hprinted : ∀ value, utf8Length (floatText value) ≤ 24)
    {row : List (ValueRef F)} {i later : Nat} {entries object : List (String × Value F)}
    (hwithin : estimated ≤ maxQueryResultBytes)
    (hok : convertCells row colNames i entries estimated = .ok (object, later)) :
    later ≤ maxQueryResultBytes ∧
      entriesCost floatText object + estimated ≤ entriesCost floatText entries + later ∧
      ∀ name, object.lookup name =
        (((colNames.zip (row.drop i)).reverse.lookup name).map cellValue).or
          (entries.lookup name) := by
  induction colNames generalizing i estimated entries with
  | nil =>
      cases hok
      exact ⟨hwithin, le_rfl, fun _ => rfl⟩
  | cons colName rest ih =>
      rw [convertCells] at hok
      cases hcell : row[i]? with
      | none =>
          rw [hcell] at hok
          cases hok
      | some rawValue =>
          rw [hcell] at hok
          dsimp only at hok
          split_ifs at hok with hlimit
          rw [not_or, not_lt, not_lt] at hlimit
          obtain ⟨hlater, hcost, hlookup⟩ := ih hlimit.2 hok
          have hmax : maxQueryResultBytes < usizeMax := by decide
          have hestimate := cellEstimate_eq (hlimit.2.trans_lt hmax)
          have hentry := entryBytes_cell_le hprinted colName rawValue
          have hset : entriesCost floatText (setEntry colName (cellValue rawValue) entries) ≤ _ :=
            entriesCost_setEntry_le colName (cellValue rawValue) entries
          refine ⟨hlater, by omega, ?_⟩
          intro name
          obtain ⟨hi, hrow⟩ := List.getElem?_eq_some_iff.mp hcell
          rw [hlookup, List.drop_eq_getElem_cons hi, hrow, List.zip_cons_cons,
            List.reverse_cons, List.lookup_append, lookup_setEntry, lookup_cons_eq,
            List.lookup_nil]
          cases (rest.zip (row.drop (i + 1))).reverse.lookup name with
          | some cell => rfl
          | none =>
              by_cases hname : name = colName
              · simp [hname]
              · simp [hname]

def resultsCost (floatText : F → List Char) (results : List (Value F)) : Nat :=
  (results.map fun value => value.bytes floatText + 1).sum

theorem convertRows_eq_ok (hprinted : ∀ value, utf8Length (floatText value) ≤ 24)
    {stream : List (Except String (List (ValueRef F)))} {results found : List (Value F)}
    (hwithin : estimated ≤ maxQueryResultBytes) (hcount : results.length ≤ maxQueryResultRows)
    (hcost : resultsCost floatText results ≤ estimated + 3 * results.length)
    (hok : convertRows colNames stream results estimated = .ok found) :
    ∃ rows objects, stream = rows.map .ok ∧ found = results ++ objects ∧
      List.Forall₂ (Represents colNames) rows objects ∧
      resultsCost floatText found ≤ maxQueryResultBytes + 3 * maxQueryResultRows := by
  induction stream generalizing results estimated with
  | nil =>
      cases hok
      exact ⟨[], [], rfl, (List.append_nil _).symm, .nil, by omega⟩
  | cons next rest ih =>
      cases next with
      | error message => cases hok
      | ok row =>
          rw [convertRows] at hok
          split_ifs at hok with hfull
          cases hcells : convertCells row colNames 0 [] estimated with
          | error error =>
              rw [hcells] at hok
              cases hok
          | ok converted =>
              obtain ⟨entries, later⟩ := converted
              rw [hcells] at hok
              obtain ⟨hlater, hentries, hlookup⟩ := convertCells_eq_ok hprinted hwithin hcells
              have hobject : (Value.object entries).bytes floatText ≤
                  2 + entriesCost floatText entries := Value.bytes_object_le entries
              have hempty : entriesCost floatText [] = 0 := rfl
              have happended : resultsCost floatText (results ++ [.object entries]) =
                  resultsCost floatText results +
                    ((Value.object entries).bytes floatText + 1) := by
                simp [resultsCost]
              have hlength : (results ++ [Value.object entries]).length = results.length + 1 :=
                List.length_append
              obtain ⟨rows, objects, rfl, rfl, hrows, hfound⟩ :=
                ih hlater (by omega) (by omega) hok
              refine ⟨row :: rows, .object entries :: objects, rfl, ?_, .cons ?_ hrows, hfound⟩
              · rw [List.append_assoc, List.singleton_append]
              · refine ⟨entries, rfl, fun name => ?_⟩
                rw [hlookup, List.drop_zero]
                exact Option.or_none

theorem columnNames_eq_ok {columns : List (Except String String)}
    (hok : columnNames columns = .ok colNames) : columns = colNames.map .ok := by
  induction columns generalizing colNames with
  | nil =>
      cases hok
      rfl
  | cons column rest ih =>
      cases column with
      | error message => cases hok
      | ok colName =>
          rw [columnNames] at hok
          cases hrest : columnNames rest with
          | error error =>
              rw [hrest] at hok
              cases hok
          | ok names =>
              rw [hrest] at hok
              cases hok
              rw [ih hrest, List.map_cons]

theorem checked_bind_eq_ok {α β : Type} {check : Except NativeError α}
    {rest : α → Except NativeError β} {result : β} (hok : (check >>= rest) = .ok result) :
    ∃ value, check = .ok value ∧ rest value = .ok result := by
  cases check with
  | error error => cases hok
  | ok value => exact ⟨value, rfl, hok⟩

theorem mapError_eq_ok {α : Type} {result : Except String α} {value : α}
    {f : String → NativeError} (hok : result.mapError f = .ok value) : result = .ok value := by
  cases result with
  | error message => cases hok
  | ok value =>
      cases hok
      rfl

/-- A response of `query_json` has every row, and its size is bounded. -/
theorem queryJson_complete {prepare : String → Except String (Prepared F)} {sql : String}
    {params : List (Value F)} {response : Value F}
    (hprinted : ∀ value, utf8Length (floatText value) ≤ 24)
    (hok : queryJson floatText prepare sql params = .ok response) :
    ∃ statement colNames rows results, prepare sql = .ok statement ∧
      statement.columns = colNames.map .ok ∧
      statement.query (params.map (jsonValueToSqlParam floatText)) = .ok (rows.map .ok) ∧
      response = .object [("rows", .array results)] ∧
      List.Forall₂ (Represents colNames) rows results ∧
      response.bytes floatText ≤ maxQueryResultBytes + (3 * maxQueryResultRows + 12) := by
  unfold queryJson at hok
  obtain ⟨-, -, hok⟩ := checked_bind_eq_ok hok
  obtain ⟨-, -, hok⟩ := checked_bind_eq_ok hok
  obtain ⟨statement, hprepare, hok⟩ := checked_bind_eq_ok hok
  dsimp only at hok
  split at hok
  · cases hok
  split at hok
  · cases hok
  obtain ⟨colNames, hnames, hok⟩ := checked_bind_eq_ok hok
  obtain ⟨stream, hquery, hok⟩ := checked_bind_eq_ok hok
  obtain ⟨results, hresults, hok⟩ := checked_bind_eq_ok hok
  cases hok
  obtain ⟨rows, objects, rfl, hfound, hrows, hcost⟩ := convertRows_eq_ok hprinted
    (Nat.zero_le _) (Nat.zero_le _) le_rfl hresults
  rw [List.nil_append] at hfound
  subst hfound
  refine ⟨statement, colNames, rows, results, mapError_eq_ok hprepare,
    columnNames_eq_ok hnames, mapError_eq_ok hquery, rfl, hrows, ?_⟩
  have harray : (Value.array results).bytes floatText ≤
      2 + resultsCost floatText results := Value.bytes_array_le _
  have hobject : (Value.object [("rows", .array results)]).bytes floatText ≤
      2 + entriesCost floatText [("rows", .array results)] := Value.bytes_object_le _
  have hkey : utf8Length (quoteText "rows") = 6 := by decide
  simp only [entriesCost, entryBytes, List.map_cons, List.map_nil, List.sum_cons, List.sum_nil,
    hkey] at hobject
  omega

def twoRows : Prepared Unit where
  readonly := true
  columns := [.ok "a", .ok "b", .ok "a"]
  query := fun _ => .ok
    [.ok [.null, .text [0x61, 0xFF], .integer (-7)], .ok [.blob [1], .real (some ()), .null]]

theorem queryJson_complete_twoRows :
    ∃ response, queryJson (fun _ => "1.5".toList) (fun _ => .ok twoRows) "SELECT * FROM t" [] =
        .ok response ∧
      response.bytes (fun _ => "1.5".toList) ≤
        maxQueryResultBytes + (3 * maxQueryResultRows + 12) := by
  have hprinted : ∀ _ : Unit, utf8Length "1.5".toList ≤ 24 := by decide
  have hok : queryJson (fun _ => "1.5".toList) (fun _ => .ok twoRows) "SELECT * FROM t" [] =
      .ok (.object [("rows", .array
        [.object [("a", .number (.negInt (-7) (by decide))),
            ("b", .string (String.ofList ['a', replacement]))],
         .object [("a", .null), ("b", .number (.float ()))]])]) := by
    with_unfolding_all rfl
  obtain ⟨statement, colNames, rows, results, -, -, -, -, -, hbytes⟩ :=
    queryJson_complete hprinted hok
  exact ⟨_, hok, hbytes⟩

end TauriPlatform.NativeQuery
