import TauriPlatform.AsyncProgram
import TauriPlatform.PlatformError
import Mathlib.Data.List.Dedup

/-!
# The statements of a repository

A repository makes its statements from the keys of a record.  The text of a statement holds the
table and the columns only, which are lower-case identifiers, each once; the values are bound to
their columns in the order of the keys.
-/

namespace TauriPlatform.BaseRepository

open Async

variable {V : Type}

structure PlainRecord (V : Type) where
  fields : List (String × V)
  nodup : (fields.map Prod.fst).Nodup

def PlainRecord.keys (record : PlainRecord V) : List String :=
  record.fields.map Prod.fst

def PlainRecord.values (record : PlainRecord V) : List V :=
  record.fields.map Prod.snd

/-- What a caller passes: a plain object, or null, an array or a primitive. -/
inductive Argument (V : Type) where
  | record (record : PlainRecord V)
  | other

inductive RepositoryCall (V : Type) : Type → Type where
  | execute (sql : String) (params : List V) : RepositoryCall V Unit

abbrev RepositoryProgram (V α : Type) := Program (RepositoryCall V) Thrown α

/-! ## Identifiers -/

def isIdentifierStart (c : Char) : Bool :=
  ('A' ≤ c && c ≤ 'Z') || ('a' ≤ c && c ≤ 'z') || c = '_'

def isIdentifierPart (c : Char) : Bool :=
  isIdentifierStart c || ('0' ≤ c && c ≤ '9')

/-- `/^[A-Za-z_][A-Za-z0-9_]*$/`. -/
def isSafeIdentifier (identifier : String) : Bool :=
  match identifier.toList with
  | [] => false
  | first :: rest => isIdentifierStart first && rest.all isIdentifierPart

def assertIdentifier (identifier label : String) : Except Thrown Unit :=
  if isSafeIdentifier identifier then .ok ()
  else
    .error (validationError s!"Invalid SQL {label}" s!"The requested {label} is invalid"
      "repo-identifier")

/-- A letter between `A` and `Z` becomes its lower-case form behind an underscore. -/
def snakeChar (c : Char) : List Char :=
  if 'A' ≤ c && c ≤ 'Z' then ['_', c.toLower] else [c]

def camelToSnake (str : String) : String :=
  String.ofList (str.toList.flatMap snakeChar)

def toSafeColumnName (name : String) : Except Thrown String := do
  let columnName := camelToSnake name
  assertIdentifier columnName "column name"
  return columnName

def getSafeTableName (tableName : String) : Except Thrown String := do
  assertIdentifier tableName "table name"
  return tableName

def assertUniqueColumnNames (names : List String) : Except Thrown Unit := do
  let columns ← names.mapM toSafeColumnName
  if columns.dedup.length ≠ columns.length then
    throw (validationError
      "Repository record contains multiple fields for the same SQL column"
      "The record contains conflicting fields" "repo-column-collision")

/-! ## Statements -/

def insert (tableName : String) (record : Argument V) :
    RepositoryProgram V (Argument V) := do
  let tableName ← Program.ofExcept (getSafeTableName tableName)
  match record with
  | .other =>
      throw (validationError "Repository insert requires a record object"
        "The record could not be saved" "repo-insert")
  | .record fields =>
      let keys := fields.fields.map Prod.fst
      if keys.length = 0 then
        throw (validationError "Repository insert requires at least one record field"
          "The record could not be saved" "repo-insert")
      else
        let placeholders := String.intercalate ", " (keys.map fun _ => "?")
        let columnNames ← Program.ofExcept (keys.mapM toSafeColumnName)
        let columns := String.intercalate ", " columnNames
        Program.ofExcept (assertUniqueColumnNames keys)
        let values := fields.fields.map Prod.snd
        let sql := s!"INSERT INTO {tableName} ({columns}) VALUES ({placeholders})"
        Program.await (.execute sql values)
        return record

def sanitized (updates : PlainRecord V) : List (String × V) :=
  updates.fields.filter fun field => field.1 ≠ "id"

def update (tableName : String) (id : V) (updates : PlainRecord V) :
    RepositoryProgram V Unit := do
  let tableName ← Program.ofExcept (getSafeTableName tableName)
  let fields := sanitized updates
  let keys := fields.map Prod.fst
  if keys.length = 0 then
    return
  else
    Program.ofExcept (assertUniqueColumnNames keys)
    let columnNames ← Program.ofExcept (keys.mapM toSafeColumnName)
    let setClauses := String.intercalate ", " (columnNames.map fun column => column ++ " = ?")
    let values := fields.map Prod.snd ++ [id]
    let sql := s!"UPDATE {tableName} SET {setClauses} WHERE id = ?"
    Program.await (.execute sql values)

/-! ## Columns -/

/-- How SQLite compares the names of columns: the case of the letters of ASCII does not count. -/
def foldCase (name : String) : String :=
  String.ofList (name.toList.map Char.toLower)

structure SafeColumns (columns : List String) : Prop where
  identifiers : ∀ column ∈ columns, isSafeIdentifier column = true
  distinct : (columns.map foldCase).Nodup

theorem toLower_eq_self {c : Char} (hc : ¬ ('A' ≤ c ∧ c ≤ 'Z')) : c.toLower = c :=
  dif_neg hc

theorem toLower_toLower {c : Char} (hc : 'A' ≤ c ∧ c ≤ 'Z') : c.toLower.toLower = c.toLower := by
  have hletters : ∀ n ∈ List.range' 65 26,
      (Char.ofNat n).toLower.toLower = (Char.ofNat n).toLower := by decide
  have hlow : 65 ≤ c.toNat := UInt32.le_iff_toNat_le.mp hc.1
  have hhigh : c.toNat ≤ 90 := UInt32.le_iff_toNat_le.mp hc.2
  have hletter := hletters c.toNat (List.mem_range'_1.mpr ⟨hlow, by omega⟩)
  rwa [Char.ofNat_toNat] at hletter

theorem toLower_of_mem_snakeChar {c lower : Char} (hmem : lower ∈ snakeChar c) :
    lower.toLower = lower := by
  unfold snakeChar at hmem
  split_ifs at hmem with hupper
  · rw [Bool.and_eq_true, decide_eq_true_eq, decide_eq_true_eq] at hupper
    simp only [List.mem_cons, List.not_mem_nil, or_false] at hmem
    rcases hmem with rfl | rfl
    · rfl
    · exact toLower_toLower hupper
  · rw [Bool.and_eq_true, decide_eq_true_eq, decide_eq_true_eq] at hupper
    rw [List.mem_singleton] at hmem
    exact hmem ▸ toLower_eq_self hupper

theorem foldCase_camelToSnake (name : String) :
    foldCase (camelToSnake name) = camelToSnake name := by
  rw [foldCase, camelToSnake, String.toList_ofList]
  congr 1
  have hsame : ∀ c ∈ name.toList.flatMap snakeChar, c.toLower = id c := by
    intro c hmem
    obtain ⟨upper, -, hc⟩ := List.mem_flatMap.mp hmem
    exact toLower_of_mem_snakeChar hc
  rw [List.map_congr_left hsame, List.map_id]

theorem flatMap_snakeChar {chars : List Char} (hplain : '_' ∉ chars.flatMap snakeChar) :
    chars.flatMap snakeChar = chars := by
  induction chars with
  | nil => rfl
  | cons c rest ih =>
      rw [List.flatMap_cons, List.mem_append, not_or] at hplain
      rw [List.flatMap_cons, ih hplain.2]
      unfold snakeChar at hplain ⊢
      split_ifs at hplain ⊢
      · exact absurd List.mem_cons_self hplain.1
      · rfl

theorem camelToSnake_eq_id {name : String} (hname : camelToSnake name = "id") :
    name = "id" := by
  have hchars : name.toList.flatMap snakeChar = ['i', 'd'] :=
    String.toList_ofList.symm.trans (congrArg String.toList hname)
  have hplain : '_' ∉ name.toList.flatMap snakeChar := by
    rw [hchars]
    decide
  rw [flatMap_snakeChar hplain] at hchars
  exact String.toList_injective hchars

theorem toSafeColumnName_eq_ok {name column : String}
    (hok : toSafeColumnName name = .ok column) :
    column = camelToSnake name ∧ isSafeIdentifier column = true := by
  unfold toSafeColumnName assertIdentifier at hok
  dsimp only at hok
  split_ifs at hok with hsafe
  · cases hok
    exact ⟨rfl, hsafe⟩
  · cases hok

theorem mapM_toSafeColumnName {names columns : List String}
    (hok : names.mapM toSafeColumnName = .ok columns) :
    columns = names.map camelToSnake ∧ ∀ column ∈ columns, isSafeIdentifier column = true := by
  induction names generalizing columns with
  | nil =>
      cases hok
      exact ⟨rfl, fun _ hmem => absurd hmem List.not_mem_nil⟩
  | cons name rest ih =>
      rw [List.mapM_cons] at hok
      cases hfirst : toSafeColumnName name with
      | error thrown =>
          rw [hfirst] at hok
          cases hok
      | ok column =>
          cases hrest : rest.mapM toSafeColumnName with
          | error thrown =>
              rw [hfirst, hrest] at hok
              cases hok
          | ok later =>
              rw [hfirst, hrest] at hok
              cases hok
              obtain ⟨rfl, hsafe⟩ := toSafeColumnName_eq_ok hfirst
              obtain ⟨rfl, hlater⟩ := ih hrest
              exact ⟨rfl, List.forall_mem_cons.mpr ⟨hsafe, hlater⟩⟩

def columnsOf (keys : List String) : List String :=
  keys.map camelToSnake

theorem map_foldCase_columnsOf (keys : List String) :
    (columnsOf keys).map foldCase = columnsOf keys := by
  rw [columnsOf, List.map_map]
  exact List.map_congr_left fun name _ => foldCase_camelToSnake name

theorem id_notMem_columnsOf {keys : List String} (hkeys : "id" ∉ keys) :
    "id" ∉ (columnsOf keys).map foldCase := by
  rw [map_foldCase_columnsOf]
  intro hmem
  obtain ⟨key, hkey, hcolumn⟩ := List.mem_map.mp hmem
  exact hkeys (camelToSnake_eq_id hcolumn ▸ hkey)

theorem safeColumns {names columns : List String}
    (hcolumns : names.mapM toSafeColumnName = .ok columns)
    (hunique : assertUniqueColumnNames names = .ok ()) : SafeColumns columns := by
  obtain ⟨hmap, hsafe⟩ := mapM_toSafeColumnName hcolumns
  refine ⟨hsafe, ?_⟩
  unfold assertUniqueColumnNames at hunique
  rw [hcolumns] at hunique
  have hsize : columns.dedup.length = columns.length := by
    by_contra hsmaller
    change (if columns.dedup.length ≠ columns.length then _ else _) = _ at hunique
    rw [if_pos hsmaller] at hunique
    cases hunique
  have hnodup : columns.Nodup :=
    List.dedup_eq_self.mp ((List.dedup_sublist columns).eq_of_length hsize)
  rw [hmap, ← columnsOf, map_foldCase_columnsOf, columnsOf, ← hmap]
  exact hnodup

/-! ## What is issued -/

def Throws {α : Type} (program : RepositoryProgram V α) : Prop :=
  ∃ thrown, program = .done (.error thrown)

def Issues {α : Type} (program : RepositoryProgram V α) (sql : String) (params : List V) : Prop :=
  ∃ next, program = .call (.execute sql params) next ∧
    ∀ answer, ∃ outcome, next answer = .done outcome

def insertText (tableName : String) (columns : List String) : String :=
  let names := String.intercalate ", " columns
  let placeholders := String.intercalate ", " (columns.map fun _ => "?")
  s!"INSERT INTO {tableName} ({names}) VALUES ({placeholders})"

def updateText (tableName : String) (columns : List String) : String :=
  let setClauses := String.intercalate ", " (columns.map fun column => column ++ " = ?")
  s!"UPDATE {tableName} SET {setClauses} WHERE id = ?"

theorem getSafeTableName_eq_ok {tableName found : String}
    (hok : getSafeTableName tableName = .ok found) :
    found = tableName ∧ isSafeIdentifier tableName = true := by
  unfold getSafeTableName assertIdentifier at hok
  split_ifs at hok with hsafe
  · cases hok
    exact ⟨rfl, hsafe⟩
  · cases hok

theorem insert_issues (tableName : String) (record : PlainRecord V) :
    Throws (insert tableName (.record record)) ∨
      isSafeIdentifier tableName = true ∧ SafeColumns (columnsOf record.keys) ∧
      Issues (insert tableName (.record record)) (insertText tableName (columnsOf record.keys))
        record.values := by
  unfold insert
  cases htable : getSafeTableName tableName with
  | error thrown => exact .inl ⟨thrown, rfl⟩
  | ok found =>
  obtain ⟨rfl, hsafe⟩ := getSafeTableName_eq_ok htable
  by_cases hempty : (record.fields.map Prod.fst).length = 0
  · exact .inl ⟨_, if_pos hempty⟩
  cases hcolumns : (record.fields.map Prod.fst).mapM toSafeColumnName with
  | error thrown =>
      refine .inl ⟨thrown, (if_neg hempty).trans ?_⟩
      rw [hcolumns]
      rfl
  | ok columns =>
  cases hunique : assertUniqueColumnNames (record.fields.map Prod.fst) with
  | error thrown =>
      refine .inl ⟨thrown, (if_neg hempty).trans ?_⟩
      rw [hcolumns, hunique]
      rfl
  | ok passed =>
  have hsafeColumns := safeColumns hcolumns hunique
  have hmap := (mapM_toSafeColumnName hcolumns).1
  rw [← columnsOf] at hmap
  have hplaceholders : (columnsOf record.keys).map (fun _ => "?") =
      (record.fields.map Prod.fst).map fun _ => "?" :=
    List.map_map
  refine .inr ⟨hsafe, hmap ▸ hsafeColumns, fun answer =>
    (Program.done answer).bind fun _ => pure (.record record), ?_, ?_⟩
  · refine (if_neg hempty).trans ?_
    rw [hcolumns, hunique, insertText, hplaceholders, hmap]
    rfl
  · intro answer
    cases answer with
    | error thrown => exact ⟨.error thrown, rfl⟩
    | ok done => exact ⟨.ok (.record record), rfl⟩

theorem update_issues (tableName : String) (id : V) (updates : PlainRecord V) :
    Throws (update tableName id updates) ∨
      sanitized updates = [] ∧ update tableName id updates = .done (.ok ()) ∨
      isSafeIdentifier tableName = true ∧
      SafeColumns (columnsOf ((sanitized updates).map Prod.fst)) ∧
      "id" ∉ (columnsOf ((sanitized updates).map Prod.fst)).map foldCase ∧
      Issues (update tableName id updates)
        (updateText tableName (columnsOf ((sanitized updates).map Prod.fst)))
        ((sanitized updates).map Prod.snd ++ [id]) := by
  unfold update
  cases htable : getSafeTableName tableName with
  | error thrown => exact .inl ⟨thrown, rfl⟩
  | ok found =>
  obtain ⟨rfl, hsafe⟩ := getSafeTableName_eq_ok htable
  by_cases hempty : ((sanitized updates).map Prod.fst).length = 0
  · refine .inr (.inl ⟨?_, if_pos hempty⟩)
    rw [List.length_map] at hempty
    exact List.eq_nil_of_length_eq_zero hempty
  cases hunique : assertUniqueColumnNames ((sanitized updates).map Prod.fst) with
  | error thrown =>
      refine .inl ⟨thrown, (if_neg hempty).trans ?_⟩
      rw [hunique]
      rfl
  | ok passed =>
  cases hcolumns : ((sanitized updates).map Prod.fst).mapM toSafeColumnName with
  | error thrown =>
      refine .inl ⟨thrown, (if_neg hempty).trans ?_⟩
      rw [hunique, hcolumns]
      rfl
  | ok columns =>
  have hsafeColumns := safeColumns hcolumns hunique
  have hmap := (mapM_toSafeColumnName hcolumns).1
  rw [← columnsOf] at hmap
  refine .inr (.inr ⟨hsafe, hmap ▸ hsafeColumns, ?_, .done, ?_, fun answer => ⟨answer, rfl⟩⟩)
  · refine id_notMem_columnsOf fun hmem => ?_
    obtain ⟨field, hfield, hkey⟩ := List.mem_map.mp hmem
    exact absurd hkey (of_decide_eq_true (List.mem_filter.mp hfield).2)
  · refine (if_neg hempty).trans ?_
    rw [hunique, hcolumns, updateText, hmap]
    rfl

/-- A record is inserted by one statement or not at all.  An update which is not refused issues
one statement as well, unless it has nothing to assign. -/
theorem statements_bound (tableName : String) (id : V) (record : PlainRecord V) :
    (Throws (insert tableName (.record record)) ∨
      isSafeIdentifier tableName = true ∧ SafeColumns (columnsOf record.keys) ∧
      Issues (insert tableName (.record record)) (insertText tableName (columnsOf record.keys))
        record.values) ∧
    (Throws (update tableName id record) ∨
      sanitized record = [] ∧ update tableName id record = .done (.ok ()) ∨
      isSafeIdentifier tableName = true ∧
      SafeColumns (columnsOf ((sanitized record).map Prod.fst)) ∧
      "id" ∉ (columnsOf ((sanitized record).map Prod.fst)).map foldCase ∧
      Issues (update tableName id record)
        (updateText tableName (columnsOf ((sanitized record).map Prod.fst)))
        ((sanitized record).map Prod.snd ++ [id])) :=
  ⟨insert_issues tableName record, update_issues tableName id record⟩

/-- An update of nothing but the identifier neither throws nor issues a statement. -/
theorem update_nothing :
    ¬ (Throws (update "notes" "n1" ⟨[("id", "n2")], by decide⟩) ∨
      ∃ sql params, Issues (update "notes" "n1" ⟨[("id", "n2")], by decide⟩) sql params) := by
  have hdone : update "notes" "n1" ⟨[("id", "n2")], by decide⟩ = .done (.ok ()) := by
    with_unfolding_all rfl
  rw [Throws, hdone]
  rintro (⟨thrown, hthrown⟩ | ⟨sql, params, next, hissued, -⟩)
  · cases hthrown
  · cases hissued

end TauriPlatform.BaseRepository
