import TauriPlatform.SqliteConditions
import Mathlib.Data.List.Nodup
import Mathlib.Algebra.GroupWithZero.Nat

/-!
# Counting and deleting in SQLite

The meaning of a condition on a row, with the three truth values of SQL, and two kinds of
statements: one counts the rows which satisfy a condition, the other deletes some of them.
The module names nothing of a particular program.
-/

namespace SqliteText

/-! ## Values -/

inductive Value where
  | null
  | integer (value : Int)
  | real (value : ℚ)
  | text (value : String)
  | blob (bytes : List UInt8)
  deriving DecidableEq

structure Row where
  rowid : Int
  cells : List (String × Value)
  deriving DecidableEq

def sameName (left right : List Char) : Bool :=
  keywordOf left = keywordOf right

def isRowidName (name : List Char) : Bool :=
  keywordOf name ∈ ["ROWID", "OID", "_ROWID_"]

def Row.cell? (row : Row) (name : List Char) : Option Value :=
  match row.cells.find? fun cell => sameName cell.1.toList name with
  | some cell => some cell.2
  | none => if isRowidName name then some (.integer row.rowid) else none

def ofTruth : Option Bool → Value
  | none => .null
  | some true => .integer 1
  | some false => .integer 0

def compareTexts (op : BinaryOp) (left right : String) : Option Bool :=
  match op with
  | .eq => some (left = right)
  | .ne => some (left ≠ right)
  | .lt => some (left < right)
  | .le => some (left ≤ right)
  | .gt => some (right < left)
  | .ge => some (right ≤ left)
  | _ => none

/-- What the engine makes of words which are no columns, of literals and of operators.  An
operator is given its operands as they are written, since the affinity and the collation of a
column count. -/
structure Interpretation where
  constant : List Char → Option Value
  number : List Char → Value
  blob : List Char → Value
  prefixed : PrefixOp → Value → Value
  apply : BinaryOp → Expr × Value → Expr × Value → Value
  /-- A number, a text or a blob as a condition. -/
  isTrue : Value → Bool
  /-- Texts are compared as texts. -/
  apply_texts : ∀ {op left right} {a b : String} {result},
    compareTexts op a b = some result →
    apply op (left, .text a) (right, .text b) = ofTruth (some result)
  isTrue_integer : ∀ value, isTrue (.integer value) = decide (value ≠ 0)

def fixedInterpretation : Interpretation where
  constant _ := none
  number _ := .null
  blob _ := .null
  prefixed _ _ := .null
  apply op left right :=
    match left.2, right.2 with
    | .text a, .text b => ofTruth (compareTexts op a b)
    | _, _ => .null
  isTrue value := value ≠ .integer 0
  apply_texts := by
    intro op left right a b result hresult
    simp only [hresult]
  isTrue_integer := by
    intro value
    simp

namespace Interpretation

def truth (interpretation : Interpretation) : Value → Option Bool
  | .null => none
  | value => some (interpretation.isTrue value)

@[simp] theorem truth_ofTruth (interpretation : Interpretation) (truth : Option Bool) :
    interpretation.truth (ofTruth truth) = truth := by
  match truth with
  | none => rfl
  | some true => simp [ofTruth, Interpretation.truth, interpretation.isTrue_integer]
  | some false => simp [ofTruth, Interpretation.truth, interpretation.isTrue_integer]

end Interpretation

/-! ## Conditions -/

/-- `AND` of truth values: a false part decides. -/
def andTruth : Option Bool → Option Bool → Option Bool
  | some false, _ => some false
  | _, some false => some false
  | some true, some true => some true
  | _, _ => none

/-- `OR` of truth values: a true part decides. -/
def orTruth : Option Bool → Option Bool → Option Bool
  | some true, _ => some true
  | _, some true => some true
  | some false, some false => some false
  | _, _ => none

@[simp] theorem andTruth_eq_true {left right : Option Bool} :
    andTruth left right = some true ↔ left = some true ∧ right = some true := by
  rcases left with _ | _ | _ <;> rcases right with _ | _ | _ <;> simp [andTruth]

@[simp] theorem orTruth_eq_true {left right : Option Bool} :
    orTruth left right = some true ↔ left = some true ∨ right = some true := by
  rcases left with _ | _ | _ <;> rcases right with _ | _ | _ <;> simp [orTruth]

def undouble : List Char → List Char
  | '\x27' :: '\x27' :: rest => '\x27' :: undouble rest
  | c :: rest => c :: undouble rest
  | [] => []

def textOf (literal : List Char) : String :=
  String.ofList (undouble literal.tail.dropLast)

section Conditions

variable (interpretation : Interpretation) (params : List Value) (row : Row)

def eval : Expr → Value
  | .null => .null
  | .number chars => interpretation.number chars
  | .text chars => .text (textOf chars)
  | .blob chars => interpretation.blob chars
  | .parameter index => params.getD index .null
  | .name chars => ((row.cell? chars).or (interpretation.constant chars)).getD .null
  | .prefixed .not operand => ofTruth ((interpretation.truth (eval operand)).map not)
  | .prefixed op operand => interpretation.prefixed op (eval operand)
  | .binary .and left right =>
      ofTruth (andTruth (interpretation.truth (eval left)) (interpretation.truth (eval right)))
  | .binary .or left right =>
      ofTruth (orTruth (interpretation.truth (eval left)) (interpretation.truth (eval right)))
  | .binary .is left right => ofTruth (some (isSame left (eval left) right (eval right)))
  | .binary .isNot left right => ofTruth (some !(isSame left (eval left) right (eval right)))
  | .binary op left right =>
      if eval left = .null ∨ eval right = .null then .null
      else interpretation.apply op (left, eval left) (right, eval right)
  | .isNull operand => ofTruth (some (eval operand = .null))
  | .notNull operand => ofTruth (some (eval operand ≠ .null))
where
  /-- `IS`, for which `NULL` is a value like others. -/
  isSame (left : Expr) (leftValue : Value) (right : Expr) (rightValue : Value) : Bool :=
    if leftValue = .null ∨ rightValue = .null then leftValue = rightValue
    else interpretation.truth (interpretation.apply .eq (left, leftValue) (right, rightValue)) =
      some true

def holds (condition : Expr) : Bool :=
  interpretation.truth (eval interpretation params row condition) = some true

variable {interpretation params row}

theorem truth_eval_and {left right : Expr} :
    interpretation.truth (eval interpretation params row (.binary .and left right)) =
      andTruth (interpretation.truth (eval interpretation params row left))
        (interpretation.truth (eval interpretation params row right)) :=
  interpretation.truth_ofTruth _

theorem truth_eval_or {left right : Expr} :
    interpretation.truth (eval interpretation params row (.binary .or left right)) =
      orTruth (interpretation.truth (eval interpretation params row left))
        (interpretation.truth (eval interpretation params row right)) :=
  interpretation.truth_ofTruth _

theorem truth_eval_isNot {left right : Expr} :
    interpretation.truth (eval interpretation params row (.binary .isNot left right)) =
      some !(eval.isSame interpretation left (eval interpretation params row left) right
        (eval interpretation params row right)) :=
  interpretation.truth_ofTruth _

@[simp] theorem holds_and {left right : Expr} :
    holds interpretation params row (.binary .and left right) ↔
      holds interpretation params row left ∧ holds interpretation params row right := by
  simp only [holds, truth_eval_and, decide_eq_true_eq, andTruth_eq_true]

@[simp] theorem holds_or {left right : Expr} :
    holds interpretation params row (.binary .or left right) ↔
      holds interpretation params row left ∨ holds interpretation params row right := by
  simp only [holds, truth_eval_or, decide_eq_true_eq, orTruth_eq_true]

@[simp] theorem holds_isNotNull {operand : Expr} :
    holds interpretation params row (.binary .isNot operand .null) ↔
      eval interpretation params row operand ≠ .null := by
  have hnull : eval interpretation params row .null = .null := rfl
  rw [holds, truth_eval_isNot, eval.isSame, if_pos (.inr hnull), hnull]
  simp only [Option.some.injEq, decide_eq_true_eq, Bool.not_eq_true', decide_eq_false_iff_not,
    ne_eq]

theorem holds_compare {op : BinaryOp} {left right : Expr} {a b : String} {result : Bool}
    (hleft : eval interpretation params row left = .text a)
    (hright : eval interpretation params row right = .text b)
    (hcompare : compareTexts op a b = some result) :
    holds interpretation params row (.binary op left right) ↔ result := by
  have heval : eval interpretation params row (.binary op left right) =
      ofTruth (some result) := by
    cases op with
    | eq | ne | lt | le | gt | ge =>
        simp only [eval, hleft, hright, reduceCtorEq, or_self, if_false]
        exact interpretation.apply_texts hcompare
    | _ => cases hcompare
  simp [holds, heval]

theorem eval_congr {more : List Value} {count : Nat} {expr : Expr} (hexpr : expr.Below count)
    (hsame : ∀ index < count, params.getD index .null = more.getD index .null) :
    eval interpretation params row expr = eval interpretation more row expr := by
  induction expr with
  | null | number _ | text _ | blob _ | name _ => simp only [eval]
  | parameter index =>
      rw [eval, eval]
      exact hsame index (hexpr index (List.mem_singleton_self index))
  | prefixed op operand ih =>
      have hoperand := ih hexpr
      cases op <;> simp only [eval, hoperand]
  | binary op left right ihleft ihright =>
      have hleft := ihleft fun index hindex => hexpr index (List.mem_append_left _ hindex)
      have hright := ihright fun index hindex => hexpr index (List.mem_append_right _ hindex)
      cases op <;> simp only [eval, hleft, hright]
  | isNull operand ih =>
      have hoperand := ih hexpr
      simp only [eval, hoperand]
  | notNull operand ih =>
      have hoperand := ih hexpr
      simp only [eval, hoperand]

theorem holds_congr {more : List Value} {count : Nat} {expr : Expr} (hexpr : expr.Below count)
    (hsame : ∀ index < count, params.getD index .null = more.getD index .null) :
    holds interpretation params row expr = holds interpretation more row expr := by
  rw [holds, eval_congr hexpr hsame, holds]

end Conditions

/-! ## Tables -/

structure Table where
  name : String
  columns : List String
  rows : List Row
  distinct : (rows.map Row.rowid).Nodup

structure ScanOrder where
  order : List Row → List Row
  perm : ∀ rows, (order rows).Perm rows

def ScanOrder.tableOrder : ScanOrder where
  order rows := rows
  perm _ := .refl _

namespace Table

def chosen (table : Table) (scan : ScanOrder) (condition : Row → Bool) (limit : Nat) : List Row :=
  ((scan.order table.rows).filter condition).take limit

def without (table : Table) (rowids : List Int) : Table where
  name := table.name
  columns := table.columns
  rows := table.rows.filter fun row => row.rowid ∉ rowids
  distinct := table.distinct.sublist (List.filter_sublist.map _)

def spare (table : Table) (condition : Row → Bool) : Table where
  name := table.name
  columns := table.columns
  rows := table.rows.filter fun row => !condition row
  distinct := table.distinct.sublist (List.filter_sublist.map _)

theorem eq_of_rows {first second : Table} (hname : first.name = second.name)
    (hcolumns : first.columns = second.columns) (hrows : first.rows = second.rows) :
    first = second := by
  cases first
  cases second
  simp only at hname hcolumns hrows
  subst hname hcolumns hrows
  rfl

variable {table : Table} {scan : ScanOrder} {condition : Row → Bool} {limit : Nat} {row other : Row}

theorem eq_of_rowid_eq (hrow : row ∈ table.rows) (hother : other ∈ table.rows)
    (hrowid : row.rowid = other.rowid) : row = other :=
  List.inj_on_of_nodup_map table.distinct hrow hother hrowid

theorem chosen_subset : table.chosen scan condition limit ⊆ table.rows.filter condition := by
  intro row hrow
  rw [List.mem_filter]
  have hselected := List.mem_filter.mp (List.mem_of_mem_take hrow)
  exact ⟨(scan.perm table.rows).subset hselected.1, hselected.2⟩

theorem rowid_mem_chosen (hrow : row ∈ table.rows) :
    row.rowid ∈ (table.chosen scan condition limit).map Row.rowid ↔
      row ∈ table.chosen scan condition limit := by
  constructor
  · intro hmem
    obtain ⟨other, hother, hrowid⟩ := List.mem_map.mp hmem
    have hsame := eq_of_rowid_eq (List.mem_filter.mp (chosen_subset hother)).1 hrow hrowid
    rwa [← hsame]
  · exact List.mem_map_of_mem

theorem nodup_chosen : (table.chosen scan condition limit).Nodup := by
  have hrows : table.rows.Nodup := List.Nodup.of_map _ table.distinct
  exact (((scan.perm _).nodup_iff.mpr hrows).filter _).sublist (List.take_sublist _ _)

theorem length_chosen :
    (table.chosen scan condition limit).length =
      min limit (table.rows.filter condition).length := by
  rw [chosen, List.length_take, ((scan.perm table.rows).filter condition).length_eq]

theorem length_filter_chosen :
    (table.rows.filter fun row =>
      row.rowid ∈ (table.chosen scan condition limit).map Row.rowid).length =
      (table.chosen scan condition limit).length := by
  have hrows : table.rows.Nodup := List.Nodup.of_map _ table.distinct
  refine List.Perm.length_eq ?_
  rw [List.perm_ext_iff_of_nodup (hrows.filter _) nodup_chosen]
  intro row
  rw [List.mem_filter, decide_eq_true_eq]
  constructor
  · rintro ⟨hrow, hmem⟩
    exact (rowid_mem_chosen hrow).mp hmem
  · intro hmem
    exact ⟨(List.mem_filter.mp (chosen_subset hmem)).1, List.mem_map_of_mem hmem⟩

theorem length_without_chosen :
    (table.without ((table.chosen scan condition limit).map Row.rowid)).rows.length +
      (table.chosen scan condition limit).length = table.rows.length := by
  let rowids := (table.chosen scan condition limit).map Row.rowid
  have hdeleted : (table.rows.filter fun row => row.rowid ∈ rowids).length =
      (table.chosen scan condition limit).length := length_filter_chosen
  have hsplit := List.length_eq_length_filter_add (l := table.rows) fun row => row.rowid ∈ rowids
  have hkept : (table.without rowids).rows =
      table.rows.filter fun row => !decide (row.rowid ∈ rowids) := by
    simp only [without, decide_not]
  rw [hkept, ← hdeleted]
  omega

theorem filter_not_without_chosen :
    (table.without ((table.chosen scan condition limit).map Row.rowid)).rows.filter
        (fun row => !condition row) =
      table.rows.filter fun row => !condition row := by
  rw [without, List.filter_filter]
  apply List.filter_congr
  intro row hrow
  by_cases hcondition : condition row
  · simp [hcondition]
  · have hspared : row.rowid ∉ (table.chosen scan condition limit).map Row.rowid := by
      rw [rowid_mem_chosen hrow]
      intro hmem
      exact hcondition (List.mem_filter.mp (chosen_subset hmem)).2
    simp only [hcondition, hspared, Bool.not_false, Bool.true_and, not_false_eq_true, decide_true]

theorem length_filter_without_chosen :
    ((table.without ((table.chosen scan condition limit).map Row.rowid)).rows.filter
        condition).length + (table.chosen scan condition limit).length =
      (table.rows.filter condition).length := by
  have hlength := @length_without_chosen table scan condition limit
  have hspared := @filter_not_without_chosen table scan condition limit
  have hbefore := List.length_eq_length_filter_add (l := table.rows) condition
  have hafter := List.length_eq_length_filter_add
    (l := (table.without ((table.chosen scan condition limit).map Row.rowid)).rows) condition
  rw [hspared] at hafter
  omega

theorem spare_without_chosen :
    (table.without ((table.chosen scan condition limit).map Row.rowid)).spare condition =
      table.spare condition :=
  eq_of_rows rfl rfl filter_not_without_chosen

theorem without_chosen_eq_spare (hroom : (table.rows.filter condition).length ≤ limit) :
    table.without ((table.chosen scan condition limit).map Row.rowid) = table.spare condition := by
  have hchosen := @length_chosen table scan condition limit
  have hleft := @length_filter_without_chosen table scan condition limit
  rw [hchosen, min_eq_right hroom] at hleft
  have hnone : ((table.without ((table.chosen scan condition limit).map
      Row.rowid)).rows.filter condition) = [] :=
    List.eq_nil_of_length_eq_zero (by omega)
  have hspare := @spare_without_chosen table scan condition limit
  rw [← hspare]
  refine eq_of_rows rfl rfl ?_
  symm
  rw [spare, List.filter_eq_self]
  intro row hrow
  rw [List.filter_eq_nil_iff] at hnone
  simpa using hnone row hrow

end Table

/-! ## Databases -/

abbrev Database := List Table

namespace Database

def find? (database : Database) (name : List Char) : Option Table :=
  List.find? (fun table => sameName table.name.toList name) database

def update (name : List Char) (change : Table → Table) : Database → Database
  | [] => []
  | table :: rest =>
      if sameName table.name.toList name then change table :: rest
      else table :: update name change rest

def rowCount (database : Database) : Nat :=
  (database.map fun table => table.rows.length).sum

variable {name : List Char} {database : Database}

theorem rowCount_update {change : Table → Table} {table : Table}
    (hfind : database.find? name = some table) :
    rowCount (update name change database) + table.rows.length =
      rowCount database + (change table).rows.length := by
  induction database with
  | nil => cases hfind
  | cons first rest ih =>
      unfold find? at hfind
      rw [List.find?_cons] at hfind
      unfold update
      cases hname : sameName first.name.toList name with
      | true =>
          rw [hname] at hfind
          cases hfind
          simp only [if_true, rowCount, List.map_cons, List.sum_cons]
          omega
      | false =>
          rw [hname] at hfind
          have hrest := ih hfind
          simp only [Bool.false_eq_true, if_false, rowCount, List.map_cons, List.sum_cons] at hrest ⊢
          omega

theorem find?_update {change : Table → Table} {table : Table}
    (hfind : database.find? name = some table) (hname : (change table).name = table.name) :
    find? (update name change database) name = some (change table) := by
  induction database with
  | nil => cases hfind
  | cons first rest ih =>
      unfold find? at hfind
      rw [List.find?_cons] at hfind
      unfold update
      cases hsame : sameName first.name.toList name with
      | true =>
          rw [hsame] at hfind
          cases hfind
          unfold find?
          rw [if_pos rfl, List.find?_cons, hname, hsame]
      | false =>
          rw [hsame] at hfind
          rw [if_neg (by decide), find?, List.find?_cons, hsame]
          exact ih hfind

theorem update_update {first second : Table → Table}
    (hname : ∀ table, (first table).name = table.name) :
    update name second (update name first database) =
      update name (fun table => second (first table)) database := by
  induction database with
  | nil => rfl
  | cons table rest ih =>
      simp only [update]
      split_ifs with hsame
      · simp only [update, hname, hsame, if_true]
      · simp only [update, if_neg hsame, ih]

theorem update_congr {first second : Table → Table} {table : Table}
    (hfind : database.find? name = some table) (hsame : first table = second table) :
    update name first database = update name second database := by
  induction database with
  | nil => rfl
  | cons other rest ih =>
      unfold find? at hfind
      rw [List.find?_cons] at hfind
      simp only [update]
      cases hother : sameName other.name.toList name with
      | true =>
          rw [hother] at hfind
          cases hfind
          simp only [if_true, hsame]
      | false =>
          rw [hother] at hfind
          simp only [Bool.false_eq_true, if_false, ih hfind]

end Database

/-! ## Statements -/

/-- `SELECT COUNT(*) AS count FROM table WHERE condition`. -/
structure CountStatement where
  table : List Char
  condition : Expr
  deriving DecidableEq

/-- `DELETE FROM table WHERE rowid IN (SELECT rowid FROM source WHERE condition LIMIT ?)`. -/
structure BatchDelete where
  table : List Char
  source : List Char
  condition : Expr
  /-- The index of the parameter behind `LIMIT`. -/
  limit : Nat
  deriving DecidableEq

def tableName : Lexeme → Option (List Char)
  | .word chars => if keywordOf chars ∈ reserved then none else some chars
  | .name chars => some chars
  | _ => none

def areKeywords (keywords : List String) (lexemes : List Lexeme) : Bool :=
  keywords.length = lexemes.length && (keywords.zip lexemes).all fun pair => isKeyword pair.1 pair.2

def parseCount : List Lexeme → Option CountStatement
  | select :: count :: .symbol ['('] :: .symbol ['*'] :: .symbol [')'] :: as :: label :: from_ ::
      table :: where_ :: rest =>
      if areKeywords ["SELECT", "COUNT", "AS", "COUNT", "FROM", "WHERE"]
          [select, count, as, label, from_, where_] then do
        let table ← tableName table
        let condition ← parse rest
        pure { table := table, condition := condition }
      else none
  | _ => none

def readBatch (table source : Lexeme) (condition : List Lexeme) : Option BatchDelete := do
  let table ← tableName table
  let source ← tableName source
  let expr ← parse condition
  pure {
    table := table
    source := source
    condition := expr
    limit := condition.count (.parameter ['?']) }

/-- The condition ends at the first `LIMIT`. -/
def isLimit (lexeme : Lexeme) : Bool :=
  isKeyword "LIMIT" lexeme

def limitClause : List Lexeme :=
  [.word "LIMIT".toList, .parameter ['?'], .symbol [')']]

def parseDelete : List Lexeme → Option BatchDelete
  | delete :: from_ :: table :: where_ :: rowid :: in_ :: .symbol ['('] :: select :: rowid' ::
      from' :: source :: where' :: rest =>
      if areKeywords
          ["DELETE", "FROM", "WHERE", "ROWID", "IN", "SELECT", "ROWID", "FROM", "WHERE"]
          [delete, from_, where_, rowid, in_, select, rowid', from', where'] ∧
          rest.dropWhile (fun lexeme => !isLimit lexeme) =
            limitClause then
        readBatch table source (rest.takeWhile fun lexeme => !isLimit lexeme)
      else none
  | _ => none

/-- A condition holds no `LIMIT`, so the batch ends where it should. -/
theorem parseDelete_limitClause {delete from_ table where_ rowid in_ select rowid' from' source
    where' : Lexeme} {condition : List Lexeme}
    (hkeywords : areKeywords
      ["DELETE", "FROM", "WHERE", "ROWID", "IN", "SELECT", "ROWID", "FROM", "WHERE"]
      [delete, from_, where_, rowid, in_, select, rowid', from', where']) :
    parseDelete (delete :: from_ :: table :: where_ :: rowid :: in_ :: .symbol ['('] :: select ::
        rowid' :: from' :: source :: where' :: (condition ++ limitClause)) =
      readBatch table source condition := by
  by_cases hlimit : ∃ lexeme ∈ condition, isLimit lexeme
  · obtain ⟨lexeme, hmem, hlimit⟩ := hlimit
    have hnone : parse condition = none := by
      cases lexeme with
      | word chars =>
          have hkeyword : keywordOf chars = "LIMIT" := by simpa [isLimit, isKeyword] using hlimit
          refine parse_eq_none (Reader.step_keyword ?_ ?_) hmem
          · rw [hkeyword]
            decide
          · rw [hkeyword]
            decide
      | _ => cases hlimit
    have hlonger : (condition ++ limitClause).dropWhile (fun lexeme => !isLimit lexeme) ≠
        limitClause := by
      intro hsame
      have hlength : (condition.dropWhile fun lexeme => !isLimit lexeme).length + 3 = 3 := by
        have hdrop := congrArg List.length hsame
        rw [List.dropWhile_append, if_neg ?_, List.length_append] at hdrop
        · exact hdrop
        · rw [List.isEmpty_iff, List.dropWhile_eq_nil_iff]
          intro hall
          have hthis := hall lexeme hmem
          rw [hlimit] at hthis
          cases hthis
      have hempty : (condition.dropWhile fun lexeme => !isLimit lexeme) = [] :=
        List.eq_nil_of_length_eq_zero (by omega)
      rw [List.dropWhile_eq_nil_iff] at hempty
      have hthis := hempty lexeme hmem
      rw [hlimit] at hthis
      cases hthis
    rw [parseDelete, if_neg fun h => hlonger h.2, readBatch, hnone]
    cases tableName table with
    | none => rfl
    | some table =>
        cases tableName source with
        | none => rfl
        | some source => rfl
  · have hall : ∀ lexeme ∈ condition, (!isLimit lexeme) = true := by
      intro lexeme hmem
      rw [Bool.not_eq_true']
      exact Bool.eq_false_iff.mpr fun h => hlimit ⟨lexeme, hmem, h⟩
    have hdrop : (condition ++ limitClause).dropWhile (fun lexeme => !isLimit lexeme) =
        limitClause := by
      rw [List.dropWhile_append_of_pos hall]
      rfl
    have htake : (condition ++ limitClause).takeWhile (fun lexeme => !isLimit lexeme) =
        condition := by
      rw [List.takeWhile_append_of_pos hall]
      exact List.append_nil condition
    rw [parseDelete, if_pos ⟨hkeywords, hdrop⟩, htake]

theorem parseDelete_eq_none {lexemes : List Lexeme} (hillegal : lexemes.getLast? = some .illegal) :
    parseDelete lexemes = none := by
  unfold parseDelete
  split
  · rename_i rest
    rw [if_neg]
    rintro ⟨-, hdrop⟩
    have hlast : rest.getLast? = some (.symbol [')']) := by
      rw [← List.takeWhile_append_dropWhile (p := fun lexeme => !isLimit lexeme) (l := rest), hdrop]
      simp [limitClause]
    simp only [List.getLast?_cons, hlast, Option.getD_some] at hillegal
    cases hillegal
  · rfl

theorem parseDelete_below {lexemes : List Lexeme} {statement : BatchDelete}
    (hparse : parseDelete lexemes = some statement) :
    statement.condition.Below statement.limit := by
  unfold parseDelete at hparse
  split at hparse
  · split_ifs at hparse
    obtain ⟨table, -, hsource⟩ := Option.bind_eq_some_iff.mp hparse
    obtain ⟨source, -, hcondition⟩ := Option.bind_eq_some_iff.mp hsource
    obtain ⟨condition, hparsed, hstatement⟩ := Option.bind_eq_some_iff.mp hcondition
    cases hstatement
    exact parse_below hparsed
  · cases hparse

def Expr.names : Expr → List (List Char)
  | .name chars => [chars]
  | .prefixed _ operand => operand.names
  | .binary _ left right => left.names ++ right.names
  | .isNull operand => operand.names
  | .notNull operand => operand.names
  | _ => []

section Running

variable (interpretation : Interpretation) (params : List Value)

def isKnown (table : Table) (name : List Char) : Bool :=
  table.columns.any (fun column => sameName column.toList name) || isRowidName name ||
    (interpretation.constant name).isSome

def resolve (database : Database) (table : List Char) (condition : Expr) :
    Except String Table :=
  match database.find? table with
  | none => .error s!"no such table: {String.ofList table}"
  | some found =>
      match condition.names.find? fun name => !isKnown interpretation found name with
      | some name => .error s!"no such column: {String.ofList name}"
      | none => .ok found

def CountStatement.run (statement : CountStatement) (database : Database) : Except String Nat := do
  let table ← resolve interpretation database statement.table statement.condition
  pure (table.rows.filter fun row => holds interpretation params row statement.condition).length

def limitOf (rows : Nat) : Value → Except String Nat
  | .integer value => .ok (if 0 ≤ value then value.toNat else rows)
  | _ => .error "datatype mismatch"

def BatchDelete.run (scan : ScanOrder) (statement : BatchDelete) (database : Database) :
    Except String (Database × Nat) := do
  let source ← resolve interpretation database statement.source statement.condition
  let table ← resolve interpretation database statement.table .null
  let limit ← limitOf source.rows.length (params.getD statement.limit .null)
  let rowids := (source.chosen scan
    (fun row => holds interpretation params row statement.condition) limit).map Row.rowid
  pure (database.update statement.table fun table => table.without rowids,
    (table.rows.filter fun row => row.rowid ∈ rowids).length)

variable {interpretation params}

variable {database : Database}

theorem resolve_update {name : List Char} {condition : Expr} {table : Table}
    {change : Table → Table} (hname : (change table).name = table.name)
    (hcolumns : (change table).columns = table.columns)
    (hresolve : resolve interpretation database name condition = .ok table) :
    resolve interpretation (database.update name change) name condition = .ok (change table) := by
  unfold resolve at hresolve ⊢
  cases hfind : database.find? name with
  | none => simp [hfind] at hresolve
  | some found =>
      simp only [hfind] at hresolve
      cases hunknown : condition.names.find? fun name => !isKnown interpretation found name with
      | some unknown => simp [hunknown] at hresolve
      | none =>
          simp only [hunknown, Except.ok.injEq] at hresolve
          subst hresolve
          have hknown : (fun name => !isKnown interpretation (change found) name) =
              fun name => !isKnown interpretation found name := by
            funext name
            rw [isKnown, isKnown, hcolumns]
          rw [Database.find?_update hfind hname]
          simp only [hknown, hunknown]

theorem find?_of_resolve {name : List Char} {condition : Expr} {table : Table}
    (hresolve : resolve interpretation database name condition = .ok table) :
    database.find? name = some table := by
  unfold resolve at hresolve
  cases hfind : database.find? name with
  | none => simp [hfind] at hresolve
  | some found =>
      simp only [hfind] at hresolve
      split at hresolve
      · cases hresolve
      · cases hresolve
        rfl

variable {statement : BatchDelete} {scan : ScanOrder}

theorem BatchDelete.run_eq {table : Table} {limit : Nat}
    (hsource : statement.source = statement.table)
    (hresolve : resolve interpretation database statement.table statement.condition = .ok table)
    (hlimit : params.getD statement.limit .null = .integer limit) :
    statement.run interpretation params scan database =
      let chosen := table.chosen scan
        (fun row => holds interpretation params row statement.condition) limit
      .ok (database.update statement.table fun table => table.without (chosen.map Row.rowid),
        chosen.length) := by
  have hfind := find?_of_resolve hresolve
  have hplain : resolve interpretation database statement.table .null = .ok table := by
    rw [resolve, hfind]
    rfl
  have hlimitOf : limitOf table.rows.length (.integer limit) = .ok limit := by
    rw [limitOf, if_pos (Int.natCast_nonneg limit), Int.toNat_natCast]
  unfold BatchDelete.run
  rw [hsource, hresolve, hplain, hlimit]
  simp only [bind, Except.bind, hlimitOf, pure, Except.pure]
  rw [Table.length_filter_chosen]

theorem BatchDelete.run_ok {later : Database} {rowsAffected : Nat}
    (hsource : statement.source = statement.table)
    (hrun : statement.run interpretation params scan database = .ok (later, rowsAffected)) :
    ∃ table limit, database.find? statement.table = some table ∧
      later = database.update statement.table fun other =>
        other.without ((table.chosen scan
          (fun row => holds interpretation params row statement.condition) limit).map Row.rowid) := by
  unfold BatchDelete.run at hrun
  rw [hsource] at hrun
  cases hresolve : resolve interpretation database statement.table statement.condition with
  | error message =>
      rw [hresolve] at hrun
      cases hrun
  | ok table =>
      have hfind := find?_of_resolve hresolve
      have hplain : resolve interpretation database statement.table .null = .ok table := by
        rw [resolve, hfind]
        rfl
      rw [hresolve, hplain] at hrun
      cases hlimit : limitOf table.rows.length (params.getD statement.limit .null) with
      | error message =>
          simp only [bind, Except.bind, hlimit, reduceCtorEq] at hrun
      | ok limit =>
          simp only [bind, Except.bind, hlimit, pure, Except.pure, Except.ok.injEq,
            Prod.mk.injEq] at hrun
          exact ⟨table, limit, hfind, hrun.1.symm⟩

theorem BatchDelete.rowCount_run {later : Database} {rowsAffected : Nat}
    (hrun : statement.run interpretation params scan database = .ok (later, rowsAffected)) :
    later.rowCount + rowsAffected = database.rowCount := by
  unfold BatchDelete.run at hrun
  cases hsource : resolve interpretation database statement.source statement.condition with
  | error message => simp only [hsource, bind, Except.bind, reduceCtorEq] at hrun
  | ok source =>
      cases hresolve : resolve interpretation database statement.table .null with
      | error message => simp only [hsource, hresolve, bind, Except.bind, reduceCtorEq] at hrun
      | ok table =>
          cases hlimit : limitOf source.rows.length (params.getD statement.limit .null) with
          | error message =>
              simp only [hsource, hresolve, hlimit, bind, Except.bind, reduceCtorEq] at hrun
          | ok limit =>
              simp only [hsource, hresolve, hlimit, bind, Except.bind, pure, Except.pure,
                Except.ok.injEq, Prod.mk.injEq] at hrun
              obtain ⟨rfl, rfl⟩ := hrun
              generalize (source.chosen scan _ limit).map Row.rowid = rowids
              have hupdate : (database.update statement.table fun other =>
                  other.without rowids).rowCount + table.rows.length =
                  database.rowCount + (table.without rowids).rows.length :=
                Database.rowCount_update (find?_of_resolve hresolve)
              have hleft : (table.without rowids).rows.length =
                  (table.rows.filter fun row => !decide (row.rowid ∈ rowids)).length := by
                simp only [Table.without, decide_not]
              have hsplit : table.rows.length =
                  (table.rows.filter fun row => decide (row.rowid ∈ rowids)).length +
                    (table.rows.filter fun row => !decide (row.rowid ∈ rowids)).length :=
                List.length_eq_length_filter_add fun row : Row => decide (row.rowid ∈ rowids)
              omega

theorem BatchDelete.run_error {message : String} (hsource : statement.source = statement.table)
    (hresolve : resolve interpretation database statement.table statement.condition =
      .error message) :
    statement.run interpretation params scan database = .error message := by
  unfold BatchDelete.run
  rw [hsource, hresolve]
  rfl

end Running

end SqliteText
