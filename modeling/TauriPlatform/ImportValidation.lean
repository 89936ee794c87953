import TauriPlatform.ManifestValidator

/-!
# The validation of imported rows

`ImportEngine.validate` hands each row to a callback of the caller and sorts what comes back
into valid rows and errors.  A callback may return anything, and it may throw anything.
-/

namespace TauriPlatform

structure RowValidationError where
  rowIndex : Nat
  columnKey : String
  message : String
  invalidValue : PlainValue

structure ImportValidationResult where
  validRows : List PlainValue
  errors : List RowValidationError
  totalRows : Nat

/-- `validateRow` of a definition, a closure over a state of its own. -/
abbrev RowValidator (State Row : Type) :=
  State → (rawRow : Row) → (rowIndex : Nat) → Except Raised PlainValue × State

namespace ImportEngine

structure Collected where
  validRows : List PlainValue
  errors : List RowValidationError

namespace Collected

variable (collected : Collected)

def pushRow (data : PlainValue) : Collected :=
  { collected with validRows := collected.validRows ++ [data] }

def pushError (error : RowValidationError) : Collected :=
  { collected with errors := collected.errors ++ [error] }

end Collected

/-! ## One row -/

def reportedError? (rowIndex : Nat) (entry : PlainValue) : Option RowValidationError :=
  match entry, (entry.field "columnKey").string?, (entry.field "message").string? with
  | .object _, some columnKey, some message =>
      some ⟨rowIndex, columnKey, message, entry.field "invalidValue"⟩
  | _, _, _ => none

def pushErrors (rowIndex : Nat) :
    List PlainValue → Collected → Except Thrown Unit × Collected
  | [], collected => (.ok (), collected)
  | entry :: rest, collected =>
      match reportedError? rowIndex entry with
      | none =>
          (.error (.builtin "TypeError" "Row validation returned a malformed error entry"),
            collected)
      | some error => pushErrors rowIndex rest (collected.pushError error)

def missingMessage (result : PlainValue) : String :=
  if (result.field "valid").isTrue then "Row validation succeeded without producing data"
  else "Row validation failed without providing an error"

/-- The `try` of a row, once its callback has returned. -/
def collectResult (rowIndex : Nat) (result : PlainValue) (collected : Collected) :
    Except Thrown Unit × Collected :=
  match result.get "errors" with
  | .error thrown => (.error thrown, collected)
  | .ok errors =>
      if !errors.isUndefined && errors.array?.isNone then
        (.error (.builtin "TypeError" "Row validation errors must be an array"), collected)
      else if errors.items ≠ [] then pushErrors rowIndex errors.items collected
      else if (result.field "valid").isTrue && !(result.field "data").isUndefined then
        (.ok (), collected.pushRow (result.field "data"))
      else
        (.ok (), collected.pushError
          { rowIndex := rowIndex
            columnKey := ""
            message := missingMessage result
            invalidValue := .undefined })

/-- The `try` of a row. -/
def tryRow (rowIndex : Nat) (answer : Except Raised PlainValue) (collected : Collected) :
    Except Raised Unit × Collected :=
  match answer with
  | .error raised => (.error raised, collected)
  | .ok result =>
      match collectResult rowIndex result collected with
      | (.ok (), later) => (.ok (), later)
      | (.error thrown, later) => (.error thrown.raised, later)

/-- The `try` of a row with its `catch`, which fails where what was thrown has no text. -/
def collectRow (rowIndex : Nat) (answer : Except Raised PlainValue) (collected : Collected) :
    Except Thrown Unit × Collected :=
  match tryRow rowIndex answer collected with
  | (.ok (), later) => (.ok (), later)
  | (.error raised, later) =>
      match raised.text with
      | .error thrown => (.error thrown, later)
      | .ok text =>
          (.ok (), later.pushError ⟨rowIndex, "", s!"Row validation threw: {text}", .undefined⟩)

/-! ## All rows -/

variable {State Row : Type} (validateRow : RowValidator State Row)

/-- The loop over the rows behind the first `index` of them. -/
def collectRows (index : Nat) :
    List Row → State → Collected → (Except Thrown Unit × Collected) × State
  | [], state, collected => ((.ok (), collected), state)
  | rawRow :: rest, state, collected =>
      let (answer, state) := validateRow state rawRow (index + 2)
      match collectRow (index + 2) answer collected with
      | (.error thrown, later) => ((.error thrown, later), state)
      | (.ok (), later) => collectRows (index + 1) rest state later

def validate (rows : List Row) (state : State) :
    Except Thrown ImportValidationResult × State :=
  match collectRows validateRow 0 rows state ⟨[], []⟩ with
  | ((.error thrown, _), state) => (.error thrown, state)
  | ((.ok (), collected), state) =>
      (.ok ⟨collected.validRows, collected.errors, rows.length⟩, state)

/-- What the callback answers for the rows behind the first `index` of them. -/
def answers (index : Nat) : List Row → State → List (Except Raised PlainValue)
  | [], _ => []
  | rawRow :: rest, state =>
      let (answer, state) := validateRow state rawRow (index + 2)
      answer :: answers (index + 1) rest state

@[simp] theorem length_answers (index : Nat) (rows : List Row) (state : State) :
    (answers validateRow index rows state).length = rows.length := by
  induction rows generalizing index state with
  | nil => rfl
  | cons rawRow rest ih => simp [answers, ih]

/-! ## What a row adds -/

/-- The data of a row which the callback accepts: it reports no error and says that the row is
valid. -/
def keptData? : Except Raised PlainValue → Option PlainValue
  | .error _ => none
  | .ok result =>
      match result.get "errors" with
      | .error _ => none
      | .ok errors =>
          if (errors.isUndefined || errors.array?.isSome) && errors.items.isEmpty &&
              (result.field "valid").isTrue && !(result.field "data").isUndefined then
            some (result.field "data")
          else none

namespace Collected

def append (collected added : Collected) : Collected where
  validRows := collected.validRows ++ added.validRows
  errors := collected.errors ++ added.errors

variable (collected : Collected)

@[simp] theorem append_empty : collected.append ⟨[], []⟩ = collected := by
  simp [append]

theorem append_assoc (first second : Collected) :
    (collected.append first).append second = collected.append (first.append second) := by
  simp [append]

theorem pushRow_eq (data : PlainValue) : collected.pushRow data = collected.append ⟨[data], []⟩ := by
  simp [append, pushRow]

theorem pushError_eq (error : RowValidationError) :
    collected.pushError error = collected.append ⟨[], [error]⟩ := by
  simp [append, pushError]

structure Rejects (rowIndex : Nat) (added : Collected) : Prop where
  validRows : added.validRows = []
  marked : ∀ error ∈ added.errors, error.rowIndex = rowIndex

/-- A row is kept as the data which the callback returned for it, or it is rejected with an
error. -/
def Settles (answer : Except Raised PlainValue) (rowIndex : Nat) (added : Collected) : Prop :=
  match keptData? answer with
  | some data => added = ⟨[data], []⟩
  | none => added.Rejects rowIndex ∧ added.errors ≠ []

theorem Rejects.settles {answer : Except Raised PlainValue} {rowIndex : Nat} {added : Collected}
    (hrejects : added.Rejects rowIndex) (herrors : added.errors ≠ [])
    (hanswer : keptData? answer = none) : added.Settles answer rowIndex := by
  unfold Settles
  rw [hanswer]
  exact ⟨hrejects, herrors⟩

theorem rejects_empty (rowIndex : Nat) : Rejects rowIndex ⟨[], []⟩ :=
  ⟨rfl, fun _ hmem => (nomatch hmem)⟩

theorem Rejects.pushError {rowIndex : Nat} {added : Collected} (hrejects : added.Rejects rowIndex)
    {error : RowValidationError} (hindex : error.rowIndex = rowIndex) :
    (added.pushError error).Rejects rowIndex ∧ (added.pushError error).errors ≠ [] := by
  refine ⟨⟨hrejects.validRows, fun other hother => ?_⟩, by simp [Collected.pushError]⟩
  rcases List.mem_append.mp hother with hbefore | hlast
  · exact hrejects.marked other hbefore
  · rw [List.mem_singleton.mp hlast, hindex]

end Collected

variable {rowIndex : Nat}

theorem rowIndex_of_reportedError {entry : PlainValue} {error : RowValidationError}
    (hreported : reportedError? rowIndex entry = some error) : error.rowIndex = rowIndex := by
  unfold reportedError? at hreported
  split at hreported
  · cases hreported
    rfl
  · cases hreported

/-- Errors are pushed up to a malformed entry, which ends the `try`. -/
theorem pushErrors_adds (rowIndex : Nat) (entries : List PlainValue) (collected : Collected) :
    ∃ outcome added, pushErrors rowIndex entries collected = (outcome, collected.append added) ∧
      added.Rejects rowIndex ∧ (outcome = .ok () → entries ≠ [] → added.errors ≠ []) := by
  induction entries generalizing collected with
  | nil =>
      exact ⟨.ok (), ⟨[], []⟩, by rw [pushErrors, Collected.append_empty],
        Collected.rejects_empty rowIndex, fun _ hentries => absurd rfl hentries⟩
  | cons entry rest ih =>
      rw [pushErrors]
      cases hreported : reportedError? rowIndex entry with
      | none =>
          exact ⟨.error _, ⟨[], []⟩, by rw [Collected.append_empty],
            Collected.rejects_empty rowIndex, nofun⟩
      | some error =>
          obtain ⟨outcome, added, hrest, hrejects, -⟩ := ih (collected.pushError error)
          have hindex := rowIndex_of_reportedError hreported
          refine ⟨outcome, Collected.append ⟨[], [error]⟩ added, ?_, ⟨?_, ?_⟩, ?_⟩
          · dsimp only
            rw [hrest, Collected.pushError_eq, Collected.append_assoc]
          · exact hrejects.validRows
          · intro other hother
            rcases List.mem_cons.mp hother with rfl | hlater
            · exact hindex
            · exact hrejects.marked other hlater
          · intro _ _ hnone
            cases hnone

/-- Once the callback has returned, the row is settled or the `try` has thrown. -/
theorem collectResult_adds (rowIndex : Nat) (result : PlainValue) (collected : Collected) :
    ∃ outcome added, collectResult rowIndex result collected =
        (outcome, collected.append added) ∧
      ((outcome = .ok () ∧ added.Settles (.ok result) rowIndex) ∨
        ∃ thrown, outcome = .error thrown ∧ added.Rejects rowIndex ∧
          keptData? (.ok result) = none) := by
  have hnothing : collected = collected.append ⟨[], []⟩ := collected.append_empty.symm
  have hempty := Collected.rejects_empty rowIndex
  unfold collectResult
  cases hget : result.get "errors" with
  | error thrown =>
      have hrejected : keptData? (.ok result) = none := by simp [keptData?, hget]
      exact ⟨_, _, congrArg _ hnothing, .inr ⟨thrown, rfl, hempty, hrejected⟩⟩
  | ok errors =>
      dsimp only
      split_ifs with hkind herrors hvalid
      · have hrejected : keptData? (.ok result) = none := by
          simp only [Bool.and_eq_true, Bool.not_eq_true', Option.isNone_iff_eq_none] at hkind
          simp [keptData?, hget, hkind.1, hkind.2]
        exact ⟨_, _, congrArg _ hnothing, .inr ⟨_, rfl, hempty, hrejected⟩⟩
      · have hrejected : keptData? (.ok result) = none := by
          simp [keptData?, hget, List.isEmpty_iff, herrors]
        obtain ⟨outcome, added, hpushed, hrejects, hnonempty⟩ :=
          pushErrors_adds rowIndex errors.items collected
        refine ⟨outcome, added, hpushed, ?_⟩
        cases outcome with
        | ok value => exact .inl ⟨rfl, hrejects.settles (hnonempty rfl herrors) hrejected⟩
        | error thrown => exact .inr ⟨thrown, rfl, hrejects, hrejected⟩
      · have hkept : keptData? (.ok result) = some (result.field "data") := by
          simp only [Bool.and_eq_true] at hvalid
          have hitems : errors.items = [] := not_not.mp herrors
          have hshape : (errors.isUndefined || errors.array?.isSome) = true := by
            by_contra hnone
            simp only [Bool.not_eq_true, Bool.or_eq_false_iff, Option.isSome_eq_false_iff] at hnone
            exact hkind (by simp [hnone.1, hnone.2])
          simp only [keptData?, hget, hshape, hitems, hvalid.1, hvalid.2, List.isEmpty_nil,
            Bool.and_self, if_true]
        refine ⟨_, _, congrArg _ (collected.pushRow_eq _), .inl ⟨rfl, ?_⟩⟩
        rw [Collected.Settles, hkept]
      · have hrejected : keptData? (.ok result) = none := by
          simp only [Bool.and_eq_true, not_and] at hvalid
          simp only [keptData?, hget, Bool.and_eq_true, ite_eq_right_iff, reduceCtorEq, imp_false,
            not_and]
          exact fun hall => hvalid hall.2
        refine ⟨_, _, congrArg _ (collected.pushError_eq _), .inl ⟨rfl, ?_⟩⟩
        exact ((Collected.rejects_empty rowIndex).pushError rfl).1.settles nofun hrejected

def HasText : Except Raised PlainValue → Prop
  | .ok _ => True
  | .error raised => raised.text.isOk = true

instance (answer : Except Raised PlainValue) : Decidable (HasText answer) :=
  match answer with
  | .ok _ => inferInstanceAs (Decidable True)
  | .error _ => inferInstanceAs (Decidable (_ = true))

variable {answer : Except Raised PlainValue}

/-- The `catch` adds an error of its own. -/
theorem catch_settles {raised : Raised} {text : String} (htext : raised.text = .ok text)
    {collected added : Collected}
    (htried : tryRow rowIndex answer collected = (.error raised, collected.append added))
    (hrejects : added.Rejects rowIndex) (hanswer : keptData? answer = none) :
    ∃ settled, collectRow rowIndex answer collected = (.ok (), collected.append settled) ∧
      settled.Settles answer rowIndex := by
  have hthrew : RowValidationError.rowIndex
      ⟨rowIndex, "", s!"Row validation threw: {text}", .undefined⟩ = rowIndex := rfl
  obtain ⟨hrejects, herrors⟩ := hrejects.pushError hthrew
  refine ⟨_, ?_, hrejects.settles herrors hanswer⟩
  simp only [collectRow, htried, htext]
  rw [Collected.pushError_eq, Collected.pushError_eq, Collected.append_assoc]

theorem collectRow_settles (hanswer : HasText answer) (rowIndex : Nat) (collected : Collected) :
    ∃ added, collectRow rowIndex answer collected = (.ok (), collected.append added) ∧
      added.Settles answer rowIndex := by
  cases answer with
  | error raised =>
      cases htext : raised.text with
      | error thrown =>
          rw [HasText, htext] at hanswer
          cases hanswer
      | ok text =>
          refine catch_settles htext ?_ (Collected.rejects_empty rowIndex) rfl
          rw [tryRow, Collected.append_empty]
  | ok result =>
      obtain ⟨outcome, added, hcollected, ⟨rfl, hsettles⟩ |
        ⟨thrown, rfl, hrejects, hrejected⟩⟩ :=
        collectResult_adds rowIndex result collected
      · refine ⟨added, ?_, hsettles⟩
        simp only [collectRow, tryRow, hcollected]
      · refine catch_settles thrown.raised_text ?_ hrejects hrejected
        simp only [tryRow, hcollected]

/-- Where what was thrown has no text, the `catch` throws. -/
theorem collectRow_eq_error (hanswer : ¬ HasText answer) (rowIndex : Nat) (collected : Collected) :
    ∃ thrown, collectRow rowIndex answer collected = (.error thrown, collected) := by
  cases answer with
  | ok result => exact absurd trivial hanswer
  | error raised =>
      cases htext : raised.text with
      | error thrown => exact ⟨thrown, by simp only [collectRow, tryRow, htext]⟩
      | ok text =>
          rw [HasText, htext] at hanswer
          exact absurd rfl hanswer

/-! ## What all rows add -/

def SettleEach (index : Nat) (answers : List (Except Raised PlainValue))
    (added : List Collected) : Prop :=
  List.Forall₂ (fun answer added => Collected.Settles answer.1 answer.2 added)
    (answers.zipIdx (index + 2)) added

theorem SettleEach.getElem? {answers : List (Except Raised PlainValue)} {added : List Collected}
    (hsettle : SettleEach 0 answers added) {index : Nat} (hanswer : answers[index]? = some answer) :
    ∃ contribution, added[index]? = some contribution ∧
      contribution.Settles answer (index + 2) := by
  obtain ⟨hindex, rfl⟩ := List.getElem?_eq_some_iff.mp hanswer
  have hlength := hsettle.length_eq
  rw [List.length_zipIdx] at hlength
  have hadded : index < added.length := hlength ▸ hindex
  refine ⟨added[index], List.getElem?_eq_getElem hadded, ?_⟩
  have hget := (List.forall₂_iff_get.mp hsettle).2 index (by simpa using hindex) hadded
  simpa [Nat.add_comm] using hget

def total (added : List Collected) : Collected where
  validRows := added.flatMap Collected.validRows
  errors := added.flatMap Collected.errors

theorem append_total_cons (collected first : Collected) (rest : List Collected) :
    (collected.append first).append (total rest) = collected.append (total (first :: rest)) :=
  collected.append_assoc first (total rest)

variable {validateRow}

theorem collectRows_cases (index : Nat) (rows : List Row) (state : State)
    (collected : Collected) :
    ((∀ answer ∈ answers validateRow index rows state, HasText answer) ∧
        ∃ added later, collectRows validateRow index rows state collected =
            ((.ok (), collected.append (total added)), later) ∧
          SettleEach index (answers validateRow index rows state) added) ∨
      (¬ ∀ answer ∈ answers validateRow index rows state, HasText answer) ∧
        ∃ thrown left later, collectRows validateRow index rows state collected =
          ((.error thrown, left), later) := by
  induction rows generalizing index state collected with
  | nil =>
      refine .inl ⟨fun _ hmem => (nomatch hmem), [], state, ?_, .nil⟩
      rw [collectRows, total, List.flatMap_nil, List.flatMap_nil, Collected.append_empty]
  | cons rawRow rest ih =>
      obtain ⟨answer, next, hcall⟩ :
          ∃ answer next, validateRow state rawRow (index + 2) = (answer, next) :=
        ⟨_, _, rfl⟩
      simp only [answers, collectRows, hcall, List.forall_mem_cons]
      by_cases hanswer : HasText answer
      · obtain ⟨first, hrow, hfirst⟩ := collectRow_settles hanswer (index + 2) collected
        simp only [hrow]
        rcases ih (index + 1) next (collected.append first) with
          ⟨htexts, added, later, hrest, hadded⟩ | ⟨hthrows, hrest⟩
        · refine .inl ⟨⟨hanswer, htexts⟩, first :: added, later, ?_, ?_⟩
          · rw [hrest, append_total_cons]
          · rw [SettleEach, List.zipIdx_cons]
            exact .cons hfirst hadded
        · exact .inr ⟨fun hall => hthrows hall.2, hrest⟩
      · obtain ⟨thrown, hrow⟩ := collectRow_eq_error hanswer (index + 2) collected
        simp only [hrow]
        exact .inr ⟨fun hall => hanswer hall.1, thrown, collected, next, rfl⟩

/-- Each row has added one valid row, in its place, or errors with its index. -/
def Partitions (answers : List (Except Raised PlainValue)) (result : ImportValidationResult) :
    Prop :=
  result.totalRows = answers.length ∧ ∃ added, SettleEach 0 answers added ∧
    result.validRows = added.flatMap Collected.validRows ∧
    result.errors = added.flatMap Collected.errors

theorem validate_cases (validateRow : RowValidator State Row) (rows : List Row) (state : State) :
    ((∀ answer ∈ answers validateRow 0 rows state, HasText answer) ∧
        ∃ result later, validate validateRow rows state = (.ok result, later) ∧
          Partitions (answers validateRow 0 rows state) result) ∨
      (¬ ∀ answer ∈ answers validateRow 0 rows state, HasText answer) ∧
        ∃ thrown later, validate validateRow rows state = (.error thrown, later) := by
  unfold validate
  rcases @collectRows_cases State Row validateRow 0 rows state ⟨[], []⟩ with
    ⟨htexts, added, later, hcollected, hadded⟩ | ⟨hthrows, thrown, left, later, hcollected⟩
  · rw [hcollected]
    exact .inl ⟨htexts, _, later, rfl, (length_answers _ _ _ _).symm, added, hadded, rfl, rfl⟩
  · rw [hcollected]
    exact .inr ⟨hthrows, thrown, later, rfl⟩

/-- Validation ends and partitions the rows unless a callback throws what has no text. -/
theorem validate_partitions_iff (validateRow : RowValidator State Row) (rows : List Row)
    (state : State) :
    (∃ result later, validate validateRow rows state = (.ok result, later) ∧
        Partitions (answers validateRow 0 rows state) result) ↔
      ∀ answer ∈ answers validateRow 0 rows state, HasText answer := by
  rcases validate_cases validateRow rows state with
    ⟨htexts, hpartitions⟩ | ⟨hthrows, thrown, later, hvalidated⟩
  · exact ⟨fun _ => htexts, fun _ => hpartitions⟩
  · refine ⟨?_, fun hall => absurd hall hthrows⟩
    rintro ⟨result, _, hok, -⟩
    cases hvalidated.symm.trans hok

/-- A callback which throws a plain object whose `toString` is no function. -/
def throwUnprintable : RowValidator Unit Unit :=
  fun state _ _ => (.error (.value (.object [("toString", .null)])), state)

theorem validate_aborts :
    ¬ ∃ result later, validate throwUnprintable [()] () = (.ok result, later) ∧
      Partitions (answers throwUnprintable 0 [()] ()) result := by
  rintro ⟨result, later, hok, -⟩
  cases hok

end ImportEngine
end TauriPlatform
