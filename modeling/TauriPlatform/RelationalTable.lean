import Mathlib.Data.List.Nodup
import Mathlib.Data.List.Sort
import Mathlib.Tactic

/-!
# Tables with unique indexes

A table is its rows, in the order in which they were inserted.  A unique index
gives a key to some of the rows, and two rows of a table never have the same
key.  The module names nothing of a particular program.
-/

namespace Relational

variable {Row κ : Type}

abbrev UniqueIndex (Row κ : Type) := Row → Option κ

theorem eq_of_nodup_filterMap {index : UniqueIndex Row κ} {rows : List Row}
    (hunique : (rows.filterMap index).Nodup) {left right : Row} {key : κ}
    (hleft : left ∈ rows) (hright : right ∈ rows)
    (hkeyLeft : index left = some key) (hkeyRight : index right = some key) :
    left = right := by
  induction rows with
  | nil => cases hleft
  | cons row rows ih =>
      have hfresh : ∀ other ∈ rows, index row = some key → index other ≠ some key := by
        intro other hother hrow hkey
        rw [List.filterMap_cons, hrow] at hunique
        exact (List.nodup_cons.mp hunique).1
          (List.mem_filterMap.mpr ⟨other, hother, hkey⟩)
      have htail : (rows.filterMap index).Nodup := by
        rw [List.filterMap_cons] at hunique
        cases hrow : index row with
        | none => rwa [hrow] at hunique
        | some value =>
            rw [hrow] at hunique
            exact (List.nodup_cons.mp hunique).2
      rcases List.mem_cons.mp hleft with hfirst | hlater
      · subst hfirst
        rcases List.mem_cons.mp hright with hsame | hlater
        · exact hsame.symm
        · exact absurd hkeyRight (hfresh right hlater hkeyLeft)
      · rcases List.mem_cons.mp hright with hsame | hlater'
        · subst hsame
          exact absurd hkeyLeft (hfresh left hlater hkeyRight)
        · exact ih htail hlater hlater'

@[ext] structure Table (Row κ : Type) (indexes : List (UniqueIndex Row κ)) where
  rows : List Row
  unique : ∀ index ∈ indexes, (rows.filterMap index).Nodup

namespace Table

variable {indexes : List (UniqueIndex Row κ)}

instance : Membership Row (Table Row κ indexes) where
  mem table row := row ∈ table.rows

variable {table : Table Row κ indexes} {row : Row}

theorem mem_def :
    row ∈ table ↔ row ∈ table.rows :=
  Iff.rfl

def empty : Table Row κ indexes where
  rows := []
  unique := by simp

theorem eq_of_key_eq (index : UniqueIndex Row κ) (hindex : index ∈ indexes) {left right : Row}
    {key : κ} (hleft : left ∈ table) (hright : right ∈ table) (hkeyLeft : index left = some key)
    (hkeyRight : index right = some key) :
    left = right :=
  eq_of_nodup_filterMap (table.unique index hindex) hleft hright hkeyLeft hkeyRight

/-! ## Reading -/

/-- `SELECT … WHERE`. -/
def select (table : Table Row κ indexes) (condition : Row → Bool) : List Row :=
  table.rows.filter condition

@[simp] theorem mem_select {condition : Row → Bool} :
    row ∈ table.select condition ↔ row ∈ table ∧ condition row := by
  simp [select, mem_def]

variable {rows : List Row}

theorem filter_eq_singleton {index : UniqueIndex Row κ} [DecidableEq κ]
    (hunique : (rows.filterMap index).Nodup) {key : κ} (hrow : row ∈ rows)
    (hkey : index row = some key) :
    (rows.filter fun other => index other = some key) = [row] := by
  induction rows with
  | nil => cases hrow
  | cons first rest ih =>
      have hcons := hunique
      rw [List.filterMap_cons] at hunique
      by_cases hfirst : index first = some key
      · rw [hfirst] at hunique
        have hsame : row = first :=
          eq_of_nodup_filterMap hcons hrow List.mem_cons_self hkey hfirst
        have hrest : (rest.filter fun other => index other = some key) = [] := by
          rw [List.filter_eq_nil_iff]
          intro other hother hotherKey
          exact (List.nodup_cons.mp hunique).1
            (List.mem_filterMap.mpr ⟨other, hother, by simpa using hotherKey⟩)
        rw [List.filter_cons_of_pos (by simpa using hfirst), hrest, hsame]
      · have hmem : row ∈ rest := by
          rcases List.mem_cons.mp hrow with rfl | hmem
          · exact absurd hkey hfirst
          · exact hmem
        rw [List.filter_cons_of_neg (by simpa using hfirst)]
        refine ih ?_ hmem
        cases hindex : index first with
        | none => rwa [hindex] at hunique
        | some other =>
            rw [hindex] at hunique
            exact (List.nodup_cons.mp hunique).2

theorem select_eq_singleton [DecidableEq κ] (index : UniqueIndex Row κ) (hindex : index ∈ indexes)
    {key : κ} (hrow : row ∈ table) (hkey : index row = some key) :
    (table.select fun other => index other = some key) = [row] :=
  filter_eq_singleton (table.unique index hindex) hrow hkey

theorem head?_select_eq_some_iff [DecidableEq κ] (index : UniqueIndex Row κ)
    (hindex : index ∈ indexes) {key : κ} :
    (table.select fun other => index other = some key).head? = some row ↔
      row ∈ table ∧ index row = some key := by
  constructor
  · intro hhead
    have hmem := List.mem_of_mem_head? hhead
    simpa using hmem
  · intro hrow
    rw [select_eq_singleton index hindex hrow.1 hrow.2, List.head?_cons]

/-- `ORDER BY`; rows which the order does not separate stay in table order. -/
def orderBy (le : Row → Row → Prop) [DecidableRel le] (rows : List Row) : List Row :=
  rows.insertionSort le

@[simp] theorem mem_orderBy {le : Row → Row → Prop} [DecidableRel le] :
    row ∈ orderBy le rows ↔ row ∈ rows :=
  List.mem_insertionSort le

@[simp] theorem length_orderBy {le : Row → Row → Prop} [DecidableRel le]
    (rows : List Row) :
    (orderBy le rows).length = rows.length :=
  List.length_insertionSort le rows

/-! ## Writing -/

/-- The row which an `UPDATE` leaves in place of `row`. -/
def updateRow (condition : Row → Bool) (set : Row → Row) (row : Row) : Row :=
  if condition row then set row else row

theorem filterMap_updateRow_sublist {index : UniqueIndex Row κ} {condition : Row → Bool}
    {set : Row → Row} (hkeys : ∀ row ∈ rows, condition row →
      index (set row) = index row ∨ index (set row) = none) :
    ((rows.map (updateRow condition set)).filterMap index).Sublist
      (rows.filterMap index) := by
  induction rows with
  | nil => simp
  | cons row rows ih =>
      have htail := ih fun other hother => hkeys other (List.mem_cons_of_mem _ hother)
      have hrow : index (updateRow condition set row) = index row ∨
          index (updateRow condition set row) = none := by
        unfold updateRow
        split_ifs with hcondition
        · exact hkeys row List.mem_cons_self hcondition
        · exact .inl rfl
      rw [List.map_cons, List.filterMap_cons, List.filterMap_cons]
      rcases hrow with hsame | hnone
      · rw [hsame]
        cases index row with
        | none => exact htail
        | some key => exact htail.cons_cons key
      · rw [hnone]
        cases index row with
        | none => exact htail
        | some key => exact htail.cons key

section Writing

variable [DecidableEq κ]

def ofRows? (rows : List Row) : Option (Table Row κ indexes) :=
  if unique : ∀ index ∈ indexes, (rows.filterMap index).Nodup then
    some { rows := rows, unique := unique }
  else none

variable {table : Table Row κ indexes}

theorem ofRows?_eq_some_iff {rows : List Row} :
    ofRows? rows = some table ↔ table.rows = rows := by
  unfold ofRows?
  split_ifs with hunique
  · rw [Option.some.injEq, Table.ext_iff]
    constructor
    · intro hrows
      exact hrows.symm
    · intro hrows
      exact hrows.symm
  · constructor
    · intro hnone
      cases hnone
    · intro hrows
      subst hrows
      exact absurd table.unique hunique

theorem ofRows?_isSome {rows : List Row}
    (hunique : ∀ index ∈ indexes, (rows.filterMap index).Nodup) :
    (ofRows? rows : Option (Table Row κ indexes)).isSome := by
  rw [ofRows?, dif_pos hunique]
  rfl

/-- `INSERT`; nothing when a unique index rejects the row. -/
def insert? (table : Table Row κ indexes) (row : Row) :
    Option (Table Row κ indexes) :=
  ofRows? (table.rows ++ [row])

theorem insert?_eq_some_iff {later : Table Row κ indexes} {row : Row} :
    table.insert? row = some later ↔ later.rows = table.rows ++ [row] :=
  ofRows?_eq_some_iff

theorem insert?_isSome {row : Row} (hfresh : ∀ index ∈ indexes, ∀ key, index row = some key →
      ∀ other ∈ table, index other ≠ some key) :
    (table.insert? row).isSome := by
  apply ofRows?_isSome
  intro index hindex
  rw [List.filterMap_append]
  cases hrow : index row with
  | none => simpa [hrow] using table.unique index hindex
  | some key =>
      simp only [List.filterMap_cons, hrow, List.filterMap_nil]
      refine List.nodup_append'.mpr ⟨table.unique index hindex, by simp, ?_⟩
      rw [List.disjoint_singleton, List.mem_filterMap]
      rintro ⟨other, hother, hkey⟩
      exact hfresh index hindex key hrow other hother hkey

/-- `UPDATE … SET … WHERE`; nothing when a unique index rejects the result. -/
def update? (table : Table Row κ indexes) (condition : Row → Bool)
    (set : Row → Row) : Option (Table Row κ indexes) :=
  ofRows? (table.rows.map (updateRow condition set))

theorem update?_eq_some_iff {later : Table Row κ indexes} {condition : Row → Bool}
    {set : Row → Row} :
    table.update? condition set = some later ↔
      later.rows = table.rows.map (updateRow condition set) :=
  ofRows?_eq_some_iff

theorem update?_isSome {condition : Row → Bool} {set : Row → Row}
    (hkeys : ∀ index ∈ indexes, ∀ row ∈ table, condition row →
      index (set row) = index row ∨ index (set row) = none) :
    (table.update? condition set).isSome := by
  apply ofRows?_isSome
  intro index hindex
  refine List.Nodup.sublist ?_ (table.unique index hindex)
  exact filterMap_updateRow_sublist fun row hrow => hkeys index hindex row hrow

end Writing

/-- `DELETE … WHERE`. -/
def delete (table : Table Row κ indexes) (condition : Row → Bool) :
    Table Row κ indexes where
  rows := table.rows.filter fun row => !condition row
  unique index hindex :=
    (table.unique index hindex).sublist (List.filter_sublist.filterMap index)

end Table
end Relational
