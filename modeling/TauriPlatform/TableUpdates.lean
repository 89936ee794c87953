import TauriPlatform.RelationalTable

/-!
# Updates one after another

A loop over a batch updates the row of each item in turn.  Where the items name different
rows and no update changes a key, every row is updated by its own item or not at all.
-/

namespace Relational.Table

variable {Row κ : Type} [DecidableEq κ]

def updateEach (key : Row → κ) (updates : List (κ × (Row → Row))) (rows : List Row) : List Row :=
  updates.foldl
    (fun rows update => rows.map (updateRow (fun row => key row = update.1) update.2)) rows

/-- The row which updates leave in place of `row`. -/
def updatedBy (key : Row → κ) (updates : List (κ × (Row → Row))) (row : Row) : Row :=
  (updates.lookup (key row)).elim row fun set => set row

theorem updateEach_eq_map {key : Row → κ} {updates : List (κ × (Row → Row))}
    (hkey : ∀ update ∈ updates, ∀ row, key (update.2 row) = key row)
    (hdistinct : (updates.map Prod.fst).Nodup) (rows : List Row) :
    updateEach key updates rows = rows.map (updatedBy key updates) := by
  induction updates generalizing rows with
  | nil => exact (List.map_id rows).symm
  | cons update updates ih =>
      obtain ⟨name, set⟩ := update
      obtain ⟨hnew, hrest⟩ := List.nodup_cons.mp hdistinct
      have hlater := ih (fun other hother => hkey other (List.mem_cons_of_mem _ hother)) hrest
        (rows.map (updateRow (fun row => key row = name) set))
      change updateEach key updates _ = _
      rw [hlater, List.map_map]
      apply List.map_congr_left
      intro row _
      simp only [Function.comp_apply, updateRow, updatedBy, decide_eq_true_eq, List.lookup_cons]
      by_cases hrow : key row = name
      · have hnone : updates.lookup name = none := by
          rw [List.lookup_eq_none_iff]
          intro other hother
          rw [bne_iff_ne]
          rintro rfl
          exact hnew (List.mem_map.mpr ⟨other, hother, rfl⟩)
        rw [if_pos hrow, hkey (name, set) List.mem_cons_self row, hrow, hnone, beq_self_eq_true]
        rfl
      · rw [if_neg hrow, beq_false_of_ne hrow]

theorem updatedBy_of_mem {key : Row → κ} {updates : List (κ × (Row → Row))}
    (hdistinct : (updates.map Prod.fst).Nodup) {row : Row} {set : Row → Row}
    (hmem : (key row, set) ∈ updates) : updatedBy key updates row = set row := by
  have hlookup : updates.lookup (key row) = some set := by
    induction updates with
    | nil => cases hmem
    | cons update updates ih =>
        obtain ⟨name, first⟩ := update
        obtain ⟨hnew, hrest⟩ := List.nodup_cons.mp hdistinct
        rw [List.lookup_cons]
        rcases List.mem_cons.mp hmem with hsame | hold
        · cases hsame
          rw [beq_self_eq_true]
        · have hne : key row ≠ name := by
            rintro rfl
            exact hnew (List.mem_map.mpr ⟨_, hold, rfl⟩)
          rw [beq_false_of_ne hne]
          exact ih hrest hold
  rw [updatedBy, hlookup]
  rfl

theorem updatedBy_cases (key : Row → κ) (updates : List (κ × (Row → Row))) (row : Row) :
    updatedBy key updates row = row ∨
      ∃ set, (key row, set) ∈ updates ∧ updatedBy key updates row = set row := by
  rw [updatedBy]
  cases hlookup : updates.lookup (key row) with
  | none => exact .inl rfl
  | some set =>
      obtain ⟨before, after, hsplit, -⟩ := List.lookup_eq_some_iff.mp hlookup
      refine .inr ⟨set, ?_, rfl⟩
      rw [hsplit]
      exact List.mem_append_right _ List.mem_cons_self

end Relational.Table
