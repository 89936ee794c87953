import Mathlib.Algebra.Order.Floor.Semiring
import Mathlib.Algebra.Order.Field.Basic
import Mathlib.Tactic.GCongr
import Mathlib.Tactic.Linarith
import Mathlib.Tactic.Ring

/-!
# Times which keep a distance

After a burst, each time of a list is at least a gap later than the ones before it.  Then a
window holds at most the burst, and one time for each gap which begins in it.
-/

namespace Timing

def Spaced {α : Type*} [Add α] [LE α] (gap : α) (times : List α) : Prop :=
  times.Pairwise fun earlier later => earlier + gap ≤ later

/-- The times in the closed window which begins at `start`. -/
def within {α : Type*} [Add α] [LE α] [DecidableLE α] (start duration : α) (times : List α) :
    List α :=
  times.filter fun time => start ≤ time ∧ time ≤ start + duration

theorem Spaced.drop_append {α : Type*} [Add α] [LE α] {gap time : α} {times : List α}
    {burst : ℕ} (hspaced : Spaced gap (times.drop burst))
    (hlater : ∀ earlier ∈ times.drop burst, earlier + gap ≤ time) :
    Spaced gap ((times ++ [time]).drop burst) := by
  have hlast : ∀ last ∈ [time].drop (burst - times.length), last = time := fun last hmem =>
    List.mem_singleton.mp (List.mem_of_mem_drop hmem)
  rw [List.drop_append]
  apply List.pairwise_append.mpr
  refine ⟨hspaced, ?_, ?_⟩
  · exact List.Pairwise.sublist (List.drop_sublist _ _) (List.pairwise_singleton _ time)
  · intro earlier hearlier last hmem
    rw [hlast last hmem]
    exact hlater earlier hearlier

section Ordered

variable {𝕜 : Type*} [Field 𝕜] [LinearOrder 𝕜] {gap start duration finish : 𝕜}
  {times : List 𝕜}

theorem Spaced.filter (hspaced : Spaced gap times) (keep : 𝕜 → Bool) :
    Spaced gap (times.filter keep) :=
  List.Pairwise.sublist List.filter_sublist hspaced

variable [IsStrictOrderedRing 𝕜]

theorem Spaced.map_cast {gap : ℕ} {times : List ℕ} (hspaced : Spaced gap times) :
    Spaced (gap : 𝕜) (times.map Nat.cast) := by
  apply List.Pairwise.map _ _ hspaced
  intro earlier later hle
  exact_mod_cast hle

theorem Spaced.span {first : 𝕜} {rest : List 𝕜} (hspaced : Spaced gap (first :: rest))
    (hfinish : ∀ time ∈ first :: rest, time ≤ finish) :
    first + rest.length * gap ≤ finish := by
  induction rest generalizing first with
  | nil => simpa using hfinish first (by simp)
  | cons second rest ih =>
      have hgap : first + gap ≤ second := List.rel_of_pairwise_cons hspaced (by simp)
      have hrest : second + rest.length * gap ≤ finish :=
        ih (List.Pairwise.of_cons hspaced) fun time hmem =>
          hfinish time (List.mem_cons_of_mem first hmem)
      calc
        first + ((second :: rest).length : 𝕜) * gap = first + gap + rest.length * gap := by
          rw [List.length_cons]
          push_cast
          ring
        _ ≤ second + rest.length * gap := by gcongr
        _ ≤ finish := hrest

variable [FloorSemiring 𝕜]

theorem Spaced.length_le (hspaced : Spaced gap times) (hgap : 0 < gap)
    (hwindow : ∀ time ∈ times, start ≤ time ∧ time ≤ start + duration) :
    times.length ≤ ⌊duration / gap⌋₊ + 1 := by
  cases times with
  | nil => simp
  | cons first rest =>
      have hspan : first + rest.length * gap ≤ start + duration :=
        hspaced.span fun time hmem => (hwindow time hmem).2
      have hfirst : start ≤ first := (hwindow first (by simp)).1
      have hlength : (rest.length : 𝕜) ≤ duration / gap := by
        rw [le_div_iff₀ hgap]
        linarith
      have hfloor : rest.length ≤ ⌊duration / gap⌋₊ := Nat.le_floor hlength
      rw [List.length_cons]
      omega

theorem length_within_le {burst : ℕ} (hspaced : Spaced gap (times.drop burst))
    (hgap : 0 < gap) :
    (within start duration times).length ≤ burst + (⌊duration / gap⌋₊ + 1) := by
  have hsplit : within start duration times =
      within start duration (times.take burst) ++ within start duration (times.drop burst) := by
    unfold within
    rw [← List.filter_append, List.take_append_drop]
  have hburst : (within start duration (times.take burst)).length ≤ burst :=
    (List.length_filter_le _ _).trans (List.length_take_le burst times)
  have hrest : (within start duration (times.drop burst)).length ≤ ⌊duration / gap⌋₊ + 1 := by
    apply (hspaced.filter _).length_le hgap
    intro time hmem
    simpa using (List.mem_filter.mp hmem).2
  rw [hsplit, List.length_append]
  omega

end Ordered

end Timing
