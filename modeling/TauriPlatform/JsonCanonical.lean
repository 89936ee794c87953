import TauriPlatform.SyncEnvelopeBuilder
import TauriPlatform.JsonRoundTrip
import Mathlib.Data.List.TakeWhile

/-!
# The canonical form of a JSON value

The keys of every object are sorted.  Objects with the same properties have one canonical
form, and values with one canonical text have one canonical form.
-/

namespace TauriPlatform

/-! ## Array indices -/

theorem digitChar_digitValue {c : Char} (hdigit : isDecimalDigit c) :
    digitValue c < 10 ∧ Nat.digitChar (digitValue c) = c := by
  have hbounds : 48 ≤ c.toNat ∧ c.toNat ≤ 57 := by
    simp only [isDecimalDigit, Bool.and_eq_true, decide_eq_true_eq] at hdigit
    exact hdigit
  have hchar := Char.ofNat_toNat c
  generalize c.toNat = value at hbounds hchar
  obtain ⟨hlower, hupper⟩ := hbounds
  rw [← hchar]
  interval_cases value <;> decide

theorem toDigits_parseDigits {digits : List Char} (hdigits : ∀ c ∈ digits, isDecimalDigit c)
    (hnonempty : digits ≠ []) (hhead : digits.head? = some '0' → digits.length = 1) :
    Nat.toDigits 10 (parseDigits 10 digits) = digits := by
  induction digits using List.reverseRecOn with
  | nil => exact absurd rfl hnonempty
  | append_singleton digits c ih =>
      obtain ⟨hsmall, hchar⟩ := digitChar_digitValue (hdigits c (by simp))
      have hparse : parseDigits 10 (digits ++ [c]) = 10 * parseDigits 10 digits + digitValue c := by
        simp only [parseDigits, List.foldl_append, List.foldl_cons, List.foldl_nil]
        rw [Nat.mul_comm]
      rw [hparse]
      cases hform : digits with
      | nil =>
          rw [parseDigits, List.foldl_nil, Nat.mul_zero, Nat.zero_add,
            Nat.toDigits_of_lt_base hsmall, hchar, List.nil_append]
      | cons first rest =>
          rw [← hform]
          have hfirst : first ≠ '0' := by
            rintro rfl
            have hlength := hhead (by rw [hform]; rfl)
            rw [hform] at hlength
            simp at hlength
          have hdigits' := ih (fun c hc => hdigits c (by simp [hc])) (by rw [hform]; simp) (by
            intro hzero
            rw [hform] at hzero
            exact absurd (Option.some.inj hzero) hfirst)
          have hpositive : 0 < parseDigits 10 digits := by
            rcases Nat.eq_zero_or_pos (parseDigits 10 digits) with hzero | hpositive
            · rw [hzero, Nat.toDigits_zero, hform] at hdigits'
              exact absurd (List.cons.inj hdigits').1.symm hfirst
            · exact hpositive
          rw [← Nat.toDigits_append_toDigits (by decide) hpositive hsmall, hdigits',
            Nat.toDigits_of_lt_base hsmall, hchar]
theorem eq_of_arrayIndex?_eq {left right : String} {index : Nat}
    (hleft : arrayIndex? left = some index) (hright : arrayIndex? right = some index) :
    left = right := by
  have hdigits : ∀ {key : String}, arrayIndex? key = some index →
      Nat.toDigits 10 index = key.toList := by
    intro key hkey
    unfold arrayIndex? at hkey
    dsimp only at hkey
    split_ifs at hkey with hcanonical
    obtain ⟨hnonempty, hall, hhead, -⟩ := hcanonical
    cases hkey
    exact toDigits_parseDigits (List.all_eq_true.mp hall) hnonempty hhead
  exact String.toList_injective ((hdigits hleft).symm.trans (hdigits hright))

/-! ## The order of enumeration -/

/-- Of two properties of an object the first is enumerated before the second. -/
def Precedes (left right : String) : Prop :=
  left ≠ right ∧ ∀ index, arrayIndex? right = some index →
    ∃ below, arrayIndex? left = some below ∧ below < index

def Ordered (entries : List (String × JsonValue)) : Prop :=
  entries.Pairwise fun left right => Precedes left.1 right.1

theorem Ordered.nodup {entries : List (String × JsonValue)} (hordered : Ordered entries) :
    (entries.map Prod.fst).Nodup := by
  rw [List.Nodup, List.pairwise_map]
  exact hordered.imp fun hprecedes => hprecedes.1

section DefineProperty

variable {entries : List (String × JsonValue)} {key : String}

theorem any_key_iff :
    entries.any (fun entry => entry.1 == key) = true ↔ key ∈ entries.map Prod.fst := by
  simp only [List.any_eq_true, beq_iff_eq, List.mem_map]

theorem defineProperty_of_mem (hmem : key ∈ entries.map Prod.fst) (value : JsonValue) :
    defineProperty entries key value =
      entries.map fun entry => if entry.1 = key then (key, value) else entry := by
  rw [defineProperty, if_pos (any_key_iff.mpr hmem)]

def isBelow (index : Nat) (entry : String × JsonValue) : Bool :=
  (arrayIndex? entry.1).any (· < index)

theorem defineProperty_of_index (hnew : key ∉ entries.map Prod.fst) {index : Nat}
    (hindex : arrayIndex? key = some index) (value : JsonValue) :
    defineProperty entries key value =
      entries.takeWhile (isBelow index) ++ (key, value) :: entries.dropWhile (isBelow index) := by
  rw [defineProperty, if_neg (fun hany => hnew (any_key_iff.mp hany)), hindex]
  rfl

theorem map_fst_defineProperty_of_mem (hmem : key ∈ entries.map Prod.fst) (value : JsonValue) :
    (defineProperty entries key value).map Prod.fst = entries.map Prod.fst := by
  rw [defineProperty_of_mem hmem, List.map_map]
  apply List.map_congr_left
  intro entry _
  rw [Function.comp_apply]
  split_ifs with hkey
  · exact hkey.symm
  · rfl

theorem ordered_iff_keys :
    Ordered entries ↔ (entries.map Prod.fst).Pairwise Precedes := by
  rw [Ordered, List.pairwise_map]

theorem precedes_of_mem_dropWhile (hordered : Ordered entries)
    (hnew : key ∉ entries.map Prod.fst) {index : Nat} (hindex : arrayIndex? key = some index)
    {entry : String × JsonValue} (hentry : entry ∈ entries.dropWhile (isBelow index)) :
    Precedes key entry.1 := by
  have hdropped : Ordered (entries.dropWhile (isBelow index)) :=
    hordered.sublist (List.dropWhile_sublist _)
  have hmem : ∀ other ∈ entries.dropWhile (isBelow index), key ≠ other.1 := by
    rintro other hother rfl
    exact hnew (List.mem_map_of_mem ((List.dropWhile_sublist _).subset hother))
  refine ⟨hmem entry hentry, ?_⟩
  intro other hother
  refine ⟨index, hindex, ?_⟩
  cases hrest : entries.dropWhile (isBelow index) with
  | nil =>
      rw [hrest] at hentry
      cases hentry
  | cons first rest =>
      have hfirst : isBelow index first = false := by
        have hhead := List.head?_dropWhile_not (isBelow index) entries
        rw [hrest] at hhead
        simpa using hhead
      have habove : ∀ found, arrayIndex? first.1 = some found → index < found := by
        intro found hfound
        rw [isBelow, hfound] at hfirst
        have hle : index ≤ found := by simpa using hfirst
        rcases Nat.eq_or_lt_of_le hle with hsame | hless
        · subst hsame
          exact absurd (eq_of_arrayIndex?_eq hindex hfound)
            (hmem first (by rw [hrest]; exact List.mem_cons_self))
        · exact hless
      rw [hrest] at hentry hdropped
      rcases List.mem_cons.mp hentry with rfl | hlater
      · exact habove other hother
      · obtain ⟨below, hbelow, hless⟩ := (List.rel_of_pairwise_cons hdropped hlater).2 other hother
        exact (habove below hbelow).trans hless

theorem Ordered.defineProperty (hordered : Ordered entries) (value : JsonValue) :
    Ordered (defineProperty entries key value) := by
  by_cases hmem : key ∈ entries.map Prod.fst
  · rw [ordered_iff_keys, map_fst_defineProperty_of_mem hmem, ← ordered_iff_keys]
    exact hordered
  · cases hindex : arrayIndex? key with
    | none =>
        rw [defineProperty_of_new hmem hindex]
        refine List.pairwise_append.mpr ⟨hordered, List.pairwise_singleton _ _, ?_⟩
        intro entry hentry other hother
        rw [List.mem_singleton.mp hother]
        refine ⟨?_, ?_⟩
        · rintro rfl
          exact hmem (List.mem_map_of_mem hentry)
        · intro index hsome
          rw [hindex] at hsome
          cases hsome
    | some index =>
        rw [defineProperty_of_index hmem hindex]
        have hbelow : ∀ entry ∈ entries.takeWhile (isBelow index), Precedes entry.1 key := by
          intro entry hentry
          refine ⟨?_, ?_⟩
          · rintro rfl
            exact hmem (List.mem_map_of_mem ((List.takeWhile_sublist _).subset hentry))
          · intro other hother
            rw [hindex, Option.some.injEq] at hother
            subst hother
            have hless := List.mem_takeWhile_imp hentry
            obtain ⟨below, hfound, hlt⟩ := (Option.any_eq_true _ _).mp hless
            exact ⟨below, hfound, of_decide_eq_true hlt⟩
        have hsplit : Ordered (entries.takeWhile (isBelow index) ++
            entries.dropWhile (isBelow index)) := by
          rwa [List.takeWhile_append_dropWhile]
        obtain ⟨htaken, hdropped, hacross⟩ := List.pairwise_append.mp hsplit
        refine List.pairwise_append.mpr ⟨htaken, List.pairwise_cons.mpr ⟨?_, hdropped⟩, ?_⟩
        · intro entry hentry
          exact precedes_of_mem_dropWhile hordered hmem hindex hentry
        · intro entry hentry other hother
          rcases List.mem_cons.mp hother with rfl | hlater
          · exact hbelow entry hentry
          · exact hacross entry hentry other hlater

theorem mem_of_mem_defineProperty {value : JsonValue} {entry : String × JsonValue}
    (hentry : entry ∈ TauriPlatform.defineProperty entries key value) :
    entry = (key, value) ∨ entry ∈ entries := by
  by_cases hmem : key ∈ entries.map Prod.fst
  · rw [defineProperty_of_mem hmem] at hentry
    obtain ⟨other, hother, rfl⟩ := List.mem_map.mp hentry
    split_ifs with hkey
    · exact .inl rfl
    · exact .inr hother
  · cases hindex : arrayIndex? key with
    | none =>
        rw [defineProperty_of_new hmem hindex, List.mem_append, List.mem_singleton] at hentry
        exact hentry.symm
    | some index =>
        rw [defineProperty_of_index hmem hindex, List.mem_append, List.mem_cons] at hentry
        rcases hentry with htaken | rfl | hdropped
        · exact .inr ((List.takeWhile_sublist _).subset htaken)
        · exact .inl rfl
        · exact .inr ((List.dropWhile_sublist _).subset hdropped)

theorem lookup_replace_self (hmem : key ∈ entries.map Prod.fst) (value : JsonValue) :
    (entries.map fun entry => if entry.1 = key then (key, value) else entry).lookup key =
      some value := by
  induction entries with
  | nil => cases hmem
  | cons entry rest ih =>
      rw [List.map_cons, List.lookup_cons]
      by_cases hname : entry.1 = key
      · simp [hname]
      · have hbeq : (key == entry.1) = false := beq_false_of_ne fun heq => hname heq.symm
        have hrest := (List.mem_cons.mp hmem).resolve_left fun heq => hname heq.symm
        simp only [hname, if_false, hbeq]
        exact ih hrest

theorem lookup_replace_of_ne {other : String} (hother : other ≠ key) (value : JsonValue) :
    (entries.map fun entry => if entry.1 = key then (key, value) else entry).lookup other =
      entries.lookup other := by
  induction entries with
  | nil => rfl
  | cons entry rest ih =>
      rw [List.map_cons, List.lookup_cons, List.lookup_cons, ih]
      by_cases hname : entry.1 = key
      · have hbeq : (other == key) = false := beq_false_of_ne hother
        simp [hname, hbeq]
      · simp [hname]

theorem lookup_insert {before after : List (String × JsonValue)}
    (hnew : key ∉ (before ++ after).map Prod.fst) (value : JsonValue) (other : String) :
    (before ++ (key, value) :: after).lookup other =
      if other = key then some value else (before ++ after).lookup other := by
  rw [List.lookup_append, List.lookup_append, List.lookup_cons]
  by_cases hother : other = key
  · subst hother
    have hnone : before.lookup other = none := by
      rw [List.lookup_eq_none_iff]
      intro entry hentry
      rw [bne_iff_ne]
      rintro rfl
      exact hnew (List.mem_map_of_mem (List.mem_append_left _ hentry))
    simp [hnone]
  · have hbeq : (other == key) = false := beq_false_of_ne hother
    simp [hother, hbeq]

theorem lookup_defineProperty (value : JsonValue) (other : String) :
    (TauriPlatform.defineProperty entries key value).lookup other =
      if other = key then some value else entries.lookup other := by
  by_cases hmem : key ∈ entries.map Prod.fst
  · rw [defineProperty_of_mem hmem]
    split_ifs with hother
    · rw [hother]
      exact lookup_replace_self hmem value
    · exact lookup_replace_of_ne hother value
  · cases hindex : arrayIndex? key with
    | none =>
        have hnew : key ∉ (entries ++ []).map Prod.fst := by rwa [List.append_nil]
        have hlookup := lookup_insert hnew value other
        rwa [List.append_nil, ← defineProperty_of_new hmem hindex] at hlookup
    | some index =>
        have hnew : key ∉ (entries.takeWhile (isBelow index) ++
            entries.dropWhile (isBelow index)).map Prod.fst := by
          rwa [List.takeWhile_append_dropWhile]
        rw [defineProperty_of_index hmem hindex, lookup_insert hnew,
          List.takeWhile_append_dropWhile]

end DefineProperty

/-! ## Spreading properties -/

variable {left : List (String × JsonValue)}

theorem Ordered.spread (hleft : Ordered left) (right : List (String × JsonValue)) :
    Ordered (spread left right) := by
  induction right generalizing left with
  | nil => exact hleft
  | cons entry rest ih => exact ih (hleft.defineProperty entry.2)

variable {entries : List (String × JsonValue)}

theorem spread_of_ordered {before : List (String × JsonValue)}
    (hordered : Ordered (before ++ entries)) : spread before entries = before ++ entries := by
  induction entries generalizing before with
  | nil => exact (List.append_nil _).symm
  | cons entry rest ih =>
      have hkeys := hordered.nodup
      have hnew : entry.1 ∉ before.map Prod.fst := by
        rw [List.map_append, List.map_cons] at hkeys
        intro hold
        exact (List.nodup_append'.mp hkeys).2.2 hold List.mem_cons_self
      have hdefined : TauriPlatform.defineProperty before entry.1 entry.2 = before ++ [entry] := by
        cases hindex : arrayIndex? entry.1 with
        | none => exact defineProperty_of_new hnew hindex entry.2
        | some index =>
            have hbelow : ∀ other ∈ before, isBelow index other = true := by
              intro other hother
              obtain ⟨below, hfound, hless⟩ := ((List.pairwise_append.mp hordered).2.2 other hother
                entry List.mem_cons_self).2 index hindex
              exact (Option.any_eq_true _ _).mpr ⟨below, hfound, decide_eq_true hless⟩
            rw [defineProperty_of_index hnew hindex, List.takeWhile_eq_self_iff.mpr hbelow,
              List.dropWhile_eq_nil_iff.mpr hbelow]
      have hrest : spread (before ++ [entry]) rest = before ++ [entry] ++ rest :=
        ih (by rwa [List.append_assoc, List.singleton_append])
      rw [List.append_assoc, List.singleton_append] at hrest
      rw [← hrest, ← hdefined]
      rfl

variable {right : List (String × JsonValue)}

theorem mem_of_mem_spread {entry : String × JsonValue} (hentry : entry ∈ spread left right) :
    entry ∈ left ∨ entry ∈ right := by
  induction right generalizing left with
  | nil => exact .inl hentry
  | cons first rest ih =>
      rcases ih hentry with hdefined | hrest
      · rcases mem_of_mem_defineProperty hdefined with rfl | hleft
        · exact .inr List.mem_cons_self
        · exact .inl hleft
      · exact .inr (List.mem_cons_of_mem _ hrest)

theorem lookup_spread (hright : (right.map Prod.fst).Nodup) (left : List (String × JsonValue))
    (key : String) :
    (spread left right).lookup key = (right.lookup key).or (left.lookup key) := by
  induction right generalizing left with
  | nil => rfl
  | cons entry rest ih =>
      obtain ⟨hnew, hrest⟩ := List.nodup_cons.mp hright
      have hspread := ih hrest (TauriPlatform.defineProperty left entry.1 entry.2)
      rw [lookup_defineProperty] at hspread
      change (spread (TauriPlatform.defineProperty left entry.1 entry.2) rest).lookup key = _
      rw [hspread, List.lookup_cons]
      by_cases hkey : key = entry.1
      · subst hkey
        have hnone : rest.lookup entry.1 = none := by
          rw [List.lookup_eq_none_iff]
          intro other hother
          rw [bne_iff_ne]
          intro hsame
          rw [hsame] at hnew
          exact hnew (List.mem_map_of_mem hother)
        simp [hnone]
      · have hbeq : (key == entry.1) = false := beq_false_of_ne hkey
        simp [hkey, hbeq]

theorem nodup_defineProperty (hnodup : (entries.map Prod.fst).Nodup) (key : String)
    (value : JsonValue) :
    ((defineProperty entries key value).map Prod.fst).Nodup := by
  by_cases hmem : key ∈ entries.map Prod.fst
  · rwa [map_fst_defineProperty_of_mem hmem]
  · have hcons : (((key, value) :: entries).map Prod.fst).Nodup :=
      List.nodup_cons.mpr ⟨hmem, hnodup⟩
    refine ((List.Perm.map Prod.fst ?_).nodup_iff).mpr hcons
    cases hindex : arrayIndex? key with
    | none =>
        rw [defineProperty_of_new hmem hindex]
        exact List.perm_append_singleton _ _
    | some index =>
        rw [defineProperty_of_index hmem hindex]
        refine List.perm_middle.trans ?_
        rw [List.takeWhile_append_dropWhile]

theorem nodup_spread (hleft : (left.map Prod.fst).Nodup) (right : List (String × JsonValue)) :
    ((spread left right).map Prod.fst).Nodup := by
  induction right generalizing left with
  | nil => exact hleft
  | cons entry rest ih => exact ih (nodup_defineProperty hleft entry.1 entry.2)

/-! ## Properties whatever their order -/

theorem lookup_eq_some_iff_mem (hnodup : (entries.map Prod.fst).Nodup) {key : String}
    {value : JsonValue} :
    entries.lookup key = some value ↔ (key, value) ∈ entries := by
  induction entries with
  | nil => simp
  | cons entry rest ih =>
      obtain ⟨hnew, hrest⟩ := List.nodup_cons.mp hnodup
      rw [List.lookup_cons, List.mem_cons]
      by_cases hkey : key = entry.1
      · subst hkey
        have habsent : (entry.1, value) ∉ rest := fun hmem =>
          hnew (List.mem_map.mpr ⟨(entry.1, value), hmem, rfl⟩)
        simp only [beq_self_eq_true, Option.some.injEq, habsent, or_false, Prod.ext_iff,
          true_and]
        exact eq_comm
      · have hbeq : (key == entry.1) = false := beq_false_of_ne hkey
        simp only [hbeq, ih hrest, Prod.ext_iff, hkey, false_and, false_or]

theorem perm_of_lookup_eq (hleft : (left.map Prod.fst).Nodup)
    (hright : (right.map Prod.fst).Nodup) (hsame : ∀ key, left.lookup key = right.lookup key) :
    left.Perm right := by
  rw [List.perm_ext_iff_of_nodup (List.Nodup.of_map _ hleft) (List.Nodup.of_map _ hright)]
  rintro ⟨key, value⟩
  rw [← lookup_eq_some_iff_mem hleft, ← lookup_eq_some_iff_mem hright, hsame]

theorem lookup_eq_of_perm (hleft : (left.map Prod.fst).Nodup) (hperm : left.Perm right)
    (key : String) :
    left.lookup key = right.lookup key := by
  have hright : (right.map Prod.fst).Nodup := (hperm.map _).nodup_iff.mp hleft
  apply Option.ext
  intro value
  rw [lookup_eq_some_iff_mem hleft, lookup_eq_some_iff_mem hright, hperm.mem_iff]

/-! ### Code units -/

theorem toNat_bounds (c : Char) :
    c.toNat < 0xD800 ∨ (0xDFFF < c.toNat ∧ c.toNat < 0x110000) :=
  c.valid

theorem utf16Units_ne_nil (c : Char) : utf16Units c ≠ [] := by
  unfold utf16Units
  split_ifs <;> simp

theorem utf16Units_append_inj {left right : Char} {leftRest rightRest : List Nat}
    (hsame : utf16Units left ++ leftRest = utf16Units right ++ rightRest) :
    left = right ∧ leftRest = rightRest := by
  have hleft := toNat_bounds left
  have hright := toNat_bounds right
  have hchar : left.toNat = right.toNat → left = right := by
    intro hnat
    rw [← Char.ofNat_toNat left, hnat, Char.ofNat_toNat]
  unfold utf16Units at hsame
  split_ifs at hsame with hbasic hbasic' hbasic'
  · simp only [List.cons_append, List.nil_append, List.cons.injEq] at hsame
    exact ⟨hchar hsame.1, hsame.2⟩
  · simp only [List.cons_append, List.nil_append, List.cons.injEq] at hsame
    omega
  · simp only [List.cons_append, List.nil_append, List.cons.injEq] at hsame
    omega
  · simp only [List.cons_append, List.nil_append, List.cons.injEq] at hsame
    refine ⟨hchar ?_, hsame.2.2⟩
    omega

theorem codeUnits_injective {left right : List Char}
    (hsame : left.flatMap utf16Units = right.flatMap utf16Units) : left = right := by
  induction left generalizing right with
  | nil =>
      cases right with
      | nil => rfl
      | cons c rest =>
          rw [List.flatMap_nil, List.flatMap_cons] at hsame
          exact absurd (List.append_eq_nil_iff.mp hsame.symm).1 (utf16Units_ne_nil c)
  | cons c rest ih =>
      cases right with
      | nil =>
          rw [List.flatMap_nil, List.flatMap_cons] at hsame
          exact absurd (List.append_eq_nil_iff.mp hsame).1 (utf16Units_ne_nil c)
      | cons other others =>
          rw [List.flatMap_cons, List.flatMap_cons] at hsame
          obtain ⟨hchar, hrest⟩ := utf16Units_append_inj hsame
          rw [hchar, ih hrest]

theorem codeUnitLe_iff (left right : String) :
    codeUnitLe left right = true ↔
      left.toList.flatMap utf16Units ≤ right.toList.flatMap utf16Units :=
  decide_eq_true_iff

theorem codeUnitLe_antisymm {left right : String} (hle : codeUnitLe left right = true)
    (hge : codeUnitLe right left = true) : left = right := by
  rw [codeUnitLe_iff] at hle hge
  exact String.toList_injective (codeUnits_injective (le_antisymm hle hge))

/-! ### Sorting -/

/-- The order in which `sortEntries` creates properties. -/
def KeyLe (left right : String × JsonValue) : Prop :=
  codeUnitLe left.1 right.1 = true

instance : DecidableRel KeyLe :=
  fun left right => inferInstanceAs (Decidable (codeUnitLe left.1 right.1 = true))

instance : Std.Total KeyLe where
  total left right := by
    simp only [KeyLe, codeUnitLe_iff]
    exact le_total _ _

instance : IsTrans (String × JsonValue) KeyLe where
  trans left middle right hleft hright := by
    simp only [KeyLe, codeUnitLe_iff] at hleft hright ⊢
    exact hleft.trans hright

theorem sortEntries_eq_spread (entries : List (String × JsonValue)) :
    sortEntries entries = spread [] (entries.insertionSort KeyLe) :=
  rfl

theorem ordered_sortEntries (entries : List (String × JsonValue)) :
    Ordered (sortEntries entries) := by
  rw [sortEntries_eq_spread]
  exact Ordered.spread List.Pairwise.nil _

theorem mem_of_mem_sortEntries {entry : String × JsonValue} (hentry : entry ∈ sortEntries entries) :
    entry ∈ entries := by
  rw [sortEntries_eq_spread] at hentry
  rcases mem_of_mem_spread hentry with hnil | hsorted
  · cases hnil
  · exact (List.mem_insertionSort KeyLe).mp hsorted

theorem lookup_sortEntries (hnodup : (entries.map Prod.fst).Nodup) (key : String) :
    (sortEntries entries).lookup key = entries.lookup key := by
  have hperm := List.perm_insertionSort KeyLe entries
  have hsorted : ((entries.insertionSort KeyLe).map Prod.fst).Nodup :=
    (hperm.map _).nodup_iff.mpr hnodup
  rw [sortEntries_eq_spread, lookup_spread hsorted, lookup_eq_of_perm hsorted hperm,
    List.lookup_nil, Option.or_none]

theorem eq_of_sorted_perm (hnodup : (left.map Prod.fst).Nodup) (hleft : left.Pairwise KeyLe)
    (hright : right.Pairwise KeyLe) (hperm : left.Perm right) : left = right := by
  apply List.Perm.eq_of_pairwise _ hleft hright hperm
  rintro ⟨key, value⟩ ⟨other, value'⟩ hmem hmem' hle hge
  have hkey : key = other := codeUnitLe_antisymm hle hge
  subst hkey
  have hvalue := (lookup_eq_some_iff_mem hnodup).mpr hmem
  rw [(lookup_eq_some_iff_mem hnodup).mpr (hperm.mem_iff.mpr hmem')] at hvalue
  rw [Option.some.inj hvalue]

theorem filter_insertionSort (hnodup : (entries.map Prod.fst).Nodup)
    (p : String × JsonValue → Bool) :
    (entries.insertionSort KeyLe).filter p = (entries.filter p).insertionSort KeyLe := by
  have hperm := List.perm_insertionSort KeyLe entries
  apply eq_of_sorted_perm
  · exact ((hperm.map _).nodup_iff.mpr hnodup).sublist (List.filter_sublist.map _)
  · exact (List.pairwise_insertionSort KeyLe entries).sublist List.filter_sublist
  · exact List.pairwise_insertionSort KeyLe _
  · exact (hperm.filter p).trans (List.perm_insertionSort KeyLe _).symm

theorem sortEntries_congr (hleft : (left.map Prod.fst).Nodup)
    (hright : (right.map Prod.fst).Nodup) (hsame : ∀ key, left.lookup key = right.lookup key) :
    sortEntries left = sortEntries right := by
  have hperm := perm_of_lookup_eq hleft hright hsame
  have hsorted : left.insertionSort KeyLe = right.insertionSort KeyLe := by
    apply eq_of_sorted_perm
    · exact ((List.perm_insertionSort KeyLe left).map _).nodup_iff.mpr hleft
    · exact List.pairwise_insertionSort KeyLe left
    · exact List.pairwise_insertionSort KeyLe right
    · exact (List.perm_insertionSort KeyLe left).trans
        (hperm.trans (List.perm_insertionSort KeyLe right).symm)
  rw [sortEntries_eq_spread, sortEntries_eq_spread, hsorted]

/-! ## Sorted values -/

theorem sortedEntries_eq_map (entries : List (String × JsonValue)) :
    sortedEntries entries = entries.map fun entry => (entry.1, sortedKeys entry.2) := by
  induction entries with
  | nil => rfl
  | cons entry rest ih =>
      obtain ⟨key, value⟩ := entry
      rw [sortedEntries, ih, List.map_cons]

theorem lookup_sortedEntries (entries : List (String × JsonValue)) (key : String) :
    (sortedEntries entries).lookup key = (entries.lookup key).map sortedKeys := by
  induction entries with
  | nil => rfl
  | cons entry rest ih =>
      obtain ⟨name, value⟩ := entry
      rw [sortedEntries, List.lookup_cons, List.lookup_cons, ih]
      cases key == name with
      | true => rfl
      | false => rfl

theorem nodup_sortedEntries (hnodup : (entries.map Prod.fst).Nodup) :
    ((sortedEntries entries).map Prod.fst).Nodup := by
  rw [sortedEntries_eq_map, List.map_map]
  exact hnodup

theorem sortedKeys_object_eq_iff (hleft : (left.map Prod.fst).Nodup)
    (hright : (right.map Prod.fst).Nodup) :
    sortedKeys (.object left) = sortedKeys (.object right) ↔
      ∀ key, (left.lookup key).map sortedKeys = (right.lookup key).map sortedKeys := by
  rw [sortedKeys, sortedKeys, JsonValue.object.injEq]
  constructor
  · intro hsorted key
    rw [← lookup_sortedEntries, ← lookup_sortedEntries,
      ← lookup_sortEntries (nodup_sortedEntries hleft), hsorted,
      lookup_sortEntries (nodup_sortedEntries hright)]
  · intro hsame
    apply sortEntries_congr (nodup_sortedEntries hleft) (nodup_sortedEntries hright)
    intro key
    rw [lookup_sortedEntries, lookup_sortedEntries]
    exact hsame key

mutual

theorem isEnumerated_sortedKeys : ∀ value : JsonValue, (sortedKeys value).IsEnumerated
  | .null => .null
  | .bool value => .bool value
  | .number value => .number value
  | .string value => .string value
  | .array items => .array (isEnumerated_sortedItems items)
  | .object entries => by
      rw [sortedKeys]
      refine .object ?_ ?_
      · have hordered : Ordered ([] ++ sortEntries (sortedEntries entries)) :=
          ordered_sortEntries _
        exact spread_of_ordered hordered
      · intro entry hentry
        exact isEnumerated_sortedEntries entries entry (mem_of_mem_sortEntries hentry)

theorem isEnumerated_sortedItems :
    ∀ items : List JsonValue, ∀ item ∈ sortedItems items, item.IsEnumerated
  | [], item, hitem => by cases hitem
  | first :: rest, item, hitem => by
      rcases List.mem_cons.mp hitem with rfl | hrest
      · exact isEnumerated_sortedKeys first
      · exact isEnumerated_sortedItems rest item hrest

theorem isEnumerated_sortedEntries :
    ∀ entries : List (String × JsonValue), ∀ entry ∈ sortedEntries entries,
      entry.2.IsEnumerated
  | [], entry, hentry => by cases hentry
  | (key, value) :: rest, entry, hentry => by
      rcases List.mem_cons.mp hentry with rfl | hrest
      · exact isEnumerated_sortedKeys value
      · exact isEnumerated_sortedEntries rest entry hrest

end

theorem sortedKeys_eq_of_toUTF8_eq {left right : JsonValue}
    (hsame : (sortedKeys left).stringify.toUTF8 = (sortedKeys right).stringify.toUTF8) :
    sortedKeys left = sortedKeys right := by
  have htext : (sortedKeys left).stringify = (sortedKeys right).stringify :=
    String.toByteArray_inj.mp hsame
  have hleft := parseJson?_stringify (isEnumerated_sortedKeys left)
  rw [htext, parseJson?_stringify (isEnumerated_sortedKeys right)] at hleft
  exact (Option.some.inj hleft).symm

/-! ## Lengths -/

def entryLength (entry : String × JsonValue) : Nat :=
  utf8Length (quoteText entry.1) + 1 + utf8Length entry.2.serialize + 1

theorem utf8Length_serializeEntries (entry : String × JsonValue)
    (rest : List (String × JsonValue)) :
    utf8Length (serializeEntries (entry :: rest)) + 1 =
      ((entry :: rest).map entryLength).sum := by
  have hcolon : ':'.utf8Size = 1 := rfl
  have hcomma : ','.utf8Size = 1 := rfl
  induction rest generalizing entry with
  | nil =>
      obtain ⟨key, value⟩ := entry
      simp [serializeEntries, entryLength, hcolon, Nat.add_assoc]
  | cons second others ih =>
      obtain ⟨key, value⟩ := entry
      rw [List.map_cons, List.sum_cons, ← ih second]
      simp only [serializeEntries, entryLength, utf8Length_append, utf8Length_cons, hcolon,
        hcomma]
      omega

theorem utf8Length_object_of_perm {left right : List (String × JsonValue)}
    (hperm : left.Perm right) :
    utf8Length (JsonValue.object left).serialize =
      utf8Length (JsonValue.object right).serialize := by
  have hentries : utf8Length (serializeEntries left) = utf8Length (serializeEntries right) := by
    cases left with
    | nil => rw [List.nil_perm.mp hperm]
    | cons first rest =>
        cases right with
        | nil => exact absurd (List.perm_nil.mp hperm) (List.cons_ne_nil _ _)
        | cons other others =>
            have hsum := (hperm.map entryLength).sum_eq
            rw [← utf8Length_serializeEntries, ← utf8Length_serializeEntries] at hsum
            omega
  simp only [JsonValue.serialize, utf8Length_append, utf8Length_cons, hentries]

theorem perm_sortEntries {entries : List (String × JsonValue)}
    (hnodup : (entries.map Prod.fst).Nodup) : (sortEntries entries).Perm entries :=
  perm_of_lookup_eq (ordered_sortEntries entries).nodup hnodup (lookup_sortEntries hnodup)

theorem ordered_of_spread_eq {entries : List (String × JsonValue)}
    (horder : spread [] entries = entries) : Ordered entries := by
  rw [← horder]
  exact Ordered.spread List.Pairwise.nil _

mutual

theorem utf8Length_sortedKeys : ∀ value : JsonValue, value.IsEnumerated →
    utf8Length (sortedKeys value).serialize = utf8Length value.serialize
  | .null, _ => rfl
  | .bool _, _ => rfl
  | .number _, _ => rfl
  | .string _, _ => rfl
  | .array items, henumerated => by
      cases henumerated with
      | array hitems =>
          rw [sortedKeys]
          simp only [JsonValue.serialize, utf8Length_append, utf8Length_cons,
            utf8Length_sortedItems items hitems]
  | .object entries, henumerated => by
      cases henumerated with
      | object horder hentries =>
          have hnodup := (ordered_of_spread_eq horder).nodup
          rw [sortedKeys,
            utf8Length_object_of_perm (perm_sortEntries (nodup_sortedEntries hnodup))]
          simp only [JsonValue.serialize, utf8Length_append, utf8Length_cons,
            utf8Length_sortedEntries entries hentries]

theorem utf8Length_sortedItems : ∀ items : List JsonValue,
    (∀ item ∈ items, item.IsEnumerated) →
      utf8Length (serializeItems (sortedItems items)) = utf8Length (serializeItems items)
  | [], _ => rfl
  | [item], hitems => by
      have hitem := utf8Length_sortedKeys item (hitems item List.mem_cons_self)
      simpa only [sortedItems, serializeItems] using hitem
  | item :: second :: rest, hitems => by
      have hitem := utf8Length_sortedKeys item (hitems item List.mem_cons_self)
      have hrest := utf8Length_sortedItems (second :: rest)
        fun other hother => hitems other (List.mem_cons_of_mem _ hother)
      simp only [sortedItems, serializeItems, utf8Length_append, utf8Length_cons] at hrest ⊢
      rw [hitem, hrest]

theorem utf8Length_sortedEntries : ∀ entries : List (String × JsonValue),
    (∀ entry ∈ entries, entry.2.IsEnumerated) →
      utf8Length (serializeEntries (sortedEntries entries)) =
        utf8Length (serializeEntries entries)
  | [], _ => rfl
  | [(key, value)], hentries => by
      have hvalue := utf8Length_sortedKeys value (hentries (key, value) List.mem_cons_self)
      simp only [sortedEntries, serializeEntries, utf8Length_append, utf8Length_cons, hvalue]
  | (key, value) :: second :: rest, hentries => by
      have hvalue := utf8Length_sortedKeys value (hentries (key, value) List.mem_cons_self)
      have hrest := utf8Length_sortedEntries (second :: rest)
        fun other hother => hentries other (List.mem_cons_of_mem _ hother)
      obtain ⟨name, next⟩ := second
      simp only [sortedEntries, serializeEntries, utf8Length_append, utf8Length_cons]
        at hrest ⊢
      rw [hvalue, hrest]

end

theorem utf8Length_sortedKeys_object {entries : List (String × JsonValue)}
    (hnodup : (entries.map Prod.fst).Nodup)
    (hentries : ∀ entry ∈ entries, entry.2.IsEnumerated) :
    utf8Length (sortedKeys (.object entries)).serialize =
      utf8Length (JsonValue.object entries).serialize := by
  rw [sortedKeys, utf8Length_object_of_perm (perm_sortEntries (nodup_sortedEntries hnodup))]
  simp only [JsonValue.serialize, utf8Length_append, utf8Length_cons,
    utf8Length_sortedEntries entries hentries]

/-! ## Own properties -/

theorem nodup_ownEntries {value : JsonValue} (henumerated : value.IsEnumerated) :
    (value.ownEntries.map Prod.fst).Nodup := by
  cases henumerated with
  | @array items hitems =>
      have hkeys : ((JsonValue.array items).ownEntries.map Prod.fst) =
          (List.range items.length).map fun index => String.ofList (Nat.toDigits 10 index) := by
        apply List.ext_getElem
        · simp [JsonValue.ownEntries]
        · intro index hleft hright
          simp [JsonValue.ownEntries]
      rw [hkeys]
      refine List.Nodup.map ?_ List.nodup_range
      intro left right hsame
      have hdigits := String.ofList_injective hsame
      rw [← parseDigits_toDigits left, hdigits, parseDigits_toDigits]
  | object horder hentries => exact (ordered_of_spread_eq horder).nodup
  | null => exact List.nodup_nil
  | bool value => exact List.nodup_nil
  | number value => exact List.nodup_nil
  | string value => exact List.nodup_nil

theorem isEnumerated_ownEntries {value : JsonValue} (henumerated : value.IsEnumerated) :
    ∀ entry ∈ value.ownEntries, entry.2.IsEnumerated := by
  intro entry hentry
  cases henumerated with
  | array hitems =>
      obtain ⟨index, hindex, rfl⟩ := List.mem_mapIdx.mp hentry
      exact hitems _ (List.getElem_mem hindex)
  | object horder hentries => exact hentries entry hentry
  | null => cases hentry
  | bool value => cases hentry
  | number value => cases hentry
  | string value => cases hentry

end TauriPlatform
