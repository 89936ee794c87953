import TauriPlatform.JsonCanonical

/-!
# The content of a JSON value

Two values have the same content when they are equal up to the order of the properties of
their objects, at every level.  This is what a canonical form identifies.
-/

namespace TauriPlatform

@[mk_iff] inductive SameContent : JsonValue → JsonValue → Prop
  | null : SameContent .null .null
  | bool (value : Bool) : SameContent (.bool value) (.bool value)
  | number (value : JsonNumber) : SameContent (.number value) (.number value)
  | string (value : String) : SameContent (.string value) (.string value)
  | array {left right : List JsonValue} (hitems : List.Forall₂ SameContent left right) :
      SameContent (.array left) (.array right)
  | object {left right : List (String × JsonValue)}
      (hentries : ∀ key, Option.Rel SameContent (left.lookup key) (right.lookup key)) :
      SameContent (.object left) (.object right)

theorem map_eq_map_iff_rel {α β : Type} {f : α → β} {r : α → α → Prop} {left right : Option α}
    (hiff : ∀ a ∈ left, ∀ b ∈ right, f a = f b ↔ r a b) :
    left.map f = right.map f ↔ Option.Rel r left right := by
  cases left with
  | none => cases right <;> simp
  | some a =>
      cases right with
      | none => simp
      | some b =>
          have hsame := hiff a rfl b rfl
          simpa using hsame

theorem JsonValue.IsEnumerated.nodup {entries : List (String × JsonValue)}
    (henumerated : (JsonValue.object entries).IsEnumerated) :
    (entries.map Prod.fst).Nodup := by
  cases henumerated with
  | object horder hentries => exact (ordered_of_spread_eq horder).nodup

theorem JsonValue.IsEnumerated.of_lookup {entries : List (String × JsonValue)} {key : String}
    {value : JsonValue} (henumerated : (JsonValue.object entries).IsEnumerated)
    (hlookup : entries.lookup key = some value) : value.IsEnumerated := by
  have hmem := (lookup_eq_some_iff_mem henumerated.nodup).mp hlookup
  cases henumerated with
  | object horder hentries => exact hentries _ hmem

mutual

theorem sortedKeys_eq_iff : ∀ left right : JsonValue, left.IsEnumerated → right.IsEnumerated →
    (sortedKeys left = sortedKeys right ↔ SameContent left right)
  | .null, right, _, _ => by
      rw [sameContent_iff]
      cases right <;> simp [sortedKeys]
  | .bool value, right, _, _ => by
      rw [sameContent_iff]
      cases right <;> simp [sortedKeys, eq_comm]
  | .number value, right, _, _ => by
      rw [sameContent_iff]
      cases right <;> simp [sortedKeys, eq_comm]
  | .string value, right, _, _ => by
      rw [sameContent_iff]
      cases right <;> simp [sortedKeys, eq_comm]
  | .array items, right, hleft, hright => by
      cases right with
      | array items' =>
          cases hleft with
          | array hitems =>
              cases hright with
              | array hitems' =>
                  rw [sortedKeys, sortedKeys, JsonValue.array.injEq,
                    sortedItems_eq_iff items items' hitems hitems', sameContent_iff]
                  simp
      | _ => simp [sameContent_iff, sortedKeys]
  | .object entries, right, hleft, hright => by
      cases right with
      | object entries' =>
          have hkey : ∀ key, (entries.lookup key).map sortedKeys =
              (entries'.lookup key).map sortedKeys ↔
                Option.Rel SameContent (entries.lookup key) (entries'.lookup key) := by
            intro key
            apply map_eq_map_iff_rel
            intro value hvalue value' hvalue'
            exact sortedEntries_eq_iff entries (key, value)
              ((lookup_eq_some_iff_mem hleft.nodup).mp hvalue) value' (hleft.of_lookup hvalue)
              (hright.of_lookup hvalue')
          rw [sortedKeys_object_eq_iff hleft.nodup hright.nodup, sameContent_iff]
          simp [hkey]
      | _ => simp [sameContent_iff, sortedKeys]

theorem sortedItems_eq_iff : ∀ left right : List JsonValue,
    (∀ item ∈ left, item.IsEnumerated) → (∀ item ∈ right, item.IsEnumerated) →
      (sortedItems left = sortedItems right ↔ List.Forall₂ SameContent left right)
  | [], [], _, _ => ⟨fun _ => .nil, fun _ => rfl⟩
  | [], _ :: _, _, _ => ⟨fun hsame => (by cases hsame), fun hforall => nomatch hforall⟩
  | _ :: _, [], _, _ => ⟨fun hsame => (by cases hsame), fun hforall => nomatch hforall⟩
  | item :: rest, item' :: rest', hleft, hright => by
      have hitem := sortedKeys_eq_iff item item' (hleft item List.mem_cons_self)
        (hright item' List.mem_cons_self)
      have hrest := sortedItems_eq_iff rest rest'
        (fun other hother => hleft other (List.mem_cons_of_mem _ hother))
        (fun other hother => hright other (List.mem_cons_of_mem _ hother))
      rw [sortedItems, sortedItems, List.cons.injEq, hitem, hrest, List.forall₂_cons]

theorem sortedEntries_eq_iff : ∀ (left : List (String × JsonValue)), ∀ entry ∈ left,
    ∀ right : JsonValue, entry.2.IsEnumerated → right.IsEnumerated →
      (sortedKeys entry.2 = sortedKeys right ↔ SameContent entry.2 right)
  | [], entry, hentry, _, _, _ => by cases hentry
  | (key, value) :: rest, entry, hentry, right, hleft, hright => by
      rcases List.mem_cons.mp hentry with rfl | hrest
      · exact sortedKeys_eq_iff value right hleft hright
      · exact sortedEntries_eq_iff rest entry hrest right hleft hright

end

theorem canonical_toUTF8_eq_iff {left right : JsonValue} (hleft : left.IsEnumerated)
    (hright : right.IsEnumerated) :
    (sortedKeys left).stringify.toUTF8 = (sortedKeys right).stringify.toUTF8 ↔
      SameContent left right := by
  rw [← sortedKeys_eq_iff left right hleft hright]
  constructor
  · exact sortedKeys_eq_of_toUTF8_eq
  · intro hsame
    rw [hsame]

/-! ## Parsed values -/

structure ReadsEnumerated (fuel : Nat) : Prop where
  value : ∀ {chars rest : List Char} {value : JsonValue},
    parseJsonValue fuel chars = some (value, rest) → value.IsEnumerated
  items : ∀ {chars rest : List Char} {items : List JsonValue},
    parseJsonItems fuel chars = some (items, rest) → ∀ item ∈ items, item.IsEnumerated
  entries : ∀ {chars rest : List Char} {entries : List (String × JsonValue)},
    parseJsonEntries fuel chars = some (entries, rest) → ∀ entry ∈ entries, entry.2.IsEnumerated

theorem isEnumerated_spread {entries : List (String × JsonValue)}
    (hentries : ∀ entry ∈ entries, entry.2.IsEnumerated) :
    (JsonValue.object (spread [] entries)).IsEnumerated := by
  have hordered : Ordered ([] ++ spread [] entries) := Ordered.spread List.Pairwise.nil entries
  refine .object (spread_of_ordered hordered) ?_
  intro entry hentry
  rcases mem_of_mem_spread hentry with hnil | hmem
  · cases hnil
  · exact hentries entry hmem

variable {chars rest : List Char}

theorem ReadsEnumerated.succ_value {fuel : Nat} (hreads : ReadsEnumerated fuel)
    {value : JsonValue} (hvalue : parseJsonValue (fuel + 1) chars = some (value, rest)) :
    value.IsEnumerated := by
  rw [parseJsonValue] at hvalue
  cases hskip : skipJsonSpace chars with
  | nil =>
      rw [hskip] at hvalue
      cases hvalue
  | cons c others =>
      rw [hskip] at hvalue
      dsimp only at hvalue
      split_ifs at hvalue
      · obtain ⟨_, -, hpair⟩ := Option.map_eq_some_iff.mp hvalue
        cases hpair
        exact .null
      · obtain ⟨_, -, hpair⟩ := Option.map_eq_some_iff.mp hvalue
        cases hpair
        exact .bool true
      · obtain ⟨_, -, hpair⟩ := Option.map_eq_some_iff.mp hvalue
        cases hpair
        exact .bool false
      · obtain ⟨_, -, hpair⟩ := Option.map_eq_some_iff.mp hvalue
        cases hpair
        exact .string _
      · split at hvalue
        · cases hvalue
          exact .array fun item hitem => by cases hitem
        · obtain ⟨_, hitems, hpair⟩ := Option.map_eq_some_iff.mp hvalue
          cases hpair
          exact .array (hreads.items hitems)
      · split at hvalue
        · cases hvalue
          exact .object rfl fun entry hentry => by cases hentry
        · obtain ⟨_, hentries, hpair⟩ := Option.map_eq_some_iff.mp hvalue
          cases hpair
          exact isEnumerated_spread (hreads.entries hentries)
      · obtain ⟨_, -, hpair⟩ := Option.map_eq_some_iff.mp hvalue
        cases hpair
        exact .number _

theorem ReadsEnumerated.succ_items {fuel : Nat} (hreads : ReadsEnumerated fuel)
    {items : List JsonValue} (hitems : parseJsonItems (fuel + 1) chars = some (items, rest)) :
    ∀ item ∈ items, item.IsEnumerated := by
  rw [parseJsonItems] at hitems
  split at hitems
  · cases hitems
  · next first _ hfirst =>
    have hhead := hreads.value hfirst
    split at hitems
    · cases hitems
    · split_ifs at hitems
      · cases hitems
        intro item hitem
        rw [List.mem_singleton.mp hitem]
        exact hhead
      · obtain ⟨⟨others, _⟩, hothers, hpair⟩ := Option.map_eq_some_iff.mp hitems
        cases hpair
        exact List.forall_mem_cons.mpr ⟨hhead, hreads.items hothers⟩

theorem ReadsEnumerated.succ_entries {fuel : Nat} (hreads : ReadsEnumerated fuel)
    {entries : List (String × JsonValue)}
    (hentries : parseJsonEntries (fuel + 1) chars = some (entries, rest)) :
    ∀ entry ∈ entries, entry.2.IsEnumerated := by
  rw [parseJsonEntries] at hentries
  dsimp only at hentries
  split at hentries
  · cases hentries
  · split at hentries
    · cases hentries
    · next value _ hvalue =>
      obtain ⟨_, -, hread⟩ := Option.bind_eq_some_iff.mp hvalue
      have hhead := hreads.value hread
      split at hentries
      · cases hentries
      · split_ifs at hentries
        · cases hentries
          intro entry hentry
          rw [List.mem_singleton.mp hentry]
          exact hhead
        · obtain ⟨⟨others, _⟩, hothers, hpair⟩ := Option.map_eq_some_iff.mp hentries
          cases hpair
          exact List.forall_mem_cons.mpr ⟨hhead, hreads.entries hothers⟩

theorem readsEnumerated (fuel : Nat) : ReadsEnumerated fuel := by
  induction fuel with
  | zero => constructor <;> intro _ _ _ hread <;> cases hread
  | succ fuel hreads => exact ⟨hreads.succ_value, hreads.succ_items, hreads.succ_entries⟩

theorem isEnumerated_of_parseJson? {text : String} {value : JsonValue}
    (hparse : parseJson? text = some value) : value.IsEnumerated := by
  obtain ⟨⟨parsed, rest⟩, hread, hrest⟩ := Option.bind_eq_some_iff.mp hparse
  dsimp only at hrest
  split_ifs at hrest
  cases hrest
  exact (readsEnumerated _).value hread

end TauriPlatform
