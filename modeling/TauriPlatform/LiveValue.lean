import TauriPlatform.IsoTimestamp
import TauriPlatform.JsonCanonical

/-!
# Values of JavaScript code

A value which JavaScript code holds may have no JSON at all, and a date or a boxed primitive
is written as something else than its own properties.  Sorting the keys of such a value reads
its own properties; `JSON.stringify` does not.
-/

namespace TauriPlatform

/-! ## Values -/

inductive JsPrimitive where
  | bool (value : Bool)
  | number (value : NumberValue)
  | negativeZero
  | bigint (value : Int)
  | string (value : String)
  deriving DecidableEq

/-- What `JSON.stringify` writes for a primitive; a big integer is rejected before. -/
def JsPrimitive.toJson : JsPrimitive → JsonValue
  | .bool value => .bool value
  | .number (.finite value) => .number value
  | .number (.nonFinite _) => .null
  | .negativeZero => .number (.integer 0)
  | .bigint _ => .null
  | .string value => .string value

/-- A value after `structuredClone`.  An `object` is a plain one, or of a class whose
instances have nothing but their own enumerable properties to be written (a `Map`, a `Set`, a
`RegExp`, a typed array); a boxed string has its code units as properties. -/
inductive JsValue where
  | undefined
  | null
  | primitive (value : JsPrimitive)
  /-- An empty slot of a sparse array. -/
  | hole
  | array (items : List JsValue)
  | object (entries : List (String × JsValue))
  | date (time : Option ClockReading)
  | boxed (value : JsPrimitive) (units : List String)

def indexedUnits (units : List String) : List (String × String) :=
  units.mapIdx fun index unit => (String.ofList (Nat.toDigits 10 index), unit)

namespace JsValue

/-- `Object.defineProperty` with an enumerable value, as `defineProperty` does it for JSON. -/
def define {α : Type} (entries : List (String × α)) (key : String) (value : α) :
    List (String × α) :=
  if entries.any (fun entry => entry.1 == key) then
    entries.map fun entry => if entry.1 = key then (key, value) else entry
  else
    match arrayIndex? key with
    | none => entries ++ [(key, value)]
    | some index =>
        let isBelow := fun entry : String × α => (arrayIndex? entry.1).any (· < index)
        entries.takeWhile isBelow ++ (key, value) :: entries.dropWhile isBelow

/-- The default order of `Array.prototype.sort`, on the keys of properties. -/
def KeyLe {α : Type} (left right : String × α) : Prop :=
  codeUnitLe left.1 right.1 = true

instance {α : Type} : DecidableRel (@KeyLe α) :=
  fun left right => inferInstanceAs (Decidable (codeUnitLe left.1 right.1 = true))

instance {α : Type} : Std.Total (@KeyLe α) where
  total left right := by
    simp only [KeyLe, codeUnitLe_iff]
    exact le_total _ _

instance {α : Type} : IsTrans (String × α) KeyLe where
  trans left middle right hleft hright := by
    simp only [KeyLe, codeUnitLe_iff] at hleft hright ⊢
    exact hleft.trans hright

def sortEntries {α : Type} (entries : List (String × α)) : List (String × α) :=
  (entries.insertionSort KeyLe).foldl (fun sorted entry => define sorted entry.1 entry.2) []

mutual

def sortedKeys : JsValue → JsValue
  | .array items => .array (sortedItems items)
  | .object entries => .object (sortEntries (sortedEntries entries))
  | .date _ => .object []
  | .boxed _ units =>
      .object (sortEntries ((indexedUnits units).map fun entry =>
        (entry.1, .primitive (.string entry.2))))
  | value => value
termination_by structural value => value

def sortedItems : List JsValue → List JsValue
  | [] => []
  | item :: rest => sortedKeys item :: sortedItems rest
termination_by structural items => items

def sortedEntries : List (String × JsValue) → List (String × JsValue)
  | [] => []
  | (key, value) :: rest => (key, sortedKeys value) :: sortedEntries rest
termination_by structural entries => entries

end

/-! ## JSON -/

structure Writer where
  date : Option ClockReading → JsonValue
  boxed : JsPrimitive → List String → JsonValue

/-- `JSON.stringify`: a date has a `toJSON`, and a box is opened. -/
def stringifying : Writer where
  date time := match time with
    | none => .null
    | some reading => .string reading.iso
  boxed value _ := value.toJson

def ownProperties : Writer where
  date _ := .object []
  boxed _ units := .object ((indexedUnits units).map fun entry => (entry.1, .string entry.2))

mutual

/-- The JSON of a value which is not `undefined`; an array has `null` in place of it, and an
object leaves the property out. -/
def json (writer : Writer) : JsValue → Option JsonValue
  | .undefined => none
  | .hole => none
  | .null => some .null
  | .primitive value => some value.toJson
  | .array items => some (.array (jsonItems writer items))
  | .object entries => some (.object (jsonEntries writer entries))
  | .date time => some (writer.date time)
  | .boxed value units => some (writer.boxed value units)
termination_by structural value => value

def jsonItems (writer : Writer) : List JsValue → List JsonValue
  | [] => []
  | item :: rest => (json writer item).getD .null :: jsonItems writer rest
termination_by structural items => items

def jsonEntries (writer : Writer) : List (String × JsValue) → List (String × JsonValue)
  | [] => []
  | (key, value) :: rest =>
      match json writer value with
      | none => jsonEntries writer rest
      | some value => (key, value) :: jsonEntries writer rest
termination_by structural entries => entries

end

mutual

/-- `JSON.stringify` meets a big integer. -/
def holdsBigInt : JsValue → Bool
  | .primitive (.bigint _) => true
  | .boxed (.bigint _) _ => true
  | .array items => itemsHoldBigInt items
  | .object entries => entriesHoldBigInt entries
  | _ => false
termination_by structural value => value

def itemsHoldBigInt : List JsValue → Bool
  | [] => false
  | item :: rest => holdsBigInt item || itemsHoldBigInt rest
termination_by structural items => items

def entriesHoldBigInt : List (String × JsValue) → Bool
  | [] => false
  | (_, value) :: rest => holdsBigInt value || entriesHoldBigInt rest
termination_by structural entries => entries

end

theorem itemsHoldBigInt_eq_false {items : List JsValue} :
    itemsHoldBigInt items = false ↔ ∀ item ∈ items, holdsBigInt item = false := by
  induction items with
  | nil => simp [itemsHoldBigInt]
  | cons item rest ih => simp [itemsHoldBigInt, ih]

theorem entriesHoldBigInt_eq_false {entries : List (String × JsValue)} :
    entriesHoldBigInt entries = false ↔ ∀ entry ∈ entries, holdsBigInt entry.2 = false := by
  induction entries with
  | nil => simp [entriesHoldBigInt]
  | cons entry rest ih =>
      obtain ⟨key, value⟩ := entry
      simp [entriesHoldBigInt, ih]

/-- `JSON.stringify`, with no text for `undefined`. -/
def stringify (value : JsValue) : Except String (Option String) :=
  if holdsBigInt value then .error "Do not know how to serialize a BigInt"
  else .ok ((json stringifying value).map JsonValue.stringify)

/-! ## Order of the properties -/

inductive IsEnumerated : JsValue → Prop
  | undefined : IsEnumerated .undefined
  | null : IsEnumerated .null
  | primitive (value : JsPrimitive) : IsEnumerated (.primitive value)
  | hole : IsEnumerated .hole
  | array {items : List JsValue} (hitems : ∀ item ∈ items, IsEnumerated item) :
      IsEnumerated (.array items)
  | object {entries : List (String × JsValue)}
      (horder : (entries.map Prod.fst).Pairwise Precedes)
      (hentries : ∀ entry ∈ entries, IsEnumerated entry.2) : IsEnumerated (.object entries)
  | date (time : Option ClockReading) : IsEnumerated (.date time)
  | boxed (value : JsPrimitive) (units : List String) : IsEnumerated (.boxed value units)

section Define

variable {α : Type} {entries : List (String × α)} {key : String}

theorem map_define (f : α → JsonValue) (value : α) :
    (define entries key value).map (fun entry => (entry.1, f entry.2)) =
      defineProperty (entries.map fun entry => (entry.1, f entry.2)) key (f value) := by
  have hany : (entries.map fun entry => (entry.1, f entry.2)).any (fun entry => entry.1 == key) =
      entries.any fun entry => entry.1 == key := by
    rw [List.any_map]
    rfl
  unfold define defineProperty
  rw [hany]
  split_ifs
  · rw [List.map_map, List.map_map]
    apply List.map_congr_left
    intro entry _
    simp only [Function.comp_apply]
    split_ifs <;> rfl
  · cases arrayIndex? key with
    | none => simp
    | some index =>
        simp only [List.map_append, List.map_cons, List.takeWhile_map, List.dropWhile_map]
        rfl

theorem mem_define {entry : String × α} {value : α}
    (hmem : entry ∈ define entries key value) : entry = (key, value) ∨ entry ∈ entries := by
  unfold define at hmem
  split_ifs at hmem
  · obtain ⟨other, hother, hentry⟩ := List.mem_map.mp hmem
    split_ifs at hentry
    · exact .inl hentry.symm
    · exact .inr (hentry ▸ hother)
  · cases hindex : arrayIndex? key with
    | none =>
        rw [hindex] at hmem
        exact (List.mem_append.mp hmem).symm.imp_left List.mem_singleton.mp
    | some index =>
        rw [hindex] at hmem
        rcases List.mem_append.mp hmem with hbelow | habove
        · exact .inr ((List.takeWhile_sublist _).subset hbelow)
        · exact (List.mem_cons.mp habove).imp_right
            fun hlater => (List.dropWhile_sublist _).subset hlater

def OrderedKeys (entries : List (String × α)) : Prop :=
  (entries.map Prod.fst).Pairwise Precedes

theorem orderedKeys_iff : OrderedKeys entries ↔
    Ordered (entries.map fun entry => (entry.1, JsonValue.null)) := by
  rw [OrderedKeys, ordered_iff_keys, List.map_map]
  rfl

theorem OrderedKeys.define (hordered : OrderedKeys entries) (key : String) (value : α) :
    OrderedKeys (JsValue.define entries key value) := by
  rw [orderedKeys_iff] at hordered ⊢
  rw [map_define fun _ => JsonValue.null]
  exact hordered.defineProperty JsonValue.null

theorem OrderedKeys.nodup (hordered : OrderedKeys entries) : (entries.map Prod.fst).Nodup :=
  hordered.imp fun hprecedes => hprecedes.1

theorem OrderedKeys.filter (hordered : OrderedKeys entries) (p : String × α → Bool) :
    OrderedKeys (entries.filter p) :=
  hordered.sublist (List.filter_sublist.map Prod.fst)

theorem takeWhile_eq_filter {p : α → Bool} {l : List α}
    (hdown : l.Pairwise fun first second => p second = true → p first = true) :
    l.takeWhile p = l.filter p ∧ l.dropWhile p = l.filter fun a => !p a := by
  induction l with
  | nil => exact ⟨rfl, rfl⟩
  | cons first rest ih =>
      obtain ⟨hfirst, hrest⟩ := List.pairwise_cons.mp hdown
      obtain ⟨htake, hdrop⟩ := ih hrest
      cases hp : p first with
      | true => simp [hp, htake, hdrop]
      | false =>
          have hnone : ∀ other ∈ rest, p other = false := by
            intro other hother
            cases hother' : p other with
            | false => rfl
            | true => rw [hfirst other hother hother'] at hp; cases hp
          have hfilter : rest.filter p = [] := by
            rw [List.filter_eq_nil_iff]
            intro other hother
            simp [hnone other hother]
          have hall : rest.filter (fun a => !p a) = rest := by
            rw [List.filter_eq_self]
            intro other hother
            simp [hnone other hother]
          simp [hp, hfilter, hall]

theorem OrderedKeys.split (hordered : OrderedKeys entries) (index : Nat) :
    entries.takeWhile (fun entry => (arrayIndex? entry.1).any (· < index)) =
        entries.filter (fun entry => (arrayIndex? entry.1).any (· < index)) ∧
      entries.dropWhile (fun entry => (arrayIndex? entry.1).any (· < index)) =
        entries.filter fun entry => !(arrayIndex? entry.1).any (· < index) := by
  apply takeWhile_eq_filter
  apply (List.pairwise_map.mp hordered).imp
  intro first second hprecedes hsecond
  obtain ⟨found, hfound, hless⟩ := (Option.any_eq_true _ _).mp hsecond
  obtain ⟨below, hbelow, hlower⟩ := hprecedes.2 found hfound
  exact (Option.any_eq_true _ _).mpr ⟨below, hbelow,
    decide_eq_true (hlower.trans (of_decide_eq_true hless))⟩

theorem filter_define (hordered : OrderedKeys entries) (hnew : key ∉ entries.map Prod.fst)
    (p : String × α → Bool) (value : α) :
    (define entries key value).filter p =
      if p (key, value) then define (entries.filter p) key value else entries.filter p := by
  have habsent : ∀ others : List (String × α), key ∉ others.map Prod.fst →
      ¬ others.any (fun entry => entry.1 == key) := by
    intro others hothers hany
    apply hothers
    simpa using hany
  have hfiltered : key ∉ (entries.filter p).map Prod.fst := fun hmem =>
    hnew ((List.filter_sublist.map Prod.fst).subset hmem)
  unfold define
  rw [if_neg (habsent _ hnew), if_neg (habsent _ hfiltered)]
  cases arrayIndex? key with
  | none =>
      rw [List.filter_append]
      by_cases hp : p (key, value) = true
      · rw [if_pos hp, List.filter_cons_of_pos hp, List.filter_nil]
      · rw [if_neg hp, List.filter_cons_of_neg hp, List.filter_nil, List.append_nil]
  | some index =>
      dsimp only
      rw [List.filter_append]
      by_cases hp : p (key, value) = true
      · rw [if_pos hp, List.filter_cons_of_pos hp, (hordered.split index).1,
          (hordered.split index).2, ((hordered.filter p).split index).1,
          ((hordered.filter p).split index).2, List.filter_comm, List.filter_comm p]
      · rw [if_neg hp, List.filter_cons_of_neg hp, ← List.filter_append,
          List.takeWhile_append_dropWhile]

theorem keys_define (hnew : key ∉ entries.map Prod.fst) (value : α) {other : String}
    (hmem : other ∈ (define entries key value).map Prod.fst) :
    other = key ∨ other ∈ entries.map Prod.fst := by
  have habsent : ¬ entries.any (fun entry => entry.1 == key) := by
    intro hany
    apply hnew
    simpa using hany
  unfold define at hmem
  rw [if_neg habsent] at hmem
  cases hindex : arrayIndex? key with
  | none =>
      rw [hindex] at hmem
      rw [List.map_append, List.mem_append] at hmem
      exact hmem.symm.imp_left fun hkey => List.mem_singleton.mp hkey
  | some index =>
      rw [hindex] at hmem
      dsimp only at hmem
      rw [List.map_append, List.map_cons, List.mem_append, List.mem_cons] at hmem
      rcases hmem with hbefore | rfl | hafter
      · exact .inr (((List.takeWhile_sublist _).map Prod.fst).subset hbefore)
      · exact .inl rfl
      · exact .inr (((List.dropWhile_sublist _).map Prod.fst).subset hafter)

theorem filter_fold {sorted : List (String × α)} (hordered : OrderedKeys entries)
    (hnodup : (entries.map Prod.fst ++ sorted.map Prod.fst).Nodup) (p : String × α → Bool) :
    (sorted.foldl (fun entries entry => define entries entry.1 entry.2) entries).filter p =
      (sorted.filter p).foldl (fun entries entry => define entries entry.1 entry.2)
        (entries.filter p) := by
  induction sorted generalizing entries with
  | nil => rfl
  | cons first rest ih =>
      have hnew : first.1 ∉ entries.map Prod.fst := by
        intro hmem
        exact (List.nodup_append'.mp hnodup).2.2 hmem List.mem_cons_self
      have hrest : ((define entries first.1 first.2).map Prod.fst ++
          rest.map Prod.fst).Nodup := by
        obtain ⟨-, hrest, hapart⟩ := List.nodup_append'.mp hnodup
        refine List.nodup_append'.mpr ⟨(hordered.define first.1 first.2).nodup,
          (List.nodup_cons.mp hrest).2, ?_⟩
        intro other hmem hother
        rcases keys_define hnew first.2 hmem with rfl | hold
        · exact (List.nodup_cons.mp hrest).1 hother
        · exact hapart hold (List.mem_cons_of_mem _ hother)
      rw [List.foldl_cons, ih (hordered.define first.1 first.2) hrest,
        filter_define hordered hnew]
      by_cases hp : p first = true
      · rw [if_pos hp, List.filter_cons_of_pos hp, List.foldl_cons]
      · rw [if_neg hp, List.filter_cons_of_neg hp]

theorem filter_insertionSort (hnodup : (entries.map Prod.fst).Nodup)
    (p : String × α → Bool) :
    (entries.insertionSort KeyLe).filter p = (entries.filter p).insertionSort KeyLe := by
  have hperm := List.perm_insertionSort KeyLe entries
  refine List.Perm.eq_of_pairwise ?_
    ((List.pairwise_insertionSort KeyLe entries).sublist List.filter_sublist)
    (List.pairwise_insertionSort KeyLe _)
    ((hperm.filter p).trans (List.perm_insertionSort KeyLe _).symm)
  intro left right hleft hright hle hge
  have hmem : left ∈ entries := hperm.mem_iff.mp (List.mem_of_mem_filter hleft)
  have hmem' : right ∈ entries :=
    List.mem_of_mem_filter ((List.mem_insertionSort KeyLe).mp hright)
  exact List.inj_on_of_nodup_map hnodup hmem hmem' (codeUnitLe_antisymm hle hge)

theorem filter_sortEntries (hnodup : (entries.map Prod.fst).Nodup) (p : String × α → Bool) :
    (sortEntries entries).filter p = sortEntries (entries.filter p) := by
  have hempty : OrderedKeys ([] : List (String × α)) := List.Pairwise.nil
  have hsorted : ((entries.insertionSort KeyLe).map Prod.fst).Nodup :=
    ((List.perm_insertionSort KeyLe entries).map Prod.fst).nodup_iff.mpr hnodup
  unfold sortEntries
  rw [← filter_insertionSort hnodup, filter_fold hempty (by simpa using hsorted)]
  rfl

theorem map_fold (f : α → JsonValue) (sorted : List (String × α)) :
    (sorted.foldl (fun entries entry => define entries entry.1 entry.2) entries).map
        (fun entry => (entry.1, f entry.2)) =
      (sorted.map fun entry => (entry.1, f entry.2)).foldl
        (fun entries entry => defineProperty entries entry.1 entry.2)
        (entries.map fun entry => (entry.1, f entry.2)) := by
  induction sorted generalizing entries with
  | nil => rfl
  | cons first rest ih => rw [List.foldl_cons, ih, map_define, List.map_cons, List.foldl_cons]

theorem map_sortEntries (f : α → JsonValue) :
    (sortEntries entries).map (fun entry => (entry.1, f entry.2)) =
      TauriPlatform.sortEntries (entries.map fun entry => (entry.1, f entry.2)) := by
  have hsort := List.map_insertionSort KeyLe TauriPlatform.KeyLe
    (fun entry : String × α => (entry.1, f entry.2)) entries fun _ _ _ _ => Iff.rfl
  rw [sortEntries_eq_spread, ← hsort]
  exact map_fold f _

end Define

/-! ## The canonical form -/

section Json

variable {writer : Writer} {entries : List (String × JsValue)}

theorem jsonEntries_eq (entries : List (String × JsValue)) :
    jsonEntries writer entries =
      (entries.filter fun entry => (json writer entry.2).isSome).map fun entry =>
        (entry.1, (json writer entry.2).getD .null) := by
  induction entries with
  | nil => rfl
  | cons entry rest ih =>
      obtain ⟨key, value⟩ := entry
      rw [jsonEntries]
      cases hjson : json writer value with
      | none => simp [hjson, ih]
      | some written => simp [hjson, ih]

theorem jsonEntries_sortEntries (hnodup : (entries.map Prod.fst).Nodup) :
    jsonEntries writer (sortEntries entries) =
      TauriPlatform.sortEntries (jsonEntries writer entries) := by
  rw [jsonEntries_eq, jsonEntries_eq, filter_sortEntries hnodup,
    map_sortEntries fun value => (json writer value).getD .null]

theorem keys_sortedEntries (entries : List (String × JsValue)) :
    (sortedEntries entries).map Prod.fst = entries.map Prod.fst := by
  induction entries with
  | nil => rfl
  | cons entry rest ih =>
      obtain ⟨key, value⟩ := entry
      rw [sortedEntries, List.map_cons, List.map_cons, ih]

theorem indexedUnits_json (units : List String) :
    (indexedUnits units).map (fun entry => (entry.1, JsonValue.string entry.2)) =
      (JsonValue.array (units.map .string)).ownEntries := by
  apply List.ext_getElem
  · simp [indexedUnits, JsonValue.ownEntries]
  · intro index hleft hright
    simp [indexedUnits, JsonValue.ownEntries]

theorem nodup_indexedUnits (units : List String) :
    ((indexedUnits units).map Prod.fst).Nodup := by
  have henumerated : (JsonValue.array (units.map .string)).IsEnumerated := by
    apply JsonValue.IsEnumerated.array
    intro item hitem
    obtain ⟨unit, -, rfl⟩ := List.mem_map.mp hitem
    exact .string unit
  have hnodup := nodup_ownEntries henumerated
  rw [← indexedUnits_json, List.map_map] at hnodup
  exact hnodup

theorem sortedEntries_indexedUnits (units : List String) :
    TauriPlatform.sortedEntries
        ((indexedUnits units).map fun entry => (entry.1, JsonValue.string entry.2)) =
      (indexedUnits units).map fun entry => (entry.1, JsonValue.string entry.2) := by
  rw [sortedEntries_eq_map, List.map_map]
  rfl

theorem IsEnumerated.nodup (henumerated : (JsValue.object entries).IsEnumerated) :
    (entries.map Prod.fst).Nodup := by
  cases henumerated with
  | object horder hentries => exact horder.imp fun hprecedes => hprecedes.1

end Json

mutual

theorem json_sortedKeys (writer : Writer) : ∀ value : JsValue, value.IsEnumerated →
    json writer (sortedKeys value) =
      (json ownProperties value).map TauriPlatform.sortedKeys
  | .undefined, _ => rfl
  | .hole, _ => rfl
  | .null, _ => rfl
  | .primitive value, _ => by
      cases value with
      | number value => cases value <;> rfl
      | _ => rfl
  | .array items, henumerated => by
      cases henumerated with
      | array hitems =>
          rw [sortedKeys, json, json, jsonItems_sortedItems writer items hitems]
          rfl
  | .object entries, henumerated => by
      have hnodup := henumerated.nodup
      cases henumerated with
      | object horder hentries =>
          rw [sortedKeys, json, json,
            jsonEntries_sortEntries (by rwa [keys_sortedEntries]),
            jsonEntries_sortedEntries writer entries hentries]
          rfl
  | .date _, _ => rfl
  | .boxed _ units, _ => by
      have hnodup := nodup_indexedUnits units
      rw [sortedKeys, json, jsonEntries_sortEntries (by rwa [List.map_map]), jsonEntries_eq,
        List.filter_map, List.map_map]
      have hall : (indexedUnits units).filter ((fun entry => (json writer entry.2).isSome) ∘
          fun entry => (entry.1, .primitive (.string entry.2))) = indexedUnits units :=
        List.filter_eq_self.mpr fun _ _ => rfl
      rw [hall, json, ownProperties, Option.map_some, TauriPlatform.sortedKeys,
        sortedEntries_indexedUnits]
      rfl

theorem jsonItems_sortedItems (writer : Writer) : ∀ items : List JsValue,
    (∀ item ∈ items, item.IsEnumerated) →
      jsonItems writer (sortedItems items) =
        TauriPlatform.sortedItems (jsonItems ownProperties items)
  | [], _ => rfl
  | item :: rest, hitems => by
      have hitem := json_sortedKeys writer item (hitems item List.mem_cons_self)
      have hrest := jsonItems_sortedItems writer rest
        fun other hother => hitems other (List.mem_cons_of_mem _ hother)
      rw [sortedItems, jsonItems, jsonItems, TauriPlatform.sortedItems, hitem, hrest]
      cases json ownProperties item <;> rfl

theorem jsonEntries_sortedEntries (writer : Writer) : ∀ entries : List (String × JsValue),
    (∀ entry ∈ entries, entry.2.IsEnumerated) →
      jsonEntries writer (sortedEntries entries) =
        TauriPlatform.sortedEntries (jsonEntries ownProperties entries)
  | [], _ => rfl
  | (key, value) :: rest, hentries => by
      have hvalue := json_sortedKeys writer value (hentries (key, value) List.mem_cons_self)
      have hrest := jsonEntries_sortedEntries writer rest
        fun other hother => hentries other (List.mem_cons_of_mem _ hother)
      rw [sortedEntries, jsonEntries, jsonEntries, hvalue, hrest]
      cases json ownProperties value <;> rfl

end

/-! ## Values which are written by their own properties -/

mutual

def holdsConverted : JsValue → Bool
  | .date _ => true
  | .boxed _ _ => true
  | .array items => itemsHoldConverted items
  | .object entries => entriesHoldConverted entries
  | _ => false
termination_by structural value => value

def itemsHoldConverted : List JsValue → Bool
  | [] => false
  | item :: rest => holdsConverted item || itemsHoldConverted rest
termination_by structural items => items

def entriesHoldConverted : List (String × JsValue) → Bool
  | [] => false
  | (_, value) :: rest => holdsConverted value || entriesHoldConverted rest
termination_by structural entries => entries

end

section Written

variable {writer writer' : Writer} {entries : List (String × JsValue)}

theorem keys_jsonEntries_sublist (entries : List (String × JsValue)) :
    ((jsonEntries writer entries).map Prod.fst).Sublist (entries.map Prod.fst) := by
  rw [jsonEntries_eq, List.map_map]
  exact List.filter_sublist.map Prod.fst

theorem nodup_jsonEntries (hnodup : (entries.map Prod.fst).Nodup) :
    ((jsonEntries writer entries).map Prod.fst).Nodup :=
  hnodup.sublist (keys_jsonEntries_sublist entries)

theorem lookup_jsonEntries (hnodup : (entries.map Prod.fst).Nodup) (key : String) :
    (jsonEntries writer entries).lookup key = (entries.lookup key).bind (json writer) := by
  induction entries with
  | nil => rfl
  | cons entry rest ih =>
      obtain ⟨name, value⟩ := entry
      obtain ⟨hnew, hrest⟩ := List.nodup_cons.mp hnodup
      have hlater := ih hrest
      rw [jsonEntries, List.lookup_cons]
      by_cases hkey : key = name
      · subst hkey
        have habsent : rest.lookup key = none := by
          rw [List.lookup_eq_none_iff]
          intro other hother
          rw [bne_iff_ne]
          intro hsame
          apply hnew
          rw [hsame]
          exact List.mem_map.mpr ⟨other, hother, rfl⟩
        rw [habsent] at hlater
        cases hjson : json writer value with
        | none => simpa [hjson] using hlater
        | some written => simp [hjson]
      · have hbeq : (key == name) = false := beq_false_of_ne hkey
        cases hjson : json writer value with
        | none => simpa [hbeq] using hlater
        | some written => simpa [List.lookup_cons, hbeq] using hlater

theorem isSome_json (value : JsValue) :
    (json writer value).isSome = (json writer' value).isSome := by
  cases value <;> rfl

theorem mem_lookup (hnodup : (entries.map Prod.fst).Nodup) {key : String} {value : JsValue} :
    entries.lookup key = some value ↔ (key, value) ∈ entries := by
  constructor
  · intro hfound
    obtain ⟨front, back, hsplit, -⟩ := List.lookup_eq_some_iff.mp hfound
    rw [hsplit]
    simp
  · intro hmem
    induction entries with
    | nil => cases hmem
    | cons entry rest ih =>
        obtain ⟨hnew, hrest⟩ := List.nodup_cons.mp hnodup
        rw [List.lookup_cons]
        cases List.mem_cons.mp hmem with
        | inl hfirst =>
            rw [← hfirst]
            simp
        | inr hlater =>
            have hother : (key == entry.1) = false := by
              apply beq_false_of_ne
              rintro rfl
              exact hnew (List.mem_map.mpr ⟨(entry.1, value), hlater, rfl⟩)
            rw [hother]
            exact ih hrest hlater

theorem entriesHoldConverted_eq_false :
    entriesHoldConverted entries = false ↔ ∀ entry ∈ entries, holdsConverted entry.2 = false := by
  induction entries with
  | nil => simp [entriesHoldConverted]
  | cons entry rest ih =>
      obtain ⟨key, value⟩ := entry
      simp [entriesHoldConverted, ih]

/-- In an array `null` stands for what has no JSON. -/
theorem sortedKeys_getD_iff {left right : Option JsonValue} (hsame : left.isSome = right.isSome) :
    TauriPlatform.sortedKeys (left.getD .null) = TauriPlatform.sortedKeys (right.getD .null) ↔
      left.map TauriPlatform.sortedKeys = right.map TauriPlatform.sortedKeys := by
  cases left <;> cases right <;> simp_all

theorem sortedKeys_toJson_ne_object (value : JsPrimitive) (entries : List (String × JsonValue)) :
    TauriPlatform.sortedKeys value.toJson ≠ .object entries := by
  cases value with
  | number value => cases value <;> simp [JsPrimitive.toJson, TauriPlatform.sortedKeys]
  | _ => simp [JsPrimitive.toJson, TauriPlatform.sortedKeys]

end Written

mutual

/-- The own properties of a value have the canonical form of what is written for it exactly
when no date and no box is in it. -/
theorem own_eq_written_iff : ∀ value : JsValue, value.IsEnumerated →
    ((json ownProperties value).map TauriPlatform.sortedKeys =
        (json stringifying value).map TauriPlatform.sortedKeys ↔
      holdsConverted value = false)
  | .undefined, _ => by simp [json, holdsConverted]
  | .hole, _ => by simp [json, holdsConverted]
  | .null, _ => by simp [json, holdsConverted]
  | .primitive _, _ => by simp [json, holdsConverted]
  | .array items, henumerated => by
      cases henumerated with
      | array hitems =>
          rw [json, json, Option.map_some, Option.map_some, Option.some.injEq,
            TauriPlatform.sortedKeys, TauriPlatform.sortedKeys, JsonValue.array.injEq,
            ownItems_eq_written_iff items hitems, holdsConverted]
  | .object entries, henumerated => by
      have hnodup := henumerated.nodup
      cases henumerated with
      | object horder hentries =>
          rw [json, json, Option.map_some, Option.map_some, Option.some.injEq,
            sortedKeys_object_eq_iff (nodup_jsonEntries hnodup) (nodup_jsonEntries hnodup),
            holdsConverted, entriesHoldConverted_eq_false]
          have hentry := ownEntries_eq_written_iff entries hentries
          constructor
          · intro hsame entry hmem
            have hfound := (mem_lookup hnodup).mpr hmem
            have hkey := hsame entry.1
            rw [lookup_jsonEntries hnodup, lookup_jsonEntries hnodup, hfound] at hkey
            exact (hentry entry hmem).mp hkey
          · intro hplain key
            rw [lookup_jsonEntries hnodup, lookup_jsonEntries hnodup]
            cases hfound : entries.lookup key with
            | none => rfl
            | some value =>
                have hmem := (mem_lookup hnodup).mp hfound
                exact (hentry (key, value) hmem).mpr (hplain (key, value) hmem)
  | .date time, _ => by
      have hne : TauriPlatform.sortedKeys (stringifying.date time) ≠ .object [] := by
        cases time <;> simp [stringifying, TauriPlatform.sortedKeys]
      refine iff_of_false ?_ (by simp [holdsConverted])
      intro hsame
      exact hne (Option.some.inj hsame).symm
  | .boxed value units, _ => by
      refine iff_of_false ?_ (by simp [holdsConverted])
      intro hsame
      exact sortedKeys_toJson_ne_object value _ (Option.some.inj hsame).symm

theorem ownItems_eq_written_iff : ∀ items : List JsValue,
    (∀ item ∈ items, item.IsEnumerated) →
      (TauriPlatform.sortedItems (jsonItems ownProperties items) =
          TauriPlatform.sortedItems (jsonItems stringifying items) ↔
        itemsHoldConverted items = false)
  | [], _ => by simp [jsonItems, itemsHoldConverted]
  | item :: rest, hitems => by
      have hitem := own_eq_written_iff item (hitems item List.mem_cons_self)
      have hrest := ownItems_eq_written_iff rest
        fun other hother => hitems other (List.mem_cons_of_mem _ hother)
      rw [jsonItems, jsonItems, TauriPlatform.sortedItems, TauriPlatform.sortedItems,
        List.cons.injEq, hrest, sortedKeys_getD_iff (isSome_json item), hitem,
        itemsHoldConverted, Bool.or_eq_false_iff]

theorem ownEntries_eq_written_iff : ∀ entries : List (String × JsValue),
    (∀ entry ∈ entries, entry.2.IsEnumerated) → ∀ entry ∈ entries,
      ((json ownProperties entry.2).map TauriPlatform.sortedKeys =
          (json stringifying entry.2).map TauriPlatform.sortedKeys ↔
        holdsConverted entry.2 = false)
  | [], _, entry, hentry => by cases hentry
  | (key, value) :: rest, hentries, entry, hentry => by
      cases hentry with
      | head => exact own_eq_written_iff value (hentries (key, value) List.mem_cons_self)
      | tail _ hrest =>
          exact ownEntries_eq_written_iff rest
            (fun other hother => hentries other (List.mem_cons_of_mem _ hother)) entry hrest

end

/-! ## What is written -/

theorem isEnumerated_toJson (value : JsPrimitive) : value.toJson.IsEnumerated := by
  cases value with
  | number value =>
      cases value with
      | finite value => exact .number value
      | nonFinite _ => exact .null
  | bool value => exact .bool value
  | negativeZero => exact .number _
  | bigint _ => exact .null
  | string value => exact .string value

mutual

theorem isEnumerated_json : ∀ value : JsValue, value.IsEnumerated →
    ∀ written ∈ json stringifying value, written.IsEnumerated
  | .undefined, _, written, hwritten => by cases hwritten
  | .hole, _, written, hwritten => by cases hwritten
  | .null, _, written, hwritten => by
      cases hwritten
      exact .null
  | .primitive value, _, written, hwritten => by
      cases hwritten
      exact isEnumerated_toJson value
  | .array items, henumerated, written, hwritten => by
      cases hwritten
      cases henumerated with
      | array hitems => exact .array (isEnumerated_jsonItems items hitems)
  | .object entries, henumerated, written, hwritten => by
      cases hwritten
      cases henumerated with
      | object horder hentries =>
          have hordered : Ordered ([] ++ jsonEntries stringifying entries) :=
            ordered_iff_keys.mpr (horder.sublist (keys_jsonEntries_sublist entries))
          exact .object (spread_of_ordered hordered) (isEnumerated_jsonEntries entries hentries)
  | .date time, _, written, hwritten => by
      cases hwritten
      cases time with
      | none => exact .null
      | some reading => exact .string _
  | .boxed value _, _, written, hwritten => by
      cases hwritten
      exact isEnumerated_toJson value

theorem isEnumerated_jsonItems : ∀ items : List JsValue,
    (∀ item ∈ items, item.IsEnumerated) →
      ∀ written ∈ jsonItems stringifying items, written.IsEnumerated
  | [], _, written, hwritten => by cases hwritten
  | item :: rest, hitems, written, hwritten => by
      rcases List.mem_cons.mp hwritten with rfl | hrest
      · cases hjson : json stringifying item with
        | none => exact .null
        | some value => exact isEnumerated_json item (hitems item List.mem_cons_self) value hjson
      · exact isEnumerated_jsonItems rest
          (fun other hother => hitems other (List.mem_cons_of_mem _ hother)) written hrest

theorem isEnumerated_jsonEntries : ∀ entries : List (String × JsValue),
    (∀ entry ∈ entries, entry.2.IsEnumerated) →
      ∀ written ∈ jsonEntries stringifying entries, written.2.IsEnumerated
  | [], _, written, hwritten => by cases hwritten
  | (key, value) :: rest, hentries, written, hwritten => by
      have hothers := isEnumerated_jsonEntries rest
        fun other hother => hentries other (List.mem_cons_of_mem _ hother)
      cases hjson : json stringifying value with
      | none =>
          rw [jsonEntries, hjson] at hwritten
          exact hothers written hwritten
      | some text =>
          rw [jsonEntries, hjson] at hwritten
          rcases List.mem_cons.mp hwritten with rfl | hrest
          · exact isEnumerated_json value (hentries (key, value) List.mem_cons_self) text hjson
          · exact hothers written hrest

end

end JsValue
end TauriPlatform
