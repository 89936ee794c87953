import TauriPlatform.HandshakeProtocol
import TauriPlatform.JsonContent
import TauriPlatform.OutboxDurable
import Mathlib

/-!
# What a signature covers

The canonical bytes of an operation identify its content.  Those of a handshake are made by
assigning its properties to a new object, and an assignment to `__proto__` creates none.
-/

namespace TauriPlatform

/-! ## Operations -/

namespace SyncEnvelopeBuilder

open OutboxService

theorem canonicalize_eq_ok {operation : JsonValue} {bytes : ByteArray}
    (haccepted : canonicalize operation = .ok bytes) :
    bytes = (sortedKeys operation).stringify.toUTF8 := by
  obtain ⟨_, -, hbytes⟩ := check_bind_eq_ok haccepted
  cases hbytes
  rfl

theorem canonicalize_bytes_eq_iff {left right : JsonValue} {bytes bytes' : ByteArray}
    (hleft : left.IsEnumerated) (hright : right.IsEnumerated)
    (haccepted : canonicalize left = .ok bytes)
    (haccepted' : canonicalize right = .ok bytes') :
    bytes = bytes' ↔ SameContent left right := by
  rw [canonicalize_eq_ok haccepted, canonicalize_eq_ok haccepted']
  exact canonical_toUTF8_eq_iff hleft hright

/-- An object whose properties are all `null`. -/
def blankObject (keys : List String) : JsonValue :=
  .object (keys.map fun key => (key, .null))

theorem isEnumerated_blankObject {keys : List String} (hnodup : keys.Nodup)
    (hindex : ∀ key ∈ keys, arrayIndex? key = none) : (blankObject keys).IsEnumerated := by
  have hkeys : (keys.map fun key => (key, JsonValue.null)).map Prod.fst = keys := by
    rw [List.map_map]
    exact List.map_id keys
  refine .object (spread_append ?_ ?_) ?_
  · rw [List.nil_append, hkeys]
    exact hnodup
  · rw [hkeys]
    exact hindex
  · intro entry hentry
    obtain ⟨key, -, rfl⟩ := List.mem_map.mp hentry
    exact .null

theorem canonicalize_bytes_eq_of_notes :
    (sortedKeys (noteOperationJson "op-1" (blankObject ["a", "__proto__"]))).stringify.toUTF8 =
      (sortedKeys (noteOperationJson "op-1" (blankObject ["__proto__", "a"]))).stringify.toUTF8 ↔
      SameContent (noteOperationJson "op-1" (blankObject ["a", "__proto__"]))
        (noteOperationJson "op-1" (blankObject ["__proto__", "a"])) := by
  have haccepted : ∀ payload, canonicalize (noteOperationJson "op-1" payload) =
      .ok (sortedKeys (noteOperationJson "op-1" payload)).stringify.toUTF8 := by
    intro payload
    rw [canonicalize, validateOperation_note (by decide) payload]
    rfl
  exact canonicalize_bytes_eq_iff
    (noteOperationJson_enumerated "op-1" (isEnumerated_blankObject (by decide) (by decide)))
    (noteOperationJson_enumerated "op-1" (isEnumerated_blankObject (by decide) (by decide)))
    (haccepted _) (haccepted _)

end SyncEnvelopeBuilder

/-! ## Handshakes -/

/-- `acc[key] = value` on an ordinary object; `__proto__` is a setter which it inherits. -/
def assignProperty (entries : List (String × JsonValue)) (key : String) (value : JsonValue) :
    List (String × JsonValue) :=
  if key = "__proto__" then entries else defineProperty entries key value

namespace HandshakeProtocol

mutual

/-- `sortedKeys` of the handshake. -/
def sortedKeys : JsonValue → JsonValue
  | .array items => .array (sortedItems items)
  | .object entries =>
      .object (((sortedEntries entries).insertionSort fun left right =>
        codeUnitLe left.1 right.1).foldl
          (fun acc entry => assignProperty acc entry.1 entry.2) [])
  | value => value
termination_by structural value => value

def sortedItems : List JsonValue → List JsonValue
  | [] => []
  | item :: rest => sortedKeys item :: sortedItems rest
termination_by structural items => items

def sortedEntries : List (String × JsonValue) → List (String × JsonValue)
  | [] => []
  | (key, value) :: rest => (key, sortedKeys value) :: sortedEntries rest
termination_by structural entries => entries

end

/-- `const { signature: _sig, ...rest } = message`. -/
def withoutSignature (message : List (String × JsonValue)) : List (String × JsonValue) :=
  message.filter fun entry => entry.1 ≠ "signature"

/-- `canonicalizeHandshake` of a message which was parsed. -/
def canonicalizeParsed (message : List (String × JsonValue)) : ByteArray :=
  (sortedKeys (.object (withoutSignature message))).stringify.toUTF8

end HandshakeProtocol

/-! ### Properties named `__proto__` -/

mutual

/-- A value without the properties named `__proto__`, at every level. -/
def withoutProto : JsonValue → JsonValue
  | .array items => .array (withoutProtoItems items)
  | .object entries => .object (withoutProtoEntries entries)
  | value => value
termination_by structural value => value

def withoutProtoItems : List JsonValue → List JsonValue
  | [] => []
  | item :: rest => withoutProto item :: withoutProtoItems rest
termination_by structural items => items

def withoutProtoEntries : List (String × JsonValue) → List (String × JsonValue)
  | [] => []
  | (key, value) :: rest =>
      if key = "__proto__" then withoutProtoEntries rest
      else (key, withoutProto value) :: withoutProtoEntries rest
termination_by structural entries => entries

end

mutual

/-- Wherever two values both have an object, the objects agree about `__proto__`. -/
def AgreeOnProto : JsonValue → JsonValue → Prop
  | .array left, .array right => AgreeOnProtoItems left right
  | .object left, .object right =>
      Option.Rel SameContent (left.lookup "__proto__") (right.lookup "__proto__") ∧
        AgreeOnProtoEntries left right
  | _, _ => True
termination_by structural left => left

def AgreeOnProtoItems : List JsonValue → List JsonValue → Prop
  | item :: rest, item' :: rest' => AgreeOnProto item item' ∧ AgreeOnProtoItems rest rest'
  | _, _ => True
termination_by structural left => left

/-- The condition on the values of one key in two objects, other than `__proto__`. -/
def AgreeOnProtoEntries : List (String × JsonValue) → List (String × JsonValue) → Prop
  | [], _ => True
  | (key, value) :: rest, right =>
      (key ≠ "__proto__" → ∀ value', right.lookup key = some value' →
        AgreeOnProto value value') ∧ AgreeOnProtoEntries rest right
termination_by structural left => left

end

theorem lookup_withoutProtoEntries (entries : List (String × JsonValue)) (key : String) :
    (withoutProtoEntries entries).lookup key =
      if key = "__proto__" then none else (entries.lookup key).map withoutProto := by
  induction entries with
  | nil => simp [withoutProtoEntries]
  | cons entry rest ih =>
      obtain ⟨name, value⟩ := entry
      rw [withoutProtoEntries, List.lookup_cons]
      by_cases hname : name = "__proto__"
      · rw [if_pos hname, ih]
        by_cases hkey : key = "__proto__"
        · rw [if_pos hkey, if_pos hkey]
        · have hne : (key == name) = false := by
            rw [hname]
            exact beq_false_of_ne hkey
          rw [if_neg hkey, if_neg hkey, hne]
      · rw [if_neg hname, List.lookup_cons, ih]
        cases hsame : key == name with
        | true =>
            rw [eq_of_beq hsame]
            simp [hname]
        | false => rfl

theorem map_fst_withoutProtoEntries (entries : List (String × JsonValue)) :
    (withoutProtoEntries entries).map Prod.fst =
      (entries.map Prod.fst).filter (· ≠ "__proto__") := by
  induction entries with
  | nil => rfl
  | cons entry rest ih =>
      obtain ⟨name, value⟩ := entry
      rw [withoutProtoEntries, List.map_cons, List.filter_cons]
      by_cases hname : name = "__proto__"
      · simp [hname, ih]
      · simp [hname, ih]

mutual

theorem isEnumerated_withoutProto : ∀ value : JsonValue, value.IsEnumerated →
    (withoutProto value).IsEnumerated
  | .null, _ => .null
  | .bool value, _ => .bool value
  | .number value, _ => .number value
  | .string value, _ => .string value
  | .array items, henumerated => by
      cases henumerated with
      | array hitems => exact .array (isEnumerated_withoutProtoItems items hitems)
  | .object entries, henumerated => by
      cases henumerated with
      | object horder hentries =>
          have hordered : Ordered ([] ++ withoutProtoEntries entries) := by
            rw [List.nil_append, ordered_iff_keys, map_fst_withoutProtoEntries]
            exact (ordered_iff_keys.mp (ordered_of_spread_eq horder)).sublist
              List.filter_sublist
          exact .object (spread_of_ordered hordered)
            (isEnumerated_withoutProtoEntries entries hentries)

theorem isEnumerated_withoutProtoItems : ∀ items : List JsonValue,
    (∀ item ∈ items, item.IsEnumerated) →
      ∀ item ∈ withoutProtoItems items, item.IsEnumerated
  | [], _ => fun item hitem => nomatch hitem
  | item :: rest, hitems => by
      rw [withoutProtoItems, List.forall_mem_cons]
      exact ⟨isEnumerated_withoutProto item (hitems item List.mem_cons_self),
        isEnumerated_withoutProtoItems rest
          fun other hother => hitems other (List.mem_cons_of_mem _ hother)⟩

theorem isEnumerated_withoutProtoEntries : ∀ entries : List (String × JsonValue),
    (∀ entry ∈ entries, entry.2.IsEnumerated) →
      ∀ entry ∈ withoutProtoEntries entries, entry.2.IsEnumerated
  | [], _ => fun entry hentry => nomatch hentry
  | (key, value) :: rest, hentries => by
      have hrest := isEnumerated_withoutProtoEntries rest
        fun other hother => hentries other (List.mem_cons_of_mem _ hother)
      rw [withoutProtoEntries]
      split_ifs with hkey
      · exact hrest
      · rw [List.forall_mem_cons]
        exact ⟨isEnumerated_withoutProto value (hentries (key, value) List.mem_cons_self), hrest⟩

end

theorem agreeOnProtoEntries_iff (left right : List (String × JsonValue)) :
    AgreeOnProtoEntries left right ↔
      ∀ entry ∈ left, entry.1 ≠ "__proto__" → ∀ value', right.lookup entry.1 = some value' →
        AgreeOnProto entry.2 value' := by
  induction left with
  | nil => simp [AgreeOnProtoEntries]
  | cons entry rest ih =>
      obtain ⟨key, value⟩ := entry
      rw [AgreeOnProtoEntries, ih, List.forall_mem_cons]

theorem rel_iff_rel_map {left right : Option JsonValue}
    (hiff : ∀ value ∈ left, ∀ value', SameContent value value' ↔
      SameContent (withoutProto value) (withoutProto value') ∧ AgreeOnProto value value') :
    Option.Rel SameContent left right ↔
      Option.Rel SameContent (left.map withoutProto) (right.map withoutProto) ∧
        ∀ value ∈ left, ∀ value' ∈ right, AgreeOnProto value value' := by
  cases left with
  | none => cases right <;> simp
  | some value =>
      cases right with
      | none => simp
      | some value' => simpa using hiff value rfl value'

theorem rel_lookup_iff_withoutProto {left : List (String × JsonValue)}
    (hnodup : (left.map Prod.fst).Nodup)
    (hiff : ∀ entry ∈ left, ∀ value', SameContent entry.2 value' ↔
      SameContent (withoutProto entry.2) (withoutProto value') ∧ AgreeOnProto entry.2 value')
    (right : List (String × JsonValue)) :
    (∀ key, Option.Rel SameContent (left.lookup key) (right.lookup key)) ↔
      (∀ key, Option.Rel SameContent ((withoutProtoEntries left).lookup key)
        ((withoutProtoEntries right).lookup key)) ∧
        Option.Rel SameContent (left.lookup "__proto__") (right.lookup "__proto__") ∧
          AgreeOnProtoEntries left right := by
  have hmem : ∀ {key value}, left.lookup key = some value ↔ (key, value) ∈ left :=
    lookup_eq_some_iff_mem hnodup
  have hkey : ∀ key, Option.Rel SameContent (left.lookup key) (right.lookup key) ↔
      Option.Rel SameContent ((left.lookup key).map withoutProto)
        ((right.lookup key).map withoutProto) ∧
        ∀ value ∈ left.lookup key, ∀ value' ∈ right.lookup key, AgreeOnProto value value' := by
    intro key
    apply rel_iff_rel_map
    intro value hvalue
    exact hiff (key, value) (hmem.mp hvalue)
  simp only [lookup_withoutProtoEntries, agreeOnProtoEntries_iff]
  constructor
  · intro hall
    refine ⟨?_, hall "__proto__", ?_⟩
    · intro key
      split_ifs with hname
      · exact .none
      · exact ((hkey key).mp (hall key)).1
    · intro entry hentry _ value' hvalue'
      exact ((hkey entry.1).mp (hall entry.1)).2 entry.2 (hmem.mpr hentry) value' hvalue'
  · rintro ⟨hrel, hproto, hagree⟩ key
    by_cases hname : key = "__proto__"
    · rw [hname]
      exact hproto
    · have hvalues := hrel key
      rw [if_neg hname, if_neg hname] at hvalues
      refine (hkey key).mpr ⟨hvalues, ?_⟩
      intro value hvalue value' hvalue'
      exact hagree (key, value) (hmem.mp hvalue) hname value' hvalue'

mutual

/-- The content of a value is that without `__proto__`, and what `__proto__` stands for. -/
theorem sameContent_iff_withoutProto : ∀ left : JsonValue, left.IsEnumerated →
    ∀ right, SameContent left right ↔
      SameContent (withoutProto left) (withoutProto right) ∧ AgreeOnProto left right
  | .null, _, right => by cases right <;> simp [sameContent_iff, withoutProto, AgreeOnProto]
  | .bool _, _, right => by cases right <;> simp [sameContent_iff, withoutProto, AgreeOnProto]
  | .number _, _, right => by cases right <;> simp [sameContent_iff, withoutProto, AgreeOnProto]
  | .string _, _, right => by cases right <;> simp [sameContent_iff, withoutProto, AgreeOnProto]
  | .array items, henumerated, right => by
      cases right with
      | array items' =>
          cases henumerated with
          | array hitems =>
              have hsame := forall₂_iff_withoutProto items hitems items'
              rw [sameContent_iff, sameContent_iff (withoutProto _)]
              simpa [withoutProto, AgreeOnProto] using hsame
      | _ => simp [sameContent_iff, withoutProto]
  | .object entries, henumerated, right => by
      cases right with
      | object entries' =>
          have hnodup := henumerated.nodup
          cases henumerated with
          | object horder hentries =>
              have hsame := rel_lookup_iff_withoutProto hnodup
                (entries_iff_withoutProto entries hentries) entries'
              rw [sameContent_iff, sameContent_iff (withoutProto _)]
              simpa [withoutProto, AgreeOnProto] using hsame
      | _ => simp [sameContent_iff, withoutProto]

theorem forall₂_iff_withoutProto : ∀ left : List JsonValue,
    (∀ item ∈ left, item.IsEnumerated) → ∀ right,
      List.Forall₂ SameContent left right ↔
        List.Forall₂ SameContent (withoutProtoItems left) (withoutProtoItems right) ∧
          AgreeOnProtoItems left right
  | [], _, right => by cases right <;> simp [withoutProtoItems, AgreeOnProtoItems]
  | item :: rest, hitems, right => by
      cases right with
      | nil => simp [withoutProtoItems]
      | cons item' rest' =>
          have hitem := sameContent_iff_withoutProto item (hitems item List.mem_cons_self) item'
          have hrest := forall₂_iff_withoutProto rest
            (fun other hother => hitems other (List.mem_cons_of_mem _ hother)) rest'
          rw [List.forall₂_cons, withoutProtoItems, withoutProtoItems, List.forall₂_cons,
            AgreeOnProtoItems, hitem, hrest]
          exact and_and_and_comm

theorem entries_iff_withoutProto : ∀ left : List (String × JsonValue),
    (∀ entry ∈ left, entry.2.IsEnumerated) → ∀ entry ∈ left, ∀ right,
      SameContent entry.2 right ↔
        SameContent (withoutProto entry.2) (withoutProto right) ∧ AgreeOnProto entry.2 right
  | [], _ => fun entry hentry => nomatch hentry
  | (key, value) :: rest, hentries => by
      rw [List.forall_mem_cons]
      exact ⟨sameContent_iff_withoutProto value (hentries (key, value) List.mem_cons_self),
        entries_iff_withoutProto rest
          fun other hother => hentries other (List.mem_cons_of_mem _ hother)⟩

end

namespace HandshakeProtocol

/-- Assigning properties creates those which are not named `__proto__`. -/
theorem foldl_assignProperty (entries : List (String × JsonValue)) :
    entries.foldl (fun acc entry => assignProperty acc entry.1 entry.2) [] =
      spread [] (entries.filter fun entry => entry.1 ≠ "__proto__") := by
  rw [spread, List.foldl_filter]
  congr 1
  funext acc entry
  unfold assignProperty
  by_cases hkey : entry.1 = "__proto__"
  · simp [hkey]
  · simp [hkey]

theorem map_fst_sortedEntries (entries : List (String × JsonValue)) :
    (sortedEntries entries).map Prod.fst = entries.map Prod.fst := by
  induction entries with
  | nil => rfl
  | cons entry rest ih =>
      obtain ⟨key, value⟩ := entry
      rw [sortedEntries, List.map_cons, List.map_cons, ih]

mutual

/-- The handshake is signed as if it had no properties named `__proto__`. -/
theorem sortedKeys_eq : ∀ value : JsonValue, value.IsEnumerated →
    sortedKeys value = TauriPlatform.sortedKeys (withoutProto value)
  | .null, _ => rfl
  | .bool _, _ => rfl
  | .number _, _ => rfl
  | .string _, _ => rfl
  | .array items, henumerated => by
      cases henumerated with
      | array hitems =>
          rw [sortedKeys, withoutProto, TauriPlatform.sortedKeys, sortedItems_eq items hitems]
  | .object entries, henumerated => by
      have hnodup := henumerated.nodup
      cases henumerated with
      | object horder hentries =>
          have hsorted := filter_insertionSort
            (by rwa [map_fst_sortedEntries] : ((sortedEntries entries).map Prod.fst).Nodup)
            fun entry => entry.1 ≠ "__proto__"
          rw [sortedKeys, foldl_assignProperty, withoutProto, TauriPlatform.sortedKeys,
            sortEntries_eq_spread, ← sortedEntries_eq entries hentries, ← hsorted]
          rfl

theorem sortedItems_eq : ∀ items : List JsonValue, (∀ item ∈ items, item.IsEnumerated) →
    sortedItems items = TauriPlatform.sortedItems (withoutProtoItems items)
  | [], _ => rfl
  | item :: rest, hitems => by
      rw [sortedItems, withoutProtoItems, TauriPlatform.sortedItems,
        sortedKeys_eq item (hitems item List.mem_cons_self),
        sortedItems_eq rest fun other hother => hitems other (List.mem_cons_of_mem _ hother)]

theorem sortedEntries_eq : ∀ entries : List (String × JsonValue),
    (∀ entry ∈ entries, entry.2.IsEnumerated) →
      ((sortedEntries entries).filter fun entry => entry.1 ≠ "__proto__") =
        TauriPlatform.sortedEntries (withoutProtoEntries entries)
  | [], _ => rfl
  | (key, value) :: rest, hentries => by
      have hrest := sortedEntries_eq rest
        fun other hother => hentries other (List.mem_cons_of_mem _ hother)
      rw [sortedEntries, List.filter_cons, hrest, withoutProtoEntries,
        sortedKeys_eq value (hentries (key, value) List.mem_cons_self)]
      by_cases hkey : key = "__proto__"
      · simp [hkey]
      · simp [hkey, TauriPlatform.sortedEntries]

end

theorem isEnumerated_withoutSignature {message : List (String × JsonValue)}
    (henumerated : (JsonValue.object message).IsEnumerated) :
    (JsonValue.object (withoutSignature message)).IsEnumerated := by
  cases henumerated with
  | object horder hentries =>
      have hordered : Ordered ([] ++ withoutSignature message) :=
        (ordered_of_spread_eq horder).sublist List.filter_sublist
      exact .object (spread_of_ordered hordered)
        fun entry hentry => hentries entry (List.mem_of_mem_filter hentry)

theorem canonicalizeParsed_eq_iff {left right : List (String × JsonValue)}
    (hleft : (JsonValue.object left).IsEnumerated)
    (hright : (JsonValue.object right).IsEnumerated) :
    canonicalizeParsed left = canonicalizeParsed right ↔
      SameContent (withoutProto (.object (withoutSignature left)))
        (withoutProto (.object (withoutSignature right))) := by
  have henumerated := isEnumerated_withoutSignature hleft
  have henumerated' := isEnumerated_withoutSignature hright
  rw [canonicalizeParsed, canonicalizeParsed, sortedKeys_eq _ henumerated,
    sortedKeys_eq _ henumerated']
  exact canonical_toUTF8_eq_iff (isEnumerated_withoutProto _ henumerated)
    (isEnumerated_withoutProto _ henumerated')

def messageEntries (message : HandshakeMessage) : List (String × JsonValue) :=
  [("applicationId", .string message.applicationId),
    ("applicationVersion", .string message.applicationVersion),
    ("protocolVersion", message.protocolVersion.toJson),
    ("deviceId", .string message.deviceId),
    ("organisationId", .string message.organisationId),
    ("platform", .string message.platform),
    ("supportedFeatures", .array (message.supportedFeatures.map .string)),
    ("supportedEntityVersions",
      .object (message.supportedEntityVersions.map fun entry => (entry.1, entry.2.toJson))),
    ("timestamp", .string message.timestamp),
    ("nonce", .string message.nonce),
    ("signerPublicKey", .string message.signerPublicKey),
    ("signature", .string message.signature)]

theorem withoutProtoItems_strings (texts : List String) :
    withoutProtoItems (texts.map .string) = texts.map .string := by
  induction texts with
  | nil => rfl
  | cons text rest ih =>
      rw [List.map_cons, withoutProtoItems, ih]
      rfl

theorem withoutProto_toJson (value : NumberValue) : withoutProto value.toJson = value.toJson := by
  cases value <;> rfl

theorem withoutProtoEntries_versions (versions : List (String × NumberValue)) :
    withoutProtoEntries (versions.map fun entry => (entry.1, entry.2.toJson)) =
      (versions.filter fun entry => entry.1 ≠ "__proto__").map
        fun entry => (entry.1, entry.2.toJson) := by
  induction versions with
  | nil => rfl
  | cons entry rest ih =>
      rw [List.map_cons, withoutProtoEntries, ih, List.filter_cons, withoutProto_toJson]
      by_cases hname : entry.1 = "__proto__"
      · simp [hname]
      · simp [hname]

theorem canonicalizeHandshake_eq {message : HandshakeMessage}
    (henumerated : (JsonValue.object (messageEntries message)).IsEnumerated) :
    canonicalizeHandshake message = canonicalizeParsed (messageEntries message) := by
  rw [canonicalizeParsed, sortedKeys_eq _ (isEnumerated_withoutSignature henumerated)]
  simp [canonicalizeHandshake, withoutSignature, messageEntries, withoutProto,
    withoutProtoEntries, withoutProto_toJson, withoutProtoItems_strings,
    withoutProtoEntries_versions]

open OutboxService in
def noteHandshake (versions : List (String × NumberValue)) : HandshakeMessage where
  applicationId := "app"
  applicationVersion := "1.0.0"
  protocolVersion := .finite (.integer 1)
  deviceId := "device"
  organisationId := "org"
  platform := "linux"
  supportedFeatures := ["notes"]
  supportedEntityVersions := versions
  timestamp := noteSignedAt
  nonce := "0123456789abcdef0123456789abcdef"
  signerPublicKey := notePublicKey
  signature := noteSignature

def protoVersions : List (String × NumberValue) :=
  [("__proto__", .finite (.integer 7))]

variable {versions : List (String × NumberValue)}

theorem isEnumerated_versions (hversions : versions ∈ [protoVersions, []]) :
    (JsonValue.object (versions.map fun entry => (entry.1, entry.2.toJson))).IsEnumerated := by
  simp only [List.mem_cons, List.not_mem_nil, or_false] at hversions
  rcases hversions with rfl | rfl
  · refine .object rfl ?_
    intro entry hentry
    rw [List.mem_singleton.mp hentry]
    exact .number _
  · exact .object rfl fun entry hentry => by cases hentry

theorem isEnumerated_noteHandshake (hversions : versions ∈ [protoVersions, []]) :
    (JsonValue.object (messageEntries (noteHandshake versions))).IsEnumerated := by
  refine .object (spread_append ?_ ?_) ?_
  · change ["applicationId", "applicationVersion", "protocolVersion", "deviceId",
      "organisationId", "platform", "supportedFeatures", "supportedEntityVersions", "timestamp",
      "nonce", "signerPublicKey", "signature"].Nodup
    decide
  · change ∀ key ∈ ["applicationId", "applicationVersion", "protocolVersion", "deviceId",
      "organisationId", "platform", "supportedFeatures", "supportedEntityVersions", "timestamp",
      "nonce", "signerPublicKey", "signature"], arrayIndex? key = none
    decide
  · intro entry hentry
    simp only [messageEntries, List.mem_cons, List.not_mem_nil, or_false] at hentry
    rcases hentry with rfl | rfl | rfl | rfl | rfl | rfl | rfl | rfl | rfl | rfl | rfl | rfl
    case inr.inr.inr.inr.inr.inr.inl =>
      refine .array ?_
      intro item hitem
      rw [List.mem_singleton.mp hitem]
      exact .string _
    case inr.inr.inr.inr.inr.inr.inr.inl => exact isEnumerated_versions hversions
    all_goals constructor

theorem parse_noteHandshake (hversions : versions ∈ [protoVersions, []]) :
    parseJson? (JsonValue.object (messageEntries (noteHandshake versions))).stringify =
      some (.object (messageEntries (noteHandshake versions))) :=
  parseJson?_stringify (isEnumerated_noteHandshake hversions)

end HandshakeProtocol
end TauriPlatform
