import TauriPlatform.InboxService

/-!
# The inbox over a history of deliveries

Deliveries arrive one after another, in any order and with any outcomes of the
signature check.  The row of an envelope id is always the one which the first
well formed delivery of that id inserted; a genuine envelope is therefore held
exactly when that first delivery was verified.
-/

namespace TauriPlatform

open Async Relational

namespace InboxService

/-- One call of `receive`: what it is given and what it reads. -/
structure Delivery where
  recordId : String
  now : String
  envelope : JsonValue
  verifyFn : VerifyFn

def Delivery.presents (envelopeId : String) (delivery : Delivery) : Bool :=
  match SyncEnvelopeBuilder.validateEnvelope delivery.envelope with
  | .ok validated => validated.envelopeId = envelopeId
  | .error _ => false

def Delivery.verified (delivery : Delivery) : Bool :=
  deliveredStatus delivery.envelope delivery.verifyFn = .verified

def Delivery.row (delivery : Delivery) (validated : SyncEnvelope) : InboxRow :=
  deliveredRow delivery.recordId delivery.now validated
    (deliveredStatus delivery.envelope delivery.verifyFn)

/-- The table after one call of `receive`. -/
def deliver (table : InboxTable) (delivery : Delivery) : InboxTable :=
  ((receive (connectionExecutor InboxTable) delivery.recordId delivery.now
    delivery.envelope delivery.verifyFn).run memoryConnection table).2

def afterDeliveries (deliveries : List Delivery) : InboxTable :=
  deliveries.foldl deliver Table.empty

variable {delivery : Delivery}

theorem Delivery.presents_iff {envelopeId : String} :
    delivery.presents envelopeId ↔
      ∃ validated, SyncEnvelopeBuilder.validateEnvelope delivery.envelope =
        .ok validated ∧ validated.envelopeId = envelopeId := by
  unfold Delivery.presents
  cases SyncEnvelopeBuilder.validateEnvelope delivery.envelope with
  | error message => simp
  | ok validated => simp

/-! ## One delivery -/

variable {table : InboxTable}

theorem deliver_of_invalid {message : String}
    (hinvalid : SyncEnvelopeBuilder.validateEnvelope delivery.envelope = .error message) :
    deliver table delivery = table :=
  receive_run_of_invalid hinvalid table

theorem deliver_of_stored {validated : SyncEnvelope}
    (hvalid : SyncEnvelopeBuilder.validateEnvelope delivery.envelope = .ok validated)
    (hstored : ∃ row ∈ table, row.envelopeId = validated.envelopeId) :
    deliver table delivery = table := by
  have hany : (table.rows.any fun other =>
      other.envelopeId = (delivery.row validated).envelopeId) = true := by
    obtain ⟨row, hrow, hid⟩ := hstored
    exact List.any_eq_true.mpr ⟨row, hrow, decide_eq_true hid⟩
  rw [deliver, receive_run_of_valid hvalid, insertIgnoringDuplicates]
  rw [Delivery.row] at hany
  rw [if_pos hany]

theorem deliver_of_new {validated : SyncEnvelope}
    (hvalid : SyncEnvelopeBuilder.validateEnvelope delivery.envelope = .ok validated)
    (hnew : ∀ row ∈ table, row.envelopeId ≠ validated.envelopeId)
    (hfresh : ∀ row ∈ table, row.id ≠ delivery.recordId) :
    (deliver table delivery).rows = table.rows ++ [delivery.row validated] := by
  have hany : ¬ (table.rows.any fun other =>
      other.envelopeId = (delivery.row validated).envelopeId) = true := by
    rw [List.any_eq_true]
    rintro ⟨row, hrow, hid⟩
    exact hnew row hrow (of_decide_eq_true hid)
  have hinsert : (table.insert? (delivery.row validated)).isSome := by
    apply Table.insert?_isSome
    intro index hindex key hkey other hother
    simp only [inboxIndexes, List.mem_cons, List.not_mem_nil, or_false] at hindex
    rcases hindex with rfl | rfl
    · cases hkey
      exact fun h => hfresh other hother (Option.some.inj h)
    · cases hkey
      exact fun h => hnew other hother (Option.some.inj h)
  obtain ⟨later, hlater⟩ := Option.isSome_iff_exists.mp hinsert
  have hrows := Table.insert?_eq_some_iff.mp hlater
  rw [deliver, receive_run_of_valid hvalid, insertIgnoringDuplicates]
  rw [Delivery.row] at hany hlater
  rw [if_neg hany, hlater]
  exact hrows

/-! ## The whole history -/

/-- Every row stems from the first well formed delivery of its envelope id, and
every well formed delivery left a row for its id. -/
structure History (deliveries : List Delivery) (table : InboxTable) : Prop where
  stored : ∀ row ∈ table, ∃ delivery validated,
    deliveries.find? (Delivery.presents row.envelopeId) = some delivery ∧
      SyncEnvelopeBuilder.validateEnvelope delivery.envelope = .ok validated ∧
      row = delivery.row validated
  present : ∀ delivery ∈ deliveries, ∀ envelopeId, delivery.presents envelopeId →
    ∃ row ∈ table, row.envelopeId = envelopeId

theorem History.empty : History [] Table.empty where
  stored row hrow := by cases hrow
  present delivery hdelivery := by cases hdelivery

theorem find?_append_of_eq_some {α : Type} {p : α → Bool} {xs ys : List α} {x : α}
    (hfind : xs.find? p = some x) : (xs ++ ys).find? p = some x := by
  rw [List.find?_append, hfind, Option.some_or]

variable {deliveries : List Delivery}

/-- A table which a delivery does not change still has a history, provided the
delivery is malformed or its envelope id is stored. -/
theorem History.skip (history : History deliveries table)
    (hskip : ∀ envelopeId, delivery.presents envelopeId →
      ∃ row ∈ table, row.envelopeId = envelopeId) :
    History (deliveries ++ [delivery]) table where
  stored row hrow := by
    obtain ⟨first, validated, hfirst, hvalid, hrowEq⟩ := history.stored row hrow
    exact ⟨first, validated, find?_append_of_eq_some hfirst, hvalid, hrowEq⟩
  present other hother envelopeId hpresents := by
    rcases List.mem_append.mp hother with hold | hnew
    · exact history.present other hold envelopeId hpresents
    · rw [List.mem_singleton] at hnew
      subst hnew
      exact hskip envelopeId hpresents

theorem History.deliver (history : History deliveries table)
    (hfresh : delivery.recordId ∉ deliveries.map Delivery.recordId) :
    History (deliveries ++ [delivery]) (deliver table delivery) := by
  cases hvalid : SyncEnvelopeBuilder.validateEnvelope delivery.envelope with
  | error message =>
      rw [deliver_of_invalid hvalid]
      refine history.skip fun envelopeId hpresents => ?_
      obtain ⟨validated, hok, -⟩ := Delivery.presents_iff.mp hpresents
      rw [hvalid] at hok
      cases hok
  | ok validated =>
      have hpresents : ∀ envelopeId, delivery.presents envelopeId ↔
          validated.envelopeId = envelopeId := by
        intro envelopeId
        rw [Delivery.presents_iff, hvalid]
        simp
      by_cases hstored : ∃ row ∈ table, row.envelopeId = validated.envelopeId
      · rw [deliver_of_stored hvalid hstored]
        refine history.skip fun envelopeId hthis => ?_
        rw [← (hpresents envelopeId).mp hthis]
        exact hstored
      · have hnew : ∀ row ∈ table, row.envelopeId ≠ validated.envelopeId :=
          fun row hrow hid => hstored ⟨row, hrow, hid⟩
        have hids : ∀ row ∈ table, row.id ≠ delivery.recordId := by
          intro row hrow hid
          obtain ⟨first, other, hfirst, -, hrowEq⟩ := history.stored row hrow
          apply hfresh
          rw [← hid, hrowEq]
          exact List.mem_map.mpr ⟨first, List.mem_of_find?_eq_some hfirst, rfl⟩
        have hunseen : deliveries.find? (Delivery.presents validated.envelopeId) =
            none := by
          rw [List.find?_eq_none]
          intro other hother hpresented
          exact hstored (history.present other hother _ hpresented)
        have hrows := deliver_of_new hvalid hnew hids
        have hmem : ∀ row, row ∈ InboxService.deliver table delivery ↔
            row ∈ table ∨ row = delivery.row validated := by
          intro row
          rw [Table.mem_def, hrows, List.mem_append, List.mem_singleton]
          rfl
        constructor
        · intro row hrow
          rcases (hmem row).mp hrow with hold | rfl
          · obtain ⟨first, other, hfirst, hok, hrowEq⟩ := history.stored row hold
            exact ⟨first, other, find?_append_of_eq_some hfirst, hok, hrowEq⟩
          · refine ⟨delivery, validated, ?_, hvalid, rfl⟩
            change (deliveries ++ [delivery]).find?
              (Delivery.presents validated.envelopeId) = some delivery
            rw [List.find?_append, hunseen, Option.none_or]
            exact List.find?_cons_of_pos ((hpresents _).mpr rfl)
        · intro other hother envelopeId hpresented
          rcases List.mem_append.mp hother with hold | hlast
          · obtain ⟨row, hrow, hid⟩ := history.present other hold envelopeId hpresented
            exact ⟨row, (hmem row).mpr (.inl hrow), hid⟩
          · rw [List.mem_singleton] at hlast
            subst hlast
            exact ⟨other.row validated, (hmem _).mpr (.inr rfl),
              (hpresents envelopeId).mp hpresented⟩

theorem history_afterDeliveries (deliveries : List Delivery)
    (hfresh : (deliveries.map Delivery.recordId).Nodup) :
    History deliveries (afterDeliveries deliveries) := by
  induction deliveries using List.reverseRecOn with
  | nil => exact .empty
  | append_singleton deliveries delivery ih =>
      rw [List.map_append, List.nodup_append'] at hfresh
      have hnew : delivery.recordId ∉ deliveries.map Delivery.recordId := by
        intro hmem
        exact hfresh.2.2 hmem (by simp)
      have hbefore := ih hfresh.1
      unfold afterDeliveries at hbefore ⊢
      rw [List.foldl_append]
      exact hbefore.deliver hnew

theorem History.select_eq (history : History deliveries table) {envelopeId : String}
    {first : Delivery} (hfirst : deliveries.find? (Delivery.presents envelopeId) = some first) :
    ∃ validated, SyncEnvelopeBuilder.validateEnvelope first.envelope = .ok validated ∧
      validated.envelopeId = envelopeId ∧
      (table.select fun row => row.envelopeId = envelopeId) = [first.row validated] := by
  obtain ⟨row, hrow, hid⟩ := history.present first (List.mem_of_find?_eq_some hfirst)
    envelopeId (List.find?_some hfirst)
  obtain ⟨delivery, validated, hfind, hvalid, hrowEq⟩ := history.stored row hrow
  rw [hid, hfirst] at hfind
  cases hfind
  refine ⟨validated, hvalid, by rw [← hid, hrowEq]; rfl, ?_⟩
  have hselect := Table.select_eq_singleton (fun row : InboxRow => some row.envelopeId)
    (by simp [inboxIndexes]) hrow (congrArg some hid)
  rw [← hrowEq, ← hselect]
  congr 1
  funext other
  simp

/-! ## Genuine envelopes -/

/-- The inbox has exactly one row for the envelope's id; it is verified and holds
the envelope's own payload, signer and signature. -/
def HoldsVerified (table : InboxTable) (envelope : SyncEnvelope) : Prop :=
  ∃ row, (table.select fun row => row.envelopeId = envelope.envelopeId) = [row] ∧
    row.verificationStatus = .verified ∧
    row.payloadJson = envelope.operation.payload.stringify ∧
    row.signerPublicKey = envelope.signerPublicKey ∧
    row.signature = envelope.signature

theorem Delivery.row_verificationStatus (delivery : Delivery)
    (validated : SyncEnvelope) :
    (delivery.row validated).verificationStatus = .verified ↔ delivery.verified := by
  simp [Delivery.row, deliveredRow, Delivery.verified]

/-- After the delivery of an envelope, no other envelope of its id having been
verified before, the inbox holds it exactly when the first well formed delivery of
the id was verified. -/
theorem holdsVerified_iff_first_verified (earlier : List Delivery) (last : Delivery)
    (validated : SyncEnvelope)
    (hfresh : ((earlier ++ [last]).map Delivery.recordId).Nodup)
    (haccepted : SyncEnvelopeBuilder.validateEnvelope last.envelope = .ok validated)
    (hgenuine : ∀ delivery ∈ earlier, delivery.presents validated.envelopeId →
      delivery.verified → delivery.envelope = last.envelope) :
    HoldsVerified (afterDeliveries (earlier ++ [last])) validated ↔
      ∃ first, (earlier ++ [last]).find? (Delivery.presents validated.envelopeId) =
        some first ∧ first.verified := by
  have history := history_afterDeliveries (earlier ++ [last]) hfresh
  have hlast : last.presents validated.envelopeId :=
    Delivery.presents_iff.mpr ⟨validated, haccepted, rfl⟩
  have hfound : ((earlier ++ [last]).find?
      (Delivery.presents validated.envelopeId)).isSome := by
    rw [List.find?_isSome]
    exact ⟨last, by simp, hlast⟩
  obtain ⟨first, hfirst⟩ := Option.isSome_iff_exists.mp hfound
  obtain ⟨stored, hstored, -, hselect⟩ := history.select_eq hfirst
  constructor
  · rintro ⟨row, hrow, hstatus, -⟩
    rw [hselect, List.cons.injEq] at hrow
    rw [← hrow.1, Delivery.row_verificationStatus] at hstatus
    exact ⟨first, hfirst, hstatus⟩
  · rintro ⟨other, hother, hfirstVerified⟩
    rw [hfirst, Option.some.injEq] at hother
    subst hother
    have hsame : first.envelope = last.envelope := by
      rcases List.mem_append.mp (List.mem_of_find?_eq_some hfirst) with hearlier | hthis
      · exact hgenuine first hearlier (List.find?_some hfirst) hfirstVerified
      · rw [List.mem_singleton] at hthis
        rw [hthis]
    rw [hsame, haccepted] at hstored
    cases hstored
    exact ⟨first.row validated, hselect,
      (first.row_verificationStatus validated).mpr hfirstVerified, rfl, rfl, rfl⟩

/-- An envelope for one operation id, with a payload and one hexadecimal digit which
fills the key and the signature. -/
def sampleEnvelope (payload : String) (digit : Char) : JsonValue :=
  .object [("envelopeId", .string "op-1"),
    ("signedAt", .string "2026-01-01T00:00:00.000Z"),
    ("signerPublicKey",
      .string (String.ofList ("ed25519_pk_".toList ++ List.replicate 64 digit))),
    ("signature", .string (String.ofList (List.replicate 128 digit))),
    ("operation", .object [("operationId", .string "op-1"),
      ("applicationId", .string "app"), ("organisationId", .string "org"),
      ("syncGroupId", .string "group"), ("featureId", .string "notes"),
      ("entityType", .string "note"), ("entityId", .string "note-1"),
      ("operation", .string "create"), ("payload", .string payload),
      ("authorId", .string "user"), ("deviceId", .string "device"),
      ("logicalTimestamp", .string "1_0_device"),
      ("schemaVersion", .number (.integer 1)),
      ("protocolVersion", .number (.integer 1))])]

def genuineDelivery : Delivery where
  recordId := "inbox_2"
  now := "2026-01-01T00:00:01.000Z"
  envelope := sampleEnvelope "genuine" 'a'
  verifyFn := fun _ _ _ => .ok true

def forgedDelivery : Delivery where
  recordId := "inbox_1"
  now := "2026-01-01T00:00:00.000Z"
  envelope := sampleEnvelope "forged" 'b'
  verifyFn := fun _ _ _ => .ok false

set_option maxRecDepth 4000 in
theorem genuineDelivery_presents : genuineDelivery.presents "op-1" = true := by
  decide

set_option maxRecDepth 4000 in
theorem forgedDelivery_presents : forgedDelivery.presents "op-1" = true := by
  decide

theorem genuineDelivery_verified : genuineDelivery.verified = true := by
  obtain ⟨validated, haccepted, -⟩ := Delivery.presents_iff.mp genuineDelivery_presents
  rw [Delivery.verified, deliveredStatus,
    SyncEnvelopeBuilder.verify_of_accepted haccepted]
  rfl

theorem forgedDelivery_not_verified : forgedDelivery.verified = false := by
  obtain ⟨validated, haccepted, -⟩ := Delivery.presents_iff.mp forgedDelivery_presents
  rw [Delivery.verified, deliveredStatus,
    SyncEnvelopeBuilder.verify_of_accepted haccepted]
  rfl

theorem holdsVerified_of_genuine_first :
    ∃ validated, SyncEnvelopeBuilder.validateEnvelope genuineDelivery.envelope =
        .ok validated ∧
      HoldsVerified (afterDeliveries ([] ++ [genuineDelivery])) validated := by
  obtain ⟨validated, haccepted, hid⟩ :=
    Delivery.presents_iff.mp genuineDelivery_presents
  refine ⟨validated, haccepted,
    (holdsVerified_iff_first_verified [] genuineDelivery validated (by simp)
      haccepted (by simp)).mpr ⟨genuineDelivery, ?_, genuineDelivery_verified⟩⟩
  rw [hid]
  exact List.find?_cons_of_pos genuineDelivery_presents

/-- Delivered after the forgery, the genuine envelope is verified and yet not held:
the refused row of the forgery stays. -/
theorem genuine_lost_after_forgery :
    ∃ validated, SyncEnvelopeBuilder.validateEnvelope genuineDelivery.envelope =
        .ok validated ∧
      genuineDelivery.verified = true ∧
      forgedDelivery.verified = false ∧
      ¬ HoldsVerified (afterDeliveries [forgedDelivery, genuineDelivery]) validated := by
  obtain ⟨validated, haccepted, hid⟩ :=
    Delivery.presents_iff.mp genuineDelivery_presents
  refine ⟨validated, haccepted, genuineDelivery_verified, forgedDelivery_not_verified, ?_⟩
  have history := history_afterDeliveries [forgedDelivery, genuineDelivery] (by decide)
  have hfirst : [forgedDelivery, genuineDelivery].find? (Delivery.presents "op-1") =
      some forgedDelivery :=
    List.find?_cons_of_pos forgedDelivery_presents
  obtain ⟨forged, -, -, hselect⟩ := history.select_eq hfirst
  rintro ⟨row, hrow, hstatus, -⟩
  rw [hid, hselect, List.cons.injEq] at hrow
  rw [← hrow.1, Delivery.row_verificationStatus, forgedDelivery_not_verified] at hstatus
  cases hstatus

end InboxService
end TauriPlatform
