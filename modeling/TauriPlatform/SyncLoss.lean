import TauriPlatform.SyncDelivery

/-!
# Acknowledged and lost

Between the acknowledgement and the inbox a message is kept in memory only.  Any envelope
which can be sent can be acknowledged, be marked as sent, and be lost when the receiver
crashes before its handler has run.
-/

namespace TauriPlatform.SyncEndpoint

open Async Relational OutboxService

/-! ## A run of the worker up to its dispatch -/

section Sending

variable {Allowed : Network → Prop} (hallowed : ∀ net, Allowed net)

abbrev Runs {α : Type} (Allowed : Network → Prop) (program : Program NetworkCall Thrown α)
    (net : Network) (later : Program NetworkCall Thrown α) (net' : Network) : Prop :=
  program.Advances network Allowed net later net'

def dispatchedBy (endpointId : String) (dispatch : Program NetworkCall Thrown Unit) :
    OutboxSyncWorker.Services NetworkCall :=
  { senderServices endpointId with dispatch := fun _ _ _ => dispatch }

def dispatching (endpointId organisationId : String) (entry : OutboxRecord)
    (dispatch : Program NetworkCall Thrown Unit) : Program NetworkCall Thrown Unit :=
  (OutboxSyncWorker.dispatchEntry (dispatchedBy endpointId dispatch) entry >>= fun dispatched =>
    if dispatched then pure (1, 0) else pure (0, 1)) >>= fun (dispatched, failed) => do
    if ← (senderServices endpointId).aborted then
      throw (.builtin "Error" "Outbox sync was aborted before the batch completed")
    else
      OutboxSyncWorker.persistCursor (senderServices endpointId) organisationId
      if 0 < failed ∧ dispatched = 0 then
        throw (.builtin "Error"
          s!"[OutboxSyncWorker] All {failed} envelopes failed to dispatch.")
      else pure ()

theorem dispatchEntry_dispatchedBy (endpointId : String) (entry : OutboxRecord) :
    OutboxSyncWorker.dispatchEntry
        (dispatchedBy endpointId (dispatchEnvelope endpointId entry.envelopeJson)) entry =
      OutboxSyncWorker.dispatchEntry (senderServices endpointId) entry := by
  unfold OutboxSyncWorker.dispatchEntry
  rfl

theorem runs_dispatching {endpointId organisationId : String} {entry : OutboxRecord}
    {dispatch later : Program NetworkCall Thrown Unit} {net net' : Network}
    (hdispatch : Runs Allowed dispatch net later net') :
    Runs Allowed (dispatching endpointId organisationId entry dispatch) net
      (dispatching endpointId organisationId entry later) net' := by
  apply Program.Advances.bind
  apply Program.Advances.bind
  apply Program.Advances.tryCatch
  exact hdispatch.bind _

include hallowed in
theorem runs_await {α : Type} {request : NetworkCall α} {value : α} {net net' : Network}
    (hanswer : network request net (.ok value) net') :
    Runs Allowed (Program.await request) net (pure value) net' :=
  Program.Advances.await (hallowed net) hanswer

include hallowed in
theorem runs_outbox {α : Type} (program : Program (DbCall OutboxDatabase) Thrown α)
    (net : Network) :
    Runs Allowed (program.mapCall fun _ => NetworkCall.outbox) net
      (Program.ofExcept (program.run memoryConnection net.outbox).1)
      { net with outbox := (program.run memoryConnection net.outbox).2 } := by
  induction program generalizing net with
  | done outcome => exact .refl _ _
  | call request rest ih =>
      have hanswer : network (.outbox request) net (memoryConnection request net.outbox).1
          { net with outbox := (memoryConnection request net.outbox).2 } :=
        ⟨_, .inl rfl, rfl⟩
      exact .step _ (hallowed net) hanswer
        (ih _ { net with outbox := (memoryConnection request net.outbox).2 })

include hallowed in
theorem runs_handle {endpointId organisationId : String} {payload : JsonValue}
    {entry : OutboxRecord} {net : Network}
    (hpayload : (payload.get? "organisationId").bind JsonValue.string? = some organisationId)
    (hbatch : (pendingBatch organisationId (OutboxSyncWorker.batchLimitOf payload)).run
      memoryConnection net.outbox = (.ok [entry], net.outbox)) :
    Runs Allowed
      (OutboxSyncWorker.handle (senderServices endpointId) organisationId payload) net
      (dispatching endpointId organisationId entry
        (dispatchEnvelope endpointId entry.envelopeJson)) net := by
  have haborted : Runs Allowed (senderServices endpointId).aborted net (pure false) net :=
    runs_await hallowed rfl
  have hload := runs_outbox hallowed
    (pendingBatch organisationId (OutboxSyncWorker.batchLimitOf payload)) net
  rw [hbatch] at hload
  unfold OutboxSyncWorker.handle dispatching
  rw [if_neg (fun hmismatch => hmismatch hpayload), dispatchEntry_dispatchedBy]
  apply Program.Advances.trans (haborted.bind _)
  apply Program.Advances.trans (hload.bind _)
  exact (haborted.bind _).bind _

include hallowed in
theorem runs_attempt {α β : Type} {request : NetworkCall (Except StreamFailure α)}
    (toError : StreamFailure → SyncTransportError)
    (next : α → ExceptT SyncTransportError (Program NetworkCall Thrown) β) {value : α}
    {net net' : Network} (hanswer : network request net (.ok (.ok value)) net') :
    Runs Allowed (attempt request toError >>= next).run net (next value).run net' :=
  .step _ (hallowed net) hanswer (.refl _ _)

def writtenStream (epoch : Nat) (bytes : List UInt8) : SyncStream :=
  { SyncStream.opened epoch with written := bytes }

/-- The rest of `send_envelope`, once everything is written. -/
def awaitAck (stream : Nat) : ExceptT SyncTransportError (Program NetworkCall Thrown) Unit := do
  let _ack ← attempt (.readAck stream) fun
    | .timedOut => .stream "ACK timed out"
    | .failed text => .stream s!"ACK failed: {text}"
  pure ()

def Network.withStream (net : Network) (stream : SyncStream) : Network :=
  { net with streams := [stream] }

theorem network_openBi {endpointId : String} {net : Network} (hstreams : net.streams = []) :
    network (.openBi endpointId) net (.ok (.ok 0)) (net.withStream (.opened net.epoch)) := by
  apply Or.inl
  rw [hstreams]
  exact ⟨rfl, rfl⟩

theorem network_writeAll (net : Network) (epoch : Nat) (front bytes : List UInt8) :
    network (.writeAll 0 bytes) (net.withStream (writtenStream epoch front)) (.ok (.ok ()))
      (net.withStream (writtenStream epoch (front ++ bytes))) :=
  ⟨bytes, List.prefix_refl _, rfl, .inl ⟨rfl, rfl⟩⟩

include hallowed in
theorem runs_sendEnvelope (endpointId : String) {payloadJson : String} {length : Nat}
    (net : Network) (hlength : frameLength (payloadBytes payloadJson).length = .ok length)
    (hstreams : net.streams = []) :
    Runs Allowed (sendEnvelope endpointId payloadJson).run net (awaitAck 0).run
      (net.withStream
        (writtenStream net.epoch (lengthBytes length ++ payloadBytes payloadJson))) := by
  have hparse : network (.parseEndpointId endpointId) net (.ok (.ok endpointId)) net := rfl
  have hconnected : network (.isConnected endpointId) net (.ok true) net := rfl
  have hfront := network_writeAll net net.epoch [] (lengthBytes length)
  have hpayload := network_writeAll net net.epoch (lengthBytes length) (payloadBytes payloadJson)
  have hfinish : network (.finish 0) (net.withStream (writtenStream net.epoch
      (lengthBytes length ++ payloadBytes payloadJson))) (.ok (.ok ())) _ := rfl
  unfold sendEnvelope
  apply Program.Advances.trans (runs_attempt hallowed _ _ hparse)
  rw [hlength]
  apply Program.Advances.step (.ok true) (hallowed net) hconnected
  apply Program.Advances.trans (runs_attempt hallowed _ _ (network_openBi hstreams))
  apply Program.Advances.trans (runs_attempt hallowed _ _ hfront)
  apply Program.Advances.trans (runs_attempt hallowed _ _ hpayload)
  exact runs_attempt hallowed _ _ hfinish

include hallowed in
theorem runs_awaitAck (net : Network) (current : SyncStream) {byte : UInt8}
    {rest : List UInt8} (hack : current.ack = byte :: rest) :
    Runs Allowed (awaitAck 0).run (net.withStream current) (pure (.ok ()))
      (net.withStream { current with ack := rest }) := by
  have hread : network (.readAck 0) (net.withStream current) (.ok (.ok byte))
      (net.withStream { current with ack := rest }) :=
    .inl ⟨current, byte, rest, rfl, hack, rfl, rfl⟩
  exact runs_attempt hallowed _ _ hread

/-! ## A run of the receiver up to its acknowledgement -/

def servedStream (epoch : Nat) (bytes : List UInt8) (consumed : Nat) (ack : List UInt8) :
    SyncStream where
  epoch := epoch
  written := bytes
  accepted := true
  consumed := consumed
  ack := ack

def Network.took (net : Network) (message : InboundEnvelopeMessage) : Network :=
  { net with
    inbound := net.inbound ++ [message]
    accepted := net.accepted ++ [message] }

theorem runs_then {α β : Type} {request : NetworkCall α} {value : α}
    (next : α → Program NetworkCall Thrown β) {net net' : Network} (hnet : Allowed net)
    (hanswer : network request net (.ok value) net') :
    Runs Allowed (Program.await request >>= next) net (next value) net' :=
  .step _ hnet hanswer (.refl _ _)

theorem runs_serving {α β : Type} {request : NetworkCall α} {value : α}
    (next : α → Program NetworkCall Thrown β) {net net' : Network} {epoch : Nat}
    {remoteEndpointId : String} (hanswer : network request net (.ok value) net')
    (hepoch : net.epoch = epoch) :
    Runs (Activity.serve epoch remoteEndpointId).Alive (Program.await request >>= next) net
      (next value) net' :=
  runs_then next hepoch.symm hanswer

theorem runs_serveStream (remoteEndpointId : String) {payloadJson : String} {length : Nat}
    (net : Network) (hlength : frameLength (payloadBytes payloadJson).length = .ok length)
    (hinbound : net.inbound.length < inboundQueueCapacity) :
    Runs (Activity.serve net.epoch remoteEndpointId).Alive (serveStream remoteEndpointId)
      (net.withStream
        (writtenStream net.epoch (lengthBytes length ++ payloadBytes payloadJson)))
      (pure ())
      ((net.withStream (servedStream net.epoch
        (lengthBytes length ++ payloadBytes payloadJson) (4 + length) [1])).took
          ⟨remoteEndpointId, payloadJson⟩) := by
  obtain ⟨rfl, hsize, hfits⟩ := frameLength_eq_ok hlength
  have hround := lengthOfBytes_lengthBytes hfits
  generalize hbody : payloadBytes payloadJson = body at *
  generalize hfront : lengthBytes body.length = front at *
  have hfour : front.length = 4 := by
    rw [← hfront]
    rfl
  have hpayload : payloadOfBytes? body = some payloadJson := by
    rw [← hbody]
    exact payloadOfBytes?_payloadBytes payloadJson
  let served := fun consumed ack =>
    net.withStream (servedStream net.epoch (front ++ body) consumed ack)
  have haccept : network .acceptBi (net.withStream (writtenStream net.epoch (front ++ body)))
      (.ok (.ok 0)) (served 0 []) :=
    .inl ⟨0, _, rfl, rfl, rfl, rfl, rfl⟩
  have hreadFront : network (.readExact 0 4) (served 0 []) (.ok (.ok front)) (served 4 []) := by
    refine .inl ⟨_, rfl, ?_, ?_, rfl⟩
    · change 0 + 4 ≤ (front ++ body).length
      rw [List.length_append]
      omega
    · change _ = Except.ok (Except.ok ((front ++ body).take 4))
      rw [← hfour, List.take_left]
  have hreadBody : network (.readExact 0 body.length) (served 4 []) (.ok (.ok body))
      (served (4 + body.length) []) := by
    refine .inl ⟨_, rfl, ?_, ?_, rfl⟩
    · change 4 + body.length ≤ (front ++ body).length
      rw [List.length_append]
      omega
    · change _ = Except.ok (Except.ok (((front ++ body).drop 4).take body.length))
      rw [← hfour, List.drop_left, List.take_length]
  have hsend : network (.sendInbound ⟨remoteEndpointId, payloadJson⟩)
      (served (4 + body.length) []) (.ok (.ok ()))
      ((served (4 + body.length) []).took ⟨remoteEndpointId, payloadJson⟩) :=
    .inl ⟨hinbound, rfl, rfl⟩
  have hack : network (.writeAck 0 [1])
      ((served (4 + body.length) []).took ⟨remoteEndpointId, payloadJson⟩) (.ok (.ok ()))
      ((served (4 + body.length) [1]).took ⟨remoteEndpointId, payloadJson⟩) :=
    ⟨[1], List.prefix_refl _, rfl, .inl ⟨rfl, rfl⟩⟩
  have hfinish : network (.finishAck 0)
      ((served (4 + body.length) [1]).took ⟨remoteEndpointId, payloadJson⟩) (.ok (.ok ()))
      ((served (4 + body.length) [1]).took ⟨remoteEndpointId, payloadJson⟩) := rfl
  unfold serveStream
  apply Program.Advances.trans (runs_serving _ haccept rfl)
  apply Program.Advances.trans (runs_serving _ hreadFront rfl)
  dsimp only
  rw [hround, if_neg (by omega)]
  apply Program.Advances.trans (runs_serving _ hreadBody rfl)
  dsimp only
  rw [hpayload]
  apply Program.Advances.trans (runs_serving _ hsend rfl)
  apply Program.Advances.trans (runs_serving _ hack rfl)
  exact runs_serving _ hfinish rfl

/-! ## The row is marked -/

include hallowed in
theorem runs_markSent (endpointId envelopeId : String) (reading : ClockReading)
    (net : Network) :
    Runs Allowed ((senderServices endpointId).markSent envelopeId) net
      (Program.ofExcept ((markSent reading envelopeId).run memoryConnection net.outbox).1)
      { net with
        outbox := ((markSent reading envelopeId).run memoryConnection net.outbox).2 } := by
  have hclock : network .readClock net (.ok reading) net := rfl
  exact Program.Advances.trans (runs_then _ (hallowed net) hclock)
    (runs_outbox hallowed (markSent reading envelopeId) net)

include hallowed in
theorem runs_dispatched (endpointId organisationId : String) (entry : OutboxRecord)
    (reading : ClockReading) (net : Network) :
    ∃ program, Runs Allowed (dispatching endpointId organisationId entry (pure ())) net program
      { net with outbox := ((markSent reading entry.row.envelopeId).run memoryConnection
          net.outbox).2 } := by
  have hmark := runs_markSent hallowed endpointId entry.row.envelopeId reading net
  exact ⟨_, (((hmark.bind _).tryCatch _).bind _).bind _⟩

end Sending

theorem sent_mem_markSent {database : OutboxDatabase} {row : OutboxRow}
    (hrow : row ∈ database.outbox) (hpending : row.status = .pending)
    (reading : ClockReading) :
    sent reading.iso row ∈
      ((markSent reading row.envelopeId).run memoryConnection database).2.outbox := by
  have hkeys : ∀ index ∈ outboxIndexes, ∀ old ∈ database.outbox,
      (decide (old.envelopeId = row.envelopeId) && decide (old.status = .pending)) = true →
        index (sent reading.iso old) = index old ∨ index (sent reading.iso old) = none := by
    intro index hindex old _ _
    rw [outboxIndexes, List.mem_cons, List.mem_singleton] at hindex
    cases hindex with
    | inl hid =>
        rw [hid]
        exact .inl rfl
    | inr henvelopeId =>
        rw [henvelopeId]
        exact .inl rfl
  obtain ⟨later, hlater⟩ := Option.isSome_iff_exists.mp (Table.update?_isSome hkeys)
  have hrun : (sentStatement reading.iso row.envelopeId).run database = .ok {
      database := { database with outbox := later }
      rows := []
      rowsAffected := (database.outbox.select fun old =>
        decide (old.envelopeId = row.envelopeId) && decide (old.status = .pending)).length } := by
    simp only [sentStatement, updateStatement, Statement.run, hlater]
  have hexecute := memory_execute_run hrun
  have hrows := Table.update?_eq_some_iff.mp hlater
  change sent reading.iso row ∈ (Program.run memoryConnection
    ((connectionExecutor OutboxDatabase).execute
      (sentStatement reading.iso row.envelopeId)) database).2.outbox
  rw [hexecute, Table.mem_def, hrows, List.mem_map]
  refine ⟨row, hrow, ?_⟩
  rw [Table.updateRow, hpending, decide_eq_true rfl, decide_eq_true rfl]
  rfl

/-! ## The run -/


/-- The only entry of a batch is sent, acknowledged and marked, and the receiver crashes with
its message in the channel. -/
theorem lost_after_ack {outbox : OutboxDatabase} (inbox : InboxTable) (reading : ClockReading)
    {organisationId : String} {payload : JsonValue} {entry : OutboxRecord} {length : Nat}
    (hpayload : (payload.get? "organisationId").bind JsonValue.string? = some organisationId)
    (hbatch : (pendingBatch organisationId (OutboxSyncWorker.batchLimitOf payload)).run
      memoryConnection outbox = (.ok [entry], outbox))
    (hrow : entry.row ∈ outbox.outbox) (hpending : entry.row.status = .pending)
    (hlength : frameLength (payloadBytes entry.envelopeJson).length = .ok length) :
    ∃ system, NetworkReaches outbox inbox system ∧
      (∃ row ∈ system.state.outbox.outbox,
        row.envelopeId = entry.row.envelopeId ∧ row.status = .sent) ∧
      system.state.inbox = inbox ∧ system.state.inbound = [] ∧ system.state.events = [] := by
  let sync := Activity.sync "receiver" organisationId payload
  let serve := Activity.serve 0 "sender"
  let bytes := lengthBytes length ++ payloadBytes entry.envelopeJson
  let message : InboundEnvelopeMessage := ⟨"sender", entry.envelopeJson⟩
  let net := Network.initial outbox inbox
  let written := net.withStream (writtenStream 0 bytes)
  let served := (net.withStream (servedStream 0 bytes (4 + length) [1])).took message
  let acked := served.withStream (servedStream 0 bytes (4 + length) [])
  let marked := { acked with
    outbox := ((markSent reading entry.row.envelopeId).run memoryConnection outbox).2 }
  have hsync : ∀ now, sync.Alive now := fun _ => trivial
  have hcrash : ∀ now, Activity.crash.Alive now := fun _ => trivial
  have hstarted : NetworkReaches outbox inbox ⟨net, [⟨sync, sync.program⟩]⟩ :=
    Relation.ReflTransGen.refl.tail (.start sync net [])
  have hloaded : NetworkReaches outbox inbox ⟨net, [⟨sync, dispatching "receiver"
      organisationId entry (dispatchEnvelope "receiver" entry.envelopeJson)⟩]⟩ :=
    System.Reaches.advances [] (runs_handle hsync hpayload hbatch) hstarted
  have hsend := runs_sendEnvelope hsync "receiver" net hlength rfl
  have hwritten : NetworkReaches outbox inbox ⟨written, [⟨sync, dispatching "receiver"
      organisationId entry _⟩]⟩ :=
    System.Reaches.advances [] (runs_dispatching (hsend.bind _)) hloaded
  have hserving : NetworkReaches outbox inbox
      ⟨written, [⟨serve, serve.program⟩, ⟨sync, _⟩]⟩ :=
    hwritten.tail (.start serve written _)
  have hempty : net.inbound.length < inboundQueueCapacity := Nat.zero_lt_succ _
  have hserved : NetworkReaches outbox inbox ⟨served, [⟨serve, pure ()⟩, ⟨sync, _⟩]⟩ :=
    System.Reaches.advances [] (runs_serveStream "sender" net hlength hempty) hserving
  have hack := runs_awaitAck hsync served (servedStream 0 bytes (4 + length) [1]) rfl
  have hacked : NetworkReaches outbox inbox ⟨acked, [⟨serve, pure ()⟩, ⟨sync,
      dispatching "receiver" organisationId entry (pure ())⟩]⟩ :=
    System.Reaches.advances [⟨serve, pure ()⟩] (runs_dispatching (hack.bind _)) hserved
  obtain ⟨program, hmark⟩ :=
    runs_dispatched hsync "receiver" organisationId entry reading acked
  have hmarked : NetworkReaches outbox inbox
      ⟨marked, [⟨serve, pure ()⟩, ⟨sync, program⟩]⟩ :=
    System.Reaches.advances [⟨serve, pure ()⟩] hmark hacked
  have hdown : network .crash marked (.ok ())
      { marked with epoch := 1, inbound := [], events := [] } := ⟨rfl, rfl⟩
  have hcrashed : NetworkReaches outbox inbox
      ⟨{ marked with epoch := 1, inbound := [], events := [] },
        [⟨Activity.crash, pure ()⟩, ⟨serve, pure ()⟩, ⟨sync, program⟩]⟩ :=
    System.Reaches.advances [] (Program.Advances.await (hcrash marked) hdown)
      (hmarked.tail (.start Activity.crash marked _))
  refine ⟨_, hcrashed, ?_, rfl, rfl, rfl⟩
  exact ⟨sent reading.iso entry.row, sent_mem_markSent hrow hpending reading, rfl, rfl⟩

/-! ## One note -/

def noteOutbox : OutboxDatabase where
  syncGroupIds := ["group"]
  outbox := {
    rows := [noteRow "op-1" "text"]
    unique := by
      intro index hindex
      rw [outboxIndexes, List.mem_cons, List.mem_singleton] at hindex
      cases hindex with
      | inl hid =>
          rw [hid]
          exact List.nodup_singleton _
      | inr henvelopeId =>
          rw [henvelopeId]
          exact List.nodup_singleton _ }

def notePayload : JsonValue :=
  OutboxSyncWorker.payloadOf "org" (.finite (.integer 50))

def noteText : String :=
  (noteEnvelopeJson "op-1" (.string "text")).stringify

def noteRecord : OutboxRecord where
  row := noteRow "op-1" "text"
  envelopeJson := noteText

theorem noteText_size : utf8Length noteText.toList = 606 := by
  have hid : "op-1" ∈ noteIds := by decide
  have hpayload : utf8Length (JsonValue.string "text").serialize = 6 := by decide
  rw [noteText, JsonValue.stringify, String.toList_ofList, utf8Length_noteEnvelope hid,
    hpayload]

theorem noteText_length :
    frameLength (payloadBytes noteText).length = .ok 606 := by
  rw [length_payloadBytes, noteText_size]
  rfl

theorem readRecord_note : readRecord (noteRow "op-1" "text") = .ok noteRecord := by
  have hid : "op-1" ∈ noteIds := by decide
  have hsize : utf8Length (noteEnvelopeJson "op-1" (.string "text")).serialize ≤
      maxSyncEnvelopeSizeBytes := by
    have htext := noteText_size
    rw [noteText, JsonValue.stringify, String.toList_ofList] at htext
    rw [htext]
    decide
  have henqueued : IsEnqueued (noteRow "op-1" "text") :=
    ⟨noteCall "op-1" "text", _, validateEnvelope_note hid hsize, rfl⟩
  obtain ⟨record, hrecord⟩ := readRecord_of_isEnqueued henqueued
  obtain ⟨hrow, htext, -⟩ := readRecord_eq_ok hrecord
  have hstored : (noteRow "op-1" "text").envelopeJson = some noteText := rfl
  rw [hstored, Option.some.injEq] at htext
  have hsame : record = noteRecord := by
    rw [noteRecord, htext, ← hrow]
  rw [hrecord, hsame]

theorem pendingBatch_note :
    (pendingBatch "org" (OutboxSyncWorker.batchLimitOf notePayload)).run memoryConnection
      noteOutbox = (.ok [noteRecord], noteOutbox) := by
  have hlimit : admittedLimit? (OutboxSyncWorker.batchLimitOf notePayload) = some 50 := by
    decide
  have hquery : (pendingStatement "org" 50).run noteOutbox = .ok {
      database := noteOutbox
      rows := [noteRow "op-1" "text"]
      rowsAffected := 0 } := rfl
  have hblank : isBlank "org" = false := by decide
  have hrecords : [noteRow "op-1" "text"].mapM readRecord = .ok [noteRecord] := by
    rw [List.mapM_cons, readRecord_note]
    rfl
  simp only [pendingBatch, hblank, Bool.false_eq_true, if_false, hlimit]
  rw [Program.run_bind_ok _ (memory_query_run hquery), Program.run_ofExcept, hrecords]

def SentIsStored (outbox : OutboxDatabase) (inbox : InboxTable) : Prop :=
  ∀ system, NetworkReaches outbox inbox system →
    ∀ row ∈ system.state.outbox.outbox, row.status = .sent →
      SentBefore outbox row.envelopeId ∨
        ∃ stored ∈ system.state.inbox, stored.envelopeId = row.envelopeId

theorem not_sentBefore_note (envelopeId : String) : ¬ SentBefore noteOutbox envelopeId := by
  rintro ⟨row, hrow, -, hsent⟩
  rw [Table.mem_def] at hrow
  rw [List.mem_singleton.mp hrow] at hsent
  cases hsent

theorem note_lost :
    ∃ system, NetworkReaches noteOutbox Table.empty system ∧
      (∃ row ∈ system.state.outbox.outbox, row.envelopeId = "op-1" ∧ row.status = .sent) ∧
      system.state.inbox = Table.empty ∧ system.state.inbound = [] ∧
      system.state.events = [] :=
  lost_after_ack Table.empty ⟨0, by decide⟩ rfl pendingBatch_note List.mem_cons_self rfl
    noteText_length

/-- A row is marked as sent, and the inbox has no row with its envelope id. -/
theorem sent_without_inbox_row : ¬ ∀ outbox inbox, SentIsStored outbox inbox := by
  intro halways
  obtain ⟨system, hreaches, ⟨row, hrow, -, hsent⟩, hinbox, -, -⟩ := note_lost
  cases halways noteOutbox Table.empty system hreaches row hrow hsent with
  | inl hbefore => exact not_sentBefore_note row.envelopeId hbefore
  | inr hstored =>
      obtain ⟨stored, hstored, -⟩ := hstored
      rw [hinbox] at hstored
      exact absurd hstored List.not_mem_nil

theorem note_accepted :
    ∃ system, NetworkReaches noteOutbox Table.empty system ∧
      Accepted system.state "op-1" := by
  obtain ⟨system, hreaches, ⟨row, hrow, hid, hsent⟩, -⟩ := note_lost
  have haccepted := sent_only_after_acceptance hreaches hrow hsent
    (not_sentBefore_note row.envelopeId)
  rw [hid] at haccepted
  exact ⟨system, hreaches, haccepted⟩

end TauriPlatform.SyncEndpoint
