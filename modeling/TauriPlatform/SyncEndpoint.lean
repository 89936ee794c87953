import TauriPlatform.AsyncOwnership
import TauriPlatform.InboxService
import TauriPlatform.JsonParse
import TauriPlatform.OutboxSyncWorker
import Mathlib.Data.List.Infix

/-!
# The transport between two endpoints

An envelope travels as one frame of a stream: four bytes of length and the text of the
envelope.  The endpoint which receives it puts the text into a bounded channel and writes one
byte back; from the channel the text is emitted to JavaScript as an event, whose listener
validates it and calls the handlers which have been registered.
-/

namespace TauriPlatform

open Async OutboxService

/-! ## Frames -/

namespace SyncEndpoint

def maxEnvelopeSize : Nat :=
  10 * 1024 * 1024

def inboundQueueCapacity : Nat :=
  8

inductive SyncTransportError where
  | notConnected (endpointId : String)
  | stream (text : String)
  | invalidEndpointId (text : String)
  | frameTooLarge (length : Nat)

def frameLength (length : Nat) : Except SyncTransportError Nat :=
  if length > maxEnvelopeSize then .error (.frameTooLarge length)
  else if length < 2 ^ 32 then .ok length
  else .error (.frameTooLarge length)

/-- `to_be_bytes`. -/
def lengthBytes (length : Nat) : List UInt8 :=
  [.ofNat (length / 256 ^ 3), .ofNat (length / 256 ^ 2), .ofNat (length / 256), .ofNat length]

/-- `from_be_bytes`. -/
def lengthOfBytes (bytes : List UInt8) : Nat :=
  bytes.foldl (fun value byte => value * 256 + byte.toNat) 0

/-- `as_bytes`. -/
def payloadBytes (payloadJson : String) : List UInt8 :=
  payloadJson.toUTF8.data.toList

/-- `String::from_utf8`. -/
def payloadOfBytes? (bytes : List UInt8) : Option String :=
  String.fromUTF8? ⟨bytes.toArray⟩

theorem lengthOfBytes_lengthBytes {length : Nat} (hlength : length < 2 ^ 32) :
    lengthOfBytes (lengthBytes length) = length := by
  simp only [lengthOfBytes, lengthBytes, List.foldl_cons, List.foldl_nil,
    UInt8.toNat_ofNat']
  omega

theorem payloadOfBytes?_payloadBytes (payloadJson : String) :
    payloadOfBytes? (payloadBytes payloadJson) = some payloadJson := by
  have hbytes : (⟨(payloadBytes payloadJson).toArray⟩ : ByteArray) = payloadJson.toUTF8 := by
    simp only [payloadBytes, Array.toArray_toList]
  rw [payloadOfBytes?, hbytes, String.toUTF8_eq_toByteArray, String.fromUTF8?,
    dif_pos payloadJson.isValidUTF8]
  rfl

theorem length_payloadBytes (payloadJson : String) :
    (payloadBytes payloadJson).length = utf8Length payloadJson.toList := by
  have hencode : (payloadBytes payloadJson).length = payloadJson.toList.utf8Encode.size := by
    rw [String.utf8Encode_toList]
    rfl
  rw [hencode]
  induction payloadJson.toList with
  | nil => rfl
  | cons c rest ih =>
      rw [List.utf8Encode_cons, ByteArray.size_append, ih, utf8Length_cons,
        List.utf8Encode_singleton]
      simp

def readFrame? (bytes : List UInt8) : Option String :=
  let length := lengthOfBytes (bytes.take 4)
  if bytes.length < 4 then none
  else if length > maxEnvelopeSize then none
  else if bytes.length < 4 + length then none
  else payloadOfBytes? ((bytes.drop 4).take length)

variable {payloadJson : String}

theorem readFrame?_append {bytes : List UInt8} (hframe : readFrame? bytes = some payloadJson)
    (more : List UInt8) :
    readFrame? (bytes ++ more) = some payloadJson := by
  unfold readFrame? at hframe ⊢
  dsimp only at hframe ⊢
  by_cases hfront : bytes.length < 4
  · rw [if_pos hfront] at hframe
    cases hframe
  · have hfour : 4 ≤ bytes.length := by omega
    rw [if_neg hfront] at hframe
    rw [List.take_append_of_le_length hfour, List.drop_append_of_le_length hfour,
      List.length_append, if_neg (by omega)]
    by_cases hlarge : lengthOfBytes (bytes.take 4) > maxEnvelopeSize
    · rw [if_pos hlarge] at hframe
      cases hframe
    · rw [if_neg hlarge] at hframe ⊢
      by_cases hshort : bytes.length < 4 + lengthOfBytes (bytes.take 4)
      · rw [if_pos hshort] at hframe
        cases hframe
      · rw [if_neg hshort] at hframe
        have hbody : lengthOfBytes (bytes.take 4) ≤ (bytes.drop 4).length := by
          rw [List.length_drop]
          omega
        rw [if_neg (by omega), List.take_append_of_le_length hbody]
        exact hframe

theorem readFrame?_of_prefix {bytes longer : List UInt8}
    (hframe : readFrame? bytes = some payloadJson) (hfront : bytes <+: longer) :
    readFrame? longer = some payloadJson := by
  obtain ⟨more, rfl⟩ := hfront
  exact readFrame?_append hframe more

theorem readFrame?_parts {front body : List UInt8} (hfront : front.length = 4)
    (hlength : lengthOfBytes front = body.length) (hsize : body.length ≤ maxEnvelopeSize) :
    readFrame? (front ++ body) = payloadOfBytes? body := by
  have htake : (front ++ body).take 4 = front := by
    rw [← hfront]
    exact List.take_left
  have hdrop : (front ++ body).drop 4 = body := by
    rw [← hfront]
    exact List.drop_left
  simp only [readFrame?, htake, hdrop, hlength, List.length_append, hfront]
  rw [if_neg (by omega), if_neg (by omega), if_neg (by omega), List.take_length]

theorem frameLength_eq_ok {length accepted : Nat} (hok : frameLength length = .ok accepted) :
    accepted = length ∧ length ≤ maxEnvelopeSize ∧ length < 2 ^ 32 := by
  unfold frameLength at hok
  split_ifs at hok with hlarge hfits
  cases hok
  exact ⟨rfl, by omega, hfits⟩

/-- What `send_envelope` writes is read back as one frame. -/
theorem readFrame?_sent {length : Nat}
    (hlength : frameLength (payloadBytes payloadJson).length = .ok length) :
    readFrame? (lengthBytes length ++ payloadBytes payloadJson) = some payloadJson := by
  obtain ⟨rfl, hsize, hfits⟩ := frameLength_eq_ok hlength
  have hfront : (lengthBytes (payloadBytes payloadJson).length).length = 4 := rfl
  rw [readFrame?_parts hfront (lengthOfBytes_lengthBytes hfits) hsize]
  exact payloadOfBytes?_payloadBytes payloadJson

/-! ## Calls -/

structure InboundEnvelopeMessage where
  senderEndpointId : String
  payloadJson : String
  deriving DecidableEq

inductive StreamFailure where
  | timedOut
  | failed (text : String)

/-- The calls of both sides.  Streams are named by the order in which they were opened. -/
inductive NetworkCall : Type → Type 1 where
  -- the sender
  | outbox {α : Type} (call : DbCall OutboxDatabase α) : NetworkCall α
  | upsertCursor (organisationId : String) : NetworkCall Unit
  | readClock : NetworkCall ClockReading
  | aborted : NetworkCall Bool
  | parseEndpointId (text : String) : NetworkCall (Except StreamFailure String)
  | isConnected (endpointId : String) : NetworkCall Bool
  | openBi (endpointId : String) : NetworkCall (Except StreamFailure Nat)
  | writeAll (stream : Nat) (bytes : List UInt8) : NetworkCall (Except StreamFailure Unit)
  | finish (stream : Nat) : NetworkCall (Except StreamFailure Unit)
  | readAck (stream : Nat) : NetworkCall (Except StreamFailure UInt8)
  -- the receiver
  | acceptBi : NetworkCall (Except StreamFailure Nat)
  | readExact (stream count : Nat) : NetworkCall (Except StreamFailure (List UInt8))
  | sendInbound (message : InboundEnvelopeMessage) : NetworkCall (Except StreamFailure Unit)
  | writeAck (stream : Nat) (bytes : List UInt8) : NetworkCall (Except StreamFailure Unit)
  | finishAck (stream : Nat) : NetworkCall (Except StreamFailure Unit)
  | nextInbound : NetworkCall (Option InboundEnvelopeMessage)
  | emit (message : InboundEnvelopeMessage) : NetworkCall (Except StreamFailure Unit)
  | nextEvent : NetworkCall InboundEnvelopeMessage
  | inbox {α : Type} (call : DbCall InboxTable α) : NetworkCall α
  | crash : NetworkCall Unit

/-! ## The sender -/

def StreamFailure.text (timeoutText : String) : StreamFailure → String
  | .timedOut => timeoutText
  | .failed text => text

/-- Await a call and map its failure, `.await.map_err(…)?`. -/
def attempt {α : Type} (request : NetworkCall (Except StreamFailure α))
    (toError : StreamFailure → SyncTransportError) :
    ExceptT SyncTransportError (Program NetworkCall Thrown) α :=
  ExceptT.mk do
    let answer ← Program.await request
    pure (answer.mapError toError)

def sendEnvelope (endpointIdText payloadJson : String) :
    ExceptT SyncTransportError (Program NetworkCall Thrown) Unit := do
  let endpointId ← attempt (.parseEndpointId endpointIdText) fun failure =>
    .invalidEndpointId (failure.text "")
  let length ← ExceptT.mk (pure (frameLength (payloadBytes payloadJson).length))
  let connected ← ExceptT.lift (Program.await (.isConnected endpointId))
  if !connected then throw (.notConnected endpointIdText)
  else
    let stream ← attempt (.openBi endpointId) fun failure => .stream (failure.text "")
    attempt (.writeAll stream (lengthBytes length)) fun failure =>
      .stream (failure.text "frame prefix write timed out")
    attempt (.writeAll stream (payloadBytes payloadJson)) fun failure =>
      .stream (failure.text "frame payload write timed out")
    attempt (.finish stream) fun failure => .stream (failure.text "")
    let _ack ← attempt (.readAck stream) fun
      | .timedOut => .stream "ACK timed out"
      | .failed text => .stream s!"ACK failed: {text}"
    pure ()

/-- The command `sync_send_envelope`, as a dispatcher: the promise is rejected with the
object of the error. -/
def dispatchEnvelope (endpointId : String) (payloadJson : String) :
    Program NetworkCall Thrown Unit := do
  match ← (sendEnvelope endpointId payloadJson).run with
  | .ok _ => pure ()
  | .error _ => throw (.value "[object Object]")

def senderServices (endpointId : String) : OutboxSyncWorker.Services NetworkCall where
  pendingBatch organisationId limit :=
    (pendingBatch organisationId limit).mapCall fun _ => .outbox
  dispatch _ _ payloadJson := dispatchEnvelope endpointId payloadJson
  markSent envelopeId := do
    let now ← Program.await .readClock
    (markSent now envelopeId).mapCall fun _ => .outbox
  markFailed envelopeId := do
    let now ← Program.await .readClock
    (markFailed now envelopeId defaultMaxAttempts).mapCall fun _ => .outbox
  upsertCursor organisationId := Program.await (.upsertCursor organisationId)
  aborted := Program.await .aborted

/-! ## The receiver -/

/-- What `handle_connection_streams` does with one stream. -/
def serveStream (remoteEndpointId : String) : Program NetworkCall Thrown Unit := do
  match ← Program.await .acceptBi with
  | .error _ => pure ()
  | .ok stream =>
      match ← Program.await (.readExact stream 4) with
      | .error _ => pure ()
      | .ok front =>
          if lengthOfBytes front > maxEnvelopeSize then pure ()
          else
            match ← Program.await (.readExact stream (lengthOfBytes front)) with
            | .error _ => pure ()
            | .ok body =>
                match payloadOfBytes? body with
                | none => pure ()
                | some payloadJson =>
                    -- ACK only after the bounded channel has taken the frame
                    match ← Program.await (.sendInbound ⟨remoteEndpointId, payloadJson⟩) with
                    | .error _ => pure ()
                    | .ok _ => do
                        let _ ← Program.await (.writeAck stream [1])
                        let _ ← Program.await (.finishAck stream)
                        pure ()

/-- One round of the loop over `next_inbound_envelope`. -/
def forwardInbound : Program NetworkCall Thrown Unit := do
  match ← Program.await .nextInbound with
  | none => pure ()
  | some message =>
      let _ ← Program.await (.emit message)
      pure ()

/-- A handler which was registered with `onReceive`. -/
abbrev ReceiveHandler :=
  (peerId : String) → (envelope : JsonValue) → Program (DbCall InboxTable) Thrown Unit

def peerOf (connectedPeers : List (String × String)) (endpointId : String) : String :=
  match connectedPeers.find? fun peer => peer.2 = endpointId with
  | some (peerId, _) => peerId
  | none => endpointId

def callHandlers (peerId : String) (envelope : JsonValue) :
    List ReceiveHandler → Program (DbCall InboxTable) Thrown Unit
  | [] => pure ()
  | handler :: handlers => do
      handler peerId envelope
      callHandlers peerId envelope handlers

/-- `handleIncomingMessage`; an error is logged and nothing else. -/
def handleIncomingMessage (connectedPeers : List (String × String))
    (handlers : List ReceiveHandler) (message : InboundEnvelopeMessage) :
    Program (DbCall InboxTable) Thrown Unit :=
  tryCatch
    (match parseJson? message.payloadJson with
    | none => throw (.builtin "SyntaxError" jsonSyntaxError)
    | some parsed =>
        match SyncEnvelopeBuilder.validateEnvelope parsed with
        | .error text => throw (.builtin "Error" text)
        | .ok _ =>
            callHandlers (peerOf connectedPeers message.senderEndpointId) parsed handlers)
    fun _ => pure ()

/-! ## The network -/

structure SyncStream where
  /-- The run of the receiver which the stream leads to. -/
  epoch : Nat
  written : List UInt8
  accepted : Bool
  consumed : Nat
  ack : List UInt8

def SyncStream.opened (epoch : Nat) : SyncStream where
  epoch := epoch
  written := []
  accepted := false
  consumed := 0
  ack := []

/-- The outbox of the sender, the streams, and the channel, the events and the inbox of the
receiver.  `accepted` lists the messages which the channel has taken so far, and `epoch`
counts the crashes of the receiver. -/
structure Network where
  outbox : OutboxDatabase
  streams : List SyncStream
  epoch : Nat
  inbound : List InboundEnvelopeMessage
  events : List InboundEnvelopeMessage
  inbox : InboxTable
  accepted : List InboundEnvelopeMessage

def Network.initial (outbox : OutboxDatabase) (inbox : InboxTable) : Network where
  outbox := outbox
  streams := []
  epoch := 0
  inbound := []
  events := []
  inbox := inbox
  accepted := []

def Network.modifyStream (net : Network) (stream : Nat) (change : SyncStream → SyncStream) :
    Network :=
  { net with streams := net.streams.modify stream change }

def Failed {α : Type} (answer : Except Thrown (Except StreamFailure α)) : Prop :=
  ∃ failure, answer = .ok (.error failure)

def DatabaseAnswers {Db α : Type} (call : DbCall Db α) (database : Db)
    (answer : Except Thrown α) (later : Db) : Prop :=
  memoryConnection call database = (answer, later) ∨
    (∃ error, answer = .error error) ∧ later = database

def network : Environment NetworkCall Thrown Network
  | _, .outbox call, net, answer, later =>
      ∃ database, DatabaseAnswers call net.outbox answer database ∧
        later = { net with outbox := database }
  | _, .upsertCursor _, net, _, later => later = net
  | _, .readClock, net, _, later => later = net
  | _, .aborted, net, _, later => later = net
  | _, .parseEndpointId _, net, _, later => later = net
  | _, .isConnected _, net, _, later => later = net
  | _, .openBi _, net, answer, later =>
      answer = .ok (.ok net.streams.length) ∧
          later = { net with streams := net.streams ++ [.opened net.epoch] } ∨
        Failed answer ∧ later = net
  | _, .writeAll stream bytes, net, answer, later =>
      -- a write which fails may have written some of its bytes
      ∃ front, front <+: bytes ∧
        later = net.modifyStream stream (fun current =>
          { current with written := current.written ++ front }) ∧
        (answer = .ok (.ok ()) ∧ front = bytes ∨ Failed answer)
  | _, .finish _, net, _, later => later = net
  | _, .readAck stream, net, answer, later =>
      (∃ current byte rest, net.streams[stream]? = some current ∧ current.ack = byte :: rest ∧
          answer = .ok (.ok byte) ∧
          later = net.modifyStream stream (fun current => { current with ack := rest })) ∨
        Failed answer ∧ later = net
  | _, .acceptBi, net, answer, later =>
      (∃ stream current, net.streams[stream]? = some current ∧ current.epoch = net.epoch ∧
          current.accepted = false ∧ answer = .ok (.ok stream) ∧
          later = net.modifyStream stream (fun current => { current with accepted := true })) ∨
        Failed answer ∧ later = net
  | _, .readExact stream count, net, answer, later =>
      (∃ current, net.streams[stream]? = some current ∧
          current.consumed + count ≤ current.written.length ∧
          answer = .ok (.ok ((current.written.drop current.consumed).take count)) ∧
          later = net.modifyStream stream (fun current =>
            { current with consumed := current.consumed + count })) ∨
        Failed answer ∧ later = net
  | _, .sendInbound message, net, answer, later =>
      (net.inbound.length < inboundQueueCapacity ∧ answer = .ok (.ok ()) ∧
          later = { net with
            inbound := net.inbound ++ [message]
            accepted := net.accepted ++ [message] }) ∨
        Failed answer ∧ later = net
  | _, .writeAck stream bytes, net, answer, later =>
      ∃ front, front <+: bytes ∧
        later = net.modifyStream stream (fun current =>
          { current with ack := current.ack ++ front }) ∧
        (answer = .ok (.ok ()) ∧ front = bytes ∨ Failed answer)
  | _, .finishAck _, net, _, later => later = net
  | _, .nextInbound, net, answer, later =>
      (∃ message rest, net.inbound = message :: rest ∧ answer = .ok (some message) ∧
          later = { net with inbound := rest }) ∨
        answer = .ok none ∧ later = net
  | _, .emit message, net, answer, later =>
      answer = .ok (.ok ()) ∧ later = { net with events := net.events ++ [message] } ∨
        Failed answer ∧ later = net
  | _, .nextEvent, net, answer, later =>
      ∃ message rest, net.events = message :: rest ∧ answer = .ok message ∧
        later = { net with events := rest }
  | _, .inbox call, net, answer, later =>
      ∃ table, DatabaseAnswers call net.inbox answer table ∧
        later = { net with inbox := table }
  | _, .crash, net, answer, later =>
      answer = .ok () ∧
        later = { net with epoch := net.epoch + 1, inbound := [], events := [] }

/-! ## What goes on -/

inductive Activity where
  | enqueue (id now : String) (envelope : JsonValue)
  | sync (endpointId organisationId : String) (payload : JsonValue)
  | serve (epoch : Nat) (remoteEndpointId : String)
  | forward (epoch : Nat)
  | receive (epoch : Nat) (connectedPeers : List (String × String))
      (handlers : List ReceiveHandler)
  | crash

def Activity.program : Activity → Program NetworkCall Thrown Unit
  | .enqueue id now envelope => do
      let _record ← (OutboxService.enqueue (connectionExecutor OutboxDatabase) id now envelope).mapCall
        fun _ => NetworkCall.outbox
      pure ()
  | .sync endpointId organisationId payload =>
      OutboxSyncWorker.handle (senderServices endpointId) organisationId payload
  | .serve _ remoteEndpointId => serveStream remoteEndpointId
  | .forward _ => forwardInbound
  | .receive _ connectedPeers handlers => do
      let message ← Program.await .nextEvent
      (handleIncomingMessage connectedPeers handlers message).mapCall fun _ =>
        NetworkCall.inbox
  | .crash => Program.await .crash

def Activity.Alive : Activity → Network → Prop
  | .serve epoch _, net => epoch = net.epoch
  | .forward epoch, net => epoch = net.epoch
  | .receive epoch _ _, net => epoch = net.epoch
  | _, _ => True

def NetworkReaches (outbox : OutboxDatabase) (inbox : InboxTable)
    (system : System Activity NetworkCall Thrown Unit Network) : Prop :=
  System.Reaches network Activity.program Activity.Alive (.initial outbox inbox) system

end SyncEndpoint
end TauriPlatform
