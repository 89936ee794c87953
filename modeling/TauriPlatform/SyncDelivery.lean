import TauriPlatform.OutboxDurable
import TauriPlatform.SyncEndpoint

/-!
# What an acknowledgement promises

A dispatch resolves once the peer's byte has been read, and the peer writes this byte once
its bounded channel has taken the frame.  So a row of the outbox is marked SENT only after
the channel of the receiver has taken an envelope with its id.  The inbox is filled later,
by a handler of an event, and no crash between the two is noticed by the sender.
-/

namespace TauriPlatform.SyncEndpoint

open Async Relational OutboxService

/-! ## The two ends of a stream -/

inductive StreamEnd where
  | sending (stream : Nat)
  | receiving (stream : Nat)

def writtenAt (net : Network) (stream : Nat) : Option (List UInt8) :=
  net.streams[stream]?.map SyncStream.written

def consumedAt (net : Network) (stream : Nat) : Option Nat :=
  net.streams[stream]?.map SyncStream.consumed

def StreamEnd.Exists : StreamEnd → Network → Prop
  | .sending stream, net => stream < net.streams.length
  | .receiving stream, net =>
      ∃ current, net.streams[stream]? = some current ∧ current.accepted = true

def StreamEnd.Same : StreamEnd → Network → Network → Prop
  | .sending stream, net, later => writtenAt later stream = writtenAt net stream
  | .receiving stream, net, later => consumedAt later stream = consumedAt net stream

structure StreamGrows (current later : SyncStream) : Prop where
  written : current.written <+: later.written
  accepted : current.accepted = true → later.accepted = true

structure NetworkGrows (net later : Network) : Prop where
  accepted : net.accepted ⊆ later.accepted
  streams : ∀ (stream : Nat) current, net.streams[stream]? = some current →
    ∃ current', later.streams[stream]? = some current' ∧ StreamGrows current current'

theorem StreamGrows.refl (current : SyncStream) : StreamGrows current current :=
  ⟨List.prefix_refl _, id⟩

theorem NetworkGrows.refl (net : Network) : NetworkGrows net net :=
  ⟨fun _ hmessage => hmessage, fun _ current hcurrent => ⟨current, hcurrent, .refl current⟩⟩

theorem NetworkGrows.trans {first second third : Network} (hfirst : NetworkGrows first second)
    (hsecond : NetworkGrows second third) : NetworkGrows first third := by
  constructor
  · intro message hmessage
    exact hsecond.accepted (hfirst.accepted hmessage)
  · intro stream current hcurrent
    obtain ⟨current', hcurrent', hgrows⟩ := hfirst.streams stream current hcurrent
    obtain ⟨current'', hcurrent'', hgrows'⟩ := hsecond.streams stream current' hcurrent'
    exact ⟨current'', hcurrent'', hgrows.written.trans hgrows'.written,
      fun haccepted => hgrows'.accepted (hgrows.accepted haccepted)⟩

/-- Each end of a stream belongs to the program which opened or accepted it. -/
def streamEnds : Division Network StreamEnd where
  Exists := StreamEnd.Exists
  Same := StreamEnd.Same
  Grows := NetworkGrows
  same_refl part net := by cases part <;> rfl
  same_trans part first second third hfirst hsecond := by
    cases part with
    | sending stream => exact Eq.trans hsecond hfirst
    | receiving stream => exact Eq.trans hsecond hfirst
  grows_refl := NetworkGrows.refl
  grows_trans _ _ _ := NetworkGrows.trans
  exists_of_grows part net later hgrows hexists := by
    cases part with
    | sending stream =>
        have hcurrent := List.getElem?_eq_getElem (l := net.streams) hexists
        obtain ⟨current, hlater, -⟩ := hgrows.streams stream _ hcurrent
        exact (List.getElem?_eq_some_iff.mp hlater).1
    | receiving stream =>
        obtain ⟨current, hcurrent, haccepted⟩ := hexists
        obtain ⟨current', hlater, hgrows'⟩ := hgrows.streams stream current hcurrent
        exact ⟨current', hlater, hgrows'.accepted haccepted⟩

/-! ## The invariant -/

def Carries (payloadJson envelopeId : String) : Prop :=
  ∃ envelope validated, parseJson? payloadJson = some envelope ∧
    SyncEnvelopeBuilder.validateEnvelope envelope = .ok validated ∧
    validated.envelopeId = envelopeId

def Accepted (net : Network) (envelopeId : String) : Prop :=
  ∃ message ∈ net.accepted, Carries message.payloadJson envelopeId

def SentBefore (outbox : OutboxDatabase) (envelopeId : String) : Prop :=
  ∃ row ∈ outbox.outbox, row.envelopeId = envelopeId ∧ row.status = .sent

/-- What holds of a stream: nobody has read from it before it was accepted, and it is only
acknowledged once the channel has taken its frame. -/
structure StreamSound (accepted : List InboundEnvelopeMessage) (current : SyncStream) :
    Prop where
  unread : current.accepted = false → current.consumed = 0
  acked : current.ack ≠ [] →
    ∃ message ∈ accepted, readFrame? current.written = some message.payloadJson

/-- Rows marked as sent, and streams which are acknowledged, have been accepted. -/
structure Delivered (outbox : OutboxDatabase) (net : Network) : Prop where
  streams : ∀ (stream : Nat) current, net.streams[stream]? = some current →
    StreamSound net.accepted current
  sent : ∀ row ∈ net.outbox.outbox, row.status = .sent →
    SentBefore outbox row.envelopeId ∨ Accepted net row.envelopeId

theorem StreamSound.mono {accepted accepted' : List InboundEnvelopeMessage}
    {current : SyncStream} (hsound : StreamSound accepted current)
    (hmore : accepted ⊆ accepted') : StreamSound accepted' current where
  unread := hsound.unread
  acked hack := by
    obtain ⟨message, hmessage, hframe⟩ := hsound.acked hack
    exact ⟨message, hmore hmessage, hframe⟩

theorem Accepted.mono {net later : Network} {envelopeId : String}
    (haccepted : Accepted net envelopeId) (hmore : net.accepted ⊆ later.accepted) :
    Accepted later envelopeId := by
  obtain ⟨message, hmessage, hcarries⟩ := haccepted
  exact ⟨message, hmore hmessage, hcarries⟩

theorem delivered_initial (outbox : OutboxDatabase) (inbox : InboxTable) :
    Delivered outbox (.initial outbox inbox) where
  streams stream current hcurrent := by simp [Network.initial] at hcurrent
  sent row hrow hsent := .inl ⟨row, hrow, rfl, hsent⟩

section Steps

variable {outbox : OutboxDatabase} {net later : Network} {owned : Set StreamEnd}
  {stream : Nat} {change : SyncStream → SyncStream}

theorem streams_modifyStream (i : Nat) :
    (net.modifyStream stream change).streams[i]? =
      if stream = i then net.streams[i]?.map change else net.streams[i]? := by
  simp only [Network.modifyStream, List.getElem?_modify]
  split_ifs <;> simp

theorem moves_of_streams_eq (hstreams : later.streams = net.streams)
    (haccepted : net.accepted ⊆ later.accepted) :
    streamEnds.Moves owned ∅ net later where
  grows := by
    refine ⟨haccepted, fun i current hcurrent => ⟨current, ?_, .refl current⟩⟩
    rw [hstreams]
    exact hcurrent
  fresh part hpart := absurd hpart (Set.notMem_empty part)
  gained part hpart := absurd hpart (Set.notMem_empty part)
  others part _ _ := by
    cases part with
    | sending i => exact congrArg (fun streams => (streams[i]?).map SyncStream.written) hstreams
    | receiving i =>
        exact congrArg (fun streams => (streams[i]?).map SyncStream.consumed) hstreams

theorem moves_self : streamEnds.Moves owned ∅ net net :=
  moves_of_streams_eq rfl fun _ hmessage => hmessage

theorem delivered_of_streams_eq (hdelivered : Delivered outbox net)
    (hstreams : later.streams = net.streams) (haccepted : net.accepted ⊆ later.accepted)
    (hsent : ∀ row ∈ later.outbox.outbox, row.status = .sent →
      SentBefore outbox row.envelopeId ∨ Accepted later row.envelopeId) :
    Delivered outbox later where
  streams i current hcurrent := by
    rw [hstreams] at hcurrent
    exact (hdelivered.streams i current hcurrent).mono haccepted
  sent := hsent

theorem Delivered.of_same (hdelivered : Delivered outbox net)
    (hstreams : later.streams = net.streams) (haccepted : net.accepted ⊆ later.accepted)
    (houtbox : later.outbox = net.outbox) : Delivered outbox later := by
  apply delivered_of_streams_eq hdelivered hstreams haccepted
  intro row hrow hsent
  rw [houtbox] at hrow
  cases hdelivered.sent row hrow hsent with
  | inl hbefore => exact .inl hbefore
  | inr hrowAccepted => exact .inr (hrowAccepted.mono haccepted)

theorem Delivered.modifyStream (hdelivered : Delivered outbox net)
    (hchange : ∀ current, net.streams[stream]? = some current →
      StreamSound net.accepted (change current)) :
    Delivered outbox (net.modifyStream stream change) where
  streams i current hcurrent := by
    rw [streams_modifyStream] at hcurrent
    by_cases hsame : stream = i
    · subst hsame
      rw [if_pos rfl, Option.map_eq_some_iff] at hcurrent
      obtain ⟨before, hbefore, rfl⟩ := hcurrent
      exact hchange before hbefore
    · rw [if_neg hsame] at hcurrent
      exact hdelivered.streams i current hcurrent
  sent := hdelivered.sent

theorem grows_modifyStream
    (hchange : ∀ current, net.streams[stream]? = some current →
      StreamGrows current (change current)) :
    NetworkGrows net (net.modifyStream stream change) where
  accepted := fun _ hmessage => hmessage
  streams i current hcurrent := by
    rw [streams_modifyStream]
    by_cases hsame : stream = i
    · subst hsame
      rw [if_pos rfl, hcurrent]
      exact ⟨change current, rfl, hchange current hcurrent⟩
    · rw [if_neg hsame]
      exact ⟨current, hcurrent, .refl current⟩

theorem moves_modifyStream
    (hgrows : ∀ current, StreamGrows current (change current))
    (hwritten : .sending stream ∈ owned ∨
      ∀ current, (change current).written = current.written)
    (hconsumed : .receiving stream ∈ owned ∨
      ∀ current, (change current).consumed = current.consumed) :
    streamEnds.Moves owned ∅ net (net.modifyStream stream change) where
  grows := grows_modifyStream fun current _ => hgrows current
  fresh part hpart := absurd hpart (Set.notMem_empty part)
  gained part hpart := absurd hpart (Set.notMem_empty part)
  others part _ hothers := by
    cases part with
    | sending i =>
        change writtenAt _ i = writtenAt _ i
        rw [writtenAt, streams_modifyStream, writtenAt]
        by_cases hsame : stream = i
        · subst hsame
          have hkeeps := hwritten.resolve_left hothers
          rw [if_pos rfl, Option.map_map]
          exact Option.map_congr fun current _ => hkeeps current
        · rw [if_neg hsame]
    | receiving i =>
        change consumedAt _ i = consumedAt _ i
        rw [consumedAt, streams_modifyStream, consumedAt]
        by_cases hsame : stream = i
        · subst hsame
          have hkeeps := hconsumed.resolve_left hothers
          rw [if_pos rfl, Option.map_map]
          exact Option.map_congr fun current _ => hkeeps current
        · rw [if_neg hsame]

end Steps

/-! ## Calls -/

section Calls

variable {outbox : OutboxDatabase} {Allowed : Network → Prop} {net : Network}
  {owned : Set StreamEnd} {α β : Type}

abbrev Keeps (outbox : OutboxDatabase) (Allowed : Network → Prop)
    (post : Except Thrown α → Set StreamEnd → Network → Prop)
    (program : Program NetworkCall Thrown α) (owned : Set StreamEnd) (net : Network) : Prop :=
  program.SafeOwner network streamEnds (Delivered outbox) Allowed post owned net

def Succeeds {δ : Type} (known : α → Set StreamEnd → Network → Prop) :
    Except Thrown (Except δ α) → Set StreamEnd → Network → Prop
  | .ok (.ok value), owned, net => known value owned net
  | _, _, _ => True

def Settles (known : α → Set StreamEnd → Network → Prop) :
    Except Thrown α → Set StreamEnd → Network → Prop
  | .ok value, owned, net => known value owned net
  | .error _, _, _ => True

variable {known : α → Set StreamEnd → Network → Prop}

theorem succeeds_of_failed {answer : Except Thrown (Except StreamFailure α)}
    (hfailed : Failed answer) (owned : Set StreamEnd) (net : Network) :
    Succeeds known answer owned net := by
  obtain ⟨failure, rfl⟩ := hfailed
  trivial

theorem succeeds_mono {δ : Type} {known' : α → Set StreamEnd → Network → Prop}
    (himp : ∀ value owned net, known value owned net → known' value owned net) :
    ∀ (outcome : Except Thrown (Except δ α)) owned net,
      Succeeds known outcome owned net → Succeeds known' outcome owned net := by
  intro outcome owned net hknown
  match outcome with
  | .error _ => trivial
  | .ok (.error _) => trivial
  | .ok (.ok value) => exact himp value owned net hknown

theorem keeps_idle {request : NetworkCall α}
    {post : Except Thrown α → Set StreamEnd → Network → Prop}
    (hidle : ∀ now answer later, network request now answer later → later = now)
    (hpost : ∀ answer now, streamEnds.Leaves owned net now → post answer owned now) :
    Keeps outbox Allowed post (Program.await request) owned net := by
  intro now hnow hdelivered _ answer later hanswer
  have hsame := hidle now answer later hanswer
  subst hsame
  refine ⟨hdelivered, ∅, moves_self, ?_⟩
  rw [Set.union_empty]
  exact hpost answer later hnow

theorem keeps_attempt {request : NetworkCall (Except StreamFailure α)}
    {toError : StreamFailure → SyncTransportError}
    (hrequest : Keeps outbox Allowed (Succeeds known) (Program.await request) owned net) :
    Keeps outbox Allowed (Succeeds known) (attempt request toError).run owned net := by
  apply Program.SafeOwner.bind
  apply Program.SafeOwner.mono _ hrequest
  intro outcome owned net hknown
  cases outcome with
  | error error => trivial
  | ok answer =>
      cases answer with
      | error failure => trivial
      | ok value => exact hknown

theorem keeps_then {program : ExceptT SyncTransportError (Program NetworkCall Thrown) α}
    {next : α → ExceptT SyncTransportError (Program NetworkCall Thrown) β}
    {known : β → Set StreamEnd → Network → Prop}
    (hprogram : Keeps outbox Allowed
      (Succeeds fun value owned net =>
        Keeps outbox Allowed (Succeeds known) (next value).run owned net)
      program.run owned net) :
    Keeps outbox Allowed (Succeeds known) (program >>= next).run owned net := by
  rw [ExceptT.run_bind]
  apply Program.SafeOwner.bind
  apply Program.SafeOwner.mono _ hprogram
  intro outcome owned net hnext
  cases outcome with
  | error error => trivial
  | ok result =>
      cases result with
      | error error => trivial
      | ok value => exact hnext

/-! ## The sender's end -/

def SendingAt (stream : Nat) (bytes : List UInt8) (owned : Set StreamEnd) (net : Network) :
    Prop :=
  .sending stream ∈ owned ∧ writtenAt net stream = some bytes

theorem SendingAt.later {stream : Nat} {bytes : List UInt8} {now : Network}
    (hsending : SendingAt stream bytes owned net)
    (hleaves : streamEnds.Leaves owned net now) : SendingAt stream bytes owned now :=
  ⟨hsending.1, (hleaves.2 _ hsending.1).trans hsending.2⟩

theorem keeps_openBi (endpointId : String) :
    Keeps outbox Allowed (Succeeds fun stream => SendingAt stream [])
      (Program.await (.openBi endpointId)) owned net := by
  intro now _ hdelivered _ answer later hanswer
  rcases hanswer with ⟨rfl, rfl⟩ | ⟨hfailed, rfl⟩
  · have hold : ∀ (i : Nat) current, now.streams[i]? = some current →
        (now.streams ++ [.opened now.epoch])[i]? = some current := by
      intro i current hcurrent
      rw [List.getElem?_append_left (List.getElem?_eq_some_iff.mp hcurrent).1]
      exact hcurrent
    have hnew : (now.streams ++ [.opened now.epoch])[now.streams.length]? =
        some (.opened now.epoch) := by
      rw [List.getElem?_append_right le_rfl, Nat.sub_self]
      rfl
    refine ⟨?_, {.sending now.streams.length}, ?_, ?_⟩
    · refine ⟨fun i current hcurrent => ?_, hdelivered.sent⟩
      by_cases hlast : i < now.streams.length
      · rw [List.getElem?_append_left hlast] at hcurrent
        exact hdelivered.streams i current hcurrent
      · have hbound := (List.getElem?_eq_some_iff.mp hcurrent).1
        have hi : i = now.streams.length := by
          rw [List.length_append, List.length_singleton] at hbound
          omega
        subst hi
        have hcurrent' := Option.some.inj (hnew.symm.trans hcurrent)
        subst hcurrent'
        exact ⟨fun _ => rfl, fun hack => absurd rfl hack⟩
    · constructor
      · exact ⟨fun _ hmessage => hmessage,
          fun i current hcurrent => ⟨current, hold i current hcurrent, .refl current⟩⟩
      · intro part hpart
        rw [Set.mem_singleton_iff.mp hpart]
        exact lt_irrefl _
      · intro part hpart
        rw [Set.mem_singleton_iff.mp hpart]
        change _ < (now.streams ++ [_]).length
        rw [List.length_append, List.length_singleton]
        exact Nat.lt_succ_self _
      · intro part hexists _
        cases part with
        | sending i =>
            change writtenAt _ i = writtenAt _ i
            simp only [writtenAt, List.getElem?_append_left hexists]
        | receiving i =>
            obtain ⟨current, hcurrent, -⟩ := hexists
            change consumedAt _ i = consumedAt _ i
            simp only [consumedAt, hold i current hcurrent, hcurrent]
    · refine ⟨Or.inr rfl, ?_⟩
      simp only [writtenAt, hnew]
      rfl
  · exact ⟨hdelivered, ∅, moves_self, succeeds_of_failed hfailed _ _⟩

theorem keeps_writeAll {stream : Nat} {front : List UInt8}
    (hsending : SendingAt stream front owned net) (bytes : List UInt8) :
    Keeps outbox Allowed (Succeeds fun _ => SendingAt stream (front ++ bytes))
      (Program.await (.writeAll stream bytes)) owned net := by
  intro now hnow hdelivered _ answer later hanswer
  obtain ⟨more, -, rfl, hanswer⟩ := hanswer
  refine ⟨?_, ∅, ?_, ?_⟩
  · apply hdelivered.modifyStream
    intro current hcurrent
    have hsound := hdelivered.streams stream current hcurrent
    refine ⟨hsound.unread, fun hack => ?_⟩
    obtain ⟨message, hmessage, hframe⟩ := hsound.acked hack
    exact ⟨message, hmessage, readFrame?_append hframe more⟩
  · apply moves_modifyStream
    · intro current
      exact ⟨List.prefix_append _ _, id⟩
    · exact .inl hsending.1
    · exact .inr fun _ => rfl
  · rw [Set.union_empty]
    rcases hanswer with ⟨rfl, rfl⟩ | hfailed
    · refine ⟨hsending.1, ?_⟩
      have hfront := (hsending.later hnow).2
      rw [writtenAt, Option.map_eq_some_iff] at hfront
      obtain ⟨current, hcurrent, rfl⟩ := hfront
      rw [writtenAt, streams_modifyStream, if_pos rfl, hcurrent]
      rfl
    · exact succeeds_of_failed hfailed _ _

theorem keeps_readAck {stream : Nat} {bytes : List UInt8}
    (hsending : SendingAt stream bytes owned net) :
    Keeps outbox Allowed
      (Succeeds fun _ _ net =>
        ∃ message ∈ net.accepted, readFrame? bytes = some message.payloadJson)
      (Program.await (.readAck stream)) owned net := by
  intro now hnow hdelivered _ answer later hanswer
  rcases hanswer with ⟨current, byte, rest, hcurrent, hack, rfl, rfl⟩ | ⟨hfailed, rfl⟩
  · have hsound := hdelivered.streams stream current hcurrent
    have hnonempty : current.ack ≠ [] := by
      rw [hack]
      exact List.cons_ne_nil _ _
    have hwritten : current.written = bytes := by
      have hbytes := (hsending.later hnow).2
      rw [writtenAt, hcurrent] at hbytes
      exact Option.some.inj hbytes
    obtain ⟨message, hmessage, hframe⟩ := hsound.acked hnonempty
    refine ⟨?_, ∅, ?_, message, hmessage, ?_⟩
    · apply hdelivered.modifyStream
      intro other hother
      have hsame : current = other := Option.some.inj (hcurrent.symm.trans hother)
      subst hsame
      exact ⟨hsound.unread, fun _ => ⟨message, hmessage, hframe⟩⟩
    · apply moves_modifyStream
      · intro _
        exact ⟨List.prefix_refl _, id⟩
      · exact .inr fun _ => rfl
      · exact .inr fun _ => rfl
    · rw [← hwritten]
      exact hframe
  · exact ⟨hdelivered, ∅, moves_self, succeeds_of_failed hfailed _ _⟩

/-- The part of `send_envelope` which uses the connection. -/
theorem keeps_sendFrame (endpointIdText endpointId : String) {payloadJson : String}
    {length : Nat}
    (hlength : frameLength (payloadBytes payloadJson).length = .ok length) :
    Keeps outbox Allowed
      (Succeeds fun _ _ net => ∃ message ∈ net.accepted, message.payloadJson = payloadJson)
      (do
        let connected ← ExceptT.lift (Program.await (.isConnected endpointId))
        if !connected then throw (.notConnected endpointIdText)
        else
          let stream ← attempt (.openBi endpointId) fun failure => .stream (failure.text "")
          attempt (.writeAll stream (lengthBytes length)) fun failure =>
            .stream (failure.text "frame prefix write timed out")
          attempt (.writeAll stream (payloadBytes payloadJson)) fun failure =>
            .stream (failure.text "frame payload write timed out")
          attempt (.finish stream) fun failure => .stream (failure.text "")
          let _ack ← attempt (.readAck stream) fun
            | .timedOut => .stream "ACK timed out"
            | .failed text => .stream s!"ACK failed: {text}"
          pure () : ExceptT SyncTransportError (Program NetworkCall Thrown) Unit).run owned
      net := by
  apply keeps_then
  have hconnected : Keeps outbox Allowed (fun _ _ _ => True)
      (Program.await (.isConnected endpointId)) owned net := by
    apply keeps_idle
    · intro now answer later hlater
      exact hlater
    · intro _ _ _
      trivial
  apply Program.SafeOwner.bind
  apply Program.SafeOwner.mono _ hconnected
  intro outcome owned net _
  cases outcome with
  | error error => trivial
  | ok connected =>
      cases connected with
      | false => trivial
      | true =>
          apply keeps_then
          apply keeps_attempt
          apply Program.SafeOwner.mono _ (keeps_openBi endpointId)
          apply succeeds_mono
          intro stream owned net hopened
          apply keeps_then
          apply keeps_attempt
          apply Program.SafeOwner.mono _ (keeps_writeAll hopened (lengthBytes length))
          apply succeeds_mono
          intro _ owned net hprefixed
          apply keeps_then
          apply keeps_attempt
          apply Program.SafeOwner.mono _ (keeps_writeAll hprefixed (payloadBytes payloadJson))
          apply succeeds_mono
          intro _ owned net hwritten
          apply keeps_then
          apply keeps_attempt
          apply keeps_idle
          · intro now answer later hlater
            exact hlater
          intro answer now hleaves
          match answer with
          | .error _ => trivial
          | .ok (.error _) => trivial
          | .ok (.ok _) =>
              apply keeps_then
              apply keeps_attempt
              apply Program.SafeOwner.mono _ (keeps_readAck (hwritten.later hleaves))
              apply succeeds_mono
              intro _ owned net hacked
              obtain ⟨message, hmessage, hframe⟩ := hacked
              have hsent := readFrame?_sent hlength
              rw [List.nil_append] at hframe
              exact ⟨message, hmessage, Option.some.inj (hframe.symm.trans hsent)⟩

theorem keeps_sendEnvelope (endpointIdText payloadJson : String) :
    Keeps outbox Allowed
      (Succeeds fun _ _ net => ∃ message ∈ net.accepted, message.payloadJson = payloadJson)
      (sendEnvelope endpointIdText payloadJson).run owned net := by
  unfold sendEnvelope
  apply keeps_then
  apply keeps_attempt
  apply keeps_idle
  · intro now answer later hlater
    exact hlater
  intro answer net _
  match answer with
  | .error _ => trivial
  | .ok (.error _) => trivial
  | .ok (.ok endpointId) =>
      apply keeps_then
      cases hlength : frameLength (payloadBytes payloadJson).length with
      | error error => trivial
      | ok length =>
          exact keeps_sendFrame endpointIdText endpointId hlength

theorem keeps_dispatchEnvelope (endpointId payloadJson : String) :
    Keeps outbox Allowed
      (Settles fun _ _ net => ∃ message ∈ net.accepted, message.payloadJson = payloadJson)
      (dispatchEnvelope endpointId payloadJson) owned net := by
  apply Program.SafeOwner.bind
  apply Program.SafeOwner.mono _ (keeps_sendEnvelope endpointId payloadJson)
  intro outcome owned net hsent
  match outcome with
  | .error _ => trivial
  | .ok (.error _) => trivial
  | .ok (.ok _) => exact hsent

/-! ## Statements on the outbox -/

def MarksOnly (marks : String → Prop) ⦃β : Type⦄ (call : DbCall OutboxDatabase β) : Prop :=
  ∀ database, ∀ row ∈ (memoryConnection call database).2.outbox, row.status = .sent →
    (∃ old ∈ database.outbox, old.envelopeId = row.envelopeId ∧ old.status = .sent) ∨
      marks row.envelopeId

variable {marks : String → Prop}

theorem keeps_outbox {post : Except Thrown α → Prop}
    {program : Program (DbCall OutboxDatabase) Thrown α}
    (hprogram : program.Every (MarksOnly marks) post)
    (hmarks : ∀ envelopeId, marks envelopeId → Accepted net envelopeId) :
    Keeps outbox Allowed (fun outcome _ _ => post outcome)
      (program.mapCall fun _ => NetworkCall.outbox) owned net := by
  induction program generalizing owned net with
  | done outcome => exact hprogram
  | call request rest ih =>
      intro now hnow hdelivered _ answer later hanswer
      obtain ⟨database, hdatabase, rfl⟩ := hanswer
      have hmarks' : ∀ envelopeId, marks envelopeId → Accepted now envelopeId :=
        fun envelopeId hmarked => (hmarks envelopeId hmarked).mono hnow.1.accepted
      refine ⟨?_, ∅, moves_of_streams_eq rfl fun _ hmessage => hmessage, ?_⟩
      · refine ⟨hdelivered.streams, ?_⟩
        intro row hrow hsent
        rcases hdatabase with hrun | ⟨-, rfl⟩
        · have hmarked := hprogram.1 now.outbox row (by rwa [hrun]) hsent
          rcases hmarked with ⟨old, hold, hid, hstatus⟩ | hmarked
          · rw [← hid]
            exact hdelivered.sent old hold hstatus
          · exact .inr (hmarks' row.envelopeId hmarked)
        · exact hdelivered.sent row hrow hsent
      · exact ih answer (hprogram.2 answer) hmarks'

theorem marksOnly_query {Row : Type} {statement : Statement OutboxDatabase Row}
    (hreadonly : statement.readonly) :
    MarksOnly marks (.query statement) := by
  intro database row hrow hsent
  have hsame : (memoryConnection (.query statement) database).2 = database := by
    cases hrun : statement.run database with
    | error message => simp only [memoryConnection, hrun]
    | ok result =>
        simp only [memoryConnection, hrun]
        exact Statement.run_database_of_readonly hreadonly hrun
  rw [hsame] at hrow
  exact .inl ⟨row, hrow, rfl, hsent⟩

theorem marksOnly_execute {Row : Type} {statement : Statement OutboxDatabase Row}
    (hrun : ∀ database result, statement.run database = .ok result →
      ∀ row ∈ result.database.outbox, row.status = .sent →
        (∃ old ∈ database.outbox, old.envelopeId = row.envelopeId ∧ old.status = .sent) ∨
          marks row.envelopeId) :
    MarksOnly marks (.execute statement) := by
  intro database row hrow hsent
  cases hresult : statement.run database with
  | error message =>
      simp only [memoryConnection, hresult] at hrow
      exact .inl ⟨row, hrow, rfl, hsent⟩
  | ok result =>
      simp only [memoryConnection, hresult] at hrow
      exact hrun database result hresult row hrow hsent

theorem updateStatement_run {sql : String} {params : List JsonValue} {envelopeId : String}
    {set : OutboxRow → OutboxRow} {database : OutboxDatabase}
    {result : StatementResult OutboxDatabase Unit}
    (hrun : (updateStatement sql params envelopeId set).run database = .ok result) :
    ∀ row ∈ result.database.outbox, row ∈ database.outbox ∨
      ∃ old ∈ database.outbox, old.envelopeId = envelopeId ∧ old.status = .pending ∧
        row = set old := by
  intro row hrow
  unfold updateStatement Statement.run at hrun
  simp only at hrun
  split at hrun
  · cases hrun
  · rename_i later hupdate
    cases hrun
    have hrows := Table.update?_eq_some_iff.mp hupdate
    rw [Table.mem_def, hrows] at hrow
    obtain ⟨old, hold, rfl⟩ := List.mem_map.mp hrow
    unfold Table.updateRow
    split_ifs with hcondition
    · rw [Bool.and_eq_true, decide_eq_true_eq, decide_eq_true_eq] at hcondition
      exact .inr ⟨old, hold, hcondition.1, hcondition.2, rfl⟩
    · exact .inl hold

theorem marksOnly_sent (now : ClockReading) (envelopeId : String) :
    MarksOnly (· = envelopeId) (.execute (sentStatement now.iso envelopeId)) := by
  apply marksOnly_execute
  intro database result hrun row hrow hsent
  rcases updateStatement_run hrun row hrow with hold | ⟨old, hold, hid, -, rfl⟩
  · exact .inl ⟨row, hold, rfl, hsent⟩
  · exact .inr hid

theorem marksOnly_failed (now : ClockReading) (envelopeId : String) (maxAttempts : Int) :
    MarksOnly (fun _ => False)
      (.execute (failedStatement now.iso envelopeId maxAttempts)) := by
  apply marksOnly_execute
  intro database result hrun row hrow hsent
  rcases updateStatement_run hrun row hrow with hold | ⟨old, hold, -, hpending, rfl⟩
  · exact .inl ⟨row, hold, rfl, hsent⟩
  · simp only [failedAttempt, hpending] at hsent
    split_ifs at hsent

theorem marksOnly_insert (row : OutboxRow) (hpending : row.status = .pending) :
    MarksOnly (fun _ => False) (.execute (insertStatement row)) := by
  apply marksOnly_execute
  intro database result hrun other hother hsent
  have hrows := insertStatement_run_ok hrun
  rw [Table.mem_def, hrows, List.mem_append, List.mem_singleton] at hother
  rcases hother with hold | rfl
  · exact .inl ⟨other, hold, rfl, hsent⟩
  · rw [hpending] at hsent
    cases hsent

/-! ## Programs on the outbox -/

theorem every_execute {Row : Type} {statement : Statement OutboxDatabase Row}
    (hmarks : MarksOnly marks (.execute statement)) :
    ((connectionExecutor OutboxDatabase).execute statement).Every (MarksOnly marks)
      fun _ => True := by
  refine ⟨hmarks, fun answer => ?_⟩
  cases answer <;> trivial

theorem every_enqueue (id now : String) (envelope : JsonValue) :
    (OutboxService.enqueue (connectionExecutor OutboxDatabase) id now envelope).Every
      (MarksOnly fun _ => False) fun _ => True := by
  unfold OutboxService.enqueue
  split
  · trivial
  · rename_i validated _
    have hinsert := every_execute
      (marksOnly_insert (newRow id now envelope validated) rfl)
    apply Program.Every.bind
    apply Program.Every.mono _ hinsert
    intro outcome _
    cases outcome <;> trivial

theorem every_markFailed (now : ClockReading) (envelopeId : String)
    (maxAttempts : NumberValue) :
    (OutboxService.markFailed now envelopeId maxAttempts).Every
      (MarksOnly fun _ => False) fun _ => True := by
  unfold OutboxService.markFailed
  split
  · trivial
  · exact every_execute (marksOnly_failed now envelopeId _)

theorem every_markSent (now : ClockReading) (envelopeId : String) :
    (OutboxService.markSent now envelopeId).Every (MarksOnly (· = envelopeId))
      fun _ => True :=
  every_execute (marksOnly_sent now envelopeId)

variable {row : OutboxRow} {record : OutboxRecord}

theorem checkPersisted_eq_ok (hrecord : checkPersisted row = .ok record) :
    record.row = row ∧ row.envelopeJson = some record.envelopeJson ∧
      Carries record.envelopeJson row.envelopeId := by
  unfold checkPersisted at hrecord
  split at hrecord
  · cases hrecord
  · rename_i text htext
    split at hrecord
    · cases hrecord
    · rename_i envelope hparse
      obtain ⟨validated, hvalid, hrecord⟩ := SyncEnvelopeBuilder.check_bind_eq_ok hrecord
      obtain ⟨_, hensure, hrecord⟩ := SyncEnvelopeBuilder.check_bind_eq_ok hrecord
      cases hrecord
      unfold SyncEnvelopeBuilder.ensure at hensure
      split_ifs at hensure with hsame
      exact ⟨rfl, htext, envelope, validated, hparse, hvalid, hsame.1⟩

theorem readRecord_eq_ok (hrecord : readRecord row = .ok record) :
    record.row = row ∧ row.envelopeJson = some record.envelopeJson ∧
      Carries record.envelopeJson row.envelopeId := by
  unfold readRecord at hrecord
  split at hrecord
  · rename_i checked hchecked
    cases hrecord
    exact checkPersisted_eq_ok hchecked
  · cases hrecord

theorem carries_of_readRecord (hrecord : readRecord row = .ok record) :
    Carries record.envelopeJson record.row.envelopeId := by
  obtain ⟨hrow, -, hcarries⟩ := readRecord_eq_ok hrecord
  rw [hrow]
  exact hcarries

def CarryAll (outcome : Except Thrown (List OutboxRecord)) : Prop :=
  ∀ records, outcome = .ok records →
    ∀ record ∈ records, Carries record.envelopeJson record.row.envelopeId

theorem carryAll_mapM (rows : List OutboxRow) : CarryAll (rows.mapM readRecord) := by
  intro records hrecords record hrecord
  obtain ⟨index, hindex, rfl⟩ := List.mem_iff_getElem.mp hrecord
  have hread := forall₂_of_mapM_eq_ok hrecords
  have hrow : index < rows.length := by rwa [hread.length_eq]
  exact carries_of_readRecord (hread.get hrow hindex)

theorem every_pendingBatch (organisationId : String) (limit : NumberValue) :
    (OutboxService.pendingBatch organisationId limit).Every (MarksOnly fun _ => False)
      CarryAll := by
  have hthrow : ∀ error, CarryAll (.error error) := fun _ _ hrecords => by cases hrecords
  unfold OutboxService.pendingBatch
  split
  · exact hthrow _
  · split
    · exact hthrow _
    · rename_i size _
      refine ⟨marksOnly_query rfl, fun answer => ?_⟩
      cases answer with
      | error error => exact hthrow error
      | ok rows => exact carryAll_mapM rows

/-! ## The worker -/

section Worker

variable (endpointId : String)

theorem keeps_unmarked {post : Except Thrown α → Prop}
    {program : Program (DbCall OutboxDatabase) Thrown α}
    (hprogram : program.Every (MarksOnly fun _ => False) post) :
    Keeps outbox Allowed (fun outcome _ _ => post outcome)
      (program.mapCall fun _ => NetworkCall.outbox) owned net :=
  keeps_outbox hprogram fun _ hmarked => hmarked.elim

theorem keeps_silent {request : NetworkCall α}
    (hidle : ∀ now answer later, network request now answer later → later = now) :
    Keeps outbox Allowed anyOwnerOutcome (Program.await request) owned net :=
  keeps_idle hidle fun _ _ _ => trivial

theorem keeps_any_then {program : Program NetworkCall Thrown α}
    {next : α → Program NetworkCall Thrown β}
    (hprogram : Keeps outbox Allowed anyOwnerOutcome program owned net)
    (hnext : ∀ value owned net,
      Keeps outbox Allowed anyOwnerOutcome (next value) owned net) :
    Keeps outbox Allowed anyOwnerOutcome (program >>= next) owned net := by
  apply Program.SafeOwner.bind
  apply Program.SafeOwner.mono _ hprogram
  intro outcome owned net _
  cases outcome with
  | error error => trivial
  | ok value => exact hnext value owned net

theorem keeps_aborted :
    Keeps outbox Allowed anyOwnerOutcome (senderServices endpointId).aborted owned net :=
  keeps_silent fun _ _ _ hlater => hlater

theorem keeps_markFailed (envelopeId : String) :
    Keeps outbox Allowed anyOwnerOutcome ((senderServices endpointId).markFailed envelopeId)
      owned net := by
  apply keeps_any_then
  · exact keeps_silent fun _ _ _ hlater => hlater
  · intro now owned net
    exact keeps_unmarked (every_markFailed now envelopeId defaultMaxAttempts)

theorem keeps_markSent {envelopeId : String} (haccepted : Accepted net envelopeId) :
    Keeps outbox Allowed anyOwnerOutcome ((senderServices endpointId).markSent envelopeId)
      owned net := by
  apply Program.SafeOwner.bind
  apply keeps_idle
  · intro now answer later hlater
    exact hlater
  · intro answer later hleaves
    cases answer with
    | error error => trivial
    | ok now =>
        apply keeps_outbox (every_markSent now envelopeId)
        intro marked hmarked
        subst hmarked
        exact haccepted.mono hleaves.1.accepted

theorem keeps_dispatchEntry {entry : OutboxRecord}
    (hentry : Carries entry.envelopeJson entry.row.envelopeId) :
    Keeps outbox Allowed anyOwnerOutcome
      (OutboxSyncWorker.dispatchEntry (senderServices endpointId) entry) owned net := by
  apply Program.SafeOwner.tryCatch
  have hrecover : ∀ (error : Thrown) owned net,
      Keeps outbox Allowed anyOwnerOutcome
        (do
          if ← (senderServices endpointId).aborted then throw error
          else
            (senderServices endpointId).markFailed entry.row.envelopeId
            pure false) owned net := by
    intro error owned net
    apply keeps_any_then (keeps_aborted endpointId)
    intro aborted owned net
    cases aborted with
    | true => trivial
    | false =>
        apply keeps_any_then (keeps_markFailed endpointId _)
        intro _ _ _
        trivial
  apply Program.SafeOwner.bind
  apply Program.SafeOwner.mono _ (keeps_dispatchEnvelope endpointId entry.envelopeJson)
  intro outcome owned net hdispatched
  cases outcome with
  | error error => exact hrecover error owned net
  | ok _ =>
      obtain ⟨message, hmessage, hpayload⟩ := hdispatched
      have haccepted : Accepted net entry.row.envelopeId :=
        ⟨message, hmessage, by rwa [hpayload]⟩
      apply Program.SafeOwner.bind
      apply Program.SafeOwner.mono _ (keeps_markSent endpointId haccepted)
      intro outcome owned net _
      cases outcome with
      | error error => exact hrecover error owned net
      | ok _ => trivial

theorem keeps_dispatchAll {entries : List OutboxRecord}
    (hentries : ∀ entry ∈ entries, Carries entry.envelopeJson entry.row.envelopeId)
    (dispatched failed : Nat) :
    Keeps outbox Allowed anyOwnerOutcome
      (OutboxSyncWorker.dispatchAll (senderServices endpointId) entries dispatched failed)
      owned net := by
  induction entries generalizing dispatched failed owned net with
  | nil => trivial
  | cons entry entries ih =>
      have hrest := fun other hother => hentries other (List.mem_cons_of_mem _ hother)
      apply keeps_any_then (keeps_aborted endpointId)
      intro aborted owned net
      cases aborted with
      | true => trivial
      | false =>
          apply keeps_any_then
            (keeps_dispatchEntry endpointId (hentries entry List.mem_cons_self))
          intro dispatchedEntry owned net
          cases dispatchedEntry with
          | true => exact ih hrest _ _
          | false => exact ih hrest _ _

theorem keeps_persistCursor (organisationId : String) :
    Keeps outbox Allowed anyOwnerOutcome
      (OutboxSyncWorker.persistCursor (senderServices endpointId) organisationId) owned
      net := by
  apply Program.SafeOwner.tryCatch
  apply keeps_idle
  · intro now answer later hlater
    exact hlater
  · intro answer now _
    cases answer <;> trivial

theorem keeps_handleBatch (organisationId : String) {batch : List OutboxRecord}
    (hbatch : ∀ entry ∈ batch, Carries entry.envelopeJson entry.row.envelopeId) :
    Keeps outbox Allowed anyOwnerOutcome
      (OutboxSyncWorker.handleBatch (senderServices endpointId) organisationId batch) owned
      net := by
  cases batch with
  | nil =>
      apply keeps_any_then (keeps_aborted endpointId)
      intro aborted owned net
      cases aborted with
      | true => trivial
      | false => exact keeps_persistCursor endpointId organisationId
  | cons entry entries =>
      apply keeps_any_then (keeps_dispatchAll endpointId hbatch 0 0)
      intro counts owned net
      apply keeps_any_then (keeps_aborted endpointId)
      intro aborted owned net
      cases aborted with
      | true => trivial
      | false =>
          apply keeps_any_then (keeps_persistCursor endpointId organisationId)
          intro _ owned net
          split_ifs <;> trivial

theorem keeps_handle (organisationId : String) (payload : JsonValue) :
    Keeps outbox Allowed anyOwnerOutcome
      (OutboxSyncWorker.handle (senderServices endpointId) organisationId payload) owned
      net := by
  unfold OutboxSyncWorker.handle
  split_ifs
  · trivial
  · apply keeps_any_then (keeps_aborted endpointId)
    intro aborted owned net
    cases aborted with
    | true => trivial
    | false =>
        have hbatch : Keeps outbox Allowed (fun outcome _ _ => CarryAll outcome)
            ((senderServices endpointId).pendingBatch organisationId
              (OutboxSyncWorker.batchLimitOf payload)) owned net :=
          keeps_unmarked (every_pendingBatch organisationId _)
        apply Program.SafeOwner.bind
        apply Program.SafeOwner.mono _ hbatch
        intro outcome owned net hcarry
        cases outcome with
        | error error => trivial
        | ok batch => exact keeps_handleBatch endpointId organisationId (hcarry batch rfl)

end Worker

/-! ## The receiver's end -/

structure ReceivingAt (stream : Nat) (bytes : List UInt8) (owned : Set StreamEnd)
    (net : Network) : Prop where
  owns : .receiving stream ∈ owned
  consumed : consumedAt net stream = some bytes.length
  read : ∃ current, net.streams[stream]? = some current ∧ current.accepted = true ∧
    bytes <+: current.written

variable {stream : Nat} {bytes : List UInt8}

theorem ReceivingAt.later {now : Network} (hreceiving : ReceivingAt stream bytes owned net)
    (hleaves : streamEnds.Leaves owned net now) : ReceivingAt stream bytes owned now where
  owns := hreceiving.owns
  consumed := (hleaves.2 _ hreceiving.owns).trans hreceiving.consumed
  read := by
    obtain ⟨current, hcurrent, haccepted, hread⟩ := hreceiving.read
    obtain ⟨current', hcurrent', hgrows⟩ := hleaves.1.streams stream current hcurrent
    exact ⟨current', hcurrent', hgrows.accepted haccepted, hread.trans hgrows.written⟩

theorem keeps_match {request : NetworkCall (Except StreamFailure α)}
    {next : Except StreamFailure α → Program NetworkCall Thrown Unit}
    (hfailed : ∀ failure, next (.error failure) = pure ())
    (hrequest : Keeps outbox Allowed
      (Succeeds fun value owned net =>
        Keeps outbox Allowed anyOwnerOutcome (next (.ok value)) owned net)
      (Program.await request) owned net) :
    Keeps outbox Allowed anyOwnerOutcome (Program.await request >>= next) owned net := by
  apply Program.SafeOwner.bind
  apply Program.SafeOwner.mono _ hrequest
  intro outcome owned net hnext
  match outcome with
  | .error _ => trivial
  | .ok (.error failure) =>
      change Keeps outbox Allowed anyOwnerOutcome (next (.error failure)) owned net
      rw [hfailed failure]
      trivial
  | .ok (.ok value) => exact hnext

theorem keeps_acceptBi :
    Keeps outbox Allowed (Succeeds fun stream => ReceivingAt stream [])
      (Program.await .acceptBi) owned net := by
  intro now _ hdelivered _ answer later hanswer
  rcases hanswer with ⟨stream, current, hcurrent, -, hunaccepted, rfl, rfl⟩ | ⟨hfailed, rfl⟩
  · have hsound := hdelivered.streams stream current hcurrent
    have hsame : ∀ other, now.streams[stream]? = some other → other = current :=
      fun other hother => Option.some.inj (hother.symm.trans hcurrent)
    refine ⟨?_, {.receiving stream}, ?_, ?_⟩
    · apply hdelivered.modifyStream
      intro other hother
      rw [hsame other hother]
      refine ⟨fun haccepted => ?_, hsound.acked⟩
      cases haccepted
    · have hmoves : streamEnds.Moves owned ∅ now (now.modifyStream stream fun other =>
          { other with accepted := true }) := by
        apply moves_modifyStream
        · intro other
          exact ⟨List.prefix_refl _, fun _ => rfl⟩
        · exact .inr fun _ => rfl
        · exact .inr fun _ => rfl
      refine ⟨hmoves.grows, ?_, ?_, hmoves.others⟩
      · intro part hpart hexists
        rw [Set.mem_singleton_iff.mp hpart] at hexists
        obtain ⟨other, hother, haccepted⟩ := hexists
        rw [hsame other hother, hunaccepted] at haccepted
        cases haccepted
      · intro part hpart
        rw [Set.mem_singleton_iff.mp hpart]
        refine ⟨{ current with accepted := true }, ?_, rfl⟩
        rw [streams_modifyStream, if_pos rfl, hcurrent]
        rfl
    · refine ⟨Or.inr rfl, ?_, ?_⟩
      · rw [consumedAt, streams_modifyStream, if_pos rfl, hcurrent]
        exact congrArg some (hsound.unread hunaccepted)
      · refine ⟨{ current with accepted := true }, ?_, rfl, List.nil_prefix⟩
        rw [streams_modifyStream, if_pos rfl, hcurrent]
        rfl
  · exact ⟨hdelivered, ∅, moves_self, succeeds_of_failed hfailed _ _⟩

theorem keeps_readExact (hreceiving : ReceivingAt stream bytes owned net) (count : Nat) :
    Keeps outbox Allowed
      (Succeeds fun chunk owned net =>
        chunk.length = count ∧ ReceivingAt stream (bytes ++ chunk) owned net)
      (Program.await (.readExact stream count)) owned net := by
  intro now hnow hdelivered _ answer later hanswer
  rcases hanswer with ⟨current, hcurrent, hcount, rfl, rfl⟩ | ⟨hfailed, rfl⟩
  · have hreceiving' := hreceiving.later hnow
    have hsound := hdelivered.streams stream current hcurrent
    have hconsumed : current.consumed = bytes.length := by
      have hconsumed := hreceiving'.consumed
      rw [consumedAt, hcurrent] at hconsumed
      exact Option.some.inj hconsumed
    obtain ⟨other, hother, haccepted, hleads⟩ := hreceiving'.read
    have hsame : other = current := Option.some.inj (hother.symm.trans hcurrent)
    subst hsame
    obtain ⟨rest, hrest⟩ := hleads
    have hchunk : (other.written.drop other.consumed).take count = rest.take count := by
      rw [hconsumed, ← hrest, List.drop_left]
    have hwritten : other.written.length = bytes.length + rest.length := by
      rw [← hrest, List.length_append]
    have hlength : (rest.take count).length = count := by
      rw [List.length_take]
      omega
    refine ⟨?_, ∅, ?_, ?_⟩
    · apply hdelivered.modifyStream
      intro other' hother'
      have hsame : other = other' := Option.some.inj (hcurrent.symm.trans hother')
      subst hsame
      refine ⟨fun hunaccepted => ?_, hsound.acked⟩
      rw [haccepted] at hunaccepted
      cases hunaccepted
    · apply moves_modifyStream
      · intro _
        exact ⟨List.prefix_refl _, id⟩
      · exact .inr fun _ => rfl
      · exact .inl hreceiving.owns
    · rw [Set.union_empty, hchunk]
      refine ⟨hlength, hreceiving.owns, ?_, ?_⟩
      · rw [consumedAt, streams_modifyStream, if_pos rfl, hcurrent, List.length_append, hlength,
          ← hconsumed]
        rfl
      · refine ⟨{ other with consumed := other.consumed + count }, ?_, haccepted, ?_⟩
        · rw [streams_modifyStream, if_pos rfl, hcurrent]
          rfl
        · rw [← hrest]
          exact List.prefix_append_right_inj _ |>.mpr (List.take_prefix _ _)
  · exact ⟨hdelivered, ∅, moves_self, succeeds_of_failed hfailed _ _⟩

theorem keeps_sendInbound (hreceiving : ReceivingAt stream bytes owned net)
    (message : InboundEnvelopeMessage) :
    Keeps outbox Allowed
      (Succeeds fun _ owned net =>
        ReceivingAt stream bytes owned net ∧ message ∈ net.accepted)
      (Program.await (.sendInbound message)) owned net := by
  intro now hnow hdelivered _ answer later hanswer
  rcases hanswer with ⟨-, rfl, rfl⟩ | ⟨hfailed, rfl⟩
  · have hmore : now.accepted ⊆ now.accepted ++ [message] := List.subset_append_left _ _
    refine ⟨hdelivered.of_same rfl hmore rfl, ∅, moves_of_streams_eq rfl hmore, ?_⟩
    rw [Set.union_empty]
    have hreceiving' := hreceiving.later hnow
    exact ⟨⟨hreceiving'.owns, hreceiving'.consumed, hreceiving'.read⟩,
      List.mem_append_right _ (List.mem_singleton_self _)⟩
  · exact ⟨hdelivered, ∅, moves_self, succeeds_of_failed hfailed _ _⟩

theorem keeps_writeAck (hreceiving : ReceivingAt stream bytes owned net)
    {message : InboundEnvelopeMessage} (hmessage : message ∈ net.accepted)
    (hframe : readFrame? bytes = some message.payloadJson) (ack : List UInt8) :
    Keeps outbox Allowed anyOwnerOutcome (Program.await (.writeAck stream ack)) owned net := by
  intro now hnow hdelivered _ answer later hanswer
  obtain ⟨front, -, rfl, -⟩ := hanswer
  obtain ⟨current, hcurrent, -, hread⟩ := (hreceiving.later hnow).read
  refine ⟨?_, ∅, ?_, trivial⟩
  · apply hdelivered.modifyStream
    intro other hother
    have hsame : current = other := Option.some.inj (hcurrent.symm.trans hother)
    subst hsame
    refine ⟨(hdelivered.streams stream current hcurrent).unread, fun _ => ?_⟩
    exact ⟨message, hnow.1.accepted hmessage, readFrame?_of_prefix hframe hread⟩
  · apply moves_modifyStream
    · intro _
      exact ⟨List.prefix_refl _, id⟩
    · exact .inr fun _ => rfl
    · exact .inr fun _ => rfl

theorem keeps_serveStream (remoteEndpointId : String) :
    Keeps outbox Allowed anyOwnerOutcome (serveStream remoteEndpointId) owned net := by
  apply keeps_match fun _ => rfl
  apply Program.SafeOwner.mono _ keeps_acceptBi
  apply succeeds_mono
  intro stream owned net haccepted
  apply keeps_match fun _ => rfl
  apply Program.SafeOwner.mono _ (keeps_readExact haccepted 4)
  apply succeeds_mono
  rintro front owned net ⟨hfront, hleads⟩
  dsimp only
  split_ifs with hlarge
  · trivial
  · apply keeps_match fun _ => rfl
    apply Program.SafeOwner.mono _ (keeps_readExact hleads (lengthOfBytes front))
    apply succeeds_mono
    rintro body owned net ⟨hbody, hwhole⟩
    dsimp only
    split
    · trivial
    · rename_i payloadJson hpayload
      have hframe : readFrame? ([] ++ front ++ body) = some payloadJson := by
        rw [List.nil_append, readFrame?_parts hfront hbody.symm (by omega)]
        exact hpayload
      apply keeps_match fun _ => rfl
      apply Program.SafeOwner.mono _
        (keeps_sendInbound hwhole ⟨remoteEndpointId, payloadJson⟩)
      apply succeeds_mono
      rintro _ owned net ⟨hwhole, hmessage⟩
      apply keeps_any_then (keeps_writeAck hwhole hmessage hframe [1])
      intro _ owned net
      apply keeps_any_then
      · exact keeps_silent fun _ _ _ hlater => hlater
      · intro _ _ _
        trivial

theorem keeps_elsewhere {request : NetworkCall α}
    (helsewhere : ∀ now answer later, network request now answer later →
      later.streams = now.streams ∧ later.accepted = now.accepted ∧
        later.outbox = now.outbox) :
    Keeps outbox Allowed anyOwnerOutcome (Program.await request) owned net := by
  intro now _ hdelivered _ answer later hanswer
  obtain ⟨hstreams, haccepted, houtbox⟩ := helsewhere now answer later hanswer
  have hmore : now.accepted ⊆ later.accepted := fun message hmessage => haccepted ▸ hmessage
  exact ⟨hdelivered.of_same hstreams hmore houtbox, ∅, moves_of_streams_eq hstreams hmore,
    trivial⟩

theorem keeps_forwardInbound :
    Keeps outbox Allowed anyOwnerOutcome forwardInbound owned net := by
  apply keeps_any_then
  · apply keeps_elsewhere
    intro now answer later hanswer
    rcases hanswer with ⟨message, rest, -, -, rfl⟩ | ⟨-, rfl⟩ <;> exact ⟨rfl, rfl, rfl⟩
  · intro next owned net
    cases next with
    | none => trivial
    | some message =>
        apply keeps_any_then
        · apply keeps_elsewhere
          intro now answer later hanswer
          rcases hanswer with ⟨-, rfl⟩ | ⟨-, rfl⟩ <;> exact ⟨rfl, rfl, rfl⟩
        · intro _ _ _
          trivial

theorem keeps_inbox (program : Program (DbCall InboxTable) Thrown α) :
    Keeps outbox Allowed anyOwnerOutcome
      (program.mapCall fun _ => NetworkCall.inbox) owned net := by
  induction program generalizing owned net with
  | done outcome => trivial
  | call request rest ih =>
      have hrequest : Keeps outbox Allowed anyOwnerOutcome
          (Program.await (NetworkCall.inbox request)) owned net := by
        apply keeps_elsewhere
        rintro now answer later ⟨table, -, rfl⟩
        exact ⟨rfl, rfl, rfl⟩
      intro now hnow hdelivered hallowed answer later hanswer
      obtain ⟨hdelivered', gained, hmoves, -⟩ :=
        hrequest now hnow hdelivered hallowed answer later hanswer
      exact ⟨hdelivered', gained, hmoves, ih answer⟩

theorem keeps_activity (activity : Activity) :
    Keeps outbox Allowed anyOwnerOutcome activity.program owned net := by
  cases activity with
  | enqueue id now envelope =>
      apply keeps_any_then
      · exact keeps_unmarked (every_enqueue id now envelope)
      · intro _ _ _
        trivial
  | sync endpointId organisationId payload => exact keeps_handle endpointId organisationId payload
  | serve epoch remoteEndpointId => exact keeps_serveStream remoteEndpointId
  | forward epoch => exact keeps_forwardInbound
  | receive epoch connectedPeers handlers =>
      apply keeps_any_then
      · apply keeps_elsewhere
        rintro now answer later ⟨message, rest, -, -, rfl⟩
        exact ⟨rfl, rfl, rfl⟩
      · intro message owned net
        exact keeps_inbox _
  | crash =>
      apply keeps_elsewhere
      rintro now answer later ⟨-, rfl⟩
      exact ⟨rfl, rfl, rfl⟩

end Calls

/-! ## Runs -/

/-- In every run, a row which has been marked as sent names an envelope which the channel of
the receiver has taken. -/
theorem sent_only_after_acceptance {outbox : OutboxDatabase} {inbox : InboxTable}
    {system : System Activity NetworkCall Thrown Unit Network}
    (hreaches : NetworkReaches outbox inbox system) {row : OutboxRow}
    (hrow : row ∈ system.state.outbox.outbox) (hsent : row.status = .sent)
    (hunsent : ¬ SentBefore outbox row.envelopeId) :
    Accepted system.state row.envelopeId := by
  have hdelivered : Delivered outbox system.state :=
    System.Reaches.owned (fun activity net _ => keeps_activity activity)
      (delivered_initial outbox inbox) hreaches
  exact (hdelivered.sent row hrow hsent).resolve_left hunsent

end TauriPlatform.SyncEndpoint
