import Mathlib.Logic.Function.Basic
import Mathlib.Tactic.Common
import TauriPlatform.PlatformError

/-!
# The lifecycle of the transport

Calls of `init`, `connect` and `dispose` overlap at their awaits.  A call of `init` holds
the flag `isInitializing` while it awaits `sync_start_endpoint` and then `listen`; another
`init` and a `dispose` wait until the flag is down.  A `dispose` holds nothing while it
awaits `sync_stop_endpoint`.  The native side serves a command at some moment between the
invocation and the moment at which its answer is read.
-/

namespace TauriPlatform

structure SyncEndpointInfo where
  endpointId : String
  addrJson : String
  deriving DecidableEq

namespace IrohSyncTransport

inductive TransportOperation where
  | init
  | connect (peerId peerPublicKeyOrAddr : String)
  | dispose
  deriving DecidableEq

inductive TransportPhase where
  | idle
  | waiting
  | starting
  | started (answer : Except Thrown SyncEndpointInfo)
  | registering
  | registered (answer : Except Thrown Unit)
  | connecting
  | connected (answer : Except Thrown String)
  | stopping
  | stopped (answer : Except Thrown Unit)
  | settled (answer : Except Thrown (Option SyncEndpointInfo))

structure TransportState where
  endpointInfo : Option SyncEndpointInfo
  unlistenFn : Option Nat
  isInitializing : Bool
  connectedPeers : List (String × String)

/-- The endpoint in `SyncState`, and the inbound listeners of the event system. -/
structure NativeTransport where
  endpoint : Option String
  listeners : List Nat

/-- The transport with its calls.  `lastRegistered` tells whether the last `listen` which
has been answered registered its listener. -/
structure TransportSystem where
  transport : TransportState
  native : NativeTransport
  phases : Nat → TransportPhase
  lastRegistered : Bool

namespace TransportSystem

def initial : TransportSystem where
  transport := {
    endpointInfo := none
    unlistenFn := none
    isInitializing := false
    connectedPeers := [] }
  native := { endpoint := none, listeners := [] }
  phases := fun _ => .idle
  lastRegistered := false

def setPhase (system : TransportSystem) (call : Nat) (phase : TransportPhase) :
    TransportSystem :=
  { system with phases := Function.update system.phases call phase }

def setInitializing (system : TransportSystem) (isInitializing : Bool) : TransportSystem :=
  { system with transport := { system.transport with isInitializing := isInitializing } }

end TransportSystem

/-- `Map.set`. -/
def setPeer (peerId endpointId : String) (peers : List (String × String)) :
    List (String × String) :=
  if peers.any (·.1 = peerId) then
    peers.map fun peer => if peer.1 = peerId then (peerId, endpointId) else peer
  else peers ++ [(peerId, endpointId)]

/-! ## The calls between their awaits -/

/-- `this.endpointInfo && (!this.listen || this.unlistenFn)`. -/
def isComplete (listens : Bool) (transport : TransportState) : Bool :=
  transport.endpointInfo.isSome && (!listens || transport.unlistenFn.isSome)

/-- `init` has returned; `connect` goes on. -/
def initialised (operation : TransportOperation) (call : Nat) (system : TransportSystem) :
    TransportSystem :=
  match operation with
  | .connect _ _ => system.setPhase call .connecting
  | .init | .dispose => system.setPhase call (.settled (.ok system.transport.endpointInfo))

/-- The rest of `init` once there is an endpoint. -/
def listen (listens : Bool) (operation : TransportOperation) (call : Nat)
    (system : TransportSystem) : TransportSystem :=
  if listens && system.transport.unlistenFn.isNone then system.setPhase call .registering
  else initialised operation call (system.setInitializing false)

/-- `init` from where it raises the flag. -/
def initialise (listens : Bool) (operation : TransportOperation) (call : Nat)
    (system : TransportSystem) : TransportSystem :=
  let system := system.setInitializing true
  match system.transport.endpointInfo with
  | none => system.setPhase call .starting
  | some _ => listen listens operation call system

/-- `init` when it is called, and when it finds the flag down after it has waited. -/
def enterInit (listens : Bool) (operation : TransportOperation) (call : Nat)
    (system : TransportSystem) : TransportSystem :=
  if isComplete listens system.transport then initialised operation call system
  else if system.transport.isInitializing then system.setPhase call .waiting
  else initialise listens operation call system

def unlisten (system : TransportSystem) : TransportSystem :=
  match system.transport.unlistenFn with
  | none => system
  | some listener =>
      { system with
        transport := { system.transport with unlistenFn := none }
        native := { system.native with listeners := system.native.listeners.erase listener } }

/-- `dispose`, up to its second `await`. -/
def enterDispose (call : Nat) (system : TransportSystem) : TransportSystem :=
  if system.transport.isInitializing then system.setPhase call .waiting
  else
    let system := unlisten system
    match system.transport.endpointInfo with
    | none => system.setPhase call (.settled (.ok none))
    | some _ =>
        { system with
          transport := { system.transport with endpointInfo := none, connectedPeers := [] }
          phases := Function.update system.phases call .stopping }

def enter (listens : Bool) (operation : TransportOperation) (call : Nat)
    (system : TransportSystem) : TransportSystem :=
  match operation with
  | .init | .connect _ _ => enterInit listens operation call system
  | .dispose => enterDispose call system

def resume (listens : Bool) (operation : TransportOperation) (call : Nat)
    (system : TransportSystem) : Option TransportSystem :=
  match system.phases call with
  | .started (.error error) | .registered (.error error) =>
      some ((system.setInitializing false).setPhase call (.settled (.error error)))
  | .started (.ok info) =>
      some (listen listens operation call
        { system with transport := { system.transport with endpointInfo := some info } })
  | .registered (.ok ()) =>
      some (initialised operation call
        { system with
          transport := {
            system.transport with unlistenFn := some call, isInitializing := false } })
  | .connected (.error error) | .stopped (.error error) =>
      some (system.setPhase call (.settled (.error error)))
  | .connected (.ok remoteEndpointId) =>
      let connectedPeers :=
        match operation with
        | .connect peerId _ => setPeer peerId remoteEndpointId system.transport.connectedPeers
        | .init | .dispose => system.transport.connectedPeers
      some
        { system with
          transport := { system.transport with connectedPeers := connectedPeers }
          phases := Function.update system.phases call (.settled (.ok none)) }
  | .stopped (.ok ()) => some (system.setPhase call (.settled (.ok none)))
  | _ => none

/-! ## Steps -/

inductive TransportEvent where
  | call (call : Nat)
  /-- The timer of a call which waits for the flag has fired. -/
  | poll (call : Nat)
  | startEndpoint (call : Nat) (answer : Except Thrown SyncEndpointInfo)
  | register (call : Nat) (answer : Except Thrown Unit)
  | connectPeer (call : Nat) (answer : Except Thrown String)
  | stopEndpoint (call : Nat) (answer : Except Thrown Unit)
  | resume (call : Nat)

/-- `sync_start_endpoint`: a running endpoint is answered again. -/
def startEndpoint (answer : Except Thrown SyncEndpointInfo) (endpoint : Option String) :
    Option (Option String) :=
  match answer, endpoint with
  | .error _, endpoint => some endpoint
  | .ok info, none => some (some info.endpointId)
  | .ok info, some endpointId =>
      if info.endpointId = endpointId then some (some endpointId) else none

/-- A step in which the call numbered `call` performs `operations call`. -/
def step (listens : Bool) (operations : Nat → TransportOperation) (system : TransportSystem) :
    TransportEvent → Option TransportSystem
  | .call call =>
      match system.phases call with
      | .idle => some (enter listens (operations call) call system)
      | _ => none
  | .poll call =>
      match system.phases call with
      | .waiting =>
          if system.transport.isInitializing then some system
          else some (enter listens (operations call) call system)
      | _ => none
  | .startEndpoint call answer =>
      match system.phases call with
      | .starting =>
          (startEndpoint answer system.native.endpoint).map fun endpoint =>
            { system with
              native := { system.native with endpoint := endpoint }
              phases := Function.update system.phases call (.started answer) }
      | _ => none
  | .register call answer =>
      match system.phases call with
      | .registering =>
          let listeners :=
            match answer with
            | .ok () => system.native.listeners ++ [call]
            | .error _ => system.native.listeners
          some
            { system with
              native := { system.native with listeners := listeners }
              phases := Function.update system.phases call (.registered answer)
              lastRegistered := answer.isOk }
      | _ => none
  | .connectPeer call answer =>
      match system.phases call with
      | .connecting =>
          -- `sync_connect_peer` fails without an endpoint.
          if answer.isOk && system.native.endpoint.isNone then none
          else some (system.setPhase call (.connected answer))
      | _ => none
  | .stopEndpoint call answer =>
      match system.phases call with
      | .stopping =>
          let endpoint :=
            match answer with
            | .ok () => none
            | .error _ => system.native.endpoint
          some
            { system with
              native := { system.native with endpoint := endpoint }
              phases := Function.update system.phases call (.stopped answer) }
      | _ => none
  | .resume call => resume listens (operations call) call system

def Quiescent (system : TransportSystem) : Prop :=
  ∀ call, system.phases call = .idle ∨ ∃ answer, system.phases call = .settled answer

/-- Steps all of which are allowed in the states in which they are taken. -/
inductive Runs (listens : Bool) (operations : Nat → TransportOperation)
    (Allowed : TransportSystem → TransportEvent → Prop) :
    TransportSystem → TransportSystem → Prop
  | refl (system : TransportSystem) : Runs listens operations Allowed system system
  | tail {system later after : TransportSystem} (event : TransportEvent) :
      Runs listens operations Allowed system later → Allowed later event →
      step listens operations later event = some after →
      Runs listens operations Allowed system after

end IrohSyncTransport

end TauriPlatform
