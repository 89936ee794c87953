import Mathlib.Data.List.Basic
import Mathlib.Order.Nat
import Mathlib.Tactic.Common

/-!
# The lifecycle of the background scheduler

`start` spawns the loop of the outbox scheduler and keeps its handle; `stop` takes the handle,
signals the loop and awaits its end.  A `start` during that wait finds no handle, and spawns a
second loop next to the first.
-/

namespace TauriPlatform.Background

inductive BackgroundError where
  | notRunning
  | join (message : String)
  | invalidConfig (message : String)
  deriving DecidableEq

/-! ## State -/

/-- The loop is at its `select!`, or in `run_tick`. -/
inductive LoopPhase where
  | waiting
  | ticking
  deriving DecidableEq

structure SchedulerTask where
  id : Nat
  /-- The value of its cancellation channel. -/
  cancelled : Bool
  phase : LoopPhase

structure BackgroundLifecycleState where
  /-- The polling interval, in nanoseconds. -/
  interval : Nat
  handle : Option Nat
  alive : List SchedulerTask
  /-- The tasks which have ended in a panic. -/
  panicked : List (Nat × String)
  nextTask : Nat
  /-- The tasks whose end is awaited by a `stop`. -/
  stopping : List Nat

namespace BackgroundLifecycleState

def new (interval : Nat) : BackgroundLifecycleState where
  interval := interval
  handle := none
  alive := []
  panicked := []
  nextTask := 0
  stopping := []

/-! ## Calls -/

def isRunning (state : BackgroundLifecycleState) (id : Nat) : Bool :=
  state.alive.any fun task => task.id = id

/-- `scheduler::start`. -/
def spawn (state : BackgroundLifecycleState) :
    Except BackgroundError Nat × BackgroundLifecycleState :=
  if state.interval = 0 then
    (.error (.invalidConfig "polling interval must be greater than zero"), state)
  else
    (.ok state.nextTask, { state with
      alive := state.alive ++ [{ id := state.nextTask, cancelled := false, phase := .waiting }]
      nextTask := state.nextTask + 1 })

def start (state : BackgroundLifecycleState) :
    Except BackgroundError Unit × BackgroundLifecycleState :=
  if state.handle.any state.isRunning then (.ok (), state)
  else
    match state.spawn with
    | (.error error, state) => (.error error, state)
    | (.ok id, state) => (.ok (), { state with handle := some id })

def modifyTask (id : Nat) (change : SchedulerTask → SchedulerTask)
    (state : BackgroundLifecycleState) : BackgroundLifecycleState :=
  { state with
    alive := state.alive.map fun task => if task.id = id then change task else task }

/-- `stop`, up to its `await`: it answers the task whose end it awaits. -/
def stop (state : BackgroundLifecycleState) :
    Except BackgroundError Nat × BackgroundLifecycleState :=
  match state.handle with
  | none => (.error .notRunning, state)
  | some id =>
      (.ok id, modifyTask id (fun task => { task with cancelled := true })
        { state with handle := none, stopping := state.stopping ++ [id] })

/-- The rest of `stop`, once the task has ended. -/
def join (id : Nat) (state : BackgroundLifecycleState) :
    Option (Except BackgroundError Unit × BackgroundLifecycleState) :=
  if id ∈ state.stopping ∧ ¬ state.isRunning id then
    let answer : Except BackgroundError Unit :=
      match state.panicked.lookup id with
      | some message => .error (.join message)
      | none => .ok ()
    some (answer, { state with stopping := state.stopping.erase id })
  else none

/-! ## The loop -/

/-- `select!` may take the tick even when the task has been cancelled. -/
def tick (id : Nat) (state : BackgroundLifecycleState) : Option BackgroundLifecycleState :=
  if state.alive.any fun task => task.id = id && task.phase = .waiting then
    some (state.modifyTask id fun task => { task with phase := .ticking })
  else none

def tickEnds (id : Nat) (state : BackgroundLifecycleState) : Option BackgroundLifecycleState :=
  if state.alive.any fun task => task.id = id && task.phase = .ticking then
    some (state.modifyTask id fun task => { task with phase := .waiting })
  else none

def remove (id : Nat) (state : BackgroundLifecycleState) : BackgroundLifecycleState :=
  { state with alive := state.alive.filter fun task => task.id ≠ id }

def observe (id : Nat) (state : BackgroundLifecycleState) : Option BackgroundLifecycleState :=
  if state.alive.any fun task => task.id = id && task.phase = .waiting && task.cancelled then
    some (state.remove id)
  else none

def panic (id : Nat) (message : String) (state : BackgroundLifecycleState) :
    Option BackgroundLifecycleState :=
  if state.isRunning id then
    some (remove id { state with panicked := (id, message) :: state.panicked })
  else none

end BackgroundLifecycleState

/-! ## Runs -/

inductive LifecycleEvent where
  | start
  | stop
  | join (id : Nat)
  | tick (id : Nat)
  | tickEnds (id : Nat)
  | observe (id : Nat)
  | panic (id : Nat) (message : String)
  deriving DecidableEq

def BackgroundLifecycleState.step (state : BackgroundLifecycleState) :
    LifecycleEvent → Option BackgroundLifecycleState
  | .start => some state.start.2
  | .stop => some state.stop.2
  | .join id => (state.join id).map Prod.snd
  | .tick id => state.tick id
  | .tickEnds id => state.tickEnds id
  | .observe id => state.observe id
  | .panic id message => state.panic id message

/-- The events of a run, which are all admitted, and the state after them. -/
inductive LifecycleRun (Admitted : BackgroundLifecycleState → LifecycleEvent → Prop)
    (interval : Nat) : List LifecycleEvent → BackgroundLifecycleState → Prop
  | new : LifecycleRun Admitted interval [] (.new interval)
  | step {events : List LifecycleEvent} {state next : BackgroundLifecycleState}
      (event : LifecycleEvent) :
      LifecycleRun Admitted interval events state → Admitted state event →
      state.step event = some next →
      LifecycleRun Admitted interval (events ++ [event]) next

theorem LifecycleRun.append
    {Admitted : BackgroundLifecycleState → LifecycleEvent → Prop} {interval : Nat}
    {events : List LifecycleEvent} {state last : BackgroundLifecycleState}
    (hrun : LifecycleRun Admitted interval events state) (later : List LifecycleEvent)
    (hadmitted : ∀ event ∈ later, ∀ state, Admitted state event)
    (hlast : later.foldlM BackgroundLifecycleState.step state = some last) :
    LifecycleRun Admitted interval (events ++ later) last := by
  induction later generalizing events state with
  | nil =>
      cases hlast
      rwa [List.append_nil]
  | cons event later ih =>
      rw [List.foldlM_cons] at hlast
      obtain ⟨next, hnext, hrest⟩ := Option.bind_eq_some_iff.mp hlast
      have hstep := hrun.step event (hadmitted event List.mem_cons_self state) hnext
      rw [List.append_cons]
      exact ih hstep (fun other hother => hadmitted other (List.mem_cons_of_mem _ hother)) hrest

def LifecycleEvent.isCall (event : LifecycleEvent) : Bool :=
  event = .start || event = .stop

/-- The last call of `start` or `stop`. -/
def lastCall (events : List LifecycleEvent) : Option LifecycleEvent :=
  (events.filter LifecycleEvent.isCall).getLast?

/-- One scheduler is alive at most, and none when every stop has completed and no start has come
after them. -/
structure OneScheduler (events : List LifecycleEvent) (state : BackgroundLifecycleState) :
    Prop where
  one : state.alive.length ≤ 1
  none : lastCall events = some .stop → state.stopping = [] → state.alive = []
  /-- The end which a stop awaits has been asked for. -/
  signalled : ∀ task ∈ state.alive, task.id ∈ state.stopping → task.cancelled

def StartsAfterEnds (state : BackgroundLifecycleState) (event : LifecycleEvent) : Prop :=
  event = .start → ∀ id ∈ state.stopping, ¬ state.isRunning id

/-! ## The invariant -/

structure InStep (events : List LifecycleEvent) (state : BackgroundLifecycleState) : Prop where
  one : state.alive.length ≤ 1
  owned : ∀ task ∈ state.alive, state.handle = some task.id ∨ task.id ∈ state.stopping
  signalled : ∀ task ∈ state.alive, task.id ∈ state.stopping → task.cancelled
  known : (∀ id ∈ state.stopping, id < state.nextTask) ∧
    ∀ id, state.handle = some id → id < state.nextTask
  taken : lastCall events = some .stop → state.handle = none

section Steps

variable {events : List LifecycleEvent} {state next : BackgroundLifecycleState} {id : Nat}

variable {event : LifecycleEvent}

theorem lastCall_append (events : List LifecycleEvent) (hother : event.isCall = false) :
    lastCall (events ++ [event]) = lastCall events := by
  rw [lastCall, List.filter_append, List.filter_cons_of_neg (by simp [hother]), List.filter_nil,
    List.append_nil, lastCall]

theorem isRunning_iff : state.isRunning id ↔ ∃ task ∈ state.alive, task.id = id := by
  simp [BackgroundLifecycleState.isRunning]

theorem InStep.new (interval : Nat) : InStep [] (.new interval) where
  one := Nat.zero_le 1
  owned _ htask := nomatch htask
  signalled _ htask := nomatch htask
  known := ⟨fun _ hid => (nomatch hid), fun _ hhandle => (nomatch hhandle)⟩
  taken hstop := nomatch hstop

theorem InStep.start (hstep : InStep events state)
    (hended : ∀ id ∈ state.stopping, ¬ state.isRunning id) :
    InStep (events ++ [.start]) state.start.2 := by
  have htaken : lastCall (events ++ [.start]) = some .start := by
    simp [lastCall, LifecycleEvent.isCall]
  have hkeeps : InStep (events ++ [.start]) state := by
    refine { hstep with taken := fun hstop => ?_ }
    rw [htaken] at hstop
    cases hstop
  unfold BackgroundLifecycleState.start
  split_ifs with hrunning
  · exact hkeeps
  · unfold BackgroundLifecycleState.spawn
    split_ifs
    · exact hkeeps
    · -- neither the slot nor a stop has a task which is alive
      have hnone : state.alive = [] := by
        rw [List.eq_nil_iff_forall_not_mem]
        intro task htask
        have halive : state.isRunning task.id := isRunning_iff.mpr ⟨task, htask, rfl⟩
        rcases hstep.owned task htask with hhandle | hstopping
        · rw [hhandle] at hrunning
          exact hrunning halive
        · exact hended task.id hstopping halive
      have hmem : ∀ {task}, task ∈ state.alive ++
          [{ id := state.nextTask, cancelled := false, phase := .waiting }] →
          task.id = state.nextTask := by
        intro task htask
        rw [hnone, List.nil_append, List.mem_singleton] at htask
        rw [htask]
      constructor
      · rw [hnone]
        exact Nat.le_refl 1
      · intro task htask
        exact .inl (congrArg some (hmem htask).symm)
      · intro task htask hstopping
        have hless := hstep.known.1 task.id hstopping
        rw [hmem htask] at hless
        exact absurd hless (lt_irrefl _)
      · refine ⟨fun id hid => (hstep.known.1 id hid).trans (Nat.lt_succ_self _), ?_⟩
        intro id hid
        rw [← Option.some.inj hid]
        exact Nat.lt_succ_self _
      · intro hstop
        rw [htaken] at hstop
        cases hstop

theorem mem_signalled {tasks : List SchedulerTask} {task : SchedulerTask}
    (htask : task ∈ tasks.map fun task =>
      if task.id = id then { task with cancelled := true } else task) :
    ∃ old ∈ tasks, task.id = old.id ∧ (old.id = id ∨ old.cancelled → task.cancelled) := by
  obtain ⟨old, hold, rfl⟩ := List.mem_map.mp htask
  refine ⟨old, hold, ?_⟩
  split_ifs with hself
  · exact ⟨rfl, fun _ => rfl⟩
  · exact ⟨rfl, fun hcancelled => hcancelled.resolve_left hself⟩

theorem InStep.stop (hstep : InStep events state) :
    InStep (events ++ [.stop]) state.stop.2 := by
  unfold BackgroundLifecycleState.stop
  split
  · rename_i hhandle
    exact { hstep with taken := fun _ => hhandle }
  · rename_i id hhandle
    constructor
    · simpa [BackgroundLifecycleState.modifyTask] using hstep.one
    · intro task htask
      obtain ⟨old, hold, hid, -⟩ := mem_signalled htask
      rw [hid]
      refine .inr (List.mem_append.mpr ?_)
      rcases hstep.owned old hold with hself | hstopping
      · rw [hhandle] at hself
        exact .inr (List.mem_singleton.mpr (Option.some.inj hself).symm)
      · exact .inl hstopping
    · intro task htask hstopping
      obtain ⟨old, hold, hid, hcancelled⟩ := mem_signalled htask
      rw [hid] at hstopping
      refine hcancelled ((List.mem_append.mp hstopping).symm.imp List.mem_singleton.mp ?_)
      exact hstep.signalled old hold
    · refine ⟨fun other hother => ?_, fun other hother => nomatch hother⟩
      rcases List.mem_append.mp hother with hold | hlast
      · exact hstep.known.1 other hold
      · rw [List.mem_singleton.mp hlast]
        exact hstep.known.2 id hhandle
    · exact fun _ => rfl

theorem InStep.join (hstep : InStep events state)
    (hnext : (state.join id).map Prod.snd = some next) :
    InStep (events ++ [.join id]) next := by
  obtain ⟨⟨answer, later⟩, hjoin, rfl⟩ := Option.map_eq_some_iff.mp hnext
  unfold BackgroundLifecycleState.join at hjoin
  split_ifs at hjoin with hended
  cases hjoin
  refine ⟨hstep.one, fun task htask => ?_, fun task htask hstopping => ?_, ?_, fun hstop => ?_⟩
  · refine (hstep.owned task htask).imp_right fun hstopping => ?_
    refine (List.mem_erase_of_ne ?_).mpr hstopping
    rintro rfl
    exact hended.2 (isRunning_iff.mpr ⟨task, htask, rfl⟩)
  · exact hstep.signalled task htask (List.mem_of_mem_erase hstopping)
  · exact ⟨fun other hother => hstep.known.1 other (List.mem_of_mem_erase hother),
      hstep.known.2⟩
  · rw [lastCall_append _ rfl] at hstop
    exact hstep.taken hstop

theorem InStep.loops (hstep : InStep events state) (hother : event.isCall = false)
    (hlength : next.alive.length ≤ state.alive.length)
    (halive : ∀ task ∈ next.alive, ∃ old ∈ state.alive,
      task.id = old.id ∧ task.cancelled = old.cancelled) (hhandle : next.handle = state.handle)
    (hstopping : next.stopping = state.stopping) (hnextTask : next.nextTask = state.nextTask) :
    InStep (events ++ [event]) next := by
  constructor
  · exact hlength.trans hstep.one
  · intro task htask
    obtain ⟨old, hold, hid, -⟩ := halive task htask
    rw [hid, hhandle, hstopping]
    exact hstep.owned old hold
  · intro task htask hmem
    obtain ⟨old, hold, hid, hcancelled⟩ := halive task htask
    rw [hid, hstopping] at hmem
    rw [hcancelled]
    exact hstep.signalled old hold hmem
  · rw [hhandle, hstopping, hnextTask]
    exact hstep.known
  · rw [hhandle, lastCall_append _ hother]
    exact hstep.taken

theorem InStep.modifyTask (hstep : InStep events state) (hother : event.isCall = false)
    {change : SchedulerTask → SchedulerTask}
    (hchange : ∀ task, (change task).id = task.id ∧ (change task).cancelled = task.cancelled) :
    InStep (events ++ [event]) (state.modifyTask id change) := by
  refine hstep.loops hother (List.length_map _).le (fun task htask => ?_) rfl rfl rfl
  obtain ⟨old, hold, rfl⟩ := List.mem_map.mp htask
  refine ⟨old, hold, ?_⟩
  split_ifs
  · exact hchange old
  · exact ⟨rfl, rfl⟩

theorem InStep.step (hstep : InStep events state) (hadmitted : StartsAfterEnds state event)
    (hnext : state.step event = some next) :
    InStep (events ++ [event]) next := by
  cases event with
  | start =>
      cases hnext
      exact hstep.start (hadmitted rfl)
  | stop =>
      cases hnext
      exact hstep.stop
  | join id => exact hstep.join hnext
  | tick id =>
      simp only [BackgroundLifecycleState.step, BackgroundLifecycleState.tick] at hnext
      split_ifs at hnext
      cases hnext
      exact hstep.modifyTask rfl fun _ => ⟨rfl, rfl⟩
  | tickEnds id =>
      simp only [BackgroundLifecycleState.step, BackgroundLifecycleState.tickEnds] at hnext
      split_ifs at hnext
      cases hnext
      exact hstep.modifyTask rfl fun _ => ⟨rfl, rfl⟩
  | observe id =>
      simp only [BackgroundLifecycleState.step, BackgroundLifecycleState.observe] at hnext
      split_ifs at hnext
      cases hnext
      exact hstep.loops rfl (List.length_filter_le _ _)
        (fun task htask => ⟨task, (List.mem_filter.mp htask).1, rfl, rfl⟩) rfl rfl rfl
  | panic id message =>
      simp only [BackgroundLifecycleState.step, BackgroundLifecycleState.panic] at hnext
      split_ifs at hnext
      cases hnext
      exact hstep.loops rfl (List.length_filter_le _ _)
        (fun task htask => ⟨task, (List.mem_filter.mp htask).1, rfl, rfl⟩) rfl rfl rfl

end Steps

theorem inStep_of_run {interval : Nat} {events : List LifecycleEvent}
    {state : BackgroundLifecycleState}
    (hrun : LifecycleRun StartsAfterEnds interval events state) : InStep events state := by
  induction hrun with
  | new => exact .new interval
  | step event _ hadmitted hnext ih => exact ih.step hadmitted hnext

/-- As long as no start comes before a stopped task has ended, there is one scheduler. -/
theorem oneScheduler_of_startsAfterEnds {interval : Nat} {events : List LifecycleEvent}
    {state : BackgroundLifecycleState}
    (hrun : LifecycleRun StartsAfterEnds interval events state) : OneScheduler events state := by
  have hstep := inStep_of_run hrun
  refine ⟨hstep.one, fun hstop hcompleted => ?_, hstep.signalled⟩
  rw [List.eq_nil_iff_forall_not_mem]
  intro task htask
  rcases hstep.owned task htask with hhandle | hstopping
  · rw [hstep.taken hstop] at hhandle
    cases hhandle
  · rw [hcompleted] at hstopping
    cases hstopping

/-! ### A start during a stop -/

theorem startDuringStop_breaks :
    ¬ ∀ (interval : Nat) (events : List LifecycleEvent) (state : BackgroundLifecycleState),
      LifecycleRun (fun _ _ => True) interval events state → OneScheduler events state := by
  intro hall
  have hone := (hall 1 [.start, .stop, .start] _
    (LifecycleRun.new.append [.start, .stop, .start] (fun _ _ _ => trivial) rfl)).one
  exact absurd hone (by decide)

theorem startAfterStop_oneScheduler :
    ∃ state, [LifecycleEvent.start, .tick 0, .stop, .tickEnds 0, .observe 0, .join 0].foldlM
        BackgroundLifecycleState.step (.new 1) = some state ∧
      OneScheduler [.start, .tick 0, .stop, .tickEnds 0, .observe 0, .join 0, .start]
        state.start.2 := by
  have hstarted : LifecycleRun StartsAfterEnds 1 [.start] (BackgroundLifecycleState.new 1).start.2 :=
    LifecycleRun.new.step .start (fun _ _ hid => nomatch hid) rfl
  have hstopped := hstarted.append [.tick 0, .stop, .tickEnds 0, .observe 0, .join 0]
    (fun event hevent state hstart => by simp [hstart] at hevent) rfl
  exact ⟨_, rfl, oneScheduler_of_startsAfterEnds
    (hstopped.step .start (fun _ _ hid => nomatch hid) rfl)⟩

end TauriPlatform.Background
