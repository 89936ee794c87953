import TauriPlatform.TaskWorker

/-!
# The poll loop of a worker

`TaskWorker` keeps a running flag, the timer of its next poll and the executions in flight.
Its steps are those of the event loop: a call of `start` or `stop`, a timer which fires, a
statement of a poll or of an execution which is answered, and what follows on an answer.
Other calls of the queue are in flight on the same table.
-/

namespace TauriPlatform.TaskWorker

open Async Relational TaskQueueService

/-! ## State -/

/-- `stop` only waits once it has cleared the flag and the timer, so nothing is kept of it.
A poll is past its claim when the claimed tasks have been dispatched, or when it had no
capacity to claim. -/
inductive PollStage where
  | claiming (program : Program (DbCall TaskTable) Thrown (List TaskRecord))
  | dispatched

structure Poll where
  available : Int
  /-- The attempts which its claim has handed out. -/
  handed : List (String × Int)
  stage : PollStage

/-- An entry of the map `inFlight`. -/
structure Execution where
  task : TaskRecord
  program : Program (DbCall TaskTable) Thrown Unit

def Execution.id (execution : Execution) : String :=
  execution.task.row.id

structure LoopState where
  table : TaskTable
  /-- The keys of the map `handlers`. -/
  handlers : List String
  running : Bool
  /-- The timers which are armed. -/
  timers : List Nat
  pollTimer : Option Nat
  nextTimer : Nat
  polls : List Poll
  inFlight : List Execution
  /-- Calls of the queue by others. -/
  calls : List (Program (DbCall TaskTable) Thrown QueueAnswer)
  /-- The attempts of the tasks which `claimNextBatch` has returned. -/
  returned : List (String × Int)
  /-- The attempts which the claims that returned had handed out. -/
  answered : List (String × Int)
  /-- The attempts which have been executed. -/
  executed : List (String × Int)

/-- A worker on a table, before its first `start`. -/
def LoopState.of (table : TaskTable) : LoopState where
  table := table
  handlers := []
  running := false
  timers := []
  pollTimer := none
  nextTimer := 0
  polls := []
  inFlight := []
  calls := []
  returned := []
  answered := []
  executed := []

/-! ## Steps of the worker -/

namespace LoopState

def schedulePoll (state : LoopState) : LoopState :=
  { state with
    timers := state.timers ++ [state.nextTimer]
    pollTimer := some state.nextTimer
    nextTimer := state.nextTimer + 1 }

def start (state : LoopState) : LoopState :=
  if state.running then state else schedulePoll { state with running := true }

def stop (state : LoopState) : LoopState :=
  if state.running then
    { state with
      running := false
      timers := state.timers.filter fun timer => state.pollTimer ≠ some timer
      pollTimer := none }
  else state

def register (state : LoopState) (taskType : String) : LoopState :=
  { state with
    handlers :=
      if taskType ∈ state.handlers then state.handlers else state.handlers ++ [taskType] }

/-- `poll`, up to its first `await`. -/
def poll (collation : Collation) (concurrency : Nat) (now : ClockReading)
    (readings : Nat → ClockReading) (state : LoopState) : LoopState :=
  if state.running then
    let available : Int := concurrency - state.inFlight.length
    if 0 < available ∧ state.handlers ≠ [] then
      { state with
        polls := state.polls ++ [{
          available := available
          handed := []
          stage := .claiming (claimNextBatch (connectionExecutor TaskTable) collation now readings
            (.finite (.integer available)) state.handlers) }] }
    else
      { state with
        polls := state.polls ++ [{ available := available, handed := [], stage := .dispatched }] }
  else state

def fire (collation : Collation) (concurrency timer : Nat) (now : ClockReading)
    (readings : Nat → ClockReading) (state : LoopState) : Option LoopState :=
  if timer ∈ state.timers then
    some (poll collation concurrency now readings
      { state with timers := state.timers.erase timer })
  else none

def execute (runs : TaskRecord → HandlerRun) (state : LoopState) (task : TaskRecord) :
    LoopState :=
  if task.row.id ∈ state.inFlight.map Execution.id then state
  else
    let run := { runs task with registered := task.row.taskType ∈ state.handlers }
    { state with
      inFlight := state.inFlight ++ [{ task := task, program := executeTask task run }]
      executed := state.executed ++ [attemptOf task.row] }

def dispatch (runs : TaskRecord → HandlerRun) (handed : List (String × Int))
    (outcome : Except Thrown (List TaskRecord)) (state : LoopState) : LoopState :=
  match outcome with
  | .error _ => state
  | .ok tasks =>
      let state := tasks.foldl (execute runs) state
      { state with
        returned := state.returned ++ tasks.map fun task => attemptOf task.row
        answered := state.answered ++ handed }

/-! ## Answers -/

def answerCall {β : Type} (failure : Option Thrown) (request : DbCall TaskTable β)
    (table : TaskTable) : Except Thrown β × TaskTable :=
  match failure with
  | none => memoryConnection request table
  | some error => (.error error, table)

def answerPoll (index : Nat) (failure : Option Thrown) (state : LoopState) : Option LoopState :=
  match state.polls[index]? with
  | some ⟨available, handed, .claiming (.call request rest)⟩ =>
      let (answer, later) := answerCall failure request state.table
      some { state with
        table := later
        polls := state.polls.set index
          ⟨available, handed ++ handedOut state.table later, .claiming (rest answer)⟩ }
  | _ => none

def settlePoll (index : Nat) (runs : TaskRecord → HandlerRun) (state : LoopState) :
    Option LoopState :=
  match state.polls[index]? with
  | some ⟨available, handed, .claiming (.done outcome)⟩ =>
      some (dispatch runs handed outcome
        { state with polls := state.polls.set index ⟨available, handed, .dispatched⟩ })
  | _ => none

/-- The end of `poll`. -/
def finishPoll (index : Nat) (state : LoopState) : Option LoopState :=
  match state.polls[index]? with
  | some ⟨_, _, .dispatched⟩ =>
      let state := { state with polls := state.polls.eraseIdx index }
      some (if state.running then schedulePoll state else state)
  | _ => none

def answerTask (index : Nat) (failure : Option Thrown) (state : LoopState) : Option LoopState :=
  match state.inFlight[index]? with
  | some ⟨task, .call request rest⟩ =>
      let (answer, later) := answerCall failure request state.table
      some { state with
        table := later, inFlight := state.inFlight.set index ⟨task, rest answer⟩ }
  | _ => none

def finishTask (index : Nat) (state : LoopState) : Option LoopState :=
  match state.inFlight[index]? with
  | some ⟨task, .done _⟩ =>
      some { state with
        inFlight := state.inFlight.filter fun execution => execution.id ≠ task.row.id }
  | _ => none

def answerOther (index : Nat) (failure : Option Thrown) (state : LoopState) : Option LoopState :=
  match state.calls[index]? with
  | some (.call request rest) =>
      let (answer, later) := answerCall failure request state.table
      some { state with table := later, calls := state.calls.set index (rest answer) }
  | _ => none

end LoopState

/-! ## Runs -/

inductive LoopEvent where
  | start
  | stop
  | register (taskType : String)
  | fire (timer : Nat) (now : ClockReading) (readings : Nat → ClockReading)
  | answerPoll (index : Nat) (failure : Option Thrown)
  | settlePoll (index : Nat) (runs : TaskRecord → HandlerRun)
  | finishPoll (index : Nat)
  | answerTask (index : Nat) (failure : Option Thrown)
  | finishTask (index : Nat)
  | call (operation : Operation)
  | answerOther (index : Nat) (failure : Option Thrown)

def LoopState.step (collation : Collation) (concurrency : Nat) (state : LoopState) :
    LoopEvent → Option LoopState
  | .start => some state.start
  | .stop => some state.stop
  | .register taskType => some (state.register taskType)
  | .fire timer now readings => state.fire collation concurrency timer now readings
  | .answerPoll index failure => state.answerPoll index failure
  | .settlePoll index runs => state.settlePoll index runs
  | .finishPoll index => state.finishPoll index
  | .answerTask index failure => state.answerTask index failure
  | .finishTask index => state.finishTask index
  | .call operation => some { state with calls := state.calls ++ [operation.program collation] }
  | .answerOther index failure => state.answerOther index failure

/-- The states which a worker gets to by steps which are all admitted. -/
inductive LoopReaches (collation : Collation) (concurrency : Nat)
    (Admitted : LoopState → LoopEvent → Prop) (table : TaskTable) : LoopState → Prop
  | initially : LoopReaches collation concurrency Admitted table (.of table)
  | step {state next : LoopState} (event : LoopEvent) :
      LoopReaches collation concurrency Admitted table state → Admitted state event →
      state.step collation concurrency event = some next →
      LoopReaches collation concurrency Admitted table next

theorem LoopReaches.invariant {collation : Collation} {concurrency : Nat}
    {Admitted : LoopState → LoopEvent → Prop} {table : TaskTable} {Inv : LoopState → Prop}
    (hinitially : Inv (.of table))
    (hstep : ∀ state event next, Inv state → Admitted state event →
      state.step collation concurrency event = some next → Inv next)
    {state : LoopState} (hreaches : LoopReaches collation concurrency Admitted table state) :
    Inv state := by
  induction hreaches with
  | initially => exact hinitially
  | step event _ hadmitted hnext ih => exact hstep _ event _ ih hadmitted hnext

theorem LoopReaches.run {collation : Collation} {concurrency : Nat}
    {Admitted : LoopState → LoopEvent → Prop} {table : TaskTable} (events : List LoopEvent)
    {state last : LoopState} (hreaches : LoopReaches collation concurrency Admitted table state)
    (hadmitted : ∀ event ∈ events, ∀ state, Admitted state event)
    (hlast : events.foldlM (LoopState.step collation concurrency) state = some last) :
    LoopReaches collation concurrency Admitted table last := by
  induction events generalizing state with
  | nil =>
      cases hlast
      exact hreaches
  | cons event events ih =>
      rw [List.foldlM_cons] at hlast
      obtain ⟨next, hnext, hrest⟩ := Option.bind_eq_some_iff.mp hlast
      exact ih (hreaches.step event (hadmitted event List.mem_cons_self state) hnext)
        (fun other hother => hadmitted other (List.mem_cons_of_mem _ hother)) hrest

/-! ## What the steps do -/

namespace LoopState

variable {state next : LoopState} {index : Nat} {failure : Option Thrown}

theorem answerPoll_eq_some (hnext : state.answerPoll index failure = some next) :
    ∃ (β : Type) (request : DbCall TaskTable β)
      (rest : Except Thrown β → Program (DbCall TaskTable) Thrown (List TaskRecord))
      (available : Int) (handed : List (String × Int)),
      state.polls[index]? = some ⟨available, handed, .claiming (.call request rest)⟩ ∧
      next = { state with
        table := (answerCall failure request state.table).2
        polls := state.polls.set index ⟨available,
          handed ++ handedOut state.table (answerCall failure request state.table).2,
          .claiming (rest (answerCall failure request state.table).1)⟩ } := by
  unfold answerPoll at hnext
  split at hnext
  · rename_i available handed β request rest hpoll
    exact ⟨β, request, rest, available, handed, hpoll, (Option.some.inj hnext).symm⟩
  · cases hnext

theorem settlePoll_eq_some {runs : TaskRecord → HandlerRun}
    (hnext : state.settlePoll index runs = some next) :
    ∃ available handed outcome,
      state.polls[index]? = some ⟨available, handed, .claiming (.done outcome)⟩ ∧
      next = dispatch runs handed outcome
        { state with polls := state.polls.set index ⟨available, handed, .dispatched⟩ } := by
  unfold settlePoll at hnext
  split at hnext
  · rename_i available handed outcome hpoll
    exact ⟨available, handed, outcome, hpoll, (Option.some.inj hnext).symm⟩
  · cases hnext

theorem finishPoll_eq_some (hnext : state.finishPoll index = some next) :
    ∃ available handed, state.polls[index]? = some ⟨available, handed, .dispatched⟩ ∧
      next = if state.running then
          schedulePoll { state with polls := state.polls.eraseIdx index }
        else { state with polls := state.polls.eraseIdx index } := by
  unfold finishPoll at hnext
  split at hnext
  · rename_i available handed hpoll
    exact ⟨available, handed, hpoll, (Option.some.inj hnext).symm⟩
  · cases hnext

theorem answerTask_eq_some (hnext : state.answerTask index failure = some next) :
    ∃ (β : Type) (request : DbCall TaskTable β)
      (rest : Except Thrown β → Program (DbCall TaskTable) Thrown Unit) (task : TaskRecord),
      state.inFlight[index]? = some ⟨task, .call request rest⟩ ∧
      next = { state with
        table := (answerCall failure request state.table).2
        inFlight := state.inFlight.set index
          ⟨task, rest (answerCall failure request state.table).1⟩ } := by
  unfold answerTask at hnext
  split at hnext
  · rename_i task β request rest htask
    exact ⟨β, request, rest, task, htask, (Option.some.inj hnext).symm⟩
  · cases hnext

theorem finishTask_eq_some (hnext : state.finishTask index = some next) :
    ∃ id, next = { state with
      inFlight := state.inFlight.filter fun execution => execution.id ≠ id } := by
  unfold finishTask at hnext
  split at hnext
  · rename_i task outcome _
    exact ⟨task.row.id, (Option.some.inj hnext).symm⟩
  · cases hnext

theorem answerOther_eq_some (hnext : state.answerOther index failure = some next) :
    ∃ (β : Type) (request : DbCall TaskTable β)
      (rest : Except Thrown β → Program (DbCall TaskTable) Thrown QueueAnswer),
      state.calls[index]? = some (.call request rest) ∧
      next = { state with
        table := (answerCall failure request state.table).2
        calls := state.calls.set index (rest (answerCall failure request state.table).1) } := by
  unfold answerOther at hnext
  split at hnext
  · rename_i β request rest hcall
    exact ⟨β, request, rest, hcall, (Option.some.inj hnext).symm⟩
  · cases hnext

theorem foldl_execute (runs : TaskRecord → HandlerRun) (tasks : List TaskRecord)
    (state : LoopState) :
    ∃ started : List Execution, (started.map Execution.task).Sublist tasks ∧
      tasks.foldl (execute runs) state = { state with
        inFlight := state.inFlight ++ started
        executed := state.executed ++ started.map fun execution =>
          attemptOf execution.task.row } := by
  induction tasks generalizing state with
  | nil => exact ⟨[], .slnil, by simp⟩
  | cons task tasks ih =>
      rw [List.foldl_cons]
      by_cases hid : task.row.id ∈ state.inFlight.map Execution.id
      · obtain ⟨started, hsublist, hfold⟩ := ih state
        refine ⟨started, hsublist.cons task, ?_⟩
        rw [execute, if_pos hid, hfold]
      · obtain ⟨started, hsublist, hfold⟩ := ih (execute runs state task)
        rw [execute, if_neg hid] at hfold
        refine ⟨⟨task, executeTask task
          { runs task with registered := task.row.taskType ∈ state.handlers }⟩ :: started,
          hsublist.cons_cons task, ?_⟩
        rw [execute, if_neg hid, hfold]
        simp

end LoopState
end TauriPlatform.TaskWorker
