import TauriPlatform.TaskClaims
import TauriPlatform.TaskWorkerLoop

/-!
# One poll at a time

A worker is to have one poll scheduled or in progress, and no more handlers in flight than
its concurrency.  A `start` which overtakes the poll of an earlier one breaks both: `stop`
clears the flag and the timer before it waits for the poll.
-/

namespace TauriPlatform.TaskWorker

open Async Relational TaskQueueService

/-! ## What a claim returns -/

def ReturnsAtMost (limit : Int) (program : Program (DbCall TaskTable) Thrown (List TaskRecord))
    (table : TaskTable) : Prop :=
  program.Safe (fallible memoryConnection) (fun _ => True) (fun _ _ => True) (fun _ => True)
    (fun outcome _ => ∀ tasks, outcome = .ok tasks → (tasks.length : Int) ≤ limit) table

theorem ReturnsAtMost.elsewhere {limit : Int}
    {program : Program (DbCall TaskTable) Thrown (List TaskRecord)} {table : TaskTable}
    (hreturns : ReturnsAtMost limit program table) (later : TaskTable) :
    ReturnsAtMost limit program later :=
  Program.Safe.grow (fun _ _ _ _ _ => trivial) (fun _ _ _ hpost _ => hpost) hreturns trivial

theorem ReturnsAtMost.answered {limit : Int} {β : Type} {request : DbCall TaskTable β}
    {rest : Except Thrown β → Program (DbCall TaskTable) Thrown (List TaskRecord)}
    {table : TaskTable} (hreturns : ReturnsAtMost limit (.call request rest) table)
    (failure : Option Thrown) :
    ReturnsAtMost limit (rest (LoopState.answerCall failure request table).1)
      (LoopState.answerCall failure request table).2 := by
  have hanswer : fallible memoryConnection request table
      (LoopState.answerCall failure request table).1
      (LoopState.answerCall failure request table).2 := by
    cases failure with
    | none => exact .inl rfl
    | some error => exact .inr ⟨⟨error, rfl⟩, rfl⟩
  exact (hreturns table trivial trivial trivial _ _ hanswer).2.2

theorem returnsAtMost_collectClaimed (readings : Nat → ClockReading) {rows : List TaskRow}
    {limit : Int} (hrows : (rows.length : Int) ≤ limit) (table : TaskTable) :
    ReturnsAtMost limit (collectClaimed (connectionExecutor TaskTable) readings rows) table := by
  induction rows generalizing readings limit table with
  | nil =>
      intro tasks htasks
      rw [← Except.ok.inj htasks]
      exact hrows
  | cons row rest ih =>
      rw [List.length_cons] at hrows
      have hrest : ((rest.length : Nat) : Int) ≤ limit - 1 := by omega
      rw [collectClaimed]
      cases rowToRecord row with
      | ok record =>
          refine Program.Safe.bind (Program.Safe.mono ?_ (ih _ hrest table))
          intro outcome later hlength
          cases outcome with
          | error error => exact fun tasks htasks => by cases htasks
          | ok records =>
              intro tasks htasks
              have hrecords := hlength records rfl
              rw [← Except.ok.inj htasks, List.length_cons]
              omega
      | error error =>
          dsimp only
          split_ifs
          · refine Program.Safe.bind (Program.Safe.bind ?_)
            intro now _ _ _ answer later _
            refine ⟨trivial, trivial, ?_⟩
            cases answer with
            | error error => exact fun tasks htasks => by cases htasks
            | ok count => exact ih _ (hrest.trans (by omega)) later
          · exact fun tasks htasks => by cases htasks

theorem returnsAtMost_claimNextBatch (collation : Collation) (now : ClockReading)
    (readings : Nat → ClockReading) (limit : Int) (taskTypes : List String)
    (table : TaskTable) :
    ReturnsAtMost limit (claimNextBatch (connectionExecutor TaskTable) collation now readings
      (.finite (.integer limit)) taskTypes) table := by
  unfold claimNextBatch
  cases hlimit : (NumberValue.finite (.integer limit)).safeInteger?.filter (0 < ·) with
  | none => exact fun tasks htasks => by cases htasks
  | some checked =>
      obtain ⟨hsafe, hpositive⟩ := Option.filter_eq_some_iff.mp hlimit
      change (if limit.natAbs ≤ maxSafeInteger then some limit else none) = some checked at hsafe
      split_ifs at hsafe
      cases hsafe
      refine Program.Safe.bind ?_
      intro current _ _ _ answer later hanswer
      refine ⟨trivial, trivial, ?_⟩
      rcases hanswer with hrun | ⟨⟨error, rfl⟩, -⟩
      · obtain ⟨result, hclaim, hclaims⟩ :=
          claimStatement_claims now.iso taskTypes limit current
        simp only [memoryConnection, hclaim, Prod.mk.injEq] at hrun
        obtain ⟨rfl, rfl⟩ := hrun
        refine returnsAtMost_collectClaimed readings ?_ _
        rw [List.length_insertionSort, hclaims.rows_eq, List.length_map]
        have hlength := hclaims.limited
        have hpositive' := of_decide_eq_true hpositive
        omega
      · exact fun tasks htasks => by cases htasks

/-! ## The invariant -/

/-- One poll is scheduled or in progress at most, and the handlers in flight keep to the
concurrency. -/
def OnePoll (concurrency : Nat) (state : LoopState) : Prop :=
  state.timers.length + state.polls.length ≤ 1 ∧ state.inFlight.length ≤ concurrency

def StartsAfterPolls (state : LoopState) (event : LoopEvent) : Prop :=
  event = .start → state.running ∨ state.polls = []

def Poll.HasRoom (concurrency : Nat) (state : LoopState) (poll : Poll) : Prop :=
  ∀ program, poll.stage = .claiming program →
    (state.inFlight.length : Int) + poll.available ≤ concurrency ∧
      ReturnsAtMost poll.available program state.table

structure Paced (concurrency : Nat) (state : LoopState) : Prop where
  one : state.timers.length + state.polls.length ≤ 1
  timer : ∀ timer ∈ state.timers, state.pollTimer = some timer
  stopped : state.running = false → state.timers = []
  bound : state.inFlight.length ≤ concurrency
  room : ∀ poll ∈ state.polls, poll.HasRoom concurrency state

section Steps

variable {concurrency : Nat} {state : LoopState}

theorem Poll.HasRoom.later {poll : Poll} {later : LoopState}
    (hroom : poll.HasRoom concurrency state)
    (hinFlight : later.inFlight.length ≤ state.inFlight.length) :
    poll.HasRoom concurrency later := by
  intro program hstage
  obtain ⟨hcapacity, hreturns⟩ := hroom program hstage
  exact ⟨by omega, hreturns.elsewhere later.table⟩

theorem Paced.of (concurrency : Nat) (table : TaskTable) :
    Paced concurrency (LoopState.of table) where
  one := Nat.zero_le 1
  timer _ htimer := nomatch htimer
  stopped _ := rfl
  bound := Nat.zero_le concurrency
  room _ hpoll := nomatch hpoll

theorem Paced.schedulePoll (hbound : state.inFlight.length ≤ concurrency)
    (htimers : state.timers = []) (hpolls : state.polls = []) (hrunning : state.running) :
    Paced concurrency state.schedulePoll where
  one := by simp [LoopState.schedulePoll, htimers, hpolls]
  timer timer htimer := by
    simp only [LoopState.schedulePoll, htimers, List.nil_append, List.mem_singleton] at htimer
    rw [htimer]
    rfl
  stopped hstopped := by
    change state.running = false at hstopped
    rw [hrunning] at hstopped
    cases hstopped
  bound := hbound
  room poll hpoll := by
    change poll ∈ state.polls at hpoll
    rw [hpolls] at hpoll
    cases hpoll

theorem Paced.start (hpaced : Paced concurrency state)
    (hadmitted : state.running ∨ state.polls = []) : Paced concurrency state.start := by
  unfold LoopState.start
  split_ifs with hrunning
  · exact hpaced
  · have hstopped : state.running = false := by simpa using hrunning
    exact .schedulePoll hpaced.bound (hpaced.stopped hstopped)
      (hadmitted.resolve_left hrunning) rfl

theorem Paced.stop (hpaced : Paced concurrency state) : Paced concurrency state.stop := by
  unfold LoopState.stop
  split_ifs with hrunning
  · have htimers : (state.timers.filter fun timer => state.pollTimer ≠ some timer) = [] := by
      rw [List.filter_eq_nil_iff]
      intro timer htimer
      simp [hpaced.timer timer htimer]
    constructor
    · dsimp only
      rw [htimers]
      have hone := hpaced.one
      rw [List.length_nil]
      omega
    · dsimp only
      rw [htimers]
      exact fun timer htimer => nomatch htimer
    · exact fun _ => htimers
    · exact hpaced.bound
    · exact fun poll hpoll => (hpaced.room poll hpoll).later le_rfl
  · exact hpaced

variable {next : LoopState}

theorem Paced.fire (hpaced : Paced concurrency state) (collation : Collation) (now : ClockReading)
    (readings : Nat → ClockReading) {timer : Nat}
    (hnext : state.fire collation concurrency timer now readings = some next) :
    Paced concurrency next := by
  unfold LoopState.fire at hnext
  split_ifs at hnext with htimer
  cases hnext
  -- the timer was the only one, and no poll was in progress
  have hone := hpaced.one
  have hlength := List.length_pos_of_mem htimer
  have hpolls : state.polls = [] := List.length_eq_zero_iff.mp (by omega)
  have htimers : state.timers.erase timer = [] := by
    refine List.length_eq_zero_iff.mp ?_
    rw [List.length_erase_of_mem htimer]
    omega
  have hrunning : state.running := by
    by_contra hstopped
    rw [hpaced.stopped (by simpa using hstopped)] at htimer
    cases htimer
  unfold LoopState.poll
  rw [if_pos hrunning]
  dsimp only
  rw [htimers, hpolls]
  split_ifs with havailable
  · refine ⟨le_rfl, fun _ hnone => (nomatch hnone), fun _ => rfl, hpaced.bound, ?_⟩
    intro poll hpoll
    rw [List.nil_append, List.mem_singleton] at hpoll
    rw [hpoll]
    intro program hstage
    cases hstage
    refine ⟨?_, returnsAtMost_claimNextBatch collation now readings _ _ _⟩
    dsimp only
    omega
  · refine ⟨le_rfl, fun _ hnone => (nomatch hnone), fun _ => rfl, hpaced.bound, ?_⟩
    intro poll hpoll
    rw [List.nil_append, List.mem_singleton] at hpoll
    rw [hpoll]
    exact fun program hstage => nomatch hstage

variable {index : Nat}

theorem Paced.only (hpaced : Paced concurrency state) {poll : Poll}
    (hpoll : state.polls[index]? = some poll) :
    state.timers = [] ∧ state.polls = [poll] ∧ index = 0 := by
  have hone := hpaced.one
  have hmem := List.mem_of_getElem? hpoll
  have hlength := List.length_pos_of_mem hmem
  have hsingle : state.polls.length = 1 := by omega
  obtain ⟨other, hother⟩ := List.length_eq_one_iff.mp hsingle
  obtain ⟨hindex, -⟩ := List.getElem?_eq_some_iff.mp hpoll
  have hzero : index = 0 := by omega
  refine ⟨List.length_eq_zero_iff.mp (by omega), ?_, hzero⟩
  rw [hother] at hpoll ⊢
  rw [hzero] at hpoll
  rw [Option.some.inj hpoll]

theorem Paced.answerPoll (hpaced : Paced concurrency state) {failure : Option Thrown}
    (hnext : state.answerPoll index failure = some next) : Paced concurrency next := by
  obtain ⟨β, request, rest, available, handed, hpoll, rfl⟩ :=
    LoopState.answerPoll_eq_some hnext
  obtain ⟨hcapacity, hreturns⟩ := hpaced.room _ (List.mem_of_getElem? hpoll) _ rfl
  obtain ⟨-, hpolls, rfl⟩ := hpaced.only hpoll
  refine ⟨?_, hpaced.timer, hpaced.stopped, hpaced.bound, ?_⟩
  · dsimp only
    rw [List.length_set]
    exact hpaced.one
  · dsimp only
    rw [hpolls]
    intro other hother
    rw [List.set_cons_zero, List.mem_singleton] at hother
    rw [hother]
    intro program hstage
    cases hstage
    exact ⟨hcapacity, hreturns.answered failure⟩

theorem Paced.settlePoll (hpaced : Paced concurrency state) {runs : TaskRecord → HandlerRun}
    (hnext : state.settlePoll index runs = some next) : Paced concurrency next := by
  obtain ⟨available, handed, outcome, hpoll, rfl⟩ := LoopState.settlePoll_eq_some hnext
  obtain ⟨hcapacity, hreturns⟩ := hpaced.room _ (List.mem_of_getElem? hpoll) _ rfl
  obtain ⟨htimers, hpolls, rfl⟩ := hpaced.only hpoll
  have hdispatched : ∀ poll ∈ state.polls.set 0 ⟨available, handed, .dispatched⟩,
      ∀ program, poll.stage ≠ .claiming program := by
    rw [hpolls]
    intro poll hmem program hstage
    rw [List.set_cons_zero, List.mem_singleton] at hmem
    rw [hmem] at hstage
    cases hstage
  have hone : state.timers.length +
      (state.polls.set 0 ⟨available, handed, .dispatched⟩).length ≤ 1 := by
    rw [List.length_set]
    exact hpaced.one
  unfold LoopState.dispatch
  cases outcome with
  | error error =>
      exact ⟨hone, hpaced.timer, hpaced.stopped, hpaced.bound, fun poll hmem program hstage =>
        absurd hstage (hdispatched poll hmem program)⟩
  | ok tasks =>
      obtain ⟨started, hsublist, hfold⟩ := LoopState.foldl_execute runs tasks
        { state with polls := state.polls.set 0 ⟨available, handed, .dispatched⟩ }
      dsimp only
      rw [hfold]
      refine ⟨hone, hpaced.timer, hpaced.stopped, ?_, fun poll hmem program hstage =>
        absurd hstage (hdispatched poll hmem program)⟩
      have hlength := hsublist.length_le
      rw [List.length_map] at hlength
      have htasks := hreturns tasks rfl
      dsimp only at hcapacity htasks ⊢
      rw [List.length_append]
      omega

theorem Paced.finishPoll (hpaced : Paced concurrency state)
    (hnext : state.finishPoll index = some next) : Paced concurrency next := by
  obtain ⟨available, handed, hpoll, rfl⟩ := LoopState.finishPoll_eq_some hnext
  obtain ⟨htimers, hpolls, rfl⟩ := hpaced.only hpoll
  have hnone : state.polls.eraseIdx 0 = [] := by
    rw [hpolls]
    rfl
  rw [hnone]
  split_ifs with hrunning
  · exact .schedulePoll hpaced.bound htimers rfl hrunning
  · refine ⟨?_, hpaced.timer, hpaced.stopped, hpaced.bound, fun poll hmem => nomatch hmem⟩
    rw [htimers]
    exact Nat.zero_le 1

theorem Paced.answerTask (hpaced : Paced concurrency state) {failure : Option Thrown}
    (hnext : state.answerTask index failure = some next) : Paced concurrency next := by
  obtain ⟨β, request, rest, task, htask, rfl⟩ := LoopState.answerTask_eq_some hnext
  have hlength : (state.inFlight.set index
      ⟨task, rest (LoopState.answerCall failure request state.table).1⟩).length =
        state.inFlight.length := List.length_set
  refine ⟨hpaced.one, hpaced.timer, hpaced.stopped, ?_, ?_⟩
  · dsimp only
    rw [hlength]
    exact hpaced.bound
  · exact fun poll hpoll => (hpaced.room poll hpoll).later hlength.le

theorem Paced.finishTask (hpaced : Paced concurrency state)
    (hnext : state.finishTask index = some next) : Paced concurrency next := by
  obtain ⟨id, rfl⟩ := LoopState.finishTask_eq_some hnext
  have hlength := List.length_filter_le (fun execution => decide (Execution.id execution ≠ id))
    state.inFlight
  exact ⟨hpaced.one, hpaced.timer, hpaced.stopped, hlength.trans hpaced.bound,
    fun poll hpoll => (hpaced.room poll hpoll).later hlength⟩

theorem Paced.elsewhere (hpaced : Paced concurrency state) (htimers : next.timers = state.timers)
    (hpollTimer : next.pollTimer = state.pollTimer) (hrunning : next.running = state.running)
    (hpolls : next.polls = state.polls) (hinFlight : next.inFlight = state.inFlight) :
    Paced concurrency next := by
  constructor
  · rw [htimers, hpolls]
    exact hpaced.one
  · rw [htimers, hpollTimer]
    exact hpaced.timer
  · rw [htimers, hrunning]
    exact hpaced.stopped
  · rw [hinFlight]
    exact hpaced.bound
  · rw [hpolls]
    exact fun poll hpoll => (hpaced.room poll hpoll).later (by rw [hinFlight])

theorem Paced.step (collation : Collation) (hpaced : Paced concurrency state) {event : LoopEvent}
    (hadmitted : StartsAfterPolls state event)
    (hnext : state.step collation concurrency event = some next) : Paced concurrency next := by
  cases event with
  | start =>
      cases hnext
      exact hpaced.start (hadmitted rfl)
  | stop =>
      cases hnext
      exact hpaced.stop
  | register taskType =>
      cases hnext
      exact hpaced.elsewhere rfl rfl rfl rfl rfl
  | fire timer now readings => exact hpaced.fire collation now readings hnext
  | answerPoll index failure => exact hpaced.answerPoll hnext
  | settlePoll index runs => exact hpaced.settlePoll hnext
  | finishPoll index => exact hpaced.finishPoll hnext
  | answerTask index failure => exact hpaced.answerTask hnext
  | finishTask index => exact hpaced.finishTask hnext
  | call operation =>
      cases hnext
      exact hpaced.elsewhere rfl rfl rfl rfl rfl
  | answerOther index failure =>
      obtain ⟨β, request, rest, -, rfl⟩ := LoopState.answerOther_eq_some hnext
      exact hpaced.elsewhere rfl rfl rfl rfl rfl

end Steps

/-- As long as no start overtakes a poll, there is one poll at a time, and the concurrency is
kept. -/
theorem onePoll_of_startsAfterPolls {collation : Collation} {concurrency : Nat}
    {table : TaskTable} {state : LoopState}
    (hreaches : LoopReaches collation concurrency StartsAfterPolls table state) :
    OnePoll concurrency state := by
  have hpaced : Paced concurrency state := by
    refine hreaches.invariant (Paced.of concurrency table) ?_
    intro now event next hnow hadmitted hnext
    exact Paced.step collation hnow hadmitted hnext
  exact ⟨hpaced.one, hpaced.bound⟩

/-! ### A start which overtakes a poll -/

def twoTasks : TaskTable where
  rows := [racedTask "t" "null", racedTask "u" "null"]
  unique := by decide

def promptRun : HandlerRun where
  registered := true
  outcome := .ok ()
  aborted := false
  completedAt := morning
  failedAt := morning
  rescheduledFrom := morning
  cancelledAt := morning
  random := 0

/-- The worker is stopped and started again while its poll awaits the claim; the next poll
claims as well. -/
def overtakingStart : List LoopEvent :=
  [.register "export", .start, .fire 0 morning fun _ => morning, .stop, .start,
    .fire 1 morning fun _ => morning, .answerPoll 0 none, .answerPoll 1 none,
    .settlePoll 0 fun _ => promptRun, .settlePoll 1 fun _ => promptRun]

theorem overtakingStart_counts :
    (overtakingStart.foldlM (LoopState.step .codePoint 1) (.of twoTasks)).map
        (fun state => (state.polls.length, state.inFlight.length)) = some (2, 2) := by
  decide

theorem overtakingStart_breaks :
    ¬ ∀ (collation : Collation) (concurrency : Nat) (table : TaskTable) (state : LoopState),
      LoopReaches collation concurrency (fun _ _ => True) table state →
        OnePoll concurrency state := by
  intro hall
  obtain ⟨state, hrun, hcounts⟩ := Option.map_eq_some_iff.mp overtakingStart_counts
  obtain ⟨hpolls, -⟩ := Prod.mk.inj hcounts
  have hone := (hall .codePoint 1 twoTasks state
    (LoopReaches.initially.run overtakingStart (fun _ _ _ => trivial) hrun)).1
  omega

def patientStart : List LoopEvent :=
  [.fire 0 morning fun _ => morning, .answerPoll 0 none, .settlePoll 0 fun _ => promptRun,
    .finishPoll 0]

theorem patientStart_onePoll :
    ∃ state, patientStart.foldlM (LoopState.step .codePoint 1)
        ((LoopState.of twoTasks).register "export").start = some state ∧ OnePoll 1 state := by
  have hstarted : LoopReaches .codePoint 1 StartsAfterPolls twoTasks
      ((LoopState.of twoTasks).register "export").start := by
    refine .step .start (.step (.register "export") .initially ?_ rfl) ?_ rfl
    · exact fun hstart => nomatch hstart
    · exact fun _ => .inr rfl
  have hadmitted : ∀ event ∈ patientStart, ∀ state, StartsAfterPolls state event := by
    intro event hevent state hstart
    rw [hstart] at hevent
    simp [patientStart] at hevent
  have hsome : (patientStart.foldlM (LoopState.step .codePoint 1)
      ((LoopState.of twoTasks).register "export").start).isSome := by
    decide +kernel
  obtain ⟨state, hrun⟩ := Option.isSome_iff_exists.mp hsome
  exact ⟨state, hrun, onePoll_of_startsAfterPolls (hstarted.run patientStart hadmitted hrun)⟩

end TauriPlatform.TaskWorker
