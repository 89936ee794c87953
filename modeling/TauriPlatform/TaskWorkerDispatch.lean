import TauriPlatform.TaskQueueCalls
import TauriPlatform.TaskWorkerPolls
import TauriPlatform.ReadingRange

/-!
# Every claimed attempt is executed

A claimed task is executed unless its id is in flight.  The id can only be that of an earlier
attempt, which hanging-task recovery has put back while its handler still ran: the new attempt
is then dropped, and its row stays RUNNING.
-/

namespace TauriPlatform.TaskWorker

open Async Relational TaskQueueService

/-! ## Attempts advance -/

structure RowAdvances (old new : TaskRow) : Prop where
  id : new.id = old.id
  attempt : old.attemptCount ≤ new.attemptCount
  running : new.state = .running → old.state = .running ∨ old.attemptCount < new.attemptCount

def Advances (table later : TaskTable) : Prop :=
  ∀ old ∈ table, ∃ new ∈ later, RowAdvances old new

theorem RowAdvances.refl (row : TaskRow) : RowAdvances row row :=
  ⟨rfl, le_rfl, .inl⟩

theorem Advances.refl (table : TaskTable) : Advances table table :=
  fun row hrow => ⟨row, hrow, .refl row⟩

def AdvancingCall : ∀ ⦃β : Type⦄, DbCall TaskTable β → Prop :=
  fun _ request => ∀ table, Advances table (memoryConnection request table).2

def StatementAdvances {Row : Type} (statement : Statement TaskTable Row) : Prop :=
  ∀ table result, statement.run table = .ok result → Advances table result.database

section Statements

variable {Row : Type} {statement : Statement TaskTable Row}

theorem StatementAdvances.query (hadvances : StatementAdvances statement) :
    AdvancingCall (.query statement) := by
  intro table
  exact memory_query_relates (.refl table) (hadvances table)

theorem StatementAdvances.execute (hadvances : StatementAdvances statement) :
    AdvancingCall (.execute statement) := by
  intro table
  exact memory_execute_relates (.refl table) (hadvances table)

theorem advances_update {sql : String} {params : List JsonValue}
    {columns : List (Column Row)} {condition : TaskTable → TaskRow → Bool}
    {set : TaskRow → TaskRow} {returning : TaskRow → List Row}
    (hset : ∀ row, RowAdvances row (set row)) :
    StatementAdvances (updateStatement sql params columns condition set returning) := by
  intro table result hrun old hold
  have hrows := (update_run_eq_ok hrun).1
  refine ⟨Table.updateRow (condition table) set old, ?_, ?_⟩
  · rw [Table.mem_def, hrows]
    exact List.mem_map_of_mem hold
  · unfold Table.updateRow
    split_ifs
    · exact hset old
    · exact .refl old

theorem advances_idle {sql : String} {params : List JsonValue}
    {columns : List (Column Row)} {condition : TaskTable → TaskRow → Bool}
    {set : TaskRow → TaskRow} {returning : TaskRow → List Row}
    (hset : ∀ row, (set row).id = row.id ∧ (set row).attemptCount = row.attemptCount ∧
      (set row).state ≠ .running) :
    StatementAdvances (updateStatement sql params columns condition set returning) := by
  refine advances_update fun row => ?_
  obtain ⟨hid, hattempt, hidle⟩ := hset row
  exact ⟨hid, hattempt.ge, fun hrunning => absurd hrunning hidle⟩

theorem advances_insert (row : TaskRow) : StatementAdvances (insertStatement row) := by
  intro table result hrun old hold
  simp only [insertStatement, Statement.run] at hrun
  cases hinsert : table.insert? row with
  | none =>
      rw [hinsert] at hrun
      cases hrun
  | some later =>
      rw [hinsert] at hrun
      cases hrun
      refine ⟨old, ?_, .refl old⟩
      rw [Table.mem_def, Table.insert?_eq_some_iff.mp hinsert]
      exact List.mem_append_left _ hold

theorem advancing_statements : OfStatements AdvancingCall where
  select sql params condition rest := by
    refine StatementAdvances.query fun table result hrun => ?_
    cases hrun
    exact .refl table
  insert row _ := (advances_insert row).execute
  claim now taskTypes limit := by
    refine (advances_update fun row => ?_).query
    exact ⟨rfl, Int.le_add_one le_rfl, fun _ => .inr (Int.lt_succ _)⟩
  quarantine now id := by
    apply StatementAdvances.execute
    exact advances_idle fun _ => ⟨rfl, rfl, by simp [quarantined]⟩
  complete now id := by
    apply StatementAdvances.execute
    exact advances_idle fun _ => ⟨rfl, rfl, by simp [completed]⟩
  reschedule nextScheduledAt errorMessage now id attempt := by
    apply StatementAdvances.query
    exact advances_idle fun _ => ⟨rfl, rfl, by simp [rescheduled]⟩
  fail errorMessage now id attempt := by
    apply StatementAdvances.query
    exact advances_idle fun _ => ⟨rfl, rfl, by simp [failed]⟩
  cancel reason now id := by
    apply StatementAdvances.execute
    exact advances_idle fun _ => ⟨rfl, rfl, by simp [cancelled]⟩
  recover nowIso cutoff := by
    apply StatementAdvances.execute
    exact advances_idle fun _ => ⟨rfl, rfl, by simp [recovered]⟩

end Statements

/-! ## Attempts which are over -/

def ReachedAt (table : TaskTable) (attempt : String × Int) : Prop :=
  ∃ row ∈ table, row.id = attempt.1 ∧ attempt.2 ≤ row.attemptCount

def OverAt (table : TaskTable) (attempt : String × Int) : Prop :=
  ∃ row ∈ table, row.id = attempt.1 ∧ attempt.2 ≤ row.attemptCount ∧
    (row.state = .running → attempt.2 < row.attemptCount)

section Attempts

variable {table later : TaskTable} {attempt : String × Int}

theorem Advances.reachedAt (hadvances : Advances table later)
    (hreached : ReachedAt table attempt) : ReachedAt later attempt := by
  obtain ⟨row, hrow, hid, hattempt⟩ := hreached
  obtain ⟨new, hnew, hstep⟩ := hadvances row hrow
  exact ⟨new, hnew, hstep.id.trans hid, hattempt.trans hstep.attempt⟩

theorem Advances.overAt (hadvances : Advances table later) (hover : OverAt table attempt) :
    OverAt later attempt := by
  obtain ⟨row, hrow, hid, hattempt, hidle⟩ := hover
  obtain ⟨new, hnew, hstep⟩ := hadvances row hrow
  refine ⟨new, hnew, hstep.id.trans hid, hattempt.trans hstep.attempt, fun hrunning => ?_⟩
  rcases hstep.running hrunning with hran | hlater
  · exact (hidle hran).trans_le hstep.attempt
  · exact hattempt.trans_lt hlater

theorem OverAt.not_running (hover : OverAt table attempt) {row : TaskRow} (hrow : row ∈ table)
    (hattempt : attemptOf row = attempt) : row.state ≠ .running := by
  obtain ⟨other, hother, hid, -, hidle⟩ := hover
  subst hattempt
  rw [eq_of_id_eq hother hrow hid] at hidle
  exact fun hrunning => lt_irrefl _ (hidle hrunning)

theorem overAt_of_quarantine {now : String} {result : StatementResult TaskTable Unit}
    (hrun : (quarantineStatement now attempt.1).run table = .ok result)
    (hreached : ReachedAt table attempt) : OverAt result.database attempt := by
  obtain ⟨row, hrow, hid, hattempt⟩ := hreached
  have hrows := (update_run_eq_ok hrun).1
  refine ⟨_, Table.mem_def.mpr (hrows ▸ List.mem_map_of_mem hrow), ?_⟩
  unfold Table.updateRow
  split_ifs with hcondition
  · exact ⟨hid, hattempt, fun hrunning => nomatch hrunning⟩
  · refine ⟨hid, hattempt, fun hrunning => absurd ?_ hcondition⟩
    simp [hid, hrunning]

end Attempts

/-! ## Polls -/

structure Poll.Collecting (table : TaskTable) (handed : List (String × Int))
    (left : List TaskRow) (records : List TaskRecord)
    (program : Program (DbCall TaskTable) Thrown (List TaskRecord)) : Prop where
  collects : Collects left records program
  distinct : (records.map fun record => record.row.id).Nodup
  reached : ∀ row ∈ left, ReachedAt table (attemptOf row)
  accounted : ∀ attempt ∈ handed, attempt ∈ records.map (fun record => attemptOf record.row) ∨
    attempt ∈ left.map attemptOf ∨ OverAt table attempt

inductive Poll.Stands (collation : Collation) (table : TaskTable) :
    List (String × Int) → Program (DbCall TaskTable) Thrown (List TaskRecord) → Prop
  | claims (now : ClockReading) (readings : Nat → ClockReading) (limit : NumberValue)
      (taskTypes : List String) :
      Poll.Stands collation table []
        (claimNextBatch (connectionExecutor TaskTable) collation now readings limit taskTypes)
  | collects {handed : List (String × Int)} {left : List TaskRow} {records : List TaskRecord}
      {program : Program (DbCall TaskTable) Thrown (List TaskRecord)} :
      Poll.Collecting table handed left records program →
      Poll.Stands collation table handed program
  | throws (handed : List (String × Int)) (error : Thrown) :
      Poll.Stands collation table handed (.done (.error error))

section Polls

variable {collation : Collation} {table later : TaskTable} {handed : List (String × Int)}
  {program : Program (DbCall TaskTable) Thrown (List TaskRecord)}

theorem Poll.Collecting.moved {left : List TaskRow} {records : List TaskRecord}
    (hcollecting : Poll.Collecting table handed left records program)
    (hadvances : Advances table later) :
    Poll.Collecting later handed left records program where
  collects := hcollecting.collects
  distinct := hcollecting.distinct
  reached row hrow := hadvances.reachedAt (hcollecting.reached row hrow)
  accounted attempt hattempt :=
    (hcollecting.accounted attempt hattempt).imp_right fun hrest =>
      hrest.imp_right hadvances.overAt

theorem Poll.Stands.moved (hstands : Poll.Stands collation table handed program)
    (hadvances : Advances table later) : Poll.Stands collation later handed program := by
  cases hstands with
  | claims now readings limit taskTypes => exact .claims now readings limit taskTypes
  | collects hcollecting => exact .collects (hcollecting.moved hadvances)
  | throws handed error => exact .throws handed error

theorem Claims.handedOut {now : String} {taskTypes : List String} {limit : Int}
    {rows : List TaskRow} (hclaims : Claims now taskTypes limit table later rows)
    {attempt : String × Int} (hattempt : attempt ∈ handedOut table later) :
    attempt ∈ rows.map attemptOf := by
  obtain ⟨row, hrow, rfl, hrunning, hidle⟩ := mem_handedOut.mp hattempt
  rcases hclaims.back row hrow with hsame | ⟨old, hold, rfl⟩
  · exact absurd hrunning (hidle row hsame rfl)
  · rw [hclaims.rows_eq]
    exact List.mem_map_of_mem (List.mem_map_of_mem hold)

theorem Poll.Collecting.hasClaimed {now : String} {taskTypes : List String} {limit : Int}
    {rows sorted : List TaskRow} (hclaims : Claims now taskTypes limit table later rows)
    (hsorted : sorted.Perm rows) (readings : Nat → ClockReading) :
    Poll.Collecting later (handedOut table later)
      (sorted.filter fun row => (recordOf row).isNone) (sorted.filterMap recordOf)
      (collectClaimed (connectionExecutor TaskTable) readings sorted) := by
  constructor
  · exact collectClaimed_collects readings sorted
  · have hids : (sorted.map TaskRow.id).Nodup := by
      rw [(hsorted.map TaskRow.id).nodup_iff, hclaims.rows_eq, List.map_map]
      exact (ids_nodup table).sublist (List.filter_sublist.map _)
    have hrecords : (sorted.filterMap recordOf).map (fun record => record.row) =
        sorted.filter fun row => (recordOf row).isSome := by
      rw [List.map_filterMap, ← List.filterMap_eq_filter]
      refine List.filterMap_congr fun row _ => ?_
      cases hrecord : recordOf row with
      | none => simp [Option.guard, hrecord]
      | some record => simp [Option.guard, hrecord, row_of_recordOf hrecord]
    have hmap : (sorted.filterMap recordOf).map (fun record => record.row.id) =
        ((sorted.filterMap recordOf).map fun record => record.row).map TaskRow.id := by
      rw [List.map_map]
      rfl
    rw [hmap, hrecords]
    exact hids.sublist (List.filter_sublist.map _)
  · intro row hrow
    have hmem := hsorted.mem_iff.mp (List.mem_filter.mp hrow).1
    rw [hclaims.rows_eq] at hmem
    obtain ⟨old, hold, rfl⟩ := List.mem_map.mp hmem
    exact ⟨_, hclaims.running old hold, rfl, le_rfl⟩
  · intro attempt hattempt
    obtain ⟨row, hrow, rfl⟩ := List.mem_map.mp (Claims.handedOut hclaims hattempt)
    have hmem := hsorted.mem_iff.mpr hrow
    cases hrecord : recordOf row with
    | some record =>
        refine .inl (List.mem_map.mpr ⟨record, List.mem_filterMap.mpr ⟨row, hmem, hrecord⟩, ?_⟩)
        rw [row_of_recordOf hrecord]
    | none =>
        exact .inr (.inl (List.mem_map_of_mem (List.mem_filter.mpr ⟨hmem, by simp [hrecord]⟩)))

theorem Poll.Collecting.hasTakenOut {now : String} {row : TaskRow} {left : List TaskRow}
    {records : List TaskRecord} {result : StatementResult TaskTable Unit}
    {next : Program (DbCall TaskTable) Thrown (List TaskRecord)}
    (hcollecting : Poll.Collecting table handed (row :: left) records program)
    (hrun : (quarantineStatement now row.id).run table = .ok result)
    (hadvances : Advances table result.database) (hnext : Collects left records next) :
    Poll.Collecting result.database (handed ++ handedOut table result.database) left records
      next := by
  have hnone : handedOut table result.database = [] := by
    refine handedOut_eq_nil fun new hnew hrunning => ?_
    rw [Table.mem_def, (update_run_eq_ok hrun).1] at hnew
    obtain ⟨old, hold, rfl⟩ := List.mem_map.mp hnew
    unfold Table.updateRow at hrunning ⊢
    split_ifs at hrunning ⊢
    · cases hrunning
    · exact hold
  rw [hnone, List.append_nil]
  refine ⟨hnext, hcollecting.distinct, fun other hother => ?_, fun attempt hattempt => ?_⟩
  · exact hadvances.reachedAt (hcollecting.reached other (List.mem_cons_of_mem _ hother))
  · rcases hcollecting.accounted attempt hattempt with hrecord | hleft | hover
    · exact .inl hrecord
    · rw [List.map_cons, List.mem_cons] at hleft
      rcases hleft with rfl | hleft
      · have hreached := hcollecting.reached row List.mem_cons_self
        exact .inr (.inr (overAt_of_quarantine hrun hreached))
      · exact .inr (.inl hleft)
    · exact .inr (.inr (hadvances.overAt hover))

theorem answerCall_advances {β : Type} {request : DbCall TaskTable β}
    (hadvancing : AdvancingCall request) (failure : Option Thrown) (table : TaskTable) :
    Advances table (LoopState.answerCall failure request table).2 := by
  cases failure with
  | none => exact hadvancing table
  | some error => exact .refl table

theorem Poll.Stands.answered {β : Type} {request : DbCall TaskTable β}
    {rest : Except Thrown β → Program (DbCall TaskTable) Thrown (List TaskRecord)}
    (hstands : Poll.Stands collation table handed (.call request rest))
    (hadvancing : AdvancingCall request) (failure : Option Thrown) :
    Poll.Stands collation (LoopState.answerCall failure request table).2
      (handed ++ handedOut table (LoopState.answerCall failure request table).2)
      (rest (LoopState.answerCall failure request table).1) := by
  generalize hprogram : Program.call request rest = program at hstands
  cases hstands with
  | claims now readings limit taskTypes =>
      unfold claimNextBatch at hprogram
      cases hlimit : limit.safeInteger?.filter (0 < ·) with
      | none =>
          simp only [hlimit] at hprogram
          cases hprogram
      | some checked =>
          simp only [hlimit] at hprogram
          cases hprogram
          cases failure with
          | some error => exact .throws _ error
          | none =>
              obtain ⟨result, hrun, hclaims⟩ :=
                claimStatement_claims now.iso taskTypes checked table
              simp only [LoopState.answerCall, memoryConnection, hrun]
              exact .collects (.hasClaimed hclaims (List.perm_insertionSort _ _) readings)
  | collects hcollecting =>
      have hcollects := hcollecting.collects
      rw [← hprogram] at hcollects
      cases hcollects with
      | takesOut now row left records _ hrest herror =>
          cases failure with
          | some error =>
              simp only [LoopState.answerCall, herror]
              exact .throws _ error
          | none =>
              have hadvances := hadvancing table
              cases hrun : (quarantineStatement now row.id).run table with
              | error message =>
                  simp only [LoopState.answerCall, memoryConnection, hrun, herror]
                  exact .throws _ _
              | ok result =>
                  simp only [memoryConnection, hrun] at hadvances
                  simp only [LoopState.answerCall, memoryConnection, hrun]
                  exact .collects (hcollecting.hasTakenOut hrun hadvances (hrest _))
  | throws handed error => cases hprogram

theorem Poll.Stands.settled {tasks : List TaskRecord}
    (hstands : Poll.Stands collation table handed (.done (.ok tasks))) :
    (tasks.map fun task => task.row.id).Nodup ∧
      ∀ attempt ∈ handed, attempt ∈ tasks.map (fun task => attemptOf task.row) ∨
        OverAt table attempt := by
  generalize hprogram : Program.done (.ok tasks) = program at hstands
  cases hstands with
  | claims now readings limit taskTypes =>
      unfold claimNextBatch at hprogram
      cases hlimit : limit.safeInteger?.filter (0 < ·) with
      | none =>
          simp only [hlimit] at hprogram
          cases hprogram
      | some checked =>
          simp only [hlimit] at hprogram
          cases hprogram
  | collects hcollecting =>
      have hcollects := hcollecting.collects
      rw [← hprogram] at hcollects
      cases hcollects
      refine ⟨hcollecting.distinct, fun attempt hattempt => ?_⟩
      rcases hcollecting.accounted attempt hattempt with hrecord | hleft | hover
      · exact .inl hrecord
      · cases hleft
      · exact .inr hover
  | throws handed error => cases hprogram

end Polls

/-! ## The invariant -/

/-- Every attempt which was returned to the worker has been executed, and a row which runs at
an attempt that a finished claim handed out is executed at that attempt. -/
def EveryAttemptExecuted (state : LoopState) : Prop :=
  (∀ attempt ∈ state.returned, attempt ∈ state.executed) ∧
    ∀ row ∈ state.table, row.state = .running → attemptOf row ∈ state.answered →
      attemptOf row ∈ state.executed

def DispatchesFree (state : LoopState) (event : LoopEvent) : Prop :=
  ∀ index runs available handed tasks, event = .settlePoll index runs →
    state.polls[index]? = some ⟨available, handed, .claiming (.done (.ok tasks))⟩ →
    ∀ task ∈ tasks, task.row.id ∉ state.inFlight.map Execution.id

def Poll.Sound (collation : Collation) (table : TaskTable) (poll : Poll) : Prop :=
  ∀ program, poll.stage = .claiming program →
    program.Makes AdvancingCall ∧ Poll.Stands collation table poll.handed program

structure Accounted (collation : Collation) (state : LoopState) : Prop where
  polls : ∀ poll ∈ state.polls, poll.Sound collation state.table
  executions : ∀ execution ∈ state.inFlight, execution.program.Makes AdvancingCall
  calls : ∀ program ∈ state.calls, program.Makes AdvancingCall
  returned : ∀ attempt ∈ state.returned, attempt ∈ state.executed
  answered : ∀ attempt ∈ state.answered,
    attempt ∈ state.executed ∨ OverAt state.table attempt

section Steps

variable {collation : Collation} {state next : LoopState} {index : Nat}

theorem Accounted.of (collation : Collation) (table : TaskTable) :
    Accounted collation (LoopState.of table) where
  polls _ hpoll := nomatch hpoll
  executions _ hexecution := nomatch hexecution
  calls _ hprogram := nomatch hprogram
  returned _ hattempt := nomatch hattempt
  answered _ hattempt := nomatch hattempt

theorem Accounted.elsewhere (haccounted : Accounted collation state)
    (hadvances : Advances state.table next.table)
    (hpolls : ∀ poll ∈ next.polls, poll ∈ state.polls ∨ poll.Sound collation next.table)
    (hexecutions : ∀ execution ∈ next.inFlight,
      execution ∈ state.inFlight ∨ execution.program.Makes AdvancingCall)
    (hcalls : ∀ program ∈ next.calls, program ∈ state.calls ∨ program.Makes AdvancingCall)
    (hledger : next.returned = state.returned ∧ next.answered = state.answered ∧
      next.executed = state.executed) : Accounted collation next := by
  obtain ⟨hreturned, hanswered, hexecuted⟩ := hledger
  constructor
  · intro poll hpoll
    rcases hpolls poll hpoll with hold | hsound
    · intro program hstage
      obtain ⟨hmakes, hstands⟩ := haccounted.polls poll hold program hstage
      exact ⟨hmakes, hstands.moved hadvances⟩
    · exact hsound
  · intro execution hexecution
    exact (hexecutions execution hexecution).elim (haccounted.executions execution) id
  · intro program hprogram
    exact (hcalls program hprogram).elim (haccounted.calls program) id
  · rw [hreturned, hexecuted]
    exact haccounted.returned
  · rw [hanswered, hexecuted]
    intro attempt hattempt
    exact (haccounted.answered attempt hattempt).imp_right hadvances.overAt

theorem Accounted.start (haccounted : Accounted collation state) :
    Accounted collation state.start := by
  unfold LoopState.start
  split_ifs
  · exact haccounted
  · exact haccounted.elsewhere (.refl _) (fun _ => .inl) (fun _ => .inl) (fun _ => .inl)
      ⟨rfl, rfl, rfl⟩

theorem Accounted.stop (haccounted : Accounted collation state) :
    Accounted collation state.stop := by
  unfold LoopState.stop
  split_ifs
  · exact haccounted.elsewhere (.refl _) (fun _ => .inl) (fun _ => .inl) (fun _ => .inl)
      ⟨rfl, rfl, rfl⟩
  · exact haccounted

theorem Accounted.fire (haccounted : Accounted collation state) {concurrency timer : Nat}
    {now : ClockReading} {readings : Nat → ClockReading}
    (hnext : state.fire collation concurrency timer now readings = some next) :
    Accounted collation next := by
  unfold LoopState.fire LoopState.poll at hnext
  split_ifs at hnext with htimer hrunning
  · cases hnext
    dsimp only
    split_ifs
    · refine haccounted.elsewhere (.refl _) ?_ (fun _ => .inl) (fun _ => .inl) ⟨rfl, rfl, rfl⟩
      intro poll hpoll
      refine (List.mem_append.mp hpoll).imp_right fun hlast => ?_
      rw [List.mem_singleton.mp hlast]
      intro program hstage
      cases hstage
      exact ⟨advancing_statements.queueing.claimNextBatch collation now readings _ _,
        .claims now readings _ _⟩
    · refine haccounted.elsewhere (.refl _) ?_ (fun _ => .inl) (fun _ => .inl) ⟨rfl, rfl, rfl⟩
      intro poll hpoll
      refine (List.mem_append.mp hpoll).imp_right fun hlast => ?_
      rw [List.mem_singleton.mp hlast]
      exact fun program hstage => nomatch hstage
  · cases hnext
    exact haccounted.elsewhere (.refl _) (fun _ => .inl) (fun _ => .inl) (fun _ => .inl)
      ⟨rfl, rfl, rfl⟩

variable {failure : Option Thrown}

theorem Accounted.answerPoll (haccounted : Accounted collation state)
    (hnext : state.answerPoll index failure = some next) : Accounted collation next := by
  obtain ⟨β, request, rest, available, handed, hpoll, rfl⟩ := LoopState.answerPoll_eq_some hnext
  obtain ⟨hmakes, hstands⟩ := haccounted.polls _ (List.mem_of_getElem? hpoll) _ rfl
  obtain ⟨hadvancing, hrest⟩ := hmakes
  refine haccounted.elsewhere (answerCall_advances hadvancing failure _) ?_ (fun _ => .inl)
    (fun _ => .inl) ⟨rfl, rfl, rfl⟩
  intro poll hmem
  refine (List.mem_or_eq_of_mem_set hmem).imp_right fun hself => ?_
  rw [hself]
  intro program hstage
  cases hstage
  exact ⟨hrest _, hstands.answered hadvancing failure⟩

theorem Accounted.finishPoll (haccounted : Accounted collation state)
    (hnext : state.finishPoll index = some next) : Accounted collation next := by
  obtain ⟨available, handed, -, rfl⟩ := LoopState.finishPoll_eq_some hnext
  split_ifs
  · exact haccounted.elsewhere (.refl _) (fun _ hpoll => .inl (List.mem_of_mem_eraseIdx hpoll))
      (fun _ => .inl) (fun _ => .inl) ⟨rfl, rfl, rfl⟩
  · exact haccounted.elsewhere (.refl _) (fun _ hpoll => .inl (List.mem_of_mem_eraseIdx hpoll))
      (fun _ => .inl) (fun _ => .inl) ⟨rfl, rfl, rfl⟩

theorem Accounted.answerTask (haccounted : Accounted collation state)
    (hnext : state.answerTask index failure = some next) : Accounted collation next := by
  obtain ⟨β, request, rest, task, htask, rfl⟩ := LoopState.answerTask_eq_some hnext
  obtain ⟨hadvancing, hrest⟩ := haccounted.executions _ (List.mem_of_getElem? htask)
  refine haccounted.elsewhere (answerCall_advances hadvancing failure _) (fun _ => .inl) ?_
    (fun _ => .inl) ⟨rfl, rfl, rfl⟩
  intro execution hmem
  refine (List.mem_or_eq_of_mem_set hmem).imp_right fun hself => ?_
  rw [hself]
  exact hrest _

theorem Accounted.finishTask (haccounted : Accounted collation state)
    (hnext : state.finishTask index = some next) : Accounted collation next := by
  obtain ⟨id, rfl⟩ := LoopState.finishTask_eq_some hnext
  exact haccounted.elsewhere (.refl _) (fun _ => .inl)
    (fun _ hexecution => .inl (List.mem_filter.mp hexecution).1) (fun _ => .inl) ⟨rfl, rfl, rfl⟩

theorem Accounted.call (haccounted : Accounted collation state) (operation : Operation) :
    Accounted collation { state with calls := state.calls ++ [operation.program collation] } := by
  refine haccounted.elsewhere (.refl _) (fun _ => .inl) (fun _ => .inl) ?_ ⟨rfl, rfl, rfl⟩
  intro program hprogram
  refine (List.mem_append.mp hprogram).imp_right fun hlast => ?_
  rw [List.mem_singleton.mp hlast]
  exact advancing_statements.operation collation operation

theorem Accounted.answerOther (haccounted : Accounted collation state)
    (hnext : state.answerOther index failure = some next) :
    Accounted collation next := by
  obtain ⟨β, request, rest, hcall, rfl⟩ := LoopState.answerOther_eq_some hnext
  obtain ⟨hadvancing, hrest⟩ := haccounted.calls _ (List.mem_of_getElem? hcall)
  refine haccounted.elsewhere (answerCall_advances hadvancing failure _) (fun _ => .inl)
    (fun _ => .inl) ?_ ⟨rfl, rfl, rfl⟩
  intro program hmem
  refine (List.mem_or_eq_of_mem_set hmem).imp_right fun hself => ?_
  rw [hself]
  exact hrest _

theorem foldl_execute_free (runs : TaskRecord → HandlerRun) {tasks : List TaskRecord}
    (hdistinct : (tasks.map fun task => task.row.id).Nodup)
    (hfree : ∀ task ∈ tasks, task.row.id ∉ state.inFlight.map Execution.id) :
    tasks.foldl (LoopState.execute runs) state = { state with
      inFlight := state.inFlight ++ tasks.map fun task => ⟨task, executeTask task
        { runs task with registered := task.row.taskType ∈ state.handlers }⟩
      executed := state.executed ++ tasks.map fun task => attemptOf task.row } := by
  induction tasks generalizing state with
  | nil => simp
  | cons task tasks ih =>
      rw [List.map_cons, List.nodup_cons] at hdistinct
      have hself := hfree task List.mem_cons_self
      rw [List.foldl_cons, LoopState.execute, if_neg hself, ih hdistinct.2]
      · simp
      · intro other hother hmem
        rw [List.map_append, List.mem_append] at hmem
        rcases hmem with hflying | hnew
        · exact hfree other (List.mem_cons_of_mem _ hother) hflying
        · refine hdistinct.1 (List.mem_map.mpr ⟨other, hother, ?_⟩)
          exact List.mem_singleton.mp hnew

theorem Accounted.settlePoll (haccounted : Accounted collation state)
    {runs : TaskRecord → HandlerRun}
    (hadmitted : DispatchesFree state (.settlePoll index runs))
    (hnext : state.settlePoll index runs = some next) : Accounted collation next := by
  obtain ⟨available, handed, outcome, hpoll, rfl⟩ := LoopState.settlePoll_eq_some hnext
  have hpolls : ∀ poll ∈ state.polls.set index ⟨available, handed, .dispatched⟩,
      poll ∈ state.polls ∨ poll.Sound collation state.table := by
    intro poll hmem
    refine (List.mem_or_eq_of_mem_set hmem).imp_right fun hself => ?_
    rw [hself]
    exact fun program hstage => nomatch hstage
  have hset : Accounted collation
      { state with polls := state.polls.set index ⟨available, handed, .dispatched⟩ } :=
    haccounted.elsewhere (.refl _) hpolls (fun _ => .inl) (fun _ => .inl) ⟨rfl, rfl, rfl⟩
  cases outcome with
  | error error => exact hset
  | ok tasks =>
      obtain ⟨-, hstands⟩ := haccounted.polls _ (List.mem_of_getElem? hpoll) _ rfl
      obtain ⟨hdistinct, hhanded⟩ := hstands.settled
      have hfree := hadmitted index runs available handed tasks rfl hpoll
      have hfold : tasks.foldl (LoopState.execute runs)
          { state with polls := state.polls.set index ⟨available, handed, .dispatched⟩ } = _ :=
        foldl_execute_free runs hdistinct hfree
      simp only [LoopState.dispatch, hfold]
      constructor
      · exact hset.polls
      · intro execution hmem
        rcases List.mem_append.mp hmem with hold | hnew
        · exact hset.executions execution hold
        · obtain ⟨task, -, rfl⟩ := List.mem_map.mp hnew
          exact advancing_statements.executeTask task _
      · exact hset.calls
      · intro attempt hattempt
        refine List.mem_append.mpr ((List.mem_append.mp hattempt).imp_left ?_)
        exact hset.returned attempt
      · intro attempt hattempt
        rcases List.mem_append.mp hattempt with hold | hnew
        · exact (hset.answered attempt hold).imp_left (List.mem_append_left _)
        · exact (hhanded attempt hnew).imp_left (List.mem_append_right _)

theorem Accounted.step {concurrency : Nat} (haccounted : Accounted collation state)
    {event : LoopEvent} (hadmitted : DispatchesFree state event)
    (hnext : state.step collation concurrency event = some next) :
    Accounted collation next := by
  cases event with
  | start =>
      cases hnext
      exact haccounted.start
  | stop =>
      cases hnext
      exact haccounted.stop
  | register taskType =>
      cases hnext
      exact haccounted.elsewhere (.refl _) (fun _ => .inl) (fun _ => .inl) (fun _ => .inl)
        ⟨rfl, rfl, rfl⟩
  | fire timer now readings => exact haccounted.fire hnext
  | answerPoll index failure => exact haccounted.answerPoll hnext
  | settlePoll index runs => exact haccounted.settlePoll hadmitted hnext
  | finishPoll index => exact haccounted.finishPoll hnext
  | answerTask index failure => exact haccounted.answerTask hnext
  | finishTask index => exact haccounted.finishTask hnext
  | call operation =>
      cases hnext
      exact haccounted.call operation
  | answerOther index failure => exact haccounted.answerOther hnext

end Steps

/-- As long as no batch is dispatched over an earlier execution of one of its tasks, no claimed
attempt is dropped. -/
theorem everyAttemptExecuted_of_dispatchesFree {collation : Collation} {concurrency : Nat}
    {table : TaskTable} {state : LoopState}
    (hreaches : LoopReaches collation concurrency DispatchesFree table state) :
    EveryAttemptExecuted state := by
  have haccounted : Accounted collation state := by
    refine hreaches.invariant (Accounted.of collation table) ?_
    intro now event next hnow hadmitted hnext
    exact Accounted.step hnow hadmitted hnext
  refine ⟨haccounted.returned, fun row hrow hrunning hanswered => ?_⟩
  exact (haccounted.answered _ hanswered).resolve_right fun hover =>
    hover.not_running hrow rfl hrunning

/-! ### A task which is claimed over its own execution -/

def noon : ClockReading where
  millis := 1767268800000
  inRange := ClockReading.inRange_newYearNoon

/-- The handler of the first attempt still runs when its row is put back; the next poll claims
the second attempt and leaves it out. -/
def overtakingRecovery : List LoopEvent :=
  [.register "export", .start, .fire 0 morning fun _ => morning, .answerPoll 0 none,
    .settlePoll 0 fun _ => promptRun, .finishPoll 0,
    .call (.recoverHangingTasks noon 300000), .answerOther 0 none,
    .fire 1 noon fun _ => noon, .answerPoll 0 none, .settlePoll 0 fun _ => promptRun]

def oneTask : TaskTable where
  rows := [racedTask "t" "null"]
  unique := by decide

theorem overtakingRecovery_drops :
    (overtakingRecovery.foldlM (LoopState.step .codePoint 2) (.of oneTask)).map
        (fun state => (state.returned, state.executed)) =
      some ([("t", 1), ("t", 2)], [("t", 1)]) := by
  decide +kernel

theorem overtakingRecovery_breaks :
    ¬ ∀ (collation : Collation) (concurrency : Nat) (table : TaskTable) (state : LoopState),
      LoopReaches collation concurrency (fun _ _ => True) table state →
        EveryAttemptExecuted state := by
  intro hall
  obtain ⟨state, hrun, hledger⟩ := Option.map_eq_some_iff.mp overtakingRecovery_drops
  obtain ⟨hreturned, hexecuted⟩ := Prod.mk.inj hledger
  have hevery := (hall .codePoint 2 oneTask state
    (LoopReaches.initially.run overtakingRecovery (fun _ _ _ => trivial) hrun)).1
  rw [hreturned, hexecuted] at hevery
  exact absurd (hevery ("t", 2) (by simp)) (by decide)

def firstPoll : List LoopEvent :=
  [.register "export", .start, .fire 0 morning fun _ => morning, .answerPoll 0 none]

theorem firstPoll_executes :
    ∃ state next, firstPoll.foldlM (LoopState.step .codePoint 2) (.of oneTask) = some state ∧
      state.settlePoll 0 (fun _ => promptRun) = some next ∧ EveryAttemptExecuted next := by
  have hadmitted : ∀ event ∈ firstPoll, ∀ state, DispatchesFree state event := by
    intro event hevent state index runs available handed tasks hsettle
    rw [hsettle] at hevent
    simp [firstPoll] at hevent
  have hsome : ((firstPoll.foldlM (LoopState.step .codePoint 2) (.of oneTask)).map fun state =>
      (state.inFlight.length, (state.settlePoll 0 fun _ => promptRun).isSome)) =
        some (0, true) := by
    decide +kernel
  obtain ⟨state, hrun, hflags⟩ := Option.map_eq_some_iff.mp hsome
  obtain ⟨hidle, hsettles⟩ := Prod.mk.inj hflags
  obtain ⟨next, hnext⟩ := Option.isSome_iff_exists.mp hsettles
  have hreaches := LoopReaches.initially.run firstPoll hadmitted hrun
  refine ⟨state, next, hrun, hnext, everyAttemptExecuted_of_dispatchesFree
    (hreaches.step (.settlePoll 0 fun _ => promptRun) ?_ hnext)⟩
  intro index runs available handed tasks _ _ task _
  rw [List.length_eq_zero_iff.mp hidle]
  exact List.not_mem_nil

end TauriPlatform.TaskWorker
