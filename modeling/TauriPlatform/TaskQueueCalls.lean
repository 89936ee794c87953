import TauriPlatform.TaskWorker

/-!
# The statements of the queue

What holds of each statement of the queue holds of every call which an operation or a worker
makes, whatever its calls are answered with.
-/

namespace TauriPlatform.TaskQueueService

open Async Relational

/-- `Good` holds of each statement by which tasks are read, enqueued and claimed. -/
structure OfQueueing (Good : ∀ ⦃β : Type⦄, DbCall TaskTable β → Prop) : Prop where
  select : ∀ (sql : String) (params : List JsonValue) (condition : TaskRow → Bool)
    (rest : List TaskRow → List TaskRow),
    Good (.query (selectStatement sql params condition rest))
  insert : ∀ row : TaskRow, row.state = .pending → Good (.execute (insertStatement row))
  claim : ∀ (now : String) (taskTypes : List String) (limit : Int),
    Good (.query (claimStatement now taskTypes limit))
  quarantine : ∀ now id : String, Good (.execute (quarantineStatement now id))

/-- `Good` holds of each statement of the queue which completes no task. -/
structure OfOpenStatements (Good : ∀ ⦃β : Type⦄, DbCall TaskTable β → Prop) : Prop where
  select : ∀ (sql : String) (params : List JsonValue) (condition : TaskRow → Bool)
    (rest : List TaskRow → List TaskRow),
    Good (.query (selectStatement sql params condition rest))
  insert : ∀ row : TaskRow, row.state = .pending → Good (.execute (insertStatement row))
  claim : ∀ (now : String) (taskTypes : List String) (limit : Int),
    Good (.query (claimStatement now taskTypes limit))
  quarantine : ∀ now id : String, Good (.execute (quarantineStatement now id))
  reschedule : ∀ (nextScheduledAt errorMessage now id : String) (attempt : Int),
    Good (.query (rescheduleStatement nextScheduledAt errorMessage now id attempt))
  fail : ∀ (errorMessage now id : String) (attempt : Int),
    Good (.query (failStatement errorMessage now id attempt))
  cancel : ∀ reason now id : String, Good (.execute (cancelStatement reason now id))
  recover : ∀ nowIso cutoff : String, Good (.execute (recoverStatement nowIso cutoff))

/-- `Good` holds of each statement of the queue. -/
structure OfStatements (Good : ∀ ⦃β : Type⦄, DbCall TaskTable β → Prop) : Prop
    extends OfOpenStatements Good where
  complete : ∀ now id : String, Good (.execute (completeStatement now id))

section Programs

variable {Good : ∀ ⦃β : Type⦄, DbCall TaskTable β → Prop}

theorem makes_query {Row : Type} {statement : Statement TaskTable Row}
    (hgood : Good (.query statement)) :
    ((connectionExecutor TaskTable).query statement).Makes Good :=
  Program.makes_await hgood

theorem makes_execute {Row : Type} {statement : Statement TaskTable Row}
    (hgood : Good (.execute statement)) :
    ((connectionExecutor TaskTable).execute statement).Makes Good :=
  (Program.makes_await hgood).bind fun _ => Program.makes_done _

namespace OfOpenStatements

theorem every_collectClaimed
    (hquarantine : ∀ now id : String, Good (.execute (quarantineStatement now id)))
    (readings : Nat → ClockReading) (rows : List TaskRow) :
    (TaskQueueService.collectClaimed (connectionExecutor TaskTable) readings rows).Every Good
      fun outcome => ∀ records, outcome = .ok records →
        (records.map TaskRecord.row).Sublist rows ∧
          ∀ record ∈ records, rowToRecord record.row = .ok record := by
  induction rows generalizing readings with
  | nil =>
      intro records hrecords
      cases hrecords
      exact ⟨List.Sublist.refl _, fun record hrecord => nomatch hrecord⟩
  | cons row rest ih =>
      rw [TaskQueueService.collectClaimed]
      cases hread : rowToRecord row with
      | ok record =>
          have hrow : record.row = row := by
            unfold rowToRecord at hread
            split at hread
            · cases hread
              rfl
            · cases hread
          apply Program.Every.bind
          apply (ih _).mono
          intro outcome hcollected
          cases outcome with
          | error error => exact fun records hrecords => nomatch hrecords
          | ok collected =>
              intro records hrecords
              cases hrecords
              obtain ⟨hsublist, hrest⟩ := hcollected collected rfl
              rw [List.map_cons, hrow]
              refine ⟨hsublist.cons_cons row, List.forall_mem_cons.mpr ⟨?_, hrest⟩⟩
              rw [hrow, hread]
      | error error =>
          dsimp only
          split_ifs
          · have hcall : ((connectionExecutor TaskTable).execute
                (quarantineStatement (readings 0).iso row.id)).Makes Good :=
              makes_execute (hquarantine _ _)
            apply Program.Every.bind
            apply hcall.mono
            intro outcome _
            cases outcome with
            | error error => exact fun records hrecords => nomatch hrecords
            | ok count =>
                apply (ih _).mono
                intro outcome hcollected records hrecords
                obtain ⟨hsublist, hrest⟩ := hcollected records hrecords
                exact ⟨hsublist.cons row, hrest⟩
          · exact fun records hrecords => nomatch hrecords

end OfOpenStatements

namespace OfQueueing

theorem findActive (hgood : OfQueueing Good) (uniqueKey : Option String) :
    (TaskQueueService.findActive (connectionExecutor TaskTable) uniqueKey).Makes Good := by
  unfold TaskQueueService.findActive
  split
  · exact Program.makes_done _
  · exact (makes_query (hgood.select _ _ _ _)).bind fun _ => Program.makes_done _

theorem insertOrFindWinner (hgood : OfQueueing Good) {row : TaskRow}
    (hpending : row.state = .pending) :
    (TaskQueueService.insertOrFindWinner (connectionExecutor TaskTable) row).Makes Good := by
  unfold TaskQueueService.insertOrFindWinner
  refine Program.Makes.tryCatch ?_ ?_
  · exact (makes_execute (hgood.insert row hpending)).bind fun _ => Program.makes_done _
  · intro error
    refine (hgood.findActive row.uniqueKey).bind fun found => ?_
    cases found with
    | some winner => exact Program.makes_done _
    | none => exact Program.makes_done _

theorem enqueue (hgood : OfQueueing Good) (id : String) (now : ClockReading)
    (definition : TaskDefinition) :
    (TaskQueueService.enqueue (connectionExecutor TaskTable) id now definition).Makes Good := by
  unfold TaskQueueService.enqueue
  refine (Program.makes_done _).bind fun checked => ?_
  refine (hgood.findActive definition.uniqueKey).bind fun found => ?_
  cases found with
  | some existing => exact Program.makes_done _
  | none =>
      have hpending : (newRow id now.iso definition checked).state = .pending := rfl
      refine (hgood.insertOrFindWinner hpending).bind fun inserted => ?_
      cases inserted with
      | some winner => exact Program.makes_done _
      | none =>
          refine (makes_query (hgood.select _ _ _ _)).bind fun rows => ?_
          cases rows with
          | nil => exact Program.makes_done _
          | cons row rest => exact Program.makes_done _

theorem collectClaimed (hgood : OfQueueing Good) (readings : Nat → ClockReading)
    (rows : List TaskRow) :
    (TaskQueueService.collectClaimed (connectionExecutor TaskTable) readings rows).Makes
      Good :=
  (OfOpenStatements.every_collectClaimed hgood.quarantine readings rows).mono fun _ _ => trivial

theorem claimNextBatch (hgood : OfQueueing Good) (collation : Collation) (now : ClockReading)
    (readings : Nat → ClockReading) (limit : NumberValue) (taskTypes : List String) :
    (TaskQueueService.claimNextBatch (connectionExecutor TaskTable) collation now readings limit
      taskTypes).Makes Good := by
  unfold TaskQueueService.claimNextBatch
  split
  · exact Program.makes_done _
  · exact (makes_query (hgood.claim _ _ _)).bind fun rows => hgood.collectClaimed readings _

theorem listByState (hgood : OfQueueing Good) (organisationId : String) (state : TaskState)
    (limit : NumberValue) :
    (TaskQueueService.listByState organisationId state limit).Makes Good := by
  unfold TaskQueueService.listByState
  split
  · exact Program.makes_done _
  · exact (Program.makes_await (hgood.select _ _ _ _)).bind fun _ => Program.makes_done _

theorem findById (hgood : OfQueueing Good) (taskId : String) :
    (TaskQueueService.findById taskId).Makes Good := by
  unfold TaskQueueService.findById
  refine (Program.makes_await (hgood.select _ _ _ _)).bind fun rows => ?_
  cases rows with
  | nil => exact Program.makes_done _
  | cons row rest => exact (Program.makes_done _).bind fun _ => Program.makes_done _

end OfQueueing

namespace OfOpenStatements

theorem queueing (hgood : OfOpenStatements Good) : OfQueueing Good where
  select := hgood.select
  insert := hgood.insert
  claim := hgood.claim
  quarantine := hgood.quarantine

theorem markFailed (hgood : OfOpenStatements Good) (now later : ClockReading) (random : ℚ)
    (taskId : String) (error : Thrown) :
    (TaskQueueService.markFailed (connectionExecutor TaskTable) now later random taskId
      error).Makes Good := by
  unfold TaskQueueService.markFailed
  refine (makes_query (hgood.select _ _ _ _)).bind fun rows => ?_
  cases rows with
  | nil => exact Program.makes_done _
  | cons row rest =>
      dsimp only
      split_ifs
      · exact Program.makes_done _
      · split
        · refine (Program.makes_done _).bind fun nextScheduledAt => ?_
          exact (makes_query (hgood.reschedule _ _ _ _ _)).bind fun _ => Program.makes_done _
        · exact (makes_query (hgood.fail _ _ _ _)).bind fun _ => Program.makes_done _

theorem recoverHangingTasks (hgood : OfOpenStatements Good) (now : ClockReading) (timeoutMs : Int) :
    (TaskQueueService.recoverHangingTasks now timeoutMs).Makes Good := by
  unfold TaskQueueService.recoverHangingTasks
  split
  · exact Program.makes_done _
  · exact Program.makes_await (hgood.recover _ _)

theorem operation (hgood : OfOpenStatements Good) (collation : Collation)
    {operation : Operation} (hopen : ¬ TaskWorker.IsFinish operation) :
    (operation.program collation).Makes Good := by
  cases operation with
  | enqueue id now definition =>
      exact (hgood.queueing.enqueue id now definition).bind fun _ => Program.makes_done _
  | claimNextBatch now readings limit taskTypes =>
      exact (hgood.queueing.claimNextBatch collation now readings limit taskTypes).bind
        fun _ => Program.makes_done _
  | markCompleted now taskId => exact absurd trivial hopen
  | markFailed now later random taskId error => exact absurd trivial hopen
  | cancel now taskId reason =>
      exact (makes_execute (hgood.cancel _ _ _)).bind fun _ => Program.makes_done _
  | recoverHangingTasks now timeoutMs =>
      exact (hgood.recoverHangingTasks now timeoutMs).bind fun _ => Program.makes_done _
  | listByState organisationId state limit =>
      exact (hgood.queueing.listByState organisationId state limit).bind
        fun _ => Program.makes_done _
  | findById taskId => exact (hgood.queueing.findById taskId).bind fun _ => Program.makes_done _

theorem executeTask (hgood : OfOpenStatements Good) (task : TaskRecord) (run : HandlerRun)
    (hcomplete : ∀ now : String, Good (.execute (completeStatement now task.row.id))) :
    (TaskWorker.executeTask task run).Makes Good := by
  unfold TaskWorker.executeTask
  by_cases hregistered : run.registered
  · rw [if_pos hregistered]
    refine Program.Makes.tryCatch ?_ fun error => ?_
    · refine (Program.makes_done _).bind fun _ => ?_
      split
      · exact Program.makes_done _
      · exact makes_execute (hcomplete _)
    · exact (hgood.markFailed _ _ _ _ _).bind fun _ => Program.makes_done _
  · rw [if_neg hregistered]
    exact makes_execute (hgood.cancel _ _ _)

end OfOpenStatements

namespace OfStatements

theorem operation (hgood : OfStatements Good) (collation : Collation) (operation : Operation) :
    (operation.program collation).Makes Good := by
  by_cases hopen : TaskWorker.IsFinish operation
  · cases operation with
    | markCompleted now taskId =>
        exact (makes_execute (hgood.complete _ _)).bind fun _ => Program.makes_done _
    | markFailed now later random taskId error =>
        exact (hgood.markFailed now later random taskId error).bind
          fun _ => Program.makes_done _
    | _ => exact absurd hopen id
  · exact hgood.toOfOpenStatements.operation collation hopen

theorem executeTask (hgood : OfStatements Good) (task : TaskRecord) (run : HandlerRun) :
    (TaskWorker.executeTask task run).Makes Good :=
  hgood.toOfOpenStatements.executeTask task run fun now => hgood.complete now task.row.id

end OfStatements
end Programs
end TauriPlatform.TaskQueueService
