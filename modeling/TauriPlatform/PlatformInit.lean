import TauriPlatform.TaskQueueBound

/-!
# Starting the platform

`Platform.init` runs once in a process: it migrates the database and then resets
what an earlier process left RUNNING.  The reset goes by the age of a task, so a
task which was claimed shortly before the crash stays RUNNING.
-/

namespace TauriPlatform

open Async Relational TaskQueueService

structure Platform where
  isInitialised : Bool

/-- The age from which `recoverHangingTasks` resets a task by default. -/
def defaultRecoveryTimeoutMs : Int := 60000

/-- `Platform.init`; `migrate` stands for the runs of the migration engine. -/
def Platform.init (platform : Platform)
    (migrate : Program (DbCall TaskTable) Thrown Unit) (now : ClockReading) :
    Program (DbCall TaskTable) Thrown Platform :=
  if platform.isInitialised then pure platform
  else do
    migrate
    let _recovered ← recoverHangingTasks now defaultRecoveryTimeoutMs
    pure { platform with isInitialised := true }

/-! ## What is left RUNNING -/

theorem recoverHangingTasks_run {now : ClockReading} {timeoutMs : Int} {cutoff : String}
    (hcutoff : toIsoString? (now.millis - timeoutMs) = some cutoff) (table : TaskTable) :
    ∃ count later,
      (recoverHangingTasks now timeoutMs).run memoryConnection table =
        (.ok count, later) ∧
      later.rows =
        table.rows.map (Table.updateRow (isHanging cutoff) (recovered now.iso)) := by
  obtain ⟨result, hrun, hrows⟩ := recoverStatement_run now.iso cutoff table
  refine ⟨result.rowsAffected, result.database, ?_, hrows⟩
  simp only [recoverHangingTasks, hcutoff, Program.run_await, memoryConnection, hrun]

def NothingLeftRunning (before after : TaskTable) : Prop :=
  ∀ row ∈ before, row.state = .running →
    ∀ row' ∈ after, row'.id = row.id → row'.state ≠ .running

def LongRunning (now : ClockReading) (table : TaskTable) : Prop :=
  ∀ row ∈ table, row.state = .running →
    ∃ startedAt cutoff, row.startedAt = some startedAt ∧
      toIsoString? (now.millis - defaultRecoveryTimeoutMs) = some cutoff ∧
      startedAt ≤ cutoff

theorem nothingLeftRunning_iff {cutoff nowIso : String} {before after : TaskTable}
    (hafter : after.rows =
      before.rows.map (Table.updateRow (isHanging cutoff) (recovered nowIso))) :
    NothingLeftRunning before after ↔
      ∀ row ∈ before, row.state = .running → isHanging cutoff row := by
  constructor
  · intro hnothing row hrow hrunning
    by_contra hfresh
    have hkept : row ∈ after := by
      rw [Table.mem_def, hafter]
      refine List.mem_map.mpr ⟨row, hrow, ?_⟩
      rw [Table.updateRow, if_neg hfresh]
    exact hnothing row hrow hrunning row hkept rfl hrunning
  · intro hhanging row hrow hrunning row' hrow' hid
    rw [Table.mem_def, hafter] at hrow'
    obtain ⟨old, hold, rfl⟩ := List.mem_map.mp hrow'
    have hsame : old = row := by
      refine eq_of_id_eq hold hrow ?_
      rw [← hid, Table.updateRow]
      split_ifs <;> rfl
    subst hsame
    rw [Table.updateRow, if_pos (hhanging old hold hrunning)]
    simp [recovered]

/-- After a start which leaves the tasks to the reset, nothing is left RUNNING
exactly when everything RUNNING was old enough. -/
theorem Platform.init_recovers_iff {migrate : Program (DbCall TaskTable) Thrown Unit}
    {now : ClockReading} {before after : TaskTable} {platform : Platform}
    (hmigrate : (migrate.run memoryConnection before).2 = before)
    (hinit : (Platform.init ⟨false⟩ migrate now).run memoryConnection before =
      (.ok platform, after)) :
    NothingLeftRunning before after ↔ LongRunning now before := by
  obtain ⟨_, migrated, hrun, hrest⟩ := Program.run_bind_eq_ok hinit
  have hmigrated : migrated = before := by
    rw [hrun] at hmigrate
    exact hmigrate
  subst hmigrated
  obtain ⟨_, later, hrecover, hdone⟩ := Program.run_bind_eq_ok hrest
  have hafter : after = later := (congrArg Prod.snd hdone).symm
  subst hafter
  cases hcutoff : toIsoString? (now.millis - defaultRecoveryTimeoutMs) with
  | none =>
      simp only [recoverHangingTasks, hcutoff] at hrecover
      cases hrecover
  | some cutoff =>
      obtain ⟨_, table, htable, hrows⟩ := recoverHangingTasks_run hcutoff migrated
      cases htable.symm.trans hrecover
      rw [nothingLeftRunning_iff hrows]
      refine forall₃_congr fun row hrow hrunning => ?_
      simp [isHanging, hrunning, hcutoff, Option.any_eq_true]

/-! ## A quick restart -/

def crashedWhileRunning : QueueHistory :=
  System.runAll recordingConnection (Operation.program .codePoint)
    [.enqueue "t" (readingAfter 0) (taskWithAttempts 3), claimAt 0] .empty

theorem crashedWhileRunning_reached :
    QueueReaches .codePoint (fun _ _ => True) ⟨crashedWhileRunning, []⟩ :=
  System.Reaches.runAll .refl [_, _] fun _ _ _ => trivial

def restarted (seconds : Fin 1000) : Except Thrown Platform × TaskTable :=
  (Platform.init ⟨false⟩ (pure ()) (readingAfter seconds)).run memoryConnection
    crashedWhileRunning.table

theorem exists_platform {seconds : Fin 1000} (hok : (restarted seconds).1.isOk = true) :
    ∃ platform, restarted seconds = (.ok platform, (restarted seconds).2) := by
  cases hplatform : (restarted seconds).1 with
  | error error =>
      rw [hplatform] at hok
      cases hok
  | ok platform => exact ⟨platform, Prod.ext hplatform rfl⟩

theorem restarted_isOk : (restarted 1).1.isOk = true ∧ (restarted 60).1.isOk = true := by
  decide

theorem recovered_after_a_minute :
    NothingLeftRunning crashedWhileRunning.table (restarted 60).2 ↔
      LongRunning (readingAfter 60) crashedWhileRunning.table := by
  obtain ⟨platform, hinit⟩ := exists_platform restarted_isOk.2
  have hmigrate : ((pure () : Program (DbCall TaskTable) Thrown Unit).run memoryConnection
      crashedWhileRunning.table).2 = crashedWhileRunning.table := rfl
  exact Platform.init_recovers_iff hmigrate hinit

theorem kept_running :
    ∃ row ∈ crashedWhileRunning.table.rows, row.state = .running ∧
      row ∈ (restarted 1).2.rows := by
  decide

/-- A start one second after the crash leaves the task RUNNING. -/
theorem left_running_after_restart :
    ¬ ∀ system, QueueReaches .codePoint (fun _ _ => True) system →
      ∀ (migrate : Program (DbCall TaskTable) Thrown Unit) (now : ClockReading)
        (platform : Platform) (after : TaskTable),
        (migrate.run memoryConnection system.state.table).2 = system.state.table →
        (Platform.init ⟨false⟩ migrate now).run memoryConnection system.state.table =
          (.ok platform, after) →
        NothingLeftRunning system.state.table after := by
  intro hcomplete
  obtain ⟨platform, hinit⟩ := exists_platform restarted_isOk.1
  obtain ⟨row, hrow, hrunning, hkept⟩ := kept_running
  exact hcomplete _ crashedWhileRunning_reached (pure ()) (readingAfter 1) platform _ rfl
    hinit row hrow hrunning row hkept rfl hrunning

end TauriPlatform
