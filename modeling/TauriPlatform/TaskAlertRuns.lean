import TauriPlatform.TaskStanding

/-!
# Truthful alerts

Where nothing in flight is robbed of a running task, every task which was handed out stands
until its worker is done with it, so each alert is about a task which has failed.  A task which
is cancelled while its handler runs gets an alert although it has not failed.
-/

namespace TauriPlatform.TaskAlerts

open Async Relational TaskQueueService TaskWorker

variable {table later : TaskTable} {held : String × Int}

/-! ## The invariant -/

def Actor.ids (actor : Actor) : List String :=
  actor.handed.map Prod.fst

def Actor.Sound (collation : Collation) (table : TaskTable) : Actor → Prop
  | .operation (.claimNextBatch now readings limit taskTypes) handed program =>
      (handed = [] ∧ program =
        (Operation.claimNextBatch now readings limit taskTypes).program collation) ∨
      program.Every KeepingCall (Dispatchable handed)
  | .operation (.cancel now taskId reason) _ program =>
      program = (Operation.cancel now taskId reason).program collation ∨
        ∃ outcome, program = .done outcome
  | .operation (.recoverHangingTasks now timeoutMs) _ program =>
      program = (Operation.recoverHangingTasks now timeoutMs).program collation ∨
        ∃ outcome, program = .done outcome
  | .operation _ _ program => program.Every KeepingCall fun _ => True
  | .worker task _ program => Handling (attemptOf task.row) program table

/-- Everything which was handed to something in flight stands, and no task was handed out
twice. -/
structure Guarded (collation : Collation) (pool : AlertPool) : Prop where
  standing : ∀ actor ∈ pool.actors, ∀ held ∈ actor.handed, At Standing pool.table held
  distinct : (pool.actors.flatMap Actor.ids).Nodup
  sound : ∀ actor ∈ pool.actors, actor.Sound collation pool.table
  truthful : Truthful pool

def Leaves (table later : TaskTable) (others : List Actor) : Prop :=
  ∀ other ∈ others, ∀ held ∈ other.handed,
    (At Standing table held → At Standing later held) ∧
      (At HasFailed table held → At HasFailed later held)

structure Continued (collation : Collation) (table : TaskTable) (handed : List (String × Int))
    (continued : List Actor) : Prop where
  sound : ∀ actor ∈ continued, actor.Sound collation table
  handed : ∀ actor ∈ continued, ∀ held ∈ actor.handed, held ∈ handed
  distinct : (continued.flatMap Actor.ids).Nodup

theorem Continued.nil (collation : Collation) (table : TaskTable)
    (handed : List (String × Int)) : Continued collation table handed [] where
  sound _ hactor := absurd hactor List.not_mem_nil
  handed _ hactor := absurd hactor List.not_mem_nil
  distinct := List.nodup_nil

variable {collation : Collation}

theorem Continued.single {actor : Actor} (hsound : actor.Sound collation table)
    (hdistinct : actor.ids.Nodup) :
    Continued collation table actor.handed [actor] where
  sound other hother := by rwa [List.mem_singleton.mp hother]
  handed other hother held hheld := by rwa [List.mem_singleton.mp hother] at hheld
  distinct := by simpa using hdistinct

theorem Continued.dispatched {handed : List (String × Int)} {records : List TaskRecord}
    {work : List (TaskRecord × HandlerRun)}
    (hdispatchable : Dispatchable handed (.ok (.records records)))
    (hwork : (work.map Prod.fst).Sublist records) :
    Continued collation table handed
      (work.map fun job => .worker job.1 job.2 (executeTask job.1 job.2)) := by
  obtain ⟨hhanded, hnodup⟩ := hdispatchable records rfl
  constructor
  · intro actor hactor
    obtain ⟨job, -, rfl⟩ := List.mem_map.mp hactor
    exact handling_worker job.1 job.2 table
  · intro actor hactor held hheld
    obtain ⟨job, hjob, rfl⟩ := List.mem_map.mp hactor
    rw [List.mem_singleton.mp hheld]
    exact hhanded job.1 (hwork.subset (List.mem_map_of_mem hjob))
  · have hids : (work.map fun job => Actor.worker job.1 job.2 (executeTask job.1 job.2)).flatMap
        Actor.ids = (work.map Prod.fst).map fun record => record.row.id := by
      rw [List.flatMap_map, List.map_map]
      exact List.map_eq_flatMap.symm
    rw [hids]
    exact hnodup.sublist (hwork.map _)

theorem sound_persists {actor : Actor} (hsound : actor.Sound collation table)
    (hfailed : ∀ held ∈ actor.handed, At HasFailed table held → At HasFailed later held) :
    actor.Sound collation later := by
  cases actor with
  | operation operation handed program => cases operation <;> exact hsound
  | worker task run program =>
      exact Handling.persists hsound (hfailed _ List.mem_cons_self)

section Replace

variable {collation : Collation} {alerts alerts' : List Alert}
  {before continued after : List Actor} {actor : Actor} {handed : List (String × Int)}

theorem Guarded.replace
    (hguarded : Guarded collation ⟨table, alerts, before ++ actor :: after⟩)
    (hothers : Leaves table later (before ++ after))
    (hcontinued : Continued collation later handed continued)
    (hhanded : ∀ held ∈ handed, At Standing later held ∧
      (held ∈ actor.handed ∨ ∀ old, HeldAt table old → held.1 ≠ old.1))
    (htruthful : ∀ alert ∈ alerts', alert.Truthful) :
    Guarded collation ⟨later, alerts', before ++ continued ++ after⟩ := by
  have hmem : ∀ other ∈ before ++ after, other ∈ before ++ actor :: after := by
    intro other hother
    simp only [List.mem_append, List.mem_cons] at hother ⊢
    tauto
  have hsplit : ∀ other ∈ before ++ continued ++ after,
      other ∈ before ++ after ∨ other ∈ continued := by
    intro other hother
    simp only [List.mem_append] at hother ⊢
    tauto
  constructor
  · intro other hother held hheld
    cases hsplit other hother with
    | inl hold =>
        exact (hothers other hold held hheld).1
          (hguarded.standing other (hmem other hold) held hheld)
    | inr hnew => exact (hhanded held (hcontinued.handed other hnew held hheld)).1
  · apply nodup_flatMap_replace hguarded.distinct hcontinued.distinct
    intro id hid
    obtain ⟨new, hnew, hid⟩ := List.mem_flatMap.mp hid
    obtain ⟨held, hheld, rfl⟩ := List.mem_map.mp hid
    cases (hhanded held (hcontinued.handed new hnew held hheld)).2 with
    | inl hold => exact Or.inl (List.mem_map_of_mem hold)
    | inr hfresh =>
        apply Or.inr
        intro other hother hid
        obtain ⟨held', hheld', hsame⟩ := List.mem_map.mp hid
        have hstanding := hguarded.standing other (hmem other hother) held' hheld'
        exact hfresh held' hstanding.heldAt hsame.symm
  · intro other hother
    cases hsplit other hother with
    | inl hold =>
        apply sound_persists (hguarded.sound other (hmem other hold))
        exact fun held hheld => (hothers other hold held hheld).2
    | inr hnew => exact hcontinued.sound other hnew
  · exact htruthful

theorem Guarded.remove
    (hguarded : Guarded collation ⟨table, alerts, before ++ actor :: after⟩)
    (hothers : Leaves table later (before ++ after))
    (htruthful : ∀ alert ∈ alerts', alert.Truthful) :
    Guarded collation ⟨later, alerts', before ++ [] ++ after⟩ :=
  hguarded.replace hothers (.nil collation later [])
    (fun _ hheld => absurd hheld List.not_mem_nil) htruthful

end Replace

/-! ## Steps of a worker -/

section Worked

variable {collation : Collation} {alerts : List Alert} {before after : List Actor}
  {task : TaskRecord} {run : HandlerRun} {β : Type}

theorem Guarded.others_ne {program : Execution Unit}
    (hguarded : Guarded collation
      ⟨table, alerts, before ++ .worker task run program :: after⟩) :
    ∀ other ∈ before ++ after, ∀ held ∈ other.handed, held.1 ≠ task.row.id := by
  intro other hother held hheld hid
  have hdistinct := hguarded.distinct
  have hids : (Actor.worker task run program).ids = [task.row.id] := rfl
  rw [List.flatMap_append, List.flatMap_cons, hids, List.singleton_append, List.nodup_middle,
    List.nodup_cons] at hdistinct
  apply hdistinct.1
  rw [← List.flatMap_append, List.mem_flatMap]
  exact ⟨other, hother, List.mem_map.mpr ⟨held, hheld, hid⟩⟩

theorem continued_goesOn {program : Execution Unit}
    (hhandling : Handling (attemptOf task.row) program table) :
    Continued collation table [attemptOf task.row] (goesOn task run program) := by
  cases program with
  | done outcome => exact .nil collation table _
  | call request rest =>
      have hsound : Actor.Sound collation table (.worker task run (.call request rest)) :=
        hhandling
      exact .single hsound (List.nodup_singleton _)

theorem Guarded.worked {request : DbCall TaskTable β} {rest : Except Thrown β → Execution Unit}
    {answer : Except Thrown β}
    (hguarded : Guarded collation
      ⟨table, alerts, before ++ .worker task run (.call (.database request) rest) :: after⟩)
    (hanswer : fallible memoryConnection request table answer later) :
    Guarded collation ⟨later, alerts, before ++ goesOn task run (rest answer) ++ after⟩ := by
  have hactor : Actor.worker task run (.call (.database request) rest) ∈
      before ++ .worker task run (.call (.database request) rest) :: after :=
    List.mem_append_right _ List.mem_cons_self
  have hhandling : Handling (attemptOf task.row) (.call (.database request) rest) table :=
    hguarded.sound _ hactor
  have hown : At Standing table (attemptOf task.row) :=
    hguarded.standing _ hactor _ List.mem_cons_self
  obtain ⟨htouches, hrest, hkept⟩ := hhandling table answer later hown hanswer
  have hothers : Leaves table later (before ++ after) := by
    intro other hother held hheld
    have hne := hguarded.others_ne other hother held hheld
    exact ⟨at_of_touchesOnly htouches hne, at_of_touchesOnly htouches hne⟩
  cases hkept with
  | inl hstanding =>
      apply hguarded.replace hothers (continued_goesOn hrest) _ hguarded.truthful
      intro held hheld
      rw [List.mem_singleton.mp hheld]
      exact ⟨hstanding, Or.inl List.mem_cons_self⟩
  | inr hdone =>
      obtain ⟨outcome, hdone⟩ := hdone
      rw [hdone]
      exact hguarded.remove hothers hguarded.truthful

theorem Guarded.alerted {taskId taskType : String} {error : Thrown}
    {rest : Except Thrown Unit → Execution Unit} (answer : Except Thrown Unit)
    (hguarded : Guarded collation ⟨table, alerts,
      before ++ .worker task run (.call (.onNonRetryableError taskId taskType error) rest) ::
        after⟩) :
    Guarded collation ⟨table, alerts ++ [⟨taskId, table⟩],
      before ++ goesOn task run (rest answer) ++ after⟩ := by
  have hhandling : Handling (attemptOf task.row)
      (.call (.onNonRetryableError taskId taskType error) rest) table :=
    hguarded.sound _ (List.mem_append_right before List.mem_cons_self)
  obtain ⟨rfl, hfailed, hrest⟩ := hhandling
  obtain ⟨outcome, hdone⟩ := hrest answer
  rw [hdone]
  apply hguarded.remove
  · exact fun _ _ _ _ => ⟨id, id⟩
  · intro alert halert
    cases List.mem_append.mp halert with
    | inl hold => exact hguarded.truthful alert hold
    | inr hnew =>
        rw [List.mem_singleton.mp hnew]
        obtain ⟨row, hrow, hattempt, hstate⟩ := hfailed
        exact ⟨row, hrow, congrArg Prod.fst hattempt, hstate⟩

end Worked

/-! ## Steps of an operation -/

section Operated

variable {collation : Collation} {alerts : List Alert} {before continued after : List Actor}
  {operation : Operation} {handed : List (String × Int)} {β : Type}
  {request : DbCall TaskTable β}
  {rest : Except Thrown β → Program (DbCall TaskTable) Thrown QueueAnswer}
  {answer : Except Thrown β}

variable {program : Program (DbCall TaskTable) Thrown QueueAnswer}

theorem handed_append_nodup (hguarded : Guarded collation
      ⟨table, alerts, before ++ .operation operation handed program :: after⟩)
    (hspared : Spared table later) :
    ((handed ++ handedOut table later).map Prod.fst).Nodup := by
  have hdistinct := hguarded.distinct
  rw [List.flatMap_append, List.flatMap_cons] at hdistinct
  rw [List.map_append, List.nodup_append']
  refine ⟨?_, handedOut_nodup table later, ?_⟩
  · exact (List.nodup_append'.mp (List.nodup_append'.mp hdistinct).2.1).1
  · intro id hold hnew
    obtain ⟨held, hheld, rfl⟩ := List.mem_map.mp hold
    obtain ⟨held', hheld', hid⟩ := List.mem_map.mp hnew
    have hstanding : At Standing table held :=
      hguarded.standing _ (List.mem_append_right before List.mem_cons_self) held hheld
    exact hspared.fresh hheld' hstanding.heldAt hid

theorem standing_of_handedOut (hhanded : held ∈ handedOut table later) :
    At Standing later held := by
  obtain ⟨row, hrow, hattempt, hrunning, -⟩ := mem_handedOut.mp hhanded
  exact ⟨row, hrow, hattempt, Or.inl hrunning⟩

theorem Guarded.kept (hguarded : Guarded collation
      ⟨table, alerts, before ++ .operation operation handed program :: after⟩)
    (hkept : Kept table later)
    (hcontinued : Continued collation later (handed ++ handedOut table later) continued) :
    Guarded collation ⟨later, alerts, before ++ continued ++ after⟩ := by
  apply hguarded.replace _ hcontinued _ hguarded.truthful
  · intro other _ held _
    exact ⟨hkept.standing.at, hkept.failed.at⟩
  · intro held hheld
    cases List.mem_append.mp hheld with
    | inl hold =>
        have hstanding : At Standing table held :=
          hguarded.standing _ (List.mem_append_right before List.mem_cons_self) held hold
        exact ⟨hkept.standing.at hstanding, Or.inl hold⟩
    | inr hnew => exact ⟨standing_of_handedOut hnew, Or.inr fun old => hkept.spares.fresh hnew⟩

theorem Continued.of_operation (hcontinues : Continues operation handed program continued)
    (hsound : Actor.Sound collation table (.operation operation handed program))
    (hclaim : ∀ now readings limit taskTypes,
      operation = .claimNextBatch now readings limit taskTypes →
        program.Every KeepingCall (Dispatchable handed)) (hnodup : (handed.map Prod.fst).Nodup) :
    Continued collation table handed continued := by
  cases hcontinues with
  | waits request rest => exact .single hsound hnodup
  | settles outcome => exact .nil collation table handed
  | dispatches now readings limit taskTypes records work hoperation hwork =>
      exact .dispatched (hclaim now readings limit taskTypes hoperation) hwork

variable {now : ClockReading}

theorem Guarded.claimed {readings : Nat → ClockReading} {limit : NumberValue}
    {taskTypes : List String} (hguarded : Guarded collation ⟨table, alerts, before ++
      .operation (.claimNextBatch now readings limit taskTypes) handed (.call request rest) ::
        after⟩) (hanswer : fallible memoryConnection request table answer later)
    (hcontinues : Continues (.claimNextBatch now readings limit taskTypes)
      (handed ++ handedOut table later) (rest answer) continued) :
    Guarded collation ⟨later, alerts, before ++ continued ++ after⟩ := by
  have hstage := hguarded.sound _ (List.mem_append_right before List.mem_cons_self)
  have hanswered : Kept table later ∧
      (rest answer).Every KeepingCall (Dispatchable (handed ++ handedOut table later)) := by
    cases hstage with
    | inl hfirst =>
        obtain ⟨rfl, hprogram⟩ := hfirst
        refine ⟨(claim_calls keeping_queueing hprogram.symm).kept hanswer, ?_⟩
        rw [List.nil_append]
        cases hanswer with
        | inl hanswered => exact claim_answered keeping_queueing.quarantine hprogram.symm hanswered
        | inr hfailed =>
            obtain ⟨⟨error, rfl⟩, rfl⟩ := hfailed
            rw [handedOut_eq_nil fun new hnew _ => hnew]
            exact claim_refused hprogram.symm error
    | inr hevery =>
        refine ⟨hevery.1.kept hanswer, (hevery.2 answer).mono ?_⟩
        intro outcome hdispatchable records hrecords
        obtain ⟨hhanded, hnodup⟩ := hdispatchable records hrecords
        exact ⟨fun record hrecord => List.mem_append_left _ (hhanded record hrecord), hnodup⟩
  obtain ⟨hkept, hevery⟩ := hanswered
  apply hguarded.kept hkept
  exact .of_operation hcontinues (Or.inr hevery) (fun _ _ _ _ _ => hevery)
    (handed_append_nodup hguarded hkept.spares)

theorem Guarded.operated
    (hguarded : Guarded collation
      ⟨table, alerts, before ++ .operation operation handed (.call request rest) :: after⟩)
    (hanswer : fallible memoryConnection request table answer later)
    (hcontinues : Continues operation (handed ++ handedOut table later) (rest answer) continued)
    (hsound : ∀ table handed program,
      Actor.Sound collation table (.operation operation handed program) =
        program.Every KeepingCall fun _ => True)
    (hother : ∀ now readings limit taskTypes,
      operation ≠ .claimNextBatch now readings limit taskTypes) :
    Guarded collation ⟨later, alerts, before ++ continued ++ after⟩ := by
  have hstage : Actor.Sound collation table (.operation operation handed (.call request rest)) :=
    hguarded.sound _ (List.mem_append_right before List.mem_cons_self)
  rw [hsound] at hstage
  have hkept : Kept table later := hstage.1.kept hanswer
  apply hguarded.kept hkept
  apply Continued.of_operation hcontinues
  · rw [hsound]
    exact hstage.2 answer
  · intro now readings limit taskTypes hclaim
    exact absurd hclaim (hother now readings limit taskTypes)
  · exact handed_append_nodup hguarded hkept.spares

/-! ## Steps which take tasks away -/

theorem continued_of_done {outcome : Except Thrown QueueAnswer}
    (hcontinues : Continues operation handed (.done outcome) continued)
    (hother : ∀ now readings limit taskTypes,
      operation ≠ .claimNextBatch now readings limit taskTypes) : continued = [] := by
  cases hcontinues with
  | settles => rfl
  | dispatches now readings limit taskTypes records work hclaim =>
      exact absurd hclaim (hother now readings limit taskTypes)

theorem leaves_update {Row : Type} {sql : String} {params : List JsonValue}
    {columns : List (Column Row)} {condition : TaskRow → Bool} {set : TaskRow → TaskRow}
    {returning : TaskRow → List Row} {answer : Except Thrown Nat} {others : List Actor}
    (hanswer : fallible memoryConnection
      (.execute (updateStatement sql params columns (fun _ => condition) set returning)) table
      answer later)
    (hactive : ∀ row, condition row → row.state ≠ .failed)
    (hspares : ∀ row ∈ table, condition row → row.state = .running →
      ∀ other ∈ others, attemptOf row ∉ other.handed) : Leaves table later others := by
  have hkeeps : ∀ row ∈ table, ¬ condition row → row ∈ later := by
    intro row hrow hcondition
    refine fallible_relates (R := fun now later => row ∈ now → row ∈ later) (fun _ => id) ?_
      hanswer hrow
    refine memory_execute_relates (R := fun now later : TaskTable => row ∈ now → row ∈ later)
      id ?_
    intro result hrun hrow
    rw [Table.mem_def, (update_run_eq_ok hrun).1]
    refine List.mem_map.mpr ⟨row, hrow, ?_⟩
    unfold Table.updateRow
    rw [if_neg hcondition]
  intro other hother held hheld
  constructor
  · intro hat
    obtain ⟨row, hrow, rfl, hstate⟩ := hat
    refine ⟨row, hkeeps row hrow ?_, rfl, hstate⟩
    intro hcondition
    cases hstate with
    | inl hrunning => exact hspares row hrow hcondition hrunning other hother hheld
    | inr hfailed => exact hactive row hcondition hfailed
  · intro hat
    obtain ⟨row, hrow, rfl, hfailed⟩ := hat
    exact ⟨row, hkeeps row hrow fun hcondition => hactive row hcondition hfailed, rfl, hfailed⟩

theorem Guarded.cancelled {taskId reason : String} (hguarded : Guarded collation ⟨table, alerts,
      before ++ .operation (.cancel now taskId reason) handed (.call request rest) :: after⟩)
    (hanswer : fallible memoryConnection request table answer later) (hallowed : TakesAbandoned
      (.operation (.cancel now taskId reason) handed (.call request rest)) table (before ++ after))
    (hcontinues : Continues (.cancel now taskId reason) (handed ++ handedOut table later)
      (rest answer) continued) :
    Guarded collation ⟨later, alerts, before ++ continued ++ after⟩ := by
  have hstage := hguarded.sound _ (List.mem_append_right before List.mem_cons_self)
  cases hstage with
  | inr hdone =>
      obtain ⟨outcome, hdone⟩ := hdone
      cases hdone
  | inl hprogram =>
      unfold Operation.program TaskQueueService.cancel at hprogram
      cases hprogram
      have hothers : Leaves table later (before ++ after) := by
        apply leaves_update hanswer
        · intro row hcondition
          have hactive : row.state.isActive := (Bool.and_eq_true_iff.mp hcondition).2
          intro hfailed
          simp [hfailed, TaskState.isActive] at hactive
        · intro row hrow hcondition hrunning
          have hid : row.id = taskId := of_decide_eq_true (Bool.and_eq_true_iff.mp hcondition).1
          exact hallowed row hrow hid hrunning
      have hnil : continued = [] := by
        cases answer with
        | ok count => exact continued_of_done hcontinues (by simp)
        | error error => exact continued_of_done hcontinues (by simp)
      rw [hnil]
      exact hguarded.remove hothers hguarded.truthful

theorem Guarded.recovered {timeoutMs : Int} (hguarded : Guarded collation ⟨table, alerts,
      before ++ .operation (.recoverHangingTasks now timeoutMs) handed (.call request rest) ::
        after⟩) (hanswer : fallible memoryConnection request table answer later)
    (hallowed : TakesAbandoned
      (.operation (.recoverHangingTasks now timeoutMs) handed (.call request rest)) table
      (before ++ after)) (hcontinues : Continues (.recoverHangingTasks now timeoutMs)
      (handed ++ handedOut table later) (rest answer) continued) :
    Guarded collation ⟨later, alerts, before ++ continued ++ after⟩ := by
  have hstage := hguarded.sound _ (List.mem_append_right before List.mem_cons_self)
  cases hstage with
  | inr hdone =>
      obtain ⟨outcome, hdone⟩ := hdone
      cases hdone
  | inl hprogram =>
      simp only [Operation.program, recoverHangingTasks] at hprogram
      cases hcutoff : toIsoString? (now.millis - timeoutMs) with
      | none =>
          rw [hcutoff] at hprogram
          cases hprogram
      | some cutoff =>
          rw [hcutoff] at hprogram
          cases hprogram
          have hothers : Leaves table later (before ++ after) := by
            apply leaves_update hanswer
            · intro row hhanging hfailed
              simp [isHanging, hfailed] at hhanging
            · intro row hrow hhanging _
              exact hallowed cutoff hcutoff row hrow hhanging
          have hnil : continued = [] := by
            cases answer with
            | ok count => exact continued_of_done hcontinues (by simp)
            | error error => exact continued_of_done hcontinues (by simp)
          rw [hnil]
          exact hguarded.remove hothers hguarded.truthful

end Operated

/-! ## Runs -/

theorem Guarded.of (collation : Collation) (table : TaskTable) :
    Guarded collation (AlertPool.of table) where
  standing _ hactor := absurd hactor List.not_mem_nil
  distinct := List.nodup_nil
  sound _ hactor := absurd hactor List.not_mem_nil
  truthful _ halert := absurd halert List.not_mem_nil

theorem sound_start (collation : Collation) (table : TaskTable) {operation : Operation}
    (hoperation : ¬ IsFinish operation) :
    Actor.Sound collation table (.operation operation [] (operation.program collation)) := by
  cases operation with
  | enqueue id now definition =>
      exact (keeping_queueing.enqueue id now definition).bind fun _ => Program.makes_done _
  | claimNextBatch now readings limit taskTypes => exact Or.inl ⟨rfl, rfl⟩
  | markCompleted now taskId => exact absurd trivial hoperation
  | markFailed now later random taskId error => exact absurd trivial hoperation
  | cancel now taskId reason => exact Or.inl rfl
  | recoverHangingTasks now timeoutMs => exact Or.inl rfl
  | listByState organisationId state limit =>
      exact (keeping_queueing.listByState organisationId state limit).bind
        fun _ => Program.makes_done _
  | findById taskId =>
      exact (keeping_queueing.findById taskId).bind fun _ => Program.makes_done _

theorem Guarded.step {collation : Collation} {pool next : AlertPool}
    (hguarded : Guarded collation pool) (hstep : AlertStep collation TakesAbandoned pool next) :
    Guarded collation next := by
  cases hstep with
  | start operation table alerts actors hoperation =>
      constructor
      · intro actor hactor held hheld
        cases List.mem_cons.mp hactor with
        | inl hnew =>
            rw [hnew] at hheld
            exact absurd hheld List.not_mem_nil
        | inr hold => exact hguarded.standing actor hold held hheld
      · exact hguarded.distinct
      · intro actor hactor
        cases List.mem_cons.mp hactor with
        | inl hnew =>
            rw [hnew]
            exact sound_start collation table hoperation
        | inr hold => exact hguarded.sound actor hold
      · exact hguarded.truthful
  | operate request rest operation handed table later answer alerts before continued after hanswer
      hallowed hcontinues =>
      cases operation with
      | claimNextBatch now readings limit taskTypes => exact hguarded.claimed hanswer hcontinues
      | cancel now taskId reason => exact hguarded.cancelled hanswer hallowed hcontinues
      | recoverHangingTasks now timeoutMs =>
          exact hguarded.recovered hanswer hallowed hcontinues
      | enqueue id now definition =>
          exact hguarded.operated hanswer hcontinues (fun _ _ _ => rfl) (by simp)
      | markCompleted now taskId =>
          exact hguarded.operated hanswer hcontinues (fun _ _ _ => rfl) (by simp)
      | markFailed now later random taskId error =>
          exact hguarded.operated hanswer hcontinues (fun _ _ _ => rfl) (by simp)
      | listByState organisationId state limit =>
          exact hguarded.operated hanswer hcontinues (fun _ _ _ => rfl) (by simp)
      | findById taskId =>
          exact hguarded.operated hanswer hcontinues (fun _ _ _ => rfl) (by simp)
  | work request rest task run table later answer alerts before after hanswer _ =>
      exact hguarded.worked hanswer
  | alert taskId taskType error rest task run table answer alerts before after =>
      exact hguarded.alerted answer
  | crash table alerts actors survivors hsublist =>
      constructor
      · intro actor hactor held hheld
        exact hguarded.standing actor (hsublist.subset hactor) held hheld
      · exact hguarded.distinct.sublist (hsublist.flatMap Actor.ids)
      · intro actor hactor
        exact hguarded.sound actor (hsublist.subset hactor)
      · exact hguarded.truthful

/-- Where no running task is taken away from what was handed its attempt, every alert is about
a task which has failed. -/
theorem alerts_truthful {collation : Collation} {table : TaskTable} {pool : AlertPool}
    (hreaches : AlertReaches collation TakesAbandoned table pool) : Truthful pool := by
  have hguarded : Guarded collation pool := by
    induction hreaches with
    | refl => exact .of collation table
    | tail _ hstep ih => exact ih.step hstep
  exact hguarded.truthful

/-! ## A task which is cancelled while its handler runs -/

def continueAll (run : HandlerRun) (operation : Operation) (handed : List (String × Int))
    (program : Program (DbCall TaskTable) Thrown QueueAnswer) : List Actor :=
  match operation, program with
  | operation, .call request rest => [.operation operation handed (.call request rest)]
  | .claimNextBatch _ _ _ _, .done (.ok (.records records)) =>
      records.map fun record => .worker record run (executeTask record run)
  | _, .done _ => []

theorem continues_continueAll (run : HandlerRun) (operation : Operation)
    (handed : List (String × Int)) (program : Program (DbCall TaskTable) Thrown QueueAnswer) :
    Continues operation handed program (continueAll run operation handed program) := by
  unfold continueAll
  split
  · exact .waits _ _
  · rename_i now readings limit taskTypes records
    have hwork : records.map (fun record => Actor.worker record run (executeTask record run)) =
        (records.map fun record => (record, run)).map
          fun job => .worker job.1 job.2 (executeTask job.1 job.2) := by
      rw [List.map_map]
      rfl
    rw [hwork]
    apply Continues.dispatches now readings limit taskTypes records _ rfl
    have hrecords : (records.map fun record => (record, run)).map Prod.fst = records := by
      rw [List.map_map]
      exact List.map_id records
    rw [hrecords]
  · exact .settles _

def AlertPool.move (collation : Collation) (run : HandlerRun) (pool : AlertPool) :
    Move → AlertPool
  | .start operation =>
      { pool with
        actors := .operation operation [] (operation.program collation) :: pool.actors }
  | .answer index =>
      match pool.actors.drop index with
      | .operation operation handed (.call request rest) :: after =>
          let (answer, later) := memoryConnection request pool.table
          { table := later
            alerts := pool.alerts
            actors := pool.actors.take index ++
              continueAll run operation (handed ++ handedOut pool.table later) (rest answer) ++
              after }
      | .worker task run (.call (.database request) rest) :: after =>
          let (answer, later) := memoryConnection request pool.table
          { table := later
            alerts := pool.alerts
            actors := pool.actors.take index ++ goesOn task run (rest answer) ++ after }
      | .worker task run (.call (.onNonRetryableError taskId _ _) rest) :: after =>
          { table := pool.table
            alerts := pool.alerts ++ [⟨taskId, pool.table⟩]
            actors := pool.actors.take index ++ goesOn task run (rest (.ok ())) ++ after }
      | _ => pool

def Actor.Admitted (Admitted : Operation → Prop) : Actor → Prop
  | .operation started _ _ => Admitted started
  | .worker _ _ _ => True

section Moves

variable {collation : Collation} {run : HandlerRun} {Admitted : Operation → Prop}

theorem admitted_continueAll {operation : Operation} {handed : List (String × Int)}
    {program : Program (DbCall TaskTable) Thrown QueueAnswer} (hadmitted : Admitted operation) :
    ∀ actor ∈ continueAll run operation handed program, actor.Admitted Admitted := by
  intro actor hactor
  unfold continueAll at hactor
  split at hactor
  · rw [List.mem_singleton.mp hactor]
    exact hadmitted
  · obtain ⟨record, -, rfl⟩ := List.mem_map.mp hactor
    trivial
  · exact absurd hactor List.not_mem_nil

theorem admitted_goesOn {task : TaskRecord} {program : Execution Unit} :
    ∀ actor ∈ goesOn task run program, actor.Admitted Admitted := by
  intro actor hactor
  cases program with
  | done outcome => exact absurd hactor List.not_mem_nil
  | call request rest =>
      rw [List.mem_singleton.mp hactor]
      trivial

theorem admitted_replace {actors before continued after : List Actor} {actor : Actor}
    (hactors : ∀ other ∈ actors, other.Admitted Admitted)
    (hsplit : actors = before ++ actor :: after)
    (hcontinued : ∀ other ∈ continued, other.Admitted Admitted) :
    ∀ other ∈ before ++ continued ++ after, other.Admitted Admitted := by
  intro other hother
  simp only [List.mem_append] at hother
  rcases hother with (hbefore | hnew) | hafter
  · apply hactors
    rw [hsplit]
    exact List.mem_append_left _ hbefore
  · exact hcontinued other hnew
  · apply hactors
    rw [hsplit]
    exact List.mem_append_right _ (List.mem_cons_of_mem _ hafter)

theorem move_reaches (run : HandlerRun) {table : TaskTable}
    {Allowed : Actor → TaskTable → List Actor → Prop}
    (hallowed : ∀ actor table others, actor.Admitted Admitted → Allowed actor table others)
    {move : Move} {pool : AlertPool} (hreaches : AlertReaches collation Allowed table pool)
    (hactors : ∀ actor ∈ pool.actors, actor.Admitted Admitted)
    (hmove : ∀ operation, move = .start operation → ¬ IsFinish operation ∧ Admitted operation) :
    AlertReaches collation Allowed table (pool.move collation run move) ∧
      ∀ actor ∈ (pool.move collation run move).actors, actor.Admitted Admitted := by
  obtain ⟨now, alerts, actors⟩ := pool
  cases move with
  | start operation =>
      obtain ⟨hopen, hadmitted⟩ := hmove operation rfl
      refine ⟨hreaches.tail (.start operation now alerts actors hopen), ?_⟩
      intro actor hactor
      cases List.mem_cons.mp hactor with
      | inl hnew =>
          rw [hnew]
          exact hadmitted
      | inr hold => exact hactors actor hold
  | answer index =>
      have hsplit : actors = actors.take index ++ actors.drop index :=
        (List.take_append_drop index actors).symm
      unfold AlertPool.move
      dsimp only at hactors ⊢
      generalize actors.take index = before at hsplit ⊢
      split
      · rename_i operation handed β request rest after hdrop
        rw [hdrop] at hsplit
        have hadmitted : Admitted operation := by
          apply hactors (.operation operation handed (.call request rest))
          rw [hsplit]
          exact List.mem_append_right _ List.mem_cons_self
        constructor
        · rw [hsplit] at hreaches
          exact hreaches.tail (.operate request rest operation handed now _ _ alerts before _ after
            (Or.inl rfl) (hallowed _ _ _ hadmitted) (continues_continueAll run operation _ _))
        · exact admitted_replace hactors hsplit (admitted_continueAll hadmitted)
      · rename_i task run' β request rest after hdrop
        rw [hdrop] at hsplit
        constructor
        · rw [hsplit] at hreaches
          exact hreaches.tail (.work request rest task run' now _ _ alerts before after
            (Or.inl rfl) (hallowed _ _ _ trivial))
        · exact admitted_replace hactors hsplit admitted_goesOn
      · rename_i task run' taskId taskType error rest after hdrop
        rw [hdrop] at hsplit
        constructor
        · rw [hsplit] at hreaches
          exact hreaches.tail (.alert taskId taskType error rest task run' now (.ok ()) alerts
            before after)
        · exact admitted_replace hactors hsplit admitted_goesOn
      · exact ⟨hreaches, hactors⟩

theorem AlertReaches.moves {table : TaskTable}
    {Allowed : Actor → TaskTable → List Actor → Prop}
    (hallowed : ∀ actor table others, actor.Admitted Admitted → Allowed actor table others)
    (moves : List Move) {pool : AlertPool}
    (hreaches : AlertReaches collation Allowed table pool)
    (hactors : ∀ actor ∈ pool.actors, actor.Admitted Admitted)
    (hmoves : ∀ operation, .start operation ∈ moves →
      ¬ IsFinish operation ∧ Admitted operation) :
    AlertReaches collation Allowed table
      (moves.foldl (AlertPool.move collation run) pool) := by
  induction moves generalizing pool with
  | nil => exact hreaches
  | cons move moves ih =>
      have hmoved := move_reaches run hallowed hreaches hactors
        fun operation hmove => hmoves operation (hmove ▸ List.mem_cons_self)
      apply ih hmoved.1 hmoved.2
      exact fun operation hoperation => hmoves operation (List.mem_cons_of_mem _ hoperation)

end Moves

def refusedRun : HandlerRun where
  registered := true
  outcome := .error (validationError "Unknown export" "The export is unknown." "c")
  aborted := false
  completedAt := readingAfter 90
  failedAt := readingAfter 90
  rescheduledFrom := readingAfter 90
  cancelledAt := readingAfter 90
  random := 0

def alertsOf (moves : List Move) : List (String × List TaskState) :=
  (moves.foldl (AlertPool.move .codePoint refusedRun) (AlertPool.of waitingTasks)).alerts.map
    fun alert => (alert.taskId, alert.table.rows.map TaskRow.state)

def refusedTask : List Move :=
  [.start (claimAt 0), .answer 0, .answer 0, .answer 0, .answer 0]

def cancelledTask : List Move :=
  [.start (claimAt 0), .answer 0, .start (.cancel (readingAfter 60) "t" "Not needed."),
    .answer 0, .answer 0, .answer 0]

theorem alertsOf_refusedTask : alertsOf refusedTask = [("t", [.failed])] := by
  decide

theorem alertsOf_cancelledTask : alertsOf cancelledTask = [("t", [.cancelled])] := by
  decide

/-- A worker alerts about a task which was cancelled. -/
theorem cancelled_alert :
    ¬ ∀ (table : TaskTable) (pool : AlertPool),
      AlertReaches .codePoint (fun _ _ _ => True) table pool → Truthful pool := by
  intro htruthful
  have hmoves : ∀ operation, .start operation ∈ cancelledTask →
      ¬ IsFinish operation ∧ True := by
    intro operation hoperation
    simp only [cancelledTask, List.mem_cons, Move.start.injEq, reduceCtorEq, false_or,
      List.not_mem_nil, or_false] at hoperation
    rcases hoperation with rfl | rfl
    · exact ⟨id, trivial⟩
    · exact ⟨id, trivial⟩
  have hreaches : AlertReaches .codePoint (fun _ _ _ => True) waitingTasks
      (cancelledTask.foldl (AlertPool.move .codePoint refusedRun) (AlertPool.of waitingTasks)) :=
    AlertReaches.moves (fun _ _ _ _ => trivial) cancelledTask Relation.ReflTransGen.refl
      (fun _ hactor => absurd hactor List.not_mem_nil) hmoves
  have halert : ("t", [TaskState.cancelled]) ∈ alertsOf cancelledTask := by
    rw [alertsOf_cancelledTask]
    exact List.mem_cons_self
  obtain ⟨alert, halert, hsays⟩ := List.mem_map.mp halert
  obtain ⟨row, hrow, -, hfailed⟩ := htruthful waitingTasks _ hreaches alert halert
  have hstate : row.state ∈ alert.table.rows.map TaskRow.state := List.mem_map_of_mem hrow
  have hstates : alert.table.rows.map TaskRow.state = [.cancelled] := congrArg Prod.snd hsays
  rw [hstates, List.mem_singleton, hfailed] at hstate
  cases hstate

theorem refused_alert :
    Truthful (refusedTask.foldl (AlertPool.move .codePoint refusedRun)
        (AlertPool.of waitingTasks)) ∧
      alertsOf refusedTask = [("t", [.failed])] := by
  have hallowed : ∀ (actor : Actor) (table : TaskTable) (others : List Actor),
      actor.Admitted (fun operation => operation = claimAt 0) →
        TakesAbandoned actor table others := by
    intro actor table others hadmitted
    unfold TakesAbandoned
    split
    · cases hadmitted
    · cases hadmitted
    · trivial
  have hmoves : ∀ operation, .start operation ∈ refusedTask →
      ¬ IsFinish operation ∧ operation = claimAt 0 := by
    intro operation hoperation
    simp only [refusedTask, List.mem_cons, Move.start.injEq, reduceCtorEq, List.not_mem_nil,
      or_false] at hoperation
    rw [hoperation]
    exact ⟨id, rfl⟩
  have hreaches : AlertReaches .codePoint TakesAbandoned waitingTasks
      (refusedTask.foldl (AlertPool.move .codePoint refusedRun) (AlertPool.of waitingTasks)) :=
    AlertReaches.moves hallowed refusedTask Relation.ReflTransGen.refl
      (fun _ hactor => absurd hactor List.not_mem_nil) hmoves
  exact ⟨alerts_truthful hreaches, alertsOf_refusedTask⟩

end TauriPlatform.TaskAlerts
