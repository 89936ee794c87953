import TauriPlatform.TaskHolding
import TauriPlatform.TaskQueueBound

/-!
# Stale attempts

Where recovery spares what is in flight, every job holds what it was handed, so no worker
meets a later attempt of its task.  Otherwise a worker may outlive its attempt.
-/

namespace TauriPlatform
namespace TaskWorker

open Async Relational TaskQueueService

variable {table later : TaskTable} {held : String × Int}

/-! ## Steps -/

def Actor.ids (actor : Actor) : List String :=
  actor.handed.map Prod.fst

/-- Everything in flight holds what it was handed, and no task is held twice. -/
structure Guarded (collation : Collation) (pool : Pool) : Prop where
  held : ∀ actor ∈ pool.actors, ∀ held ∈ actor.handed, HeldAt pool.table held
  distinct : (pool.actors.flatMap Actor.ids).Nodup
  sound : ∀ actor ∈ pool.actors, actor.Sound collation
  fenced : Fenced pool

structure Continued (collation : Collation) (handed : List (String × Int))
    (continued : List Actor) : Prop where
  sound : ∀ actor ∈ continued, actor.Sound collation
  handed : ∀ actor ∈ continued, ∀ held ∈ actor.handed, held ∈ handed
  distinct : (continued.flatMap Actor.ids).Nodup

theorem Continued.nil (collation : Collation) (handed : List (String × Int)) :
    Continued collation handed [] where
  sound _ hactor := absurd hactor List.not_mem_nil
  handed _ hactor := absurd hactor List.not_mem_nil
  distinct := List.nodup_nil

theorem Continued.single {collation : Collation} {actor : Actor}
    (hsound : actor.Sound collation) (hdistinct : actor.ids.Nodup) :
    Continued collation actor.handed [actor] where
  sound other hother := by rwa [List.mem_singleton.mp hother]
  handed other hother held hheld := by rwa [List.mem_singleton.mp hother] at hheld
  distinct := by simpa using hdistinct

theorem Continued.dispatched {collation : Collation} {handed : List (String × Int)}
    {records : List TaskRecord} {work : List (TaskRecord × HandlerRun)}
    (hdispatchable : Dispatchable handed (.ok (.records records)))
    (hwork : (work.map Prod.fst).Sublist records) :
    Continued collation handed (work.map (Actor.ofTask collation)) := by
  obtain ⟨hhanded, hnodup⟩ := hdispatchable records rfl
  constructor
  · intro actor hactor
    obtain ⟨task, -, rfl⟩ := List.mem_map.mp hactor
    exact ⟨rfl, finishing_worker collation task.1 task.2⟩
  · intro actor hactor held hheld
    obtain ⟨task, htask, rfl⟩ := List.mem_map.mp hactor
    rw [List.mem_singleton.mp hheld]
    exact hhanded task.1 (hwork.subset (List.mem_map_of_mem htask))
  · have hids : (work.map (Actor.ofTask collation)).flatMap Actor.ids =
        (work.map Prod.fst).map fun record => record.row.id := by
      rw [List.flatMap_map, List.map_map]
      exact List.map_eq_flatMap.symm
    rw [hids]
    exact hnodup.sublist (hwork.map _)

theorem nodup_replace {α : Type} {front old back new : List α}
    (hold : (front ++ old ++ back).Nodup) (hnew : new.Nodup)
    (hsub : ∀ x ∈ new, x ∈ old ∨ x ∉ front ++ back) : (front ++ new ++ back).Nodup := by
  rw [List.nodup_append', List.nodup_append'] at hold ⊢
  obtain ⟨⟨hfront, -, hfrontOld⟩, hback, hdisjoint⟩ := hold
  refine ⟨⟨hfront, hnew, ?_⟩, hback, ?_⟩
  · intro x hx hxnew
    cases hsub x hxnew with
    | inl hxold => exact hfrontOld hx hxold
    | inr hfresh => exact hfresh (List.mem_append_left _ hx)
  · intro x hx hxback
    cases List.mem_append.mp hx with
    | inl hxfront => exact hdisjoint (List.mem_append_left _ hxfront) hxback
    | inr hxnew =>
        cases hsub x hxnew with
        | inl hxold => exact hdisjoint (List.mem_append_right _ hxold) hxback
        | inr hfresh => exact hfresh (List.mem_append_right _ hxback)

theorem nodup_flatMap_replace {A : Type*} {ids : A → List String} {before after continued : List A}
    {actor : A} (hdistinct : ((before ++ actor :: after).flatMap ids).Nodup)
    (hcontinued : (continued.flatMap ids).Nodup)
    (hids : ∀ id ∈ continued.flatMap ids, id ∈ ids actor ∨
      ∀ other ∈ before ++ after, id ∉ ids other) :
    ((before ++ continued ++ after).flatMap ids).Nodup := by
  simp only [List.flatMap_append, List.flatMap_cons, ← List.append_assoc] at hdistinct ⊢
  apply nodup_replace hdistinct hcontinued
  intro id hid
  cases hids id hid with
  | inl hold => exact Or.inl hold
  | inr hfresh =>
      apply Or.inr
      rw [← List.flatMap_append, List.mem_flatMap]
      rintro ⟨other, hother, hid⟩
      exact hfresh other hother hid

section Replace

variable {collation : Collation} {writes added : List FinishWrite}
  {before continued after : List Actor} {actor : Actor} {handed : List (String × Int)}

theorem mem_ids {id : String} {actors : List Actor} :
    id ∈ actors.flatMap Actor.ids ↔
      ∃ actor ∈ actors, ∃ held ∈ actor.handed, held.1 = id := by
  simp only [List.mem_flatMap, Actor.ids, List.mem_map]

theorem Guarded.replace
    (hguarded : Guarded collation ⟨table, writes, before ++ actor :: after⟩)
    (hothers : ∀ other ∈ before ++ after, ∀ held ∈ other.handed, HeldAt table held →
      HeldAt later held)
    (hcontinued : Continued collation handed continued)
    (hhanded : ∀ held ∈ handed, HeldAt later held ∧
      (held ∈ actor.handed ∨ ∀ old, HeldAt table old → held.1 ≠ old.1))
    (hadded : ∀ write ∈ added, write.found = write.handed) :
    Guarded collation ⟨later, writes ++ added, before ++ continued ++ after⟩ := by
  have hmem : ∀ other ∈ before ++ after, other ∈ before ++ actor :: after := by
    intro other hother
    simp only [List.mem_append, List.mem_cons] at hother ⊢
    tauto
  have hsplit : ∀ other ∈ before ++ continued ++ after,
      other ∈ before ++ after ∨ other ∈ continued := by
    intro other hother
    simp only [List.mem_append] at hother ⊢
    tauto
  constructor
  · intro other hother held hheld
    cases hsplit other hother with
    | inl hold => exact hothers other hold held hheld (hguarded.held other (hmem other hold) held hheld)
    | inr hnew => exact (hhanded held (hcontinued.handed other hnew held hheld)).1
  · apply nodup_flatMap_replace hguarded.distinct hcontinued.distinct
    intro id hid
    obtain ⟨new, hnew, held, hheld, rfl⟩ := mem_ids.mp hid
    cases (hhanded held (hcontinued.handed new hnew held hheld)).2 with
    | inl hold => exact Or.inl (List.mem_map_of_mem hold)
    | inr hfresh =>
        apply Or.inr
        intro other hother hid
        obtain ⟨held', hheld', hsame⟩ := List.mem_map.mp hid
        exact hfresh held' (hguarded.held other (hmem other hother) held' hheld') hsame.symm
  · intro other hother
    cases hsplit other hother with
    | inl hold => exact hguarded.sound other (hmem other hold)
    | inr hnew => exact hcontinued.sound other hnew
  · intro write hwrite
    cases List.mem_append.mp hwrite with
    | inl hold => exact hguarded.fenced write hold
    | inr hnew => exact hadded write hnew

end Replace

section Advance

variable {collation : Collation} {writes : List FinishWrite} {before continued after : List Actor}
  {β : Type} {request : DbCall TaskTable β}
  {rest : Except Thrown β → Program (DbCall TaskTable) Thrown QueueAnswer}
  {answer : Except Thrown β} {handed : List (String × Int)}

variable {program : Program (DbCall TaskTable) Thrown QueueAnswer}

theorem handed_nodup {job : Job}
    (hguarded : Guarded collation ⟨table, writes, before ++ ⟨job, handed, program⟩ :: after⟩) :
    (handed.map Prod.fst).Nodup := by
  have hdistinct := hguarded.distinct
  simp only [List.flatMap_append, List.flatMap_cons] at hdistinct
  exact (List.nodup_append'.mp (List.nodup_append'.mp hdistinct).2.1).1

variable {operation : Operation}

theorem Guarded.spared (hguarded : Guarded collation
      ⟨table, writes, before ++ ⟨.operation operation, handed, .call request rest⟩ :: after⟩)
    (hspared : Spared table later)
    (hcontinued : Continued collation (handed ++ handedOut table later) continued) :
    Guarded collation ⟨later, writes ++ [], before ++ continued ++ after⟩ := by
  have hactor : (⟨.operation operation, handed, .call request rest⟩ : Actor) ∈
      before ++ ⟨.operation operation, handed, .call request rest⟩ :: after :=
    List.mem_append_right _ List.mem_cons_self
  apply hguarded.replace
  · intro other _ held _ hheld
    exact hspared.heldAt hheld
  · exact hcontinued
  · intro held hheld
    cases List.mem_append.mp hheld with
    | inl hold => exact ⟨hspared.heldAt (hguarded.held _ hactor held hold), Or.inl hold⟩
    | inr hnew => exact ⟨heldAt_of_handedOut hnew, Or.inr fun old => hspared.fresh hnew⟩
  · intro write hwrite
    exact absurd hwrite List.not_mem_nil

theorem handed_append_nodup {job : Job}
    (hguarded : Guarded collation ⟨table, writes, before ++ ⟨job, handed, program⟩ :: after⟩)
    (hspared : Spared table later) :
    ((handed ++ handedOut table later).map Prod.fst).Nodup := by
  rw [List.map_append, List.nodup_append']
  refine ⟨handed_nodup hguarded, handedOut_nodup table later, ?_⟩
  intro id hold hnew
  obtain ⟨held, hheld, rfl⟩ := List.mem_map.mp hold
  obtain ⟨held', hheld', hid⟩ := List.mem_map.mp hnew
  have hactor : (⟨job, handed, program⟩ : Actor) ∈
      before ++ ⟨job, handed, program⟩ :: after :=
    List.mem_append_right _ List.mem_cons_self
  exact hspared.fresh hheld' (hguarded.held _ hactor held hheld) hid

theorem continued_of_done {job : Job} {outcome : Except Thrown QueueAnswer}
    (hcontinues : Continues collation job handed (.done outcome) continued)
    (hjob : ∀ now readings limit taskTypes,
      job ≠ .operation (.claimNextBatch now readings limit taskTypes)) :
    continued = [] := by
  cases hcontinues with
  | settles => rfl
  | dispatches now readings limit taskTypes records work hclaim =>
      exact absurd hclaim (hjob now readings limit taskTypes)

theorem Guarded.recovered {now : ClockReading} {timeoutMs : Int}
    (hguarded : Guarded collation
      ⟨table, writes, before ++
        ⟨.operation (.recoverHangingTasks now timeoutMs), handed, .call request rest⟩ :: after⟩)
    (hanswer : memoryConnection request table = (answer, later))
    (hallowed : RecoversAbandoned (.operation (.recoverHangingTasks now timeoutMs)) table
      (before ++ after))
    (hcontinues : Continues collation (.operation (.recoverHangingTasks now timeoutMs))
      (handed ++ handedOut table later) (rest answer) continued) :
    Guarded collation ⟨later, writes ++ [], before ++ continued ++ after⟩ := by
  obtain ⟨-, hprogram⟩ := hguarded.sound
    ⟨.operation (.recoverHangingTasks now timeoutMs), handed, .call request rest⟩
    (List.mem_append_right _ List.mem_cons_self)
  cases hprogram with
  | inr hdone =>
      obtain ⟨outcome, hdone⟩ := hdone
      cases hdone
  | inl hprogram =>
      simp only [Operation.program, recoverHangingTasks] at hprogram
      cases hcutoff : toIsoString? (now.millis - timeoutMs) with
      | none =>
          rw [hcutoff] at hprogram
          cases hprogram
      | some cutoff =>
          rw [hcutoff] at hprogram
          cases hprogram
          obtain ⟨result, hrun, hrows⟩ := recoverStatement_run now.iso cutoff table
          simp only [memoryConnection, hrun] at hanswer
          cases hanswer
          have hnil : continued = [] := continued_of_done hcontinues (by simp)
          subst hnil
          apply hguarded.replace _ (Continued.nil collation [])
          · intro held hheld
            exact absurd hheld List.not_mem_nil
          · intro write hwrite
            exact absurd hwrite List.not_mem_nil
          · intro other hother held hheld hrow
            obtain ⟨row, hmem, rfl, hwaits⟩ := hrow
            refine ⟨row, ?_, rfl, hwaits⟩
            rw [Table.mem_def, hrows]
            refine List.mem_map.mpr ⟨row, hmem, ?_⟩
            unfold Table.updateRow
            rw [if_neg]
            intro hhanging
            exact hallowed cutoff hcutoff row hmem hhanging other hother hheld

theorem attempt_of_heldAt {task row : TaskRow} (hheld : HeldAt table (attemptOf task))
    (hrow : row ∈ table) (hid : row.id = task.id) : row.attemptCount = task.attemptCount := by
  obtain ⟨other, hother, hattempt, -⟩ := hheld
  have hsame : other = row :=
    eq_of_id_eq hother hrow ((congrArg Prod.fst hattempt).trans hid.symm)
  rw [← hsame]
  exact congrArg Prod.snd hattempt

theorem Guarded.worked {task : TaskRecord} {run : HandlerRun}
    (hguarded : Guarded collation
      ⟨table, writes, before ++ ⟨.worker task run, handed, .call request rest⟩ :: after⟩)
    (hanswer : memoryConnection request table = (answer, later))
    (hcontinues : Continues collation (.worker task run) (handed ++ handedOut table later)
      (rest answer) continued) :
    Guarded collation
      ⟨later, writes ++ finishWrites (.worker task run) table later,
        before ++ continued ++ after⟩ := by
  have hactor : (⟨.worker task run, handed, .call request rest⟩ : Actor) ∈
      before ++ ⟨.worker task run, handed, .call request rest⟩ :: after :=
    List.mem_append_right _ List.mem_cons_self
  obtain ⟨hhanded, hfinishing⟩ := hguarded.sound _ hactor
  dsimp only at hhanded
  subst hhanded
  have hown : HeldAt table (attemptOf task.row) :=
    hguarded.held _ hactor _ (List.mem_singleton_self _)
  obtain ⟨htouches, hrest, hkept⟩ := hfinishing table hown
  rw [hanswer] at htouches hrest hkept
  rw [handedOut_eq_nil htouches.running, List.append_nil] at hcontinues
  have hcontinued : Continued collation [attemptOf task.row] continued ∧
      (continued ≠ [] → HeldAt later (attemptOf task.row)) := by
    cases hcontinues' : rest answer with
    | done outcome =>
        rw [hcontinues'] at hcontinues
        rw [continued_of_done hcontinues (by simp)]
        exact ⟨.nil _ _, fun hne => absurd rfl hne⟩
    | call request' rest' =>
        rw [hcontinues'] at hcontinues hrest hkept
        cases hcontinues with
        | waits =>
            have hsound : Actor.Sound collation
                ⟨.worker task run, [attemptOf task.row], .call request' rest'⟩ := ⟨rfl, hrest⟩
            constructor
            · exact Continued.single hsound (List.nodup_singleton _)
            · intro _
              cases hkept with
              | inl hheld => exact hheld
              | inr hdone =>
                  obtain ⟨outcome, hdone⟩ := hdone
                  cases hdone
  have hadded : ∀ write ∈ finishWrites (.worker task run) table later,
      write.found = write.handed := by
    intro write hwrite
    unfold finishWrites at hwrite
    dsimp only at hwrite
    split_ifs at hwrite
    · obtain ⟨row, hrow, rfl⟩ := List.mem_map.mp hwrite
      obtain ⟨hmem, hcondition⟩ := List.mem_filter.mp hrow
      have hid : row.id = task.row.id := by
        simpa using (Bool.and_eq_true_iff.mp hcondition).1
      exact attempt_of_heldAt hown hmem hid
    · exact absurd hwrite List.not_mem_nil
  have hothers : ∀ other ∈ before ++ after, ∀ held ∈ other.handed, HeldAt table held →
      HeldAt later held := by
    intro other hother held hheld hrow
    obtain ⟨row, hmem, rfl, hwaits⟩ := hrow
    refine ⟨row, ?_, rfl, hwaits⟩
    apply htouches.others row hmem
    -- the task of the worker is handed to no other
    intro hid
    have hdistinct := hguarded.distinct
    rw [List.flatMap_append, List.flatMap_cons] at hdistinct
    have hids : (⟨.worker task run, [attemptOf task.row], .call request rest⟩ : Actor).ids =
        [task.row.id] := rfl
    rw [hids, List.singleton_append, List.nodup_middle, List.nodup_cons] at hdistinct
    apply hdistinct.1
    rw [← List.flatMap_append, mem_ids]
    exact ⟨other, hother, attemptOf row, hheld, hid⟩
  by_cases hnil : continued = []
  · rw [hnil]
    exact hguarded.replace hothers (.nil collation [])
      (fun held hheld => absurd hheld List.not_mem_nil) hadded
  · apply hguarded.replace hothers hcontinued.1 _ hadded
    intro held hheld
    rw [List.mem_singleton.mp hheld]
    exact ⟨hcontinued.2 hnil, Or.inl (List.mem_singleton_self _)⟩

theorem Continued.of_operation
    (hcontinues : Continues collation (.operation operation) handed program continued)
    (hsound : Actor.Sound collation ⟨.operation operation, handed, program⟩)
    (hclaim : ∀ now readings limit taskTypes,
      operation = .claimNextBatch now readings limit taskTypes →
        program.Every SparingCall (Dispatchable handed)) (hnodup : (handed.map Prod.fst).Nodup) :
    Continued collation handed continued := by
  cases hcontinues with
  | waits request rest => exact Continued.single hsound hnodup
  | settles outcome => exact .nil collation handed
  | dispatches now readings limit taskTypes records work hjob hwork =>
      cases hjob
      exact Continued.dispatched (hclaim now readings limit taskTypes rfl) hwork

theorem Guarded.claimed {now : ClockReading} {readings : Nat → ClockReading}
    {limit : NumberValue} {taskTypes : List String}
    (hguarded : Guarded collation
      ⟨table, writes, before ++ ⟨.operation (.claimNextBatch now readings limit taskTypes),
        handed, .call request rest⟩ :: after⟩)
    (hanswer : memoryConnection request table = (answer, later))
    (hcontinues : Continues collation (.operation (.claimNextBatch now readings limit taskTypes))
      (handed ++ handedOut table later) (rest answer) continued) :
    Guarded collation ⟨later, writes ++ [], before ++ continued ++ after⟩ := by
  have hstage := hguarded.sound _ (List.mem_append_right before List.mem_cons_self)
  have hanswered : Spared table later ∧
      (rest answer).Every SparingCall (Dispatchable (handed ++ handedOut table later)) := by
    cases hstage with
    | inl hfirst =>
        obtain ⟨hnil, hprogram⟩ := hfirst
        dsimp only at hnil hprogram
        rw [hnil, List.nil_append]
        exact sound_claim hprogram.symm hanswer
    | inr hevery =>
        have hspared := hevery.1 table
        rw [hanswer] at hspared
        refine ⟨hspared, (hevery.2 answer).mono ?_⟩
        intro outcome hdispatchable records hrecords
        obtain ⟨hhanded, hnodup⟩ := hdispatchable records hrecords
        exact ⟨fun record hrecord => List.mem_append_left _ (hhanded record hrecord), hnodup⟩
  obtain ⟨hspared, hevery⟩ := hanswered
  apply hguarded.spared hspared
  exact Continued.of_operation hcontinues (Or.inr hevery) (fun _ _ _ _ _ => hevery)
    (handed_append_nodup hguarded hspared)

theorem Guarded.operated (hguarded : Guarded collation
      ⟨table, writes, before ++ ⟨.operation operation, handed, .call request rest⟩ :: after⟩)
    (hanswer : memoryConnection request table = (answer, later))
    (hcontinues : Continues collation (.operation operation) (handed ++ handedOut table later)
      (rest answer) continued)
    (hsound : ∀ handed program, Actor.Sound collation ⟨.operation operation, handed, program⟩ =
      program.Every SparingCall fun _ => True) (hother : ∀ now readings limit taskTypes,
      operation ≠ .claimNextBatch now readings limit taskTypes) :
    Guarded collation ⟨later, writes ++ [], before ++ continued ++ after⟩ := by
  have hstage := hguarded.sound _ (List.mem_append_right before List.mem_cons_self)
  rw [hsound] at hstage
  have hspared := hstage.1 table
  rw [hanswer] at hspared
  apply hguarded.spared hspared
  apply Continued.of_operation hcontinues
  · rw [hsound]
    exact hstage.2 answer
  · intro now readings limit taskTypes hclaim
    exact absurd hclaim (hother now readings limit taskTypes)
  · exact handed_append_nodup hguarded hspared

end Advance

theorem Guarded.of (collation : Collation) (table : TaskTable) :
    Guarded collation (Pool.of table) where
  held _ hactor := absurd hactor List.not_mem_nil
  distinct := List.nodup_nil
  sound _ hactor := absurd hactor List.not_mem_nil
  fenced _ hwrite := absurd hwrite List.not_mem_nil

theorem Guarded.step {collation : Collation} {pool next : Pool}
    (hguarded : Guarded collation pool)
    (hstep : PoolStep collation RecoversAbandoned pool next) : Guarded collation next := by
  cases hstep with
  | start operation table writes actors hoperation =>
      constructor
      · intro actor hactor held hheld
        cases List.mem_cons.mp hactor with
        | inl hnew =>
            rw [hnew] at hheld
            exact absurd hheld List.not_mem_nil
        | inr hold => exact hguarded.held actor hold held hheld
      · exact hguarded.distinct
      · intro actor hactor
        cases List.mem_cons.mp hactor with
        | inl hnew =>
            rw [hnew]
            exact sound_start collation hoperation
        | inr hold => exact hguarded.sound actor hold
      · exact hguarded.fenced
  | advance request rest job handed table later answer writes before continued after hanswer
      hallowed hcontinues =>
      cases job with
      | worker task run => exact hguarded.worked hanswer hcontinues
      | operation operation =>
          cases operation with
          | claimNextBatch now readings limit taskTypes =>
              exact hguarded.claimed hanswer hcontinues
          | recoverHangingTasks now timeoutMs =>
              exact hguarded.recovered hanswer hallowed hcontinues
          | enqueue id now definition =>
              exact hguarded.operated hanswer hcontinues (fun _ _ => rfl) (by simp)
          | markCompleted now taskId =>
              exact hguarded.operated hanswer hcontinues (fun _ _ => rfl) (by simp)
          | markFailed now later random taskId error =>
              exact hguarded.operated hanswer hcontinues (fun _ _ => rfl) (by simp)
          | cancel now taskId reason =>
              exact hguarded.operated hanswer hcontinues (fun _ _ => rfl) (by simp)
          | listByState organisationId state limit =>
              exact hguarded.operated hanswer hcontinues (fun _ _ => rfl) (by simp)
          | findById taskId =>
              exact hguarded.operated hanswer hcontinues (fun _ _ => rfl) (by simp)
  | crash table writes actors survivors hsublist =>
      constructor
      · intro actor hactor held hheld
        exact hguarded.held actor (hsublist.subset hactor) held hheld
      · exact hguarded.distinct.sublist (hsublist.flatMap Actor.ids)
      · intro actor hactor
        exact hguarded.sound actor (hsublist.subset hactor)
      · exact hguarded.fenced

/-- Where recovery only resets what nothing in flight was handed, a worker never changes a
row that was claimed again. -/
theorem stale_attempts_fenced {collation : Collation} {table : TaskTable} {pool : Pool}
    (hreaches : PoolReaches collation RecoversAbandoned table pool) : Fenced pool := by
  have hguarded : Guarded collation pool := by
    induction hreaches with
    | refl => exact .of collation table
    | tail _ hstep ih => exact ih.step hstep
  exact hguarded.fenced

/-! ## A worker which outlives its attempt -/

/-- A scheduled step: an operation begins, or the call of a job is answered. -/
inductive Move where
  | start (operation : Operation)
  | answer (index : Nat)

def continueAll (collation : Collation) (run : HandlerRun) (job : Job)
    (handed : List (String × Int)) (program : Program (DbCall TaskTable) Thrown QueueAnswer) :
    List Actor :=
  match job, program with
  | job, .call request rest => [⟨job, handed, .call request rest⟩]
  | .operation (.claimNextBatch _ _ _ _), .done (.ok (.records records)) =>
      records.map fun record => Actor.ofTask collation (record, run)
  | _, .done _ => []

theorem continues_continueAll (collation : Collation) (run : HandlerRun) (job : Job)
    (handed : List (String × Int)) (program : Program (DbCall TaskTable) Thrown QueueAnswer) :
    Continues collation job handed program (continueAll collation run job handed program) := by
  unfold continueAll
  split
  · exact .waits _ _
  · rename_i now readings limit taskTypes records
    have hwork : records.map (fun record => Actor.ofTask collation (record, run)) =
        (records.map fun record => (record, run)).map (Actor.ofTask collation) := by
      rw [List.map_map]
      rfl
    rw [hwork]
    apply Continues.dispatches now readings limit taskTypes records _ rfl
    have hrecords : (records.map fun record => (record, run)).map Prod.fst = records := by
      rw [List.map_map]
      exact List.map_id records
    rw [hrecords]
  · exact .settles _

def Pool.move (collation : Collation) (run : HandlerRun) (pool : Pool) : Move → Pool
  | .start operation =>
      { pool with actors := ⟨.operation operation, [], operation.program collation⟩ :: pool.actors }
  | .answer index =>
      match pool.actors.drop index with
      | ⟨job, handed, .call request rest⟩ :: after =>
          let (answer, later) := memoryConnection request pool.table
          { table := later
            writes := pool.writes ++ finishWrites job pool.table later
            actors := pool.actors.take index ++ continueAll collation run job
              (handed ++ handedOut pool.table later) (rest answer) ++ after }
      | _ => pool

theorem PoolReaches.moves {collation : Collation} {run : HandlerRun} {table : TaskTable}
    {Allowed : Job → TaskTable → List Actor → Prop} (Admitted : Job → Prop)
    (hallowed : ∀ job table others, Admitted job → Allowed job table others)
    (hworker : ∀ task run, Admitted (.worker task run)) (moves : List Move) {pool : Pool}
    (hreaches : PoolReaches collation Allowed table pool)
    (hactors : ∀ actor ∈ pool.actors, Admitted actor.job)
    (hmoves : ∀ operation, .start operation ∈ moves →
      ¬ IsFinish operation ∧ Admitted (.operation operation)) :
    PoolReaches collation Allowed table (moves.foldl (Pool.move collation run) pool) := by
  induction moves generalizing pool with
  | nil => exact hreaches
  | cons move moves ih =>
      have hrest : ∀ operation, .start operation ∈ moves →
          ¬ IsFinish operation ∧ Admitted (.operation operation) :=
        fun operation hoperation => hmoves operation (List.mem_cons_of_mem _ hoperation)
      cases move with
      | start operation =>
          obtain ⟨hfinish, hadmitted⟩ := hmoves operation List.mem_cons_self
          apply ih _ _ hrest
          · exact hreaches.tail (.start operation _ _ _ hfinish)
          · intro actor hactor
            cases List.mem_cons.mp hactor with
            | inl hnew =>
                rw [hnew]
                exact hadmitted
            | inr hold => exact hactors actor hold
      | answer index =>
          rw [List.foldl_cons]
          unfold Pool.move
          dsimp only
          split
          · rename_i job handed β request rest after hdrop
            have hsplit : pool.actors =
                pool.actors.take index ++ ⟨job, handed, .call request rest⟩ :: after := by
              rw [← hdrop, List.take_append_drop]
            have hjob : Admitted job := by
              apply hactors ⟨job, handed, .call request rest⟩
              rw [hsplit]
              exact List.mem_append_right _ List.mem_cons_self
            apply ih _ _ hrest
            · have hpool : PoolReaches collation Allowed table ⟨pool.table, pool.writes,
                  pool.actors.take index ++ ⟨job, handed, .call request rest⟩ :: after⟩ := by
                rw [← hsplit]
                exact hreaches
              exact hpool.tail (.advance request rest job handed _ _ _ _ _ _ after rfl
                (hallowed _ _ _ hjob) (continues_continueAll collation run job _ _))
            · intro actor hactor
              simp only [List.mem_append] at hactor
              rcases hactor with (hbefore | hcontinued) | hafter
              · exact hactors actor (List.mem_of_mem_take hbefore)
              · unfold continueAll at hcontinued
                split at hcontinued
                · rw [List.mem_singleton.mp hcontinued]
                  exact hjob
                · obtain ⟨record, -, rfl⟩ := List.mem_map.mp hcontinued
                  exact hworker record run
                · exact absurd hcontinued List.not_mem_nil
              · apply hactors actor
                rw [hsplit]
                exact List.mem_append_right _ (List.mem_cons_of_mem _ hafter)
          · exact ih hreaches hactors hrest

def waitingTask : TaskRow where
  id := "t"
  createdAt := (readingAfter 0).iso
  updatedAt := (readingAfter 0).iso
  taskType := "export"
  uniqueKey := none
  organisationId := "org"
  userId := none
  payloadJson := "null"
  state := .pending
  attemptCount := 0
  maxAttempts := 2
  retryDelayMs := .integer 0
  backoffMultiplier := .integer 1
  maxRetryDelayMs := .integer 0
  retryJitter := .integer 0
  scheduledAt := (readingAfter 0).iso
  startedAt := none
  completedAt := none
  failedAt := none
  lastError := none
  timeoutMs := 30000
  correlationId := "c"

def waitingTasks : TaskTable where
  rows := [waitingTask]
  unique := by
    intro index hindex
    rw [List.filterMap_cons]
    cases index waitingTask <;> simp

def slowRun : HandlerRun where
  registered := true
  outcome := .ok ()
  aborted := false
  completedAt := readingAfter 90
  failedAt := readingAfter 90
  rescheduledFrom := readingAfter 90
  cancelledAt := readingAfter 90
  random := 0

def outlivedAttempt : List Move :=
  [.start (claimAt 0), .answer 0, .start (.recoverHangingTasks (readingAfter 60) 60000),
    .answer 0, .start (claimAt 60), .answer 0, .answer 1]

theorem outlivedAttempt_writes :
    (outlivedAttempt.foldl (Pool.move .codePoint slowRun) (Pool.of waitingTasks)).writes =
      [{ taskId := "t", handed := 1, found := 2 }] := by
  decide

/-- A worker completes a task which was handed to another one since. -/
theorem stale_completion :
    ¬ ∀ (table : TaskTable) (pool : Pool),
      PoolReaches .codePoint (fun _ _ _ => True) table pool → Fenced pool := by
  intro hfenced
  have hstart : ∀ operation, .start operation ∈ outlivedAttempt →
      ¬ IsFinish operation ∧ True := by
    intro operation hoperation
    simp only [outlivedAttempt, List.mem_cons, Move.start.injEq, reduceCtorEq, false_or,
      List.not_mem_nil, or_false] at hoperation
    rcases hoperation with rfl | rfl | rfl
    · exact ⟨id, trivial⟩
    · exact ⟨id, trivial⟩
    · exact ⟨id, trivial⟩
  have hreaches : PoolReaches .codePoint (fun _ _ _ => True) waitingTasks
      (outlivedAttempt.foldl (Pool.move .codePoint slowRun) (Pool.of waitingTasks)) := by
    apply PoolReaches.moves (fun _ => True) _ _ outlivedAttempt Relation.ReflTransGen.refl _
      hstart
    · exact fun _ _ _ _ => trivial
    · exact fun _ _ => trivial
    · exact fun _ _ => trivial
  have hwrites := hfenced waitingTasks _ hreaches
  unfold Fenced at hwrites
  rw [outlivedAttempt_writes] at hwrites
  exact absurd (hwrites _ List.mem_cons_self) (by decide)

theorem own_attempt_completed :
    Fenced (List.foldl (Pool.move .codePoint slowRun) (Pool.of waitingTasks)
      [.start (claimAt 0), .answer 0, .answer 0]) := by
  have hadmitted : ∀ job table others,
      (∀ now timeoutMs, job ≠ .operation (.recoverHangingTasks now timeoutMs)) →
        RecoversAbandoned job table others := by
    intro job table others hjob
    unfold RecoversAbandoned
    split
    · exact absurd rfl (hjob _ _)
    · trivial
  have hstart : ∀ operation, .start operation ∈ [Move.start (claimAt 0), .answer 0, .answer 0] →
      ¬ IsFinish operation ∧
        ∀ now timeoutMs, Job.operation operation ≠
          .operation (.recoverHangingTasks now timeoutMs) := by
    intro operation hoperation
    simp only [List.mem_cons, Move.start.injEq, reduceCtorEq, List.not_mem_nil,
      or_false] at hoperation
    rw [hoperation]
    exact ⟨id, by simp [claimAt]⟩
  have hreaches : PoolReaches .codePoint RecoversAbandoned waitingTasks
      (List.foldl (Pool.move .codePoint slowRun) (Pool.of waitingTasks)
        [.start (claimAt 0), .answer 0, .answer 0]) := by
    apply PoolReaches.moves _ hadmitted _ _ Relation.ReflTransGen.refl _ hstart
    · intro task run now timeoutMs hjob
      cases hjob
    · exact fun actor hactor => absurd hactor List.not_mem_nil
  exact stale_attempts_fenced hreaches

end TaskWorker
end TauriPlatform
