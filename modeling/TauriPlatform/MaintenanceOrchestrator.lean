import TauriPlatform.MaintenanceRegistry
import TauriPlatform.ReadingRange

/-!
# Runs of maintenance

`pruneAll` runs every handler and adds up what they report.  A handler which throws is reported
with no rows, also where it had deleted some before.
-/

namespace TauriPlatform

open SqliteText

structure MaintenanceReport where
  timestamp : String
  totalRowsPruned : Nat
  results : List PruningResult
  vacuumExecuted : Bool
  success : Bool
  aborted : Bool

/-- What a run of `pruneAll` meets: the clock, the signal before each handler and at the end, and
the rounds of each handler. -/
structure MaintenanceMoments where
  timestamp : ClockReading
  now : Nat → ClockReading
  aborted : Nat → Bool
  rounds : Nat → Nat → PruningMoment
  abortedAtEnd : Bool
  vacuumFails : Bool

structure PruneAllOptions where
  skipVacuum : Bool := false
  batchSize : Option NumberValue := none

structure PruningPlan where
  handler : PruningHandler
  cutoffDate : ClockReading

structure MaintenanceOrchestrator where
  registry : MaintenanceRegistry
  defaultBatchSize : NumberValue
  retentionOverrides : List (String × NumberValue)

namespace MaintenanceOrchestrator

/-! ## Validation -/

def validatePositiveNumber (field : String) (value : NumberValue) (integer : Bool) :
    Except Thrown Unit :=
  if value.finite?.any JsonNumber.isPositive ∧ (integer → value.safeInteger?.isSome) then .ok ()
  else
    .error (validationError
      (s!"Maintenance {field} must be a positive" ++
        (if integer then " safe integer" else " finite number") ++ s!"; received {value.text}")
      "The maintenance configuration is invalid." s!"maintenance_{field}")

/-- The `Date` which lies so many days before the reading.  The difference is a floating-point
number, and the date is invalid where it is out of range. -/
abbrev DaySubtraction := ClockReading → JsonNumber → Option ClockReading

def cutoffForRetention (daysBefore : DaySubtraction) (now : ClockReading)
    (retentionDays : NumberValue) : Except Thrown ClockReading := do
  validatePositiveNumber "retention days" retentionDays false
  match retentionDays.finite?.bind (daysBefore now) with
  | some cutoff => return cutoff
  | none =>
      throw (validationError
        s!"Maintenance retention days exceed the supported date range: {retentionDays.text}"
        "The maintenance retention period is invalid." "maintenance_retention_days")

def inheritedText? (name : String) : Option String :=
  if name = "constructor" then some "function Object() \x7b [native code] \x7d"
  else if name = "__proto__" then some "[object Object]"
  else if name ∈ ["toString", "toLocaleString", "valueOf", "hasOwnProperty", "isPrototypeOf",
      "propertyIsEnumerable", "__defineGetter__", "__defineSetter__", "__lookupGetter__",
      "__lookupSetter__"] then
    some ("function " ++ name ++ "() \x7b [native code] \x7d")
  else none

/-- `new MaintenanceOrchestrator(…)`. -/
def create (registry : MaintenanceRegistry) (defaultBatchSize : Option NumberValue)
    (retentionOverrides : List (String × NumberValue)) :
    Except Thrown MaintenanceOrchestrator := do
  let batchSize := defaultBatchSize.getD (.finite (.integer 500))
  validatePositiveNumber "batch size" batchSize true
  retentionOverrides.forM fun override =>
    validatePositiveNumber ("retention override for " ++ override.1) override.2 false
  return {
    registry := registry
    defaultBatchSize := batchSize
    retentionOverrides := retentionOverrides }

section Running

variable (orchestrator : MaintenanceOrchestrator) (daysBefore : DaySubtraction)

def getRetentionDays (handlerId : PlainValue) (fallbackDefault : NumberValue) :
    Except Thrown NumberValue := do
  let key ← handlerId.text
  return ((orchestrator.retentionOverrides.lookup key).or
    ((inheritedText? key).map NumberValue.nonFinite)).getD fallbackDefault

/-! ## Running the handlers -/

def plansFrom (moments : MaintenanceMoments) :
    Nat → List PruningHandler → Except Thrown (List PruningPlan)
  | _, [] => .ok []
  | index, handler :: rest => do
      let retentionDays ← orchestrator.getRetentionDays handler.id handler.defaultRetentionDays
      let cutoffDate ← cutoffForRetention daysBefore (moments.now index) retentionDays
      let plans ← plansFrom moments (index + 1) rest
      return { handler := handler, cutoffDate := cutoffDate } :: plans

def plans (moments : MaintenanceMoments) : Except Thrown (List PruningPlan) :=
  orchestrator.plansFrom daysBefore moments 0 orchestrator.registry.handlers

def failedResult (handler : PruningHandler) (raised : Raised) : Except Thrown PruningResult := do
  let message ← raised.message
  -- The message is written to the log, and has to have a text.
  let _ ← message.text
  return {
    handlerId := handler.id
    displayName := handler.displayName
    rowsPruned := 0
    error := message }

def abortedResult (handler : PruningHandler) : PruningResult where
  handlerId := handler.id
  displayName := handler.displayName
  rowsPruned := 0
  error := .string "Pruning aborted by signal"

def pruneOne (moments : MaintenanceMoments) (batchSize : NumberValue) (index : Nat)
    (plan : PruningPlan) (database : Database) : Except Thrown PruningResult × Database :=
  match plan.handler.prune batchSize plan.cutoffDate (moments.rounds index) database with
  | (.ok result, later) => (.ok result, later)
  | (.error raised, later) => (failedResult plan.handler raised, later)

/-- The loop over the plans: the results, and whether it was left for the signal. -/
def pruneHandlers (moments : MaintenanceMoments) (batchSize : NumberValue) :
    Nat → List PruningPlan → Database → Except Thrown (List PruningResult × Bool) × Database
  | _, [], database => (.ok ([], false), database)
  | index, plan :: rest, database =>
      if moments.aborted index then (.ok ([abortedResult plan.handler], true), database)
      else
        match pruneOne moments batchSize index plan database with
        | (.error thrown, later) => (.error thrown, later)
        | (.ok result, later) =>
            let (others, last) := pruneHandlers moments batchSize (index + 1) rest later
            (others.map fun (results, aborted) => (result :: results, aborted), last)

def totalRowsPruned (results : List PruningResult) : Nat :=
  (results.map PruningResult.rowsPruned).sum

/-- `VACUUM` and the report. -/
def report (options : PruneAllOptions) (moments : MaintenanceMoments)
    (results : List PruningResult) (aborted : Bool) : MaintenanceReport :=
  let wasAborted := moments.abortedAtEnd || aborted
  let total := totalRowsPruned results
  let shouldVacuum := !options.skipVacuum && (total > 0 || !wasAborted)
  { timestamp := moments.timestamp.iso
    totalRowsPruned := total
    results := results
    vacuumExecuted := shouldVacuum && !moments.vacuumFails
    success := !wasAborted && results.all fun result => !result.error.isTrue
    aborted := wasAborted }

def pruneAll (options : PruneAllOptions) (moments : MaintenanceMoments) (database : Database) :
    Except Thrown MaintenanceReport × Database :=
  let batchSize := options.batchSize.getD orchestrator.defaultBatchSize
  match validatePositiveNumber "batch size" batchSize true,
      orchestrator.plans daysBefore moments with
  | .error thrown, _ => (.error thrown, database)
  | .ok (), .error thrown => (.error thrown, database)
  | .ok (), .ok plans =>
      let (outcome, later) := pruneHandlers moments batchSize 0 plans database
      (outcome.map fun outcome => report options moments outcome.1 outcome.2, later)

end Running

/-! ## What is reported and what is gone -/

section Accounting

variable {moments : MaintenanceMoments} {batchSize : NumberValue}

def ThrowsEarly (moments : MaintenanceMoments) (batchSize : NumberValue) (index : Nat)
    (plan : PruningPlan) (database : Database) : Prop :=
  ∀ raised later,
    plan.handler.prune batchSize plan.cutoffDate (moments.rounds index) database =
      (.error raised, later) → later.rowCount = database.rowCount

/-- No handler throws after it has deleted rows, up to the one before which the signal was
aborted. -/
def AllThrowEarly (moments : MaintenanceMoments) (batchSize : NumberValue) :
    Nat → List PruningPlan → Database → Prop
  | _, [], _ => True
  | index, plan :: rest, database =>
      moments.aborted index = true ∨
        (ThrowsEarly moments batchSize index plan database ∧
          AllThrowEarly moments batchSize (index + 1) rest
            (plan.handler.prune batchSize plan.cutoffDate (moments.rounds index) database).2)

theorem failedResult_rowsPruned {handler : PruningHandler} {raised : Raised}
    {result : PruningResult} (hresult : failedResult handler raised = .ok result) :
    result.rowsPruned = 0 := by
  unfold failedResult at hresult
  cases hmessage : raised.message with
  | error thrown => simp only [hmessage, bind, Except.bind, reduceCtorEq] at hresult
  | ok message =>
      cases htext : message.text with
      | error thrown => simp only [hmessage, htext, bind, Except.bind, reduceCtorEq] at hresult
      | ok text =>
          simp only [hmessage, htext, bind, Except.bind, pure, Except.pure,
            Except.ok.injEq] at hresult
          subst hresult
          rfl

theorem pruneOne_accounts {index : Nat} {plan : PruningPlan} {database later : Database}
    {result : PruningResult}
    (hone : pruneOne moments batchSize index plan database = (.ok result, later)) :
    later = (plan.handler.prune batchSize plan.cutoffDate (moments.rounds index) database).2 ∧
      result.rowsPruned + later.rowCount ≤ database.rowCount ∧
      (result.rowsPruned + later.rowCount = database.rowCount ↔
        ThrowsEarly moments batchSize index plan database) := by
  unfold pruneOne at hone
  unfold ThrowsEarly
  cases hprune : plan.handler.prune batchSize plan.cutoffDate (moments.rounds index) database with
  | mk outcome last =>
      rw [hprune] at hone
      cases outcome with
      | ok reported =>
          cases hone
          have hrows := plan.handler.rowCount_ok hprune
          refine ⟨rfl, by omega, iff_of_true (by omega) fun raised other hthrew => ?_⟩
          cases hthrew
      | error raised =>
          simp only [Prod.mk.injEq] at hone
          obtain ⟨hfailed, rfl⟩ := hone
          have hle := plan.handler.rowCount_le batchSize plan.cutoffDate (moments.rounds index)
            database
          rw [hprune] at hle
          rw [failedResult_rowsPruned hfailed, Nat.zero_add]
          refine ⟨rfl, hle, fun hsame other rest hthrew => ?_, fun hearly => hearly _ _ rfl⟩
          cases hthrew
          exact hsame

theorem pruneHandlers_accounts {index : Nat} {plans : List PruningPlan}
    {database later : Database} {results : List PruningResult} {aborted : Bool}
    (hrun : pruneHandlers moments batchSize index plans database = (.ok (results, aborted), later)) :
    totalRowsPruned results + later.rowCount ≤ database.rowCount ∧
      (totalRowsPruned results + later.rowCount = database.rowCount ↔
        AllThrowEarly moments batchSize index plans database) := by
  induction plans generalizing index database results aborted with
  | nil =>
      cases hrun
      simp [totalRowsPruned, AllThrowEarly]
  | cons plan rest ih =>
      unfold pruneHandlers at hrun
      unfold AllThrowEarly
      by_cases haborted : moments.aborted index = true
      · rw [if_pos haborted] at hrun
        cases hrun
        simp [totalRowsPruned, abortedResult, haborted]
      · rw [if_neg haborted] at hrun
        cases hone : pruneOne moments batchSize index plan database with
        | mk outcome middle =>
            rw [hone] at hrun
            cases outcome with
            | error thrown => cases hrun
            | ok result =>
                obtain ⟨hmiddle, hle, hearly⟩ := pruneOne_accounts hone
                cases hothers : pruneHandlers moments batchSize (index + 1) rest middle with
                | mk others last =>
                    simp only [hothers, Prod.mk.injEq] at hrun
                    obtain ⟨hmap, rfl⟩ := hrun
                    cases others with
                    | error thrown => cases hmap
                    | ok more =>
                        cases hmap
                        obtain ⟨hrestle, hrest⟩ := ih hothers
                        rw [← hmiddle, or_iff_right haborted, ← hearly, ← hrest]
                        have htotal : totalRowsPruned (result :: more.1) =
                            result.rowsPruned + totalRowsPruned more.1 := List.sum_cons
                        rw [htotal]
                        omega

end Accounting

def wholeDaysBefore : DaySubtraction := fun now days =>
  days.safeInteger?.bind fun days =>
    let millis := now.millis - days * 86400000
    if h : millis.natAbs ≤ maxTimeValue.natAbs then some ⟨millis, h⟩ else none

def smallTombstones : Database := [{
  name := "core_sync_tombstones"
  columns := ["replicated_at"]
  rows := [⟨1, [("replicated_at", .text "2025-01-01T00:00:00.000Z")]⟩,
    ⟨2, [("replicated_at", .text "2025-01-02T00:00:00.000Z")]⟩]
  distinct := by decide }]

def smallOrchestrator : MaintenanceOrchestrator where
  registry := ⟨[replicatedTombstonePruner.handler fixedInterpretation]⟩
  defaultBatchSize := .finite (.integer 1)
  retentionOverrides := []

def smallMoments (round : Nat → PruningMoment) : MaintenanceMoments where
  timestamp := ⟨1767225600000, ClockReading.inRange_newYear⟩
  now _ := ⟨1767225600000, ClockReading.inRange_newYear⟩
  aborted _ := false
  rounds _ := round
  abortedAtEnd := false
  vacuumFails := false

end MaintenanceOrchestrator

end TauriPlatform
