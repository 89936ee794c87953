import TauriPlatform.DeclarativeTablePruner

/-!
# The handlers of maintenance

A handler prunes one table.  The registry holds the handlers of the platform and the pruners
which features declare.
-/

namespace TauriPlatform

open SqliteText

/-! ## Handlers -/

structure PruningResult where
  handlerId : PlainValue
  displayName : PlainValue
  rowsPruned : Nat
  error : PlainValue := .undefined

/-- A handler deletes rows and adds none, and a result which it returns tells how many. -/
structure PruningHandler where
  id : PlainValue
  displayName : PlainValue
  defaultRetentionDays : NumberValue
  prune : NumberValue → ClockReading → (Nat → PruningMoment) → Database →
    Except Raised PruningResult × Database
  rowCount_le : ∀ batchSize cutoff moments database,
    (prune batchSize cutoff moments database).2.rowCount ≤ database.rowCount
  rowCount_ok : ∀ {batchSize cutoff moments database result later},
    prune batchSize cutoff moments database = (.ok result, later) →
      later.rowCount + result.rowsPruned = database.rowCount

namespace PruningStatements

variable (interpretation : Interpretation) (statements : PruningStatements)

/-- `prune` with as many rounds as it takes. -/
def pruneToEnd (batchSize : NumberValue) (cutoff : ClockReading) (moments : Nat → PruningMoment)
    (database : Database) : Except Thrown Nat × Database :=
  (statements.prune interpretation batchSize (some cutoff) moments (database.rowCount + 1)
    database).get (by
      obtain ⟨outcome, later, hprune, -⟩ := @prune_accounts interpretation statements batchSize
        (some cutoff) moments _ _ (Nat.lt_succ_self database.rowCount)
      rw [hprune]
      rfl)

theorem pruneToEnd_accounts (batchSize : NumberValue) (cutoff : ClockReading)
    (moments : Nat → PruningMoment) (database : Database) :
    (statements.pruneToEnd interpretation batchSize cutoff moments database).2.rowCount ≤
        database.rowCount ∧
      ∀ rows later, statements.pruneToEnd interpretation batchSize cutoff moments database =
        (.ok rows, later) → later.rowCount + rows = database.rowCount := by
  obtain ⟨outcome, later, hprune, hle, hrows⟩ := @prune_accounts interpretation statements
    batchSize (some cutoff) moments _ _ (Nat.lt_succ_self database.rowCount)
  have hend : statements.pruneToEnd interpretation batchSize cutoff moments database =
      (outcome, later) := by
    simp only [pruneToEnd, hprune, Option.get_some]
  rw [hend]
  refine ⟨hle, fun rows last hlast => ?_⟩
  cases hlast
  exact hrows rows rfl

def handler (id displayName : PlainValue) (defaultRetentionDays : NumberValue) :
    PruningHandler where
  id := id
  displayName := displayName
  defaultRetentionDays := defaultRetentionDays
  prune batchSize cutoff moments database :=
    match statements.pruneToEnd interpretation batchSize cutoff moments database with
    | (.ok rows, later) =>
        (.ok { handlerId := id, displayName := displayName, rowsPruned := rows }, later)
    | (.error thrown, later) => (.error thrown.raised, later)
  rowCount_le batchSize cutoff moments database := by
    have haccounts := (statements.pruneToEnd_accounts interpretation batchSize cutoff moments
      database).1
    split
    · rename_i rows later hend
      rwa [hend] at haccounts
    · rename_i thrown later hend
      rwa [hend] at haccounts
  rowCount_ok := by
    intro batchSize cutoff moments database result later hprune
    split at hprune
    · rename_i rows last hend
      cases hprune
      exact (statements.pruneToEnd_accounts interpretation batchSize cutoff moments database).2
        rows _ hend
    · cases hprune

end PruningStatements

def TablePruner.handler (interpretation : Interpretation) (pruner : TablePruner) :
    PruningHandler :=
  pruner.toPruningStatements.handler interpretation (.string pruner.id)
    (.string pruner.displayName) (.finite (.integer pruner.defaultRetentionDays))

def DeclarativeTablePruner.handler (interpretation : Interpretation)
    (pruner : DeclarativeTablePruner) : PruningHandler :=
  pruner.statements.handler interpretation pruner.id pruner.displayName
    (.finite pruner.defaultRetentionDays)

/-! ## The registry -/

/-- The handlers of a `MaintenanceRegistry`, in the order of their registration. -/
structure MaintenanceRegistry where
  handlers : List PruningHandler

namespace MaintenanceRegistry

variable (interpretation : Interpretation) (registry : MaintenanceRegistry)

def hasHandler (id : PlainValue) : Bool :=
  registry.handlers.any fun handler => handler.id.isSame id

def rejectDuplicate (id : PlainValue) (problem : String) : Except Thrown Unit := do
  let id ← id.text
  throw (validationError s!"Pruning handler with id '{id}' is already registered{problem}."
    "Duplicate pruning handler registration" ("prune_handler_dup_" ++ id))

def registerHandler (handler : PruningHandler) : Except Thrown Unit × MaintenanceRegistry :=
  if registry.hasHandler handler.id then (rejectDuplicate handler.id "", registry)
  else (.ok (), ⟨registry.handlers ++ [handler]⟩)

def checkHandlers : (seen : List PlainValue) → List PruningHandler → Except Thrown Unit
  | _, [] => .ok ()
  | seen, handler :: rest =>
      if (seen.any fun id => id.isSame handler.id) ∨ registry.hasHandler handler.id then
        rejectDuplicate handler.id " or duplicated"
      else checkHandlers (seen ++ [handler.id]) rest

/-- `policies.map(…)`, which only an array has. -/
def mapPolicies : PlainValue → Except Thrown (List PruningHandler)
  | .array items => items.mapM fun policy => do
      return (← DeclarativeTablePruner.create policy).handler interpretation
  | _ => .error (.builtin "TypeError" "policies.map is not a function")

def preparePolicies (policies : PlainValue) : Except Thrown (List PruningHandler) := do
  let prepared ← mapPolicies interpretation policies
  registry.checkHandlers [] prepared
  return prepared

def registerPreparedPolicies (handlers : List PruningHandler) :
    Except Thrown Unit × MaintenanceRegistry :=
  match registry.checkHandlers [] handlers with
  | .error thrown => (.error thrown, registry)
  | .ok () => (.ok (), ⟨registry.handlers ++ handlers⟩)

def registerPolicies (policies : PlainValue) : Except Thrown Unit × MaintenanceRegistry :=
  match registry.preparePolicies interpretation policies with
  | .error thrown => (.error thrown, registry)
  | .ok handlers => registry.registerPreparedPolicies handlers

def registerCoreDefaults : MaintenanceRegistry :=
  ([syncOutboxPruner, syncInboxPruner, backgroundTasksPruner, auditEventsPruner,
      replicatedTombstonePruner].map (TablePruner.handler interpretation)).foldl
    (fun registry handler => (registry.registerHandler handler).2) registry

theorem registerPreparedPolicies_of_prepared {policies : PlainValue}
    {handlers : List PruningHandler}
    (hprepared : registry.preparePolicies interpretation policies = .ok handlers) :
    registry.registerPreparedPolicies handlers = (.ok (), ⟨registry.handlers ++ handlers⟩) := by
  unfold preparePolicies at hprepared
  cases hmap : mapPolicies interpretation policies with
  | error thrown =>
      rw [hmap] at hprepared
      cases hprepared
  | ok prepared =>
      rw [hmap] at hprepared
      cases hcheck : registry.checkHandlers [] prepared with
      | error thrown =>
          simp only [bind, Except.bind, hcheck, reduceCtorEq] at hprepared
      | ok checked =>
          simp only [bind, Except.bind, hcheck, pure, Except.pure, Except.ok.injEq] at hprepared
          subst hprepared
          rw [registerPreparedPolicies, hcheck]

end MaintenanceRegistry

end TauriPlatform
