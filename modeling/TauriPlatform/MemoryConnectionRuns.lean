import TauriPlatform.TransactionClient

/-!
# Calls of one in-memory connection

Calls take a ticket, and each starts when the one before it has released the lock.  What is
called on one connection comes out as if the calls had been made one at a time, unless the
client of a savepoint outlives its transaction: nothing closes it then.
-/

namespace TauriPlatform.MemoryDatabaseConnection

open Sqlite

variable {Db Row Value : Type}

/-! ## Calls -/

inductive Request (Db Row : Type) where
  | query (sql : Sql Db Row)
  | execute (sql : Sql Db Row)
  | transaction

inductive Answer (Row Value : Type) where
  | rows (rows : List Row)
  | affected (rowsAffected : Nat)
  | value (value : Value)

inductive ClientEvent (Db Row Value : Type) where
  | query (client : ClientId) (sql : Sql Db Row)
  | execute (client : ClientId) (sql : Sql Db Row)
  | savepoint (client : ClientId)
  | settle (parent : ClientId) (number : Nat) (outcome : Except Thrown Value)

inductive ClientAnswer (Row Value : Type) where
  | rows (answer : Except Thrown (List Row))
  | affected (answer : Except Thrown Nat)
  | client (answer : Except Thrown ClientId)
  | settled (promise : Except Thrown Value)

def ClientEvent.transaction : ClientEvent Db Row Value → Nat
  | .query client _ | .execute client _ | .savepoint client | .settle client _ _ =>
      client.transaction

def ClientEvent.possible (state : ClientState Db) : ClientEvent Db Row Value → Bool
  | .settle parent number _ => parent.nested number ∈ state.active
  | _ => true

namespace ClientState

def perform (violated? : Db → Option String) (state : ClientState Db) :
    ClientEvent Db Row Value → ClientAnswer Row Value × ClientState Db
  | .query client sql =>
      let (answer, state) := state.run client sql
      (.rows (answer.map Rows.rows), state)
  | .execute client sql =>
      let (answer, state) := state.run client sql
      (.affected (answer.map Rows.rowsAffected), state)
  | .savepoint client =>
      let (answer, state) := state.savepoint client
      (.client answer, state)
  | .settle parent number outcome =>
      let (promise, state) := state.settleSavepoint violated? parent number outcome
      (.settled promise, state)

/-- `query`, once the lock is held. -/
def query (sql : Sql Db Row) (state : ClientState Db) :
    Except Thrown (Answer Row Value) × ClientState Db :=
  let (answer, session) := state.session.run sql
  (match answer with
    | .ok rows => .ok (.rows rows.rows)
    | .error message => .error (databaseError s!"Database query failed: {message}"
        "Failed to retrieve data" "db_query_err" (some s!"SQL: {sql.text}")),
    { state with session := session })

/-- `execute`, once the lock is held. -/
def execute (sql : Sql Db Row) (state : ClientState Db) :
    Except Thrown (Answer Row Value) × ClientState Db :=
  let (answer, session) := state.session.run sql
  (match answer with
    | .ok rows => .ok (.affected rows.rowsAffected)
    | .error message => .error (databaseError s!"Database execute failed: {message}"
        "Failed to execute database operation" "db_exec_err" (some s!"SQL: {sql.text}")),
    { state with session := session })

/-- `transaction`, once the lock is held, up to the call of its callback. -/
def beginTransaction (ticket : Nat) (state : ClientState Db) :
    Except Thrown ClientId × ClientState Db :=
  match state.session.beginTransaction with
  | .error error => (.error (sessionError error), state)
  | .ok session =>
      (.ok ⟨ticket, []⟩, { state with session := session, active := state.active ++ [⟨ticket, []⟩] })

/-- The handler of `transaction`; an error of the rollback is swallowed. -/
def rollback (state : ClientState Db) : ClientState Db :=
  match state.session.rollback with
  | .error _ => state
  | .ok session => { state with session := session }

/-- The rest of `transaction`, once its callback has settled. -/
def settleTransaction (violated? : Db → Option String) (ticket : Nat)
    (outcome : Except Thrown Value) (state : ClientState Db) :
    Except Thrown (Answer Row Value) × ClientState Db :=
  let closed := state.close ⟨ticket, []⟩
  match outcome with
  | .error error => (.error error, closed.rollback)
  | .ok value =>
      match closed.session.commit violated? with
      | .ok session => (.ok (.value value), { closed with session := session })
      | .error error => (.error (sessionError error), closed.rollback)

end ClientState

/-! ## The connection -/

/-- A call which has settled.  The callback of a transaction is not called when `BEGIN` fails. -/
inductive Served (Db Row Value : Type) where
  | query (sql : Sql Db Row)
  | execute (sql : Sql Db Row)
  | transaction (events : List (ClientEvent Db Row Value)) (outcome : Except Thrown Value)
  | refused

/-- What a call settled with, and what its clients were answered before. -/
structure Outcome (Row Value : Type) where
  answers : List (ClientAnswer Row Value)
  result : Except Thrown (Answer Row Value)

structure Connection (Db Row Value : Type) where
  state : ClientState Db
  /-- The calls in the order of their tickets. -/
  requests : List (Request Db Row)
  /-- The calls which have released the lock. -/
  completed : List (Served Db Row Value × Outcome Row Value)
  /-- The transaction which holds the lock, with what its clients did and were answered. -/
  callback : Option (List (ClientEvent Db Row Value) × List (ClientAnswer Row Value))
  /-- What clients were answered whose transactions do not hold the lock. -/
  late : List (ClientAnswer Row Value)

namespace Connection

/-- A connection whose `init` has completed. -/
def of (database : Db) : Connection Db Row Value where
  state := { session := .idle database, savepointCounter := 0, active := [] }
  requests := []
  completed := []
  callback := none
  late := []

def serving (connection : Connection Db Row Value) : Nat :=
  connection.completed.length

def release (state : ClientState Db) (served : Served Db Row Value)
    (outcome : Outcome Row Value) (connection : Connection Db Row Value) :
    Connection Db Row Value :=
  { connection with
    state := state
    completed := connection.completed ++ [(served, outcome)]
    callback := none }

def acquire (connection : Connection Db Row Value) : Option (Connection Db Row Value) :=
  match connection.callback, connection.requests[connection.serving]? with
  | none, some (.query sql) =>
      let (result, state) := connection.state.query sql
      some (connection.release state (.query sql) ⟨[], result⟩)
  | none, some (.execute sql) =>
      let (result, state) := connection.state.execute sql
      some (connection.release state (.execute sql) ⟨[], result⟩)
  | none, some .transaction =>
      match connection.state.beginTransaction connection.serving with
      | (.error error, state) => some (connection.release state .refused ⟨[], .error error⟩)
      | (.ok _, state) => some { connection with state := state, callback := some ([], []) }
  | _, _ => none

def use (violated? : Db → Option String) (event : ClientEvent Db Row Value)
    (connection : Connection Db Row Value) : Connection Db Row Value :=
  let (answer, state) := connection.state.perform violated? event
  match connection.callback with
  | some (events, answers) =>
      if event.transaction = connection.serving then
        { connection with
          state := state, callback := some (events ++ [event], answers ++ [answer]) }
      else { connection with state := state, late := connection.late ++ [answer] }
  | none => { connection with state := state, late := connection.late ++ [answer] }

def settle (violated? : Db → Option String) (outcome : Except Thrown Value)
    (connection : Connection Db Row Value) : Option (Connection Db Row Value) :=
  match connection.callback with
  | none => none
  | some (events, answers) =>
      let (result, state) :=
        connection.state.settleTransaction violated? connection.serving outcome
      some (connection.release state (.transaction events outcome) ⟨answers, result⟩)

end Connection

inductive ConnectionEvent (Db Row Value : Type) where
  | call (request : Request Db Row)
  | acquire
  | use (event : ClientEvent Db Row Value)
  | settle (outcome : Except Thrown Value)

def Connection.step (violated? : Db → Option String) (connection : Connection Db Row Value) :
    ConnectionEvent Db Row Value → Option (Connection Db Row Value)
  | .call request => some { connection with requests := connection.requests ++ [request] }
  | .acquire => connection.acquire
  | .use event =>
      if event.possible connection.state then some (connection.use violated? event) else none
  | .settle outcome => connection.settle violated? outcome

inductive ConnectionReaches (violated? : Db → Option String)
    (Admitted : Connection Db Row Value → ConnectionEvent Db Row Value → Prop) (database : Db) :
    Connection Db Row Value → Prop
  | initially : ConnectionReaches violated? Admitted database (.of database)
  | step {connection next : Connection Db Row Value} (event : ConnectionEvent Db Row Value) :
      ConnectionReaches violated? Admitted database connection → Admitted connection event →
      connection.step violated? event = some next →
      ConnectionReaches violated? Admitted database next

/-! ## One call at a time -/

def performAll (violated? : Db → Option String) (state : ClientState Db)
    (events : List (ClientEvent Db Row Value)) :
    List (ClientAnswer Row Value) × ClientState Db :=
  events.foldl (fun (answers, state) event =>
    let (answer, state) := state.perform violated? event
    (answers ++ [answer], state)) ([], state)

structure Sequential (Db Row Value : Type) where
  database : Db
  savepointCounter : Nat
  outcomes : List (Outcome Row Value)

namespace Sequential

def of (database : Db) : Sequential Db Row Value where
  database := database
  savepointCounter := 0
  outcomes := []

def begun (sequential : Sequential Db Row Value) : ClientState Db where
  session := {
    database := sequential.database
    transaction := some (.begin, sequential.database)
    savepoints := [] }
  savepointCounter := sequential.savepointCounter
  active := [⟨sequential.outcomes.length, []⟩]

def after (sequential : Sequential Db Row Value) (database : Db) (savepointCounter : Nat)
    (outcome : Outcome Row Value) : Sequential Db Row Value where
  database := database
  savepointCounter := savepointCounter
  outcomes := sequential.outcomes ++ [outcome]

/-- A call with nothing else from its start to its end: a statement runs on its own, and a
transaction leaves what its callback does, or nothing if it rejects.  `BEGIN` cannot fail. -/
def call (violated? : Db → Option String) (sequential : Sequential Db Row Value) :
    Served Db Row Value → Option (Sequential Db Row Value)
  | .query sql =>
      let (answer, later) := sql.alone sequential.database
      some (sequential.after later sequential.savepointCounter ⟨[],
        match answer with
        | .ok rows => .ok (.rows rows.rows)
        | .error message => .error (databaseError s!"Database query failed: {message}"
            "Failed to retrieve data" "db_query_err" (some s!"SQL: {sql.text}"))⟩)
  | .execute sql =>
      let (answer, later) := sql.alone sequential.database
      some (sequential.after later sequential.savepointCounter ⟨[],
        match answer with
        | .ok rows => .ok (.affected rows.rowsAffected)
        | .error message => .error (databaseError s!"Database execute failed: {message}"
            "Failed to execute database operation" "db_exec_err"
            (some s!"SQL: {sql.text}"))⟩)
  | .transaction events outcome =>
      let (answers, state) := performAll violated? sequential.begun events
      match outcome, violated? state.session.database with
      | .error error, _ =>
          some (sequential.after sequential.database state.savepointCounter
            ⟨answers, .error error⟩)
      | .ok _, some message =>
          some (sequential.after sequential.database state.savepointCounter
            ⟨answers, .error (sqliteError message)⟩)
      | .ok value, none =>
          some (sequential.after state.session.database state.savepointCounter
            ⟨answers, .ok (.value value)⟩)
  | .refused => none

end Sequential

def oneAtATime (violated? : Db → Option String) (database : Db)
    (calls : List (Served Db Row Value)) : Option (Sequential Db Row Value) :=
  calls.foldlM (Sequential.call violated?) (.of database)

/-! ## Serialisability -/

def ClientAnswer.IsClosed : ClientAnswer Row Value → Prop
  | .rows answer => answer = .error clientClosed
  | .affected answer => answer = .error clientClosed
  | .client answer => answer = .error clientClosed
  | .settled _ => False

/-- The calls which have settled come out as if they had been made one at a time in the order of
the lock. -/
structure Serialised (violated? : Db → Option String) (database : Db)
    (connection : Connection Db Row Value) (sequential : Sequential Db Row Value) : Prop where
  calls : oneAtATime violated? database (connection.completed.map Prod.fst) = some sequential
  results : connection.completed.map Prod.snd = sequential.outcomes
  /-- When no transaction holds the lock, the database is the same. -/
  idle : connection.callback = none → connection.state.session = .idle sequential.database
  /-- The transaction which holds it would leave that database if it rejected. -/
  held : connection.callback.isSome →
    connection.state.session.transaction = some (.begin, sequential.database)
  /-- A transaction which has rejected left the database as the calls before it. -/
  rejected : ∀ before events outcome answers error after,
    connection.completed =
      before ++ (.transaction events outcome, ⟨answers, .error error⟩) :: after →
    ∃ earlier later, oneAtATime violated? database (before.map Prod.fst) = some earlier ∧
      earlier.call violated? (.transaction events outcome) = some later ∧
      later.database = earlier.database
  late : ∀ answer ∈ connection.late, answer.IsClosed

/-- The callback of a transaction settles when those of its savepoints have. -/
def SettlesLast (connection : Connection Db Row Value) (event : ConnectionEvent Db Row Value) :
    Prop :=
  ∀ outcome, event = .settle outcome → ∀ client ∈ connection.state.active, client.path = []

variable {violated? : Db → Option String} {earlier later : Sequential Db Row Value}

theorem Sequential.call_outcomes {served : Served Db Row Value}
    (hcall : earlier.call violated? served = some later) :
    ∃ outcome, later.outcomes = earlier.outcomes ++ [outcome] := by
  cases served with
  | query sql =>
      cases hcall
      exact ⟨_, rfl⟩
  | execute sql =>
      cases hcall
      exact ⟨_, rfl⟩
  | transaction events outcome =>
      simp only [Sequential.call] at hcall
      split at hcall <;> cases hcall <;> exact ⟨_, rfl⟩
  | refused => cases hcall

theorem foldlM_outcomes (calls : List (Served Db Row Value))
    (hcalls : calls.foldlM (Sequential.call violated?) earlier = some later) :
    ∃ outcomes, later.outcomes = earlier.outcomes ++ outcomes ∧
      outcomes.length = calls.length := by
  induction calls generalizing earlier with
  | nil =>
      cases hcalls
      exact ⟨[], (List.append_nil _).symm, rfl⟩
  | cons served calls ih =>
      rw [List.foldlM_cons] at hcalls
      obtain ⟨next, hcall, hrest⟩ := Option.bind_eq_some_iff.mp hcalls
      obtain ⟨outcome, houtcome⟩ := Sequential.call_outcomes hcall
      obtain ⟨outcomes, houtcomes, hlength⟩ := ih hrest
      refine ⟨outcome :: outcomes, ?_, congrArg Nat.succ hlength⟩
      rw [houtcomes, houtcome, List.append_assoc, List.singleton_append]

theorem oneAtATime_split {database : Db}
    {before after : List (Served Db Row Value × Outcome Row Value)} {served : Served Db Row Value}
    {outcome : Outcome Row Value} {sequential : Sequential Db Row Value}
    (hcalls : oneAtATime violated? database ((before ++ (served, outcome) :: after).map Prod.fst) =
      some sequential)
    (hresults : (before ++ (served, outcome) :: after).map Prod.snd = sequential.outcomes) :
    ∃ earlier later, oneAtATime violated? database (before.map Prod.fst) = some earlier ∧
      earlier.call violated? served = some later ∧
      later.outcomes = earlier.outcomes ++ [outcome] := by
  rw [oneAtATime, List.map_append, List.foldlM_append, List.map_cons] at hcalls
  obtain ⟨earlier, hearlier, hrest⟩ := Option.bind_eq_some_iff.mp hcalls
  rw [List.foldlM_cons] at hrest
  obtain ⟨later, hcall, hafter⟩ := Option.bind_eq_some_iff.mp hrest
  obtain ⟨own, hown⟩ := Sequential.call_outcomes hcall
  obtain ⟨others, hothers, -⟩ := foldlM_outcomes _ hafter
  obtain ⟨firsts, hfirsts, hlength⟩ := foldlM_outcomes _ hearlier
  refine ⟨earlier, later, hearlier, hcall, ?_⟩
  have hearlierOutcomes : earlier.outcomes = firsts := hfirsts
  rw [hothers, hown, hearlierOutcomes, List.map_append, List.map_cons, List.append_assoc] at hresults
  obtain ⟨-, hsame⟩ := List.append_inj hresults (by
    rw [hlength, List.length_map, List.length_map])
  have hsame : outcome = own := (List.cons.inj hsame).1
  rw [hown, hsame]

theorem Sequential.database_of_rejected {events : List (ClientEvent Db Row Value)}
    {outcome : Except Thrown Value} {answers : List (ClientAnswer Row Value)} {error : Thrown}
    (hcall : earlier.call violated? (.transaction events outcome) = some later)
    (hrejects : later.outcomes = earlier.outcomes ++ [⟨answers, .error error⟩]) :
    later.database = earlier.database := by
  simp only [Sequential.call] at hcall
  split at hcall
  · cases hcall
    rfl
  · cases hcall
    rfl
  · cases hcall
    have hlast := List.append_cancel_left hrejects
    cases hlast

/-! ## The invariant -/

/-- The session of a transaction is open on the database as it was before, and the active
clients are its own. -/
structure InTransaction (ticket : Nat) (database : Db) (state : ClientState Db) : Prop where
  begun : state.session.transaction = some (.begin, database)
  own : ∀ client ∈ state.active, client.transaction = ticket

structure InOrder (violated? : Db → Option String) (database : Db)
    (connection : Connection Db Row Value) (sequential : Sequential Db Row Value) : Prop where
  calls : oneAtATime violated? database (connection.completed.map Prod.fst) = some sequential
  results : connection.completed.map Prod.snd = sequential.outcomes
  idle : connection.callback = none → connection.state =
    { session := .idle sequential.database
      savepointCounter := sequential.savepointCounter
      active := [] }
  held : ∀ events answers, connection.callback = some (events, answers) →
    (answers, connection.state) = performAll violated? sequential.begun events ∧
      InTransaction connection.serving sequential.database connection.state
  late : ∀ answer ∈ connection.late, answer.IsClosed

section Steps

variable {violated? : Db → Option String} {ticket : Nat} {database : Db}
  {state : ClientState Db}

theorem performAll_append (violated? : Db → Option String) (state : ClientState Db)
    (events : List (ClientEvent Db Row Value)) (event : ClientEvent Db Row Value) :
    performAll violated? state (events ++ [event]) =
      ((performAll violated? state events).1 ++
          [((performAll violated? state events).2.perform violated? event).1],
        ((performAll violated? state events).2.perform violated? event).2) := by
  rw [performAll, List.foldl_append]
  rfl

/-- `ROLLBACK TO` and `RELEASE` leave a transaction open which `BEGIN` has opened. -/
theorem rollbackTo_transaction {session later : Session Db Nat} {number : Nat}
    (hrollback : session.rollbackTo number = .ok later) :
    later.transaction = session.transaction := by
  unfold Session.rollbackTo at hrollback
  split at hrollback
  · cases hrollback
  · cases hrollback
    rfl

theorem release_transaction {session later : Session Db Nat} {number : Nat}
    (hbegun : session.transaction = some (.begin, database))
    (hrelease : session.release violated? number = .ok later) :
    later.transaction = some (.begin, database) := by
  unfold Session.release at hrelease
  split at hrelease
  · cases hrelease
  · rw [if_neg (by simp [hbegun])] at hrelease
    cases hrelease
    exact hbegun

theorem undo_transaction (hbegun : state.session.transaction = some (.begin, database))
    (violated? : Db → Option String) (number : Nat) :
    (state.undo violated? number).session.transaction = some (.begin, database) := by
  unfold ClientState.undo
  split
  · exact hbegun
  · rename_i session hrollback
    have hsession := (rollbackTo_transaction hrollback).trans hbegun
    split
    · exact hsession
    · rename_i later hrelease
      exact release_transaction hsession hrelease

theorem undo_active (state : ClientState Db) (violated? : Db → Option String) (number : Nat) :
    (state.undo violated? number).active = state.active := by
  unfold ClientState.undo
  split
  · rfl
  · split <;> rfl

theorem InTransaction.perform (hopen : InTransaction ticket database state)
    (violated? : Db → Option String) (event : ClientEvent Db Row Value) :
    InTransaction ticket database (state.perform violated? event).2 := by
  have hrun : ∀ (client : ClientId) (sql : Sql Db Row),
      InTransaction ticket database (state.run client sql).2 := by
    intro client sql
    unfold ClientState.run
    split_ifs
    · exact ⟨hopen.begun, hopen.own⟩
    · exact hopen
  cases event with
  | query client sql => exact hrun client sql
  | execute client sql => exact hrun client sql
  | savepoint client =>
      simp only [ClientState.perform, ClientState.savepoint]
      split_ifs with hactive
      · refine ⟨?_, fun other hother => ?_⟩
        · simp only [Session.savepoint, hopen.begun, Option.getD_some]
        · rcases List.mem_append.mp hother with hold | hlast
          · exact hopen.own other hold
          · rw [List.mem_singleton.mp hlast]
            exact hopen.own client hactive
      · exact hopen
  | settle parent number outcome =>
      have hclosed : InTransaction ticket database (state.close (parent.nested number)) :=
        ⟨hopen.begun, fun client hclient => hopen.own client (List.mem_filter.mp hclient).1⟩
      have hundone : InTransaction ticket database
          ((state.close (parent.nested number)).undo violated? number) := by
        refine ⟨undo_transaction hclosed.begun violated? number, ?_⟩
        rw [undo_active]
        exact hclosed.own
      simp only [ClientState.perform, ClientState.settleSavepoint]
      cases outcome with
      | error error => exact hundone
      | ok value =>
          dsimp only
          split
          · rename_i session hrelease
            exact ⟨release_transaction hclosed.begun hrelease, hclosed.own⟩
          · exact hundone

theorem perform_inactive {event : ClientEvent Db Row Value}
    (hpossible : event.possible state)
    (hinactive : ∀ client ∈ state.active, client.transaction ≠ event.transaction) :
    (state.perform violated? event).1.IsClosed ∧ (state.perform violated? event).2 = state := by
  cases event with
  | query client sql =>
      have hclient : client ∉ state.active := fun hmem => hinactive client hmem rfl
      simp only [ClientState.perform, ClientState.run, if_neg hclient]
      exact ⟨rfl, trivial⟩
  | execute client sql =>
      have hclient : client ∉ state.active := fun hmem => hinactive client hmem rfl
      simp only [ClientState.perform, ClientState.run, if_neg hclient]
      exact ⟨rfl, trivial⟩
  | savepoint client =>
      have hclient : client ∉ state.active := fun hmem => hinactive client hmem rfl
      simp only [ClientState.perform, ClientState.savepoint, if_neg hclient]
      exact ⟨rfl, trivial⟩
  | settle parent number outcome =>
      have hactive : parent.nested number ∈ state.active := of_decide_eq_true hpossible
      exact absurd rfl (hinactive (parent.nested number) hactive)

variable {connection next : Connection Db Row Value} {sequential : Sequential Db Row Value}

theorem InOrder.serving (hinOrder : InOrder violated? database connection sequential) :
    connection.serving = sequential.outcomes.length := by
  rw [← hinOrder.results, List.length_map]
  rfl

theorem InOrder.releases (hinOrder : InOrder violated? database connection sequential)
    {served : Served Db Row Value} {outcome : Outcome Row Value} {after : Db} {counter : Nat}
    (hcall : sequential.call violated? served = some (sequential.after after counter outcome)) :
    InOrder violated? database (connection.release
      { session := .idle after, savepointCounter := counter, active := [] } served outcome)
      (sequential.after after counter outcome) where
  calls := by
    rw [Connection.release, List.map_append, oneAtATime, List.foldlM_append]
    have hcalls := hinOrder.calls
    rw [oneAtATime] at hcalls
    rw [hcalls]
    change Option.bind (sequential.call violated? served) some = _
    rw [hcall]
    rfl
  results := by
    rw [Connection.release, List.map_append, hinOrder.results]
    rfl
  idle _ := rfl
  held _ _ hcallback := nomatch hcallback
  late := hinOrder.late

theorem InOrder.acquire (hinOrder : InOrder violated? database connection sequential)
    (hnext : connection.acquire = some next) :
    ∃ sequential, InOrder violated? database next sequential := by
  unfold Connection.acquire at hnext
  split at hnext
  · rename_i sql hcallback _
    cases hnext
    rw [hinOrder.idle hcallback]
    exact ⟨_, hinOrder.releases rfl⟩
  · rename_i sql hcallback _
    cases hnext
    rw [hinOrder.idle hcallback]
    exact ⟨_, hinOrder.releases rfl⟩
  · rename_i hcallback _
    rw [hinOrder.idle hcallback] at hnext
    cases hnext
    refine ⟨sequential, hinOrder.calls, hinOrder.results, fun hnone => (nomatch hnone), ?_,
      hinOrder.late⟩
    intro events answers hsome
    cases hsome
    rw [hinOrder.serving]
    refine ⟨rfl, rfl, fun client hclient => ?_⟩
    rw [List.mem_singleton.mp hclient]
    exact hinOrder.serving.symm
  · cases hnext

theorem InOrder.use (hinOrder : InOrder violated? database connection sequential)
    {event : ClientEvent Db Row Value} (hpossible : event.possible connection.state) :
    InOrder violated? database (connection.use violated? event) sequential := by
  -- the use of a client whose transaction does not hold the lock
  have hlate : (∀ client ∈ connection.state.active, client.transaction ≠ event.transaction) →
      InOrder violated? database { connection with
        state := (connection.state.perform violated? event).2
        late := connection.late ++ [(connection.state.perform violated? event).1] }
        sequential := by
    intro hinactive
    obtain ⟨hclosed, hsame⟩ :
        (connection.state.perform violated? event).1.IsClosed ∧
          (connection.state.perform violated? event).2 = connection.state :=
      perform_inactive hpossible hinactive
    rw [hsame]
    refine { hinOrder with late := fun answer hanswer => ?_ }
    rcases List.mem_append.mp hanswer with hold | hlast
    · exact hinOrder.late answer hold
    · rw [List.mem_singleton.mp hlast]
      exact hclosed
  unfold Connection.use
  dsimp only
  split
  · rename_i events answers hcallback
    obtain ⟨hperformed, hopen⟩ := hinOrder.held events answers hcallback
    split_ifs with hown
    · refine { hinOrder with idle := fun hnone => (nomatch hnone), held := ?_ }
      intro events' answers' hsome
      cases hsome
      refine ⟨?_, hopen.perform violated? event⟩
      rw [performAll_append, ← hperformed]
    · refine hlate fun client hclient hsame => hown ?_
      rw [← hsame]
      exact hopen.own client hclient
  · rename_i hcallback
    refine hlate fun client hclient => ?_
    rw [hinOrder.idle hcallback] at hclient
    cases hclient

theorem InOrder.settle (hinOrder : InOrder violated? database connection sequential)
    {outcome : Except Thrown Value}
    (hlast : ∀ client ∈ connection.state.active, client.path = [])
    (hnext : connection.settle violated? outcome = some next) :
    ∃ sequential, InOrder violated? database next sequential := by
  unfold Connection.settle at hnext
  split at hnext
  · cases hnext
  · rename_i events answers hcallback
    obtain ⟨hperformed, hopen⟩ := hinOrder.held events answers hcallback
    have hclosed : (connection.state.active.filter (· ≠ ⟨connection.serving, []⟩)) = [] := by
      rw [List.filter_eq_nil_iff]
      intro client hclient
      have hpath := hlast client hclient
      have hown := hopen.own client hclient
      obtain ⟨transaction, path⟩ := client
      dsimp only at hpath hown
      simp [hpath, hown]
    cases hnext
    have hanswers : (performAll violated? sequential.begun events).1 = answers := by
      rw [← hperformed]
    have hstate : (performAll violated? sequential.begun events).2 = connection.state := by
      rw [← hperformed]
    simp only [ClientState.rollback, ClientState.close, Session.rollback, Session.commit, hopen.begun, hclosed]
    cases outcome with
    | error error =>
        refine ⟨_, hinOrder.releases ?_⟩
        simp only [Sequential.call, hanswers, hstate]
    | ok value =>
        cases hviolated : violated? connection.state.session.database with
        | none =>
            refine ⟨_, hinOrder.releases ?_⟩
            simp only [Sequential.call, hanswers, hstate, hviolated]
        | some message =>
            refine ⟨_, hinOrder.releases ?_⟩
            simp only [Sequential.call, hanswers, hstate, hviolated]
            rfl

theorem InOrder.step (hinOrder : InOrder violated? database connection sequential)
    {event : ConnectionEvent Db Row Value} (hadmitted : SettlesLast connection event)
    (hnext : connection.step violated? event = some next) :
    ∃ sequential, InOrder violated? database next sequential := by
  cases event with
  | call request =>
      cases hnext
      exact ⟨sequential, { hinOrder with }⟩
  | acquire => exact hinOrder.acquire hnext
  | use event =>
      simp only [Connection.step] at hnext
      split_ifs at hnext with hpossible
      cases hnext
      exact ⟨sequential, hinOrder.use hpossible⟩
  | settle outcome => exact hinOrder.settle (hadmitted outcome rfl) hnext

end Steps

theorem exists_inOrder {violated? : Db → Option String} {database : Db}
    {connection : Connection Db Row Value}
    (hreaches : ConnectionReaches violated? SettlesLast database connection) :
    ∃ sequential, InOrder violated? database connection sequential := by
  induction hreaches with
  | initially =>
      exact ⟨.of database, rfl, rfl, fun _ => rfl, fun _ _ hsome => (nomatch hsome),
        fun _ hanswer => (nomatch hanswer)⟩
  | step event _ hadmitted hnext ih =>
      obtain ⟨sequential, hinOrder⟩ := ih
      exact hinOrder.step hadmitted hnext

/-- As long as no savepoint outlives the callback of its transaction, the connection is
serialisable, and a transaction which rejects contributes nothing. -/
theorem serialised_of_settlesLast {violated? : Db → Option String} {database : Db}
    {connection : Connection Db Row Value}
    (hreaches : ConnectionReaches violated? SettlesLast database connection) :
    ∃ sequential, Serialised violated? database connection sequential := by
  obtain ⟨sequential, hinOrder⟩ := exists_inOrder hreaches
  refine ⟨sequential, hinOrder.calls, hinOrder.results, fun hidle => ?_, fun hheld => ?_, ?_,
    hinOrder.late⟩
  · rw [hinOrder.idle hidle]
  · obtain ⟨⟨events, answers⟩, hcallback⟩ := Option.isSome_iff_exists.mp hheld
    exact (hinOrder.held events answers hcallback).2.begun
  · intro before events outcome answers error after hcompleted
    have hcalls := hinOrder.calls
    have hresults := hinOrder.results
    rw [hcompleted] at hcalls hresults
    obtain ⟨earlier, later, hearlier, hcall, houtcome⟩ := oneAtATime_split hcalls hresults
    exact ⟨earlier, later, hearlier, hcall, Sequential.database_of_rejected hcall houtcome⟩

theorem ConnectionReaches.append {violated? : Db → Option String}
    {Admitted : Connection Db Row Value → ConnectionEvent Db Row Value → Prop} {database : Db}
    {connection last : Connection Db Row Value} (events : List (ConnectionEvent Db Row Value))
    (hreaches : ConnectionReaches violated? Admitted database connection)
    (hadmitted : ∀ event ∈ events, ∀ connection, Admitted connection event)
    (hlast : events.foldlM (Connection.step violated?) connection = some last) :
    ConnectionReaches violated? Admitted database last := by
  induction events generalizing connection with
  | nil =>
      cases hlast
      exact hreaches
  | cons event events ih =>
      rw [List.foldlM_cons] at hlast
      obtain ⟨next, hnext, hrest⟩ := Option.bind_eq_some_iff.mp hlast
      exact ih (hreaches.step event (hadmitted event List.mem_cons_self connection) hnext)
        (fun other hother => hadmitted other (List.mem_cons_of_mem _ hother)) hrest

/-! ### The client of a savepoint which outlives its transaction -/

def outliving : List (ConnectionEvent (List String) Unit Unit) :=
  [.call .transaction, .acquire, .use (.savepoint firstTransaction),
    .settle (.error (.builtin "Error" "rolled back")),
    .use (.execute (firstTransaction.nested 1) (insertId "leaked"))]

theorem outliving_writes :
    (outliving.foldlM (Connection.step fun _ => none) (.of [])).map (fun connection =>
      (connection.state.session.database, connection.callback.isNone,
        (oneAtATime (fun _ => none) [] (connection.completed.map Prod.fst)).map
          Sequential.database)) = some (["leaked"], true, some []) := by
  decide

theorem outliving_breaks :
    ¬ ∀ (violated? : List String → Option String) (database : List String)
      (connection : Connection (List String) Unit Unit),
      ConnectionReaches violated? (fun _ _ => True) database connection →
        ∃ sequential, Serialised violated? database connection sequential := by
  intro hall
  obtain ⟨connection, hrun, hresult⟩ := Option.map_eq_some_iff.mp outliving_writes
  obtain ⟨hdatabase, hrest⟩ := Prod.mk.inj hresult
  obtain ⟨hcallback, hsequential⟩ := Prod.mk.inj hrest
  obtain ⟨sequential, hserialised⟩ := hall (fun _ => none) [] connection
    (ConnectionReaches.initially.append outliving (fun _ _ _ => trivial) hrun)
  rw [hserialised.calls, Option.map_some, Option.some.injEq] at hsequential
  rw [hserialised.idle (Option.isNone_iff_eq_none.mp hcallback)] at hdatabase
  change sequential.database = _ at hdatabase
  rw [hsequential] at hdatabase
  cases hdatabase

/-- Two transactions, the second called while the first runs; the first rejects after its
savepoint has resolved, and its client is used once more. -/
def overlappingCalls : List (ConnectionEvent (List String) Unit Unit) :=
  [.call .transaction, .acquire, .call .transaction, .use (.savepoint firstTransaction),
    .use (.execute (firstTransaction.nested 1) (insertId "first")),
    .use (.settle firstTransaction 1 (.ok ()))]

theorem overlappingCalls_serialised :
    ∃ connection next, overlappingCalls.foldlM (Connection.step fun _ => none)
        (.of []) = some connection ∧
      connection.step (fun _ => none) (.settle (.error (.builtin "Error" "rolled back"))) =
        some next ∧
      ∃ sequential, Serialised (fun _ => none) [] next sequential := by
  have hadmitted : ∀ event ∈ overlappingCalls, ∀ connection, SettlesLast connection event := by
    intro event hevent connection outcome hsettle
    rw [hsettle] at hevent
    simp [overlappingCalls] at hevent
  have hinitially : ConnectionReaches (fun _ => none)
      (SettlesLast : Connection (List String) Unit Unit → _ → Prop) [] (.of []) := .initially
  have hreaches := hinitially.append overlappingCalls hadmitted rfl
  refine ⟨_, _, rfl, rfl, serialised_of_settlesLast
    (hreaches.step (.settle (.error (.builtin "Error" "rolled back"))) ?_ rfl)⟩
  intro outcome _ client hclient
  rw [List.mem_singleton.mp hclient]

end TauriPlatform.MemoryDatabaseConnection
