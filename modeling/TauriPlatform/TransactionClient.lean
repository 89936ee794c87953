import TauriPlatform.DatabaseConnection
import TauriPlatform.SqliteSession

/-!
# Transaction clients

The clients of an in-memory transaction share the session of their connection, and each has a
flag of its own.  Savepoints of one transaction which overlap end each other: the session keeps
them on a stack, while the callbacks settle in any order.
-/

namespace TauriPlatform.MemoryDatabaseConnection

open Sqlite

variable {Db Row Value : Type}

/-! ## Clients -/

structure ClientId where
  transaction : Nat
  /-- The savepoints which it is in, the innermost first. -/
  path : List Nat
  deriving DecidableEq

def ClientId.nested (number : Nat) (client : ClientId) : ClientId :=
  { client with path := number :: client.path }

structure ClientState (Db : Type) where
  session : Session Db Nat
  savepointCounter : Nat
  /-- The clients whose flag is set. -/
  active : List ClientId

def clientClosed : Thrown :=
  databaseError "Transaction client is no longer active"
    "The database transaction has already completed" "db_tx_closed" none

def sessionError : SessionError Nat → Thrown
  | .nestedTransaction => sqliteError "cannot start a transaction within a transaction"
  | .cannotCommit => sqliteError "cannot commit - no transaction is active"
  | .cannotRollback => sqliteError "cannot rollback - no transaction is active"
  | .noSuchSavepoint number => sqliteError s!"no such savepoint: sp_{number}"
  | .failed message => sqliteError message

namespace ClientState

/-- `query` and `execute`, which differ in what they answer of the rows. -/
def run (client : ClientId) (sql : Sql Db Row) (state : ClientState Db) :
    Except Thrown (Rows Row) × ClientState Db :=
  if client ∈ state.active then
    let (answer, session) := state.session.run sql
    (answer.mapError sqliteError, { state with session := session })
  else (.error clientClosed, state)

def close (client : ClientId) (state : ClientState Db) : ClientState Db :=
  { state with active := state.active.filter (· ≠ client) }

/-- `savepoint`, up to the call of its callback with a client. -/
def savepoint (client : ClientId) (state : ClientState Db) :
    Except Thrown ClientId × ClientState Db :=
  if client ∈ state.active then
    let number := state.savepointCounter + 1
    (.ok (client.nested number), {
      session := state.session.savepoint number
      savepointCounter := number
      active := state.active ++ [client.nested number] })
  else (.error clientClosed, state)

/-- The statements of the handler of `savepoint`; their errors are swallowed. -/
def undo (violated? : Db → Option String) (number : Nat) (state : ClientState Db) :
    ClientState Db :=
  match state.session.rollbackTo number with
  | .error _ => state
  | .ok session =>
      match session.release violated? number with
      | .error _ => { state with session := session }
      | .ok session => { state with session := session }

/-- The rest of `savepoint`, once its callback has settled. -/
def settleSavepoint (violated? : Db → Option String) (parent : ClientId) (number : Nat)
    (outcome : Except Thrown Value) (state : ClientState Db) :
    Except Thrown Value × ClientState Db :=
  let closed := state.close (parent.nested number)
  match outcome with
  | .error error => (.error error, closed.undo violated? number)
  | .ok value =>
      match closed.session.release violated? number with
      | .ok session => (.ok value, { closed with session := session })
      | .error error => (.error (sessionError error), closed.undo violated? number)

end ClientState

/-! ## The savepoints of one transaction -/

/-- What a client has done to the database, after how many savepoints. -/
structure Write (Db : Type) where
  client : ClientId
  stamp : Nat
  effect : Db → Db

structure Settlement (Value : Type) where
  number : Nat
  callback : Except Thrown Value
  promise : Except Thrown Value

def Settlement.rejects (settlement : Settlement Value) : Bool :=
  match settlement.callback with
  | .error _ => true
  | .ok _ => false

/-- A transaction, with the writes of its clients and the savepoints which have settled. -/
structure SavepointRun (Db Value : Type) where
  state : ClientState Db
  writes : List (Write Db)
  settled : List (Settlement Value)

namespace SavepointRun

def begun (transaction counter : Nat) (base : Db) : SavepointRun Db Value where
  state := {
    session := { database := base, transaction := some (.begin, base), savepoints := [] }
    savepointCounter := counter
    active := [⟨transaction, []⟩] }
  writes := []
  settled := []

def rejected (run : SavepointRun Db Value) : List Nat :=
  (run.settled.filter Settlement.rejects).map Settlement.number

def keeps (run : SavepointRun Db Value) (write : Write Db) : Bool :=
  write.client.path.all fun number => number ∉ run.rejected

end SavepointRun

inductive SavepointEvent (Db Row Value : Type) where
  | run (client : ClientId) (sql : Sql Db Row)
  | savepoint (client : ClientId)
  | settle (parent : ClientId) (number : Nat) (outcome : Except Thrown Value)

def SavepointRun.step (violated? : Db → Option String) (run : SavepointRun Db Value) :
    SavepointEvent Db Row Value → Option (SavepointRun Db Value)
  | .run client sql =>
      some { run with
        state := (run.state.run client sql).2
        writes :=
          if client ∈ run.state.active then
            run.writes ++ [{
              client := client
              stamp := run.state.savepointCounter
              effect := fun database => (sql.inside database).2 }]
          else run.writes }
  | .savepoint client => some { run with state := (run.state.savepoint client).2 }
  | .settle parent number outcome =>
      if parent.nested number ∈ run.state.active then
        let (promise, state) := run.state.settleSavepoint violated? parent number outcome
        some { run with
          state := state
          settled := run.settled ++ [{
            number := number
            callback := outcome
            promise := promise }] }
      else none

inductive SavepointReaches (violated? : Db → Option String)
    (Admitted : SavepointRun Db Value → SavepointEvent Db Row Value → Prop)
    (initial : SavepointRun Db Value) : SavepointRun Db Value → Prop
  | initially : SavepointReaches violated? Admitted initial initial
  | step {run next : SavepointRun Db Value} (event : SavepointEvent Db Row Value) :
      SavepointReaches violated? Admitted initial run → Admitted run event →
      run.step violated? event = some next →
      SavepointReaches violated? Admitted initial next

/-! ## What is left of the writes -/

def replay (base : Db) (writes : List (Write Db)) : Db :=
  writes.foldl (fun database write => write.effect database) base

/-- The writes of callbacks which reject are undone, those of callbacks which resolve are
there, also once the transaction has committed, and each promise settles as its callback. -/
structure SavepointsAtomic (violated? : Db → Option String) (base : Db)
    (run : SavepointRun Db Value) : Prop where
  kept : run.state.session.database = replay base (run.writes.filter run.keeps)
  committed : ∀ session, run.state.session.commit violated? = .ok session →
    session.database = replay base (run.writes.filter run.keeps)
  promised : ∀ settlement ∈ run.settled, settlement.promise = settlement.callback

/-- A callback settles when its savepoint is the innermost one, and it rejects when no other
callback has a write in place which was made since its savepoint was opened. -/
def SettlesInnermost (run : SavepointRun Db Value) (event : SavepointEvent Db Row Value) : Prop :=
  ∀ parent number outcome, event = .settle parent number outcome →
    run.state.session.savepoints.head?.map Savepoint.name = some number ∧
      ∀ error, outcome = .error error → ∀ write ∈ run.writes, run.keeps write →
        number ≤ write.stamp → number ∈ write.client.path

/-- The stack of the session has the savepoints whose callbacks run, each with the database
which the writes before it left. -/
structure Stacked (base : Db) (run : SavepointRun Db Value) : Prop where
  begun : run.state.session.transaction = some (.begin, base)
  database : run.state.session.database = replay base (run.writes.filter run.keeps)
  snapshots : ∀ savepoint ∈ run.state.session.savepoints, savepoint.database =
    replay base (run.writes.filter fun write => run.keeps write && write.stamp < savepoint.name)
  ordered : run.state.session.savepoints.Pairwise fun inner outer => outer.name < inner.name
  bounded : ∀ savepoint ∈ run.state.session.savepoints,
    savepoint.name ≤ run.state.savepointCounter
  stamps : ∀ write ∈ run.writes, write.stamp ≤ run.state.savepointCounter ∧
    ∀ number ∈ write.client.path, number ≤ write.stamp
  opened : ∀ client ∈ run.state.active, ∀ number ∈ client.path,
    number ∈ run.state.session.savepoints.map Savepoint.name
  descending : ∀ client ∈ run.state.active, client.path.Pairwise (· > ·)
  distinct : ∀ left ∈ run.state.active, ∀ right ∈ run.state.active, ∀ number,
    left.path.head? = some number → right.path.head? = some number → left = right
  ended : ∀ number ∈ run.rejected, number ≤ run.state.savepointCounter ∧
    number ∉ run.state.session.savepoints.map Savepoint.name
  promised : ∀ settlement ∈ run.settled, settlement.promise = settlement.callback

section Steps

variable {violated? : Db → Option String} {base : Db} {run next : SavepointRun Db Value}
  {client parent : ClientId} {number : Nat}

theorem Stacked.initially (transaction counter : Nat) (base : Db) :
    Stacked base (SavepointRun.begun transaction counter base : SavepointRun Db Value) where
  begun := rfl
  database := rfl
  snapshots _ hsavepoint := nomatch hsavepoint
  ordered := .nil
  bounded _ hsavepoint := nomatch hsavepoint
  stamps _ hwrite := nomatch hwrite
  opened client hclient number hnumber := by
    rw [List.mem_singleton.mp hclient] at hnumber
    cases hnumber
  descending client hclient := by
    rw [List.mem_singleton.mp hclient]
    exact .nil
  distinct left hleft right hright _ _ _ :=
    (List.mem_singleton.mp hleft).trans (List.mem_singleton.mp hright).symm
  ended _ hnumber := nomatch hnumber
  promised _ hsettlement := nomatch hsettlement

theorem replay_append (base : Db) (writes later : List (Write Db)) :
    replay base (writes ++ later) = replay (replay base writes) later :=
  List.foldl_append

theorem Stacked.keeps (hstacked : Stacked base run) (hactive : client ∈ run.state.active)
    (stamp : Nat) (effect : Db → Db) : run.keeps ⟨client, stamp, effect⟩ := by
  rw [SavepointRun.keeps, List.all_eq_true]
  intro number hnumber
  have hopened := hstacked.opened client hactive number hnumber
  simpa using fun hrejected => (hstacked.ended number hrejected).2 hopened

theorem run_inside {state : ClientState Db} {opening : Opening × Db}
    (hactive : client ∈ state.active) (hopen : state.session.transaction = some opening)
    (sql : Sql Db Row) :
    state.run client sql = ((sql.inside state.session.database).1.mapError sqliteError,
      { state with session :=
        { state.session with database := (sql.inside state.session.database).2 } }) := by
  simp only [ClientState.run, if_pos hactive, Session.run, hopen]

theorem Stacked.hasRun (hstacked : Stacked base run) (sql : Sql Db Row)
    (hnext : run.step violated? (.run client sql) = some next) : Stacked base next := by
  cases hnext
  by_cases hactive : client ∈ run.state.active
  · rw [if_pos hactive, run_inside hactive hstacked.begun]
    refine { hstacked with database := ?_, snapshots := ?_, stamps := ?_ }
    · change _ = replay base (List.filter run.keeps _)
      rw [List.filter_append, List.filter_cons_of_pos (hstacked.keeps hactive _ _),
        List.filter_nil, replay_append, ← hstacked.database]
      rfl
    · intro savepoint hsavepoint
      have hbounded := hstacked.bounded savepoint hsavepoint
      change _ = replay base (List.filter (fun write => run.keeps write && _) _)
      rw [List.filter_append, List.filter_cons_of_neg, List.filter_nil, List.append_nil]
      · exact hstacked.snapshots savepoint hsavepoint
      · simp only [Bool.and_eq_true, decide_eq_true_eq, not_and, not_lt]
        exact fun _ => hbounded
    · intro write hwrite
      rcases List.mem_append.mp hwrite with hold | hlast
      · exact hstacked.stamps write hold
      · rw [List.mem_singleton.mp hlast]
        refine ⟨le_rfl, fun number hnumber => ?_⟩
        obtain ⟨savepoint, hsavepoint, rfl⟩ :=
          List.mem_map.mp (hstacked.opened client hactive number hnumber)
        exact hstacked.bounded savepoint hsavepoint
  · rw [if_neg hactive, ClientState.run, if_neg hactive]
    exact hstacked

theorem Stacked.savepoint (hstacked : Stacked base run) (hactive : client ∈ run.state.active) :
    Stacked base { run with state := (run.state.savepoint client).2 } := by
  rw [ClientState.savepoint, if_pos hactive]
  have hfresh : ∀ number ∈ run.state.session.savepoints.map Savepoint.name,
      number < run.state.savepointCounter + 1 := by
    intro number hnumber
    obtain ⟨savepoint, hsavepoint, rfl⟩ := List.mem_map.mp hnumber
    exact Nat.lt_succ_of_le (hstacked.bounded savepoint hsavepoint)
  have hpath : ∀ {other}, other ∈ run.state.active → ∀ number ∈ other.path,
      number < run.state.savepointCounter + 1 :=
    fun hother number hnumber => hfresh number (hstacked.opened _ hother number hnumber)
  have hcases : ∀ {other}, other ∈ run.state.active ++
      [client.nested (run.state.savepointCounter + 1)] →
      other ∈ run.state.active ∨ other = client.nested (run.state.savepointCounter + 1) := by
    intro other hother
    exact (List.mem_append.mp hother).imp_right List.mem_singleton.mp
  constructor
  · simp only [Session.savepoint, hstacked.begun, Option.getD_some]
  · exact hstacked.database
  · intro savepoint hsavepoint
    rcases List.mem_cons.mp hsavepoint with rfl | hold
    · change run.state.session.database = _
      rw [hstacked.database]
      refine congrArg (replay base) (List.filter_congr fun write hwrite => ?_)
      have hstamp := (hstacked.stamps write hwrite).1
      change run.keeps write =
        (run.keeps write && decide (write.stamp < run.state.savepointCounter + 1))
      rw [decide_eq_true (Nat.lt_succ_of_le hstamp), Bool.and_true]
    · exact hstacked.snapshots savepoint hold
  · refine List.pairwise_cons.mpr ⟨fun savepoint hsavepoint => ?_, hstacked.ordered⟩
    exact hfresh _ (List.mem_map_of_mem hsavepoint)
  · intro savepoint hsavepoint
    rcases List.mem_cons.mp hsavepoint with rfl | hold
    · exact le_rfl
    · exact (hstacked.bounded savepoint hold).trans (Nat.le_succ _)
  · intro write hwrite
    obtain ⟨hstamp, hnumbers⟩ := hstacked.stamps write hwrite
    exact ⟨hstamp.trans (Nat.le_succ _), hnumbers⟩
  · intro other hother number hnumber
    change number ∈ (run.state.savepointCounter + 1) ::
      run.state.session.savepoints.map Savepoint.name
    rcases hcases hother with hold | rfl
    · exact List.mem_cons_of_mem _ (hstacked.opened other hold number hnumber)
    · rcases List.mem_cons.mp hnumber with rfl | hparent
      · exact List.mem_cons_self
      · exact List.mem_cons_of_mem _ (hstacked.opened client hactive number hparent)
  · intro other hother
    rcases hcases hother with hold | rfl
    · exact hstacked.descending other hold
    · exact List.pairwise_cons.mpr ⟨hpath hactive, hstacked.descending client hactive⟩
  · -- the new client is the only one at the new savepoint
    have hnew : ∀ {other}, other ∈ run.state.active →
        other.path.head? ≠ some (run.state.savepointCounter + 1) := by
      intro other hother hhead
      exact lt_irrefl _ (hpath hother _ (List.mem_of_head? hhead))
    intro left hleft right hright number hleftHead hrightHead
    rcases hcases hleft with hleft | rfl
    · rcases hcases hright with hright | rfl
      · exact hstacked.distinct left hleft right hright number hleftHead hrightHead
      · exact absurd (hleftHead.trans hrightHead.symm) (hnew hleft)
    · rcases hcases hright with hright | rfl
      · exact absurd (hrightHead.trans hleftHead.symm) (hnew hright)
      · rfl
  · intro number hrejected
    obtain ⟨hbounded, hclosed⟩ := hstacked.ended number hrejected
    refine ⟨hbounded.trans (Nat.le_succ _), ?_⟩
    change number ∉ (run.state.savepointCounter + 1) ::
      run.state.session.savepoints.map Savepoint.name
    rw [List.mem_cons, not_or]
    exact ⟨(Nat.lt_succ_of_le hbounded).ne, hclosed⟩
  · exact hstacked.promised

variable {innermost : Savepoint Db Nat} {rest : List (Savepoint Db Nat)}

theorem settleSavepoint_innermost {state : ClientState Db} {before : Db}
    (hbegun : state.session.transaction = some (.begin, before))
    (hsavepoints : state.session.savepoints = innermost :: rest) (violated? : Db → Option String)
    (parent : ClientId) (outcome : Except Thrown Value) :
    state.settleSavepoint violated? parent innermost.name outcome = (outcome,
      { state.close (parent.nested innermost.name) with
        session := { state.session with
          database := match outcome with
            | .ok _ => state.session.database
            | .error _ => innermost.database
          savepoints := rest } }) := by
  cases outcome with
  | ok value =>
      have hrelease := Session.release_innermost hsavepoints hbegun violated?
      simp only [ClientState.settleSavepoint, ClientState.close, hrelease]
  | error error =>
      have hrollback := Session.rollbackTo_innermost hsavepoints
      have hrelease := @Session.release_innermost Db Nat _ { state.session with
          database := innermost.database, savepoints := innermost :: rest } innermost rest rfl
        before hbegun violated?
      simp only [ClientState.settleSavepoint, ClientState.undo, ClientState.close, hrollback,
        hrelease]

theorem Stacked.opened_rest (hstacked : Stacked base run)
    (hsavepoints : run.state.session.savepoints = innermost :: rest)
    (hsettles : parent.nested innermost.name ∈ run.state.active)
    (hclient : client ∈ run.state.active) (hother : client ≠ parent.nested innermost.name) :
    ∀ number ∈ client.path, number ∈ rest.map Savepoint.name := by
  have hopened := hstacked.opened client hclient
  have hordered := hstacked.ordered
  rw [hsavepoints, List.pairwise_cons] at hordered
  rw [hsavepoints] at hopened
  intro number hnumber
  refine (List.mem_cons.mp (hopened number hnumber)).resolve_left fun hinnermost => hother ?_
  -- the client would be at the innermost savepoint itself
  cases hpath : client.path with
  | nil =>
      rw [hpath] at hnumber
      cases hnumber
  | cons head outer =>
      have hhead : head = innermost.name := by
        have hdescending := hstacked.descending client hclient
        rw [hpath, List.pairwise_cons] at hdescending
        rw [hpath] at hnumber
        rcases List.mem_cons.mp hnumber with rfl | houter
        · exact hinnermost
        · have hless := hdescending.1 number houter
          have hmem := hopened head (hpath ▸ List.mem_cons_self)
          rcases List.mem_cons.mp hmem with hsame | hlower
          · exact hsame
          · obtain ⟨savepoint, hsavepoint, rfl⟩ := List.mem_map.mp hlower
            have hbelow := hordered.1 savepoint hsavepoint
            omega
      refine hstacked.distinct client hclient _ hsettles innermost.name ?_ rfl
      rw [hpath, hhead]
      rfl

/-- The transaction after a callback has settled at the innermost savepoint, with what is known
of the writes which are kept then. -/
theorem Stacked.settles (hstacked : Stacked base run)
    (hsavepoints : run.state.session.savepoints = innermost :: rest)
    (hsettles : parent.nested innermost.name ∈ run.state.active) (outcome : Except Thrown Value)
    {database : Db} (hnext : next = {
      state := { run.state.close (parent.nested innermost.name) with
        session := { run.state.session with database := database, savepoints := rest } }
      writes := run.writes
      settled := run.settled ++ [⟨innermost.name, outcome, outcome⟩] })
    (hkept : database = replay base (run.writes.filter next.keeps))
    (hbelow : ∀ write ∈ run.writes, write.stamp < innermost.name →
      next.keeps write = run.keeps write) : Stacked base next := by
  have hordered := hstacked.ordered
  rw [hsavepoints, List.pairwise_cons] at hordered
  have hrest : ∀ savepoint ∈ rest, savepoint ∈ run.state.session.savepoints := by
    rw [hsavepoints]
    exact fun savepoint => List.mem_cons_of_mem innermost
  have hactive : ∀ {client}, client ∈ next.state.active →
      client ∈ run.state.active ∧ client ≠ parent.nested innermost.name := by
    intro client hclient
    rw [hnext] at hclient
    simpa using List.mem_filter.mp hclient
  have hinnermost : innermost.name ≤ run.state.savepointCounter ∧
      innermost.name ∉ rest.map Savepoint.name := by
    refine ⟨hstacked.bounded innermost (hsavepoints ▸ List.mem_cons_self), fun hmem => ?_⟩
    obtain ⟨savepoint, hsavepoint, hname⟩ := List.mem_map.mp hmem
    have hless := hordered.1 savepoint hsavepoint
    omega
  have hwrites : next.writes = run.writes := by rw [hnext]
  have hstate : next.state.session =
      { run.state.session with database := database, savepoints := rest } := by rw [hnext]
  have hcounter : next.state.savepointCounter = run.state.savepointCounter := by
    rw [hnext]
    rfl
  constructor
  · rw [hstate]
    exact hstacked.begun
  · rw [hstate, hwrites]
    exact hkept
  · rw [hstate, hwrites]
    intro savepoint hsavepoint
    rw [hstacked.snapshots savepoint (hrest savepoint hsavepoint)]
    refine congrArg (replay base) (List.filter_congr fun write hwrite => ?_)
    by_cases hstamp : write.stamp < savepoint.name
    · rw [hbelow write hwrite (hstamp.trans (hordered.1 savepoint hsavepoint))]
    · rw [decide_eq_false hstamp, Bool.and_false, Bool.and_false]
  · rw [hstate]
    exact hordered.2
  · rw [hstate, hcounter]
    exact fun savepoint hsavepoint => hstacked.bounded savepoint (hrest savepoint hsavepoint)
  · rw [hwrites, hcounter]
    exact hstacked.stamps
  · rw [hstate]
    intro client hclient
    obtain ⟨hold, hother⟩ := hactive hclient
    exact hstacked.opened_rest hsavepoints hsettles hold hother
  · exact fun client hclient => hstacked.descending client (hactive hclient).1
  · intro left hleft right hright
    exact hstacked.distinct left (hactive hleft).1 right (hactive hright).1
  · rw [hstate, hcounter]
    intro number hrejected
    rw [SavepointRun.rejected, hnext, List.filter_append, List.map_append,
      List.mem_append] at hrejected
    rcases hrejected with hold | hlast
    · obtain ⟨hbounded, hclosed⟩ := hstacked.ended number hold
      rw [hsavepoints] at hclosed
      exact ⟨hbounded, fun hmem => hclosed (List.mem_cons_of_mem _ hmem)⟩
    · obtain ⟨settlement, hsettlement, rfl⟩ := List.mem_map.mp hlast
      rw [List.mem_singleton.mp (List.mem_filter.mp hsettlement).1]
      exact hinnermost
  · intro settlement hsettlement
    rw [hnext] at hsettlement
    rcases List.mem_append.mp hsettlement with hold | hlast
    · exact hstacked.promised settlement hold
    · rw [List.mem_singleton.mp hlast]

theorem Stacked.settle (hstacked : Stacked base run) {outcome : Except Thrown Value}
    (hadmitted : SettlesInnermost run
      (.settle parent number outcome : SavepointEvent Db Row Value))
    (hnext : run.step violated? (.settle parent number outcome : SavepointEvent Db Row Value) =
      some next) : Stacked base next := by
  obtain ⟨hhead, hwrites⟩ := hadmitted parent number outcome rfl
  obtain ⟨innermost, hinnermost, rfl⟩ := Option.map_eq_some_iff.mp hhead
  obtain ⟨rest, hsavepoints⟩ := List.head?_eq_some_iff.mp hinnermost
  simp only [SavepointRun.step] at hnext
  split_ifs at hnext with hsettles
  rw [settleSavepoint_innermost hstacked.begun hsavepoints] at hnext
  have hnext := (Option.some.inj hnext).symm
  cases outcome with
  | ok value =>
      have hkeeps : next.keeps = run.keeps := by
        funext write
        rw [hnext]
        simp [SavepointRun.keeps, SavepointRun.rejected, Settlement.rejects]
      refine hstacked.settles hsavepoints hsettles (.ok value) hnext ?_ ?_
      · rw [hkeeps]
        exact hstacked.database
      · rw [hkeeps]
        exact fun _ _ _ => rfl
  | error error =>
      have hrejected : next.rejected = run.rejected ++ [innermost.name] := by
        rw [hnext, SavepointRun.rejected, List.filter_append, List.map_append]
        rfl
      have hkeeps : ∀ write, next.keeps write =
          (run.keeps write && decide (innermost.name ∉ write.client.path)) := by
        intro write
        rw [Bool.eq_iff_iff]
        simp only [SavepointRun.keeps, hrejected, List.all_eq_true, List.mem_append,
          List.mem_singleton, not_or, Bool.and_eq_true, decide_eq_true_eq]
        constructor
        · intro hall
          exact ⟨fun number hnumber => (hall number hnumber).1,
            fun hmem => (hall _ hmem).2 rfl⟩
        · rintro ⟨hold, hnew⟩ number hnumber
          exact ⟨hold number hnumber, fun hsame => hnew (hsame ▸ hnumber)⟩
      -- a write before the savepoint was not made in it
      have houtside : ∀ write ∈ run.writes, write.stamp < innermost.name →
          innermost.name ∉ write.client.path := by
        intro write hwrite hstamp hmem
        have hle := (hstacked.stamps write hwrite).2 innermost.name hmem
        omega
      refine hstacked.settles hsavepoints hsettles (.error error) hnext ?_ ?_
      · change innermost.database = _
        rw [hstacked.snapshots innermost (hsavepoints ▸ List.mem_cons_self)]
        refine congrArg (replay base) (List.filter_congr fun write hwrite => ?_)
        rw [hkeeps, Bool.eq_iff_iff, Bool.and_eq_true, Bool.and_eq_true, decide_eq_true_eq,
          decide_eq_true_eq]
        refine and_congr_right fun hkept => ?_
        constructor
        · exact houtside write hwrite
        · intro hmem
          by_contra hstamp
          exact hmem (hwrites error rfl write hwrite hkept (not_lt.mp hstamp))
      · intro write hwrite hstamp
        rw [hkeeps, decide_eq_true (houtside write hwrite hstamp), Bool.and_true]

theorem Stacked.step (hstacked : Stacked base run) {event : SavepointEvent Db Row Value}
    (hadmitted : SettlesInnermost run event) (hnext : run.step violated? event = some next) :
    Stacked base next := by
  cases event with
  | run client sql => exact hstacked.hasRun sql hnext
  | savepoint client =>
      cases hnext
      by_cases hactive : client ∈ run.state.active
      · exact hstacked.savepoint hactive
      · rw [ClientState.savepoint, if_neg hactive]
        exact hstacked
  | settle parent number outcome => exact hstacked.settle hadmitted hnext

end Steps

/-- As long as the callbacks settle innermost first, and none rejects over the writes of
another, savepoints are atomic. -/
theorem savepointsAtomic_of_settlesInnermost {violated? : Db → Option String}
    {transaction counter : Nat} {base : Db} {run : SavepointRun Db Value}
    (hreaches : SavepointReaches violated?
      (SettlesInnermost : SavepointRun Db Value → SavepointEvent Db Row Value → Prop)
      (.begun transaction counter base) run) :
    SavepointsAtomic violated? base run := by
  have hstacked : Stacked base run := by
    induction hreaches with
    | initially => exact .initially transaction counter base
    | step event _ hadmitted hnext ih => exact ih.step hadmitted hnext
  refine ⟨hstacked.database, fun session hcommit => ?_, hstacked.promised⟩
  rw [← hstacked.database]
  unfold Session.commit at hcommit
  split at hcommit
  · cases hcommit
  · cases hcommit
  · cases hcommit
    rfl

theorem SavepointReaches.append {violated? : Db → Option String}
    {Admitted : SavepointRun Db Value → SavepointEvent Db Row Value → Prop}
    {initial run last : SavepointRun Db Value} (events : List (SavepointEvent Db Row Value))
    (hreaches : SavepointReaches violated? Admitted initial run)
    (hadmitted : ∀ event ∈ events, ∀ run, Admitted run event)
    (hlast : events.foldlM (SavepointRun.step violated?) run = some last) :
    SavepointReaches violated? Admitted initial last := by
  induction events generalizing run with
  | nil =>
      cases hlast
      exact hreaches
  | cons event events ih =>
      rw [List.foldlM_cons] at hlast
      obtain ⟨next, hnext, hrest⟩ := Option.bind_eq_some_iff.mp hlast
      exact ih (hreaches.step event (hadmitted event List.mem_cons_self run) hnext)
        (fun other hother => hadmitted other (List.mem_cons_of_mem _ hother)) hrest

/-! ### Savepoints which overlap -/

def insertId (id : String) : Sql (List String) Unit where
  text := "INSERT INTO items (id) VALUES (?)"
  inside ids := (.ok { rows := [], rowsAffected := 1 }, ids ++ [id])
  alone ids := (.ok { rows := [], rowsAffected := 1 }, ids ++ [id])

def firstTransaction : ClientId where
  transaction := 0
  path := []

def overlapping : List (SavepointEvent (List String) Unit Unit) :=
  [.savepoint firstTransaction, .savepoint firstTransaction,
    .run (firstTransaction.nested 1) (insertId "first"),
    .settle firstTransaction 2 (.error (.builtin "Error" "second")),
    .settle firstTransaction 1 (.ok ())]

theorem overlapping_undoes :
    (overlapping.foldlM (SavepointRun.step fun _ => none) (.begun 0 0 [])).map (fun run =>
      (run.state.session.database, replay [] (run.writes.filter run.keeps))) =
        some ([], ["first"]) := by
  decide

theorem overlapping_breaks :
    ¬ ∀ (violated? : List String → Option String) (transaction counter : Nat)
      (base : List String) (run : SavepointRun (List String) Unit),
      SavepointReaches violated? (fun _ (_ : SavepointEvent (List String) Unit Unit) => True)
        (.begun transaction counter base) run → SavepointsAtomic violated? base run := by
  intro hall
  obtain ⟨run, hrun, hresult⟩ := Option.map_eq_some_iff.mp overlapping_undoes
  obtain ⟨hdatabase, hreplay⟩ := Prod.mk.inj hresult
  have hkept := (hall (fun _ => none) 0 0 [] run
    (SavepointReaches.initially.append overlapping (fun _ _ _ => trivial) hrun)).kept
  rw [hdatabase, hreplay] at hkept
  cases hkept

theorem rejected_atomic :
    ∃ run, [.savepoint firstTransaction, .run (firstTransaction.nested 1) (insertId "first")].foldlM
        (SavepointRun.step fun _ => none)
        (.begun 0 0 [] : SavepointRun (List String) Unit) = some run ∧
      ∃ next, run.step (fun _ => none) (.settle firstTransaction 1
          (.error (.builtin "Error" "first")) : SavepointEvent (List String) Unit Unit) =
            some next ∧ SavepointsAtomic (fun _ => none) [] next := by
  have hadmitted : ∀ event ∈ ([.savepoint firstTransaction,
      .run (firstTransaction.nested 1) (insertId "first")] :
        List (SavepointEvent (List String) Unit Unit)), ∀ run : SavepointRun (List String) Unit,
      SettlesInnermost run event := by
    intro event hevent run parent number outcome hsettle
    rw [hsettle] at hevent
    simp at hevent
  have hinitially : SavepointReaches (fun _ => none)
      (SettlesInnermost : SavepointRun (List String) Unit →
        SavepointEvent (List String) Unit Unit → Prop) (.begun 0 0 []) (.begun 0 0 []) :=
    .initially
  have hreaches := hinitially.append _ hadmitted rfl
  refine ⟨_, rfl, _, rfl, savepointsAtomic_of_settlesInnermost
    (hreaches.step (.settle firstTransaction 1 (.error (.builtin "Error" "first"))) ?_ rfl)⟩
  intro parent number outcome hsettle
  cases hsettle
  refine ⟨rfl, fun error _ write hwrite _ _ => ?_⟩
  rw [List.mem_singleton.mp hwrite]
  exact List.mem_cons_self

end TauriPlatform.MemoryDatabaseConnection
