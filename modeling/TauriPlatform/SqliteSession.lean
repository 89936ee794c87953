import Mathlib.Data.List.Basic
import Mathlib.Tactic.Common

/-!
# Sessions of SQLite

A session has a database and, while a transaction is open, the database as it was before and a
stack of savepoints.  Releasing a savepoint or rolling back to one ends those above it.  The
module names nothing of a particular program.
-/

namespace Sqlite

variable {Db Name Row : Type}

inductive SessionError (Name : Type) where
  | nestedTransaction
  | cannotCommit
  | cannotRollback
  | noSuchSavepoint (name : Name)
  | failed (message : String)
  deriving DecidableEq

inductive Opening where
  | begin
  | savepoint
  deriving DecidableEq

structure Savepoint (Db Name : Type) where
  name : Name
  database : Db

structure Session (Db Name : Type) where
  database : Db
  /-- How the transaction was opened, and the database at that time. -/
  transaction : Option (Opening × Db)
  /-- The innermost comes first. -/
  savepoints : List (Savepoint Db Name)

structure Rows (Row : Type) where
  rows : List Row
  rowsAffected : Nat

/-- A text of SQL without transaction control: what it does to a database in an open transaction
and on its own, where each of its statements commits.  A text of several statements may fail
after some of them. -/
structure Sql (Db Row : Type) where
  text : String
  inside : Db → Except String (Rows Row) × Db
  alone : Db → Except String (Rows Row) × Db

namespace Session

def idle (database : Db) : Session Db Name where
  database := database
  transaction := none
  savepoints := []

def run (sql : Sql Db Row) (session : Session Db Name) :
    Except String (Rows Row) × Session Db Name :=
  let (answer, later) :=
    match session.transaction with
    | none => sql.alone session.database
    | some _ => sql.inside session.database
  (answer, { session with database := later })

/-- `BEGIN`. -/
def beginTransaction (session : Session Db Name) :
    Except (SessionError Name) (Session Db Name) :=
  match session.transaction with
  | some _ => .error .nestedTransaction
  | none => .ok { session with transaction := some (.begin, session.database) }

/-- `COMMIT`; `violated?` is the failure of the deferred constraints, if they fail. -/
def commit (violated? : Db → Option String) (session : Session Db Name) :
    Except (SessionError Name) (Session Db Name) :=
  match session.transaction, violated? session.database with
  | none, _ => .error .cannotCommit
  | some _, some message => .error (.failed message)
  | some _, none => .ok (idle session.database)

def rollback (session : Session Db Name) : Except (SessionError Name) (Session Db Name) :=
  match session.transaction with
  | none => .error .cannotRollback
  | some (_, before) => .ok (idle before)

def savepoint (name : Name) (session : Session Db Name) : Session Db Name :=
  { session with
    transaction := some (session.transaction.getD (.savepoint, session.database))
    savepoints := ⟨name, session.database⟩ :: session.savepoints }

variable [DecidableEq Name]

def within (name : Name) (session : Session Db Name) : List (Savepoint Db Name) :=
  session.savepoints.dropWhile fun savepoint => savepoint.name ≠ name

def release (violated? : Db → Option String) (name : Name) (session : Session Db Name) :
    Except (SessionError Name) (Session Db Name) :=
  match session.within name with
  | [] => .error (.noSuchSavepoint name)
  | _ :: rest =>
      if rest = [] ∧ session.transaction.map Prod.fst = some .savepoint then
        session.commit violated?
      else .ok { session with savepoints := rest }

def rollbackTo (name : Name) (session : Session Db Name) :
    Except (SessionError Name) (Session Db Name) :=
  match session.within name with
  | [] => .error (.noSuchSavepoint name)
  | savepoint :: rest =>
      .ok { session with database := savepoint.database, savepoints := savepoint :: rest }

/-! ## The innermost savepoint -/

section Innermost

variable {session : Session Db Name} {innermost : Savepoint Db Name}
  {rest : List (Savepoint Db Name)}

theorem within_innermost (hsavepoints : session.savepoints = innermost :: rest) :
    session.within innermost.name = innermost :: rest := by
  rw [within, hsavepoints, List.dropWhile_cons_of_neg (by simp)]

/-- In a transaction which `BEGIN` has opened, releasing the innermost savepoint takes it off. -/
theorem release_innermost (hsavepoints : session.savepoints = innermost :: rest) {before : Db}
    (hbegun : session.transaction = some (.begin, before)) (violated? : Db → Option String) :
    session.release violated? innermost.name = .ok { session with savepoints := rest } := by
  rw [release, within_innermost hsavepoints]
  dsimp only
  rw [if_neg (by simp [hbegun])]

theorem rollbackTo_innermost (hsavepoints : session.savepoints = innermost :: rest) :
    session.rollbackTo innermost.name =
      .ok { session with database := innermost.database, savepoints := innermost :: rest } := by
  rw [rollbackTo, within_innermost hsavepoints]

end Innermost
end Session
end Sqlite
