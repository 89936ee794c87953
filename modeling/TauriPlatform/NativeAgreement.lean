import TauriPlatform.DurableDatabase

/-!
# Where the native database agrees with the in-memory one

The native database answers a statement as the in-memory one does if the statement
is admitted: its text is not refused, its request and its result are within the
bounds, and it is sent to the command which fits it.
-/

namespace TauriPlatform

open Async

namespace DurableDatabase

/-! ## Statements which are not refused -/

theorem nextSqlKeyword_of_word {chars word rest : List Char}
    (htext : chars.dropWhile isBlankOrSemicolon = word ++ ' ' :: rest)
    (hword : ∀ c ∈ word, isKeywordChar c) (hnonempty : word ≠ []) :
    nextSqlKeyword chars = some (String.ofList (word.map Char.toUpper), ' ' :: rest) := by
  have hskip : skipTrivia (chars.length + 1) chars = some (word ++ ' ' :: rest) := by
    rw [skipTrivia, htext]
    cases word with
    | nil => exact absurd rfl hnonempty
    | cons first others =>
        have hfirst := hword first List.mem_cons_self
        -- A keyword character opens no comment, and is no byte order mark.
        have hminus : first ≠ '-' := by
          rintro rfl
          exact absurd hfirst (by decide)
        have hslash : first ≠ '/' := by
          rintro rfl
          exact absurd hfirst (by decide)
        have hmark : first.toNat ≠ 0xFEFF := by
          intro hmark
          rw [Char.ext (UInt32.toNat_inj.mp hmark : first.val = '\uFEFF'.val)] at hfirst
          exact absurd hfirst (by decide)
        rw [List.cons_append]
        split
        · next heq => exact absurd (List.cons.inj heq).1 hminus
        · next heq => exact absurd (List.cons.inj heq).1 hslash
        · next c others' _ _ heq =>
            cases heq
            rw [if_neg hmark]
        · next heq => cases heq
  have htake : (word ++ ' ' :: rest).takeWhile isKeywordChar = word := by
    rw [List.takeWhile_append_of_pos hword, List.takeWhile_cons_of_neg (by decide),
      List.append_nil]
  have hdrop : (word ++ ' ' :: rest).dropWhile isKeywordChar = ' ' :: rest := by
    rw [List.dropWhile_append_of_pos hword, List.dropWhile_cons_of_neg (by decide)]
  simp only [nextSqlKeyword, hskip, Option.bind_eq_bind, Option.bind_some, htake, hdrop,
    if_neg hnonempty]

theorem validateSafeSql_of_command (command : String) {chars : List Char}
    (htext : (chars.dropWhile isBlankOrSemicolon).take (command.toList.length + 1) =
      command.toList ++ [' '])
    (hsafe : command ∈ ["SELECT", "INSERT", "UPDATE", "DELETE"]) :
    validateSafeSql (String.ofList chars) = .ok () := by
  have hsplit : chars.dropWhile isBlankOrSemicolon =
      command.toList ++ ' ' :: (chars.dropWhile isBlankOrSemicolon).drop
        (command.toList.length + 1) := by
    rw [← List.singleton_append, ← List.append_assoc, ← htext, List.take_append_drop]
  have hcommand : (∀ c ∈ command.toList, isKeywordChar c) ∧ command.toList ≠ [] ∧
      String.ofList (command.toList.map Char.toUpper) = command := by
    simp only [List.mem_cons, List.not_mem_nil, or_false] at hsafe
    rcases hsafe with rfl | rfl | rfl | rfl <;>
      exact ⟨List.all_eq_true.mp (by decide), by decide, rfl⟩
  obtain ⟨hword, hnonempty, hupper⟩ := hcommand
  have hnext := nextSqlKeyword_of_word hsplit hword hnonempty
  rw [hupper] at hnext
  simp only [validateSafeSql, String.toList_ofList, hnext, Option.getD_some]
  simp only [List.mem_cons, List.not_mem_nil, or_false] at hsafe
  rcases hsafe with rfl | rfl | rfl | rfl <;> rfl

/-! ## Results within the bounds -/

variable {Db Row : Type}

def rowBytes (columns : List (Column Row)) (row : Row) : Nat :=
  (columns.map (cellBytes row)).sum

def resultBytes (columns : List (Column Row)) (rows : List Row) : Nat :=
  (rows.map (rowBytes columns)).sum

@[simp] theorem resultBytes_nil (columns : List (Column Row)) :
    resultBytes columns [] = 0 :=
  rfl

@[simp] theorem resultBytes_cons (columns : List (Column Row)) (row : Row)
    (rows : List Row) :
    resultBytes columns (row :: rows) = rowBytes columns row + resultBytes columns rows := by
  simp [resultBytes]

theorem addRowBytes_eq_some_iff {row : Row} {columns : List (Column Row)}
    {estimate total : Nat} (hestimate : estimate ≤ maxQueryResultBytes) :
    addRowBytes row columns estimate = some total ↔
      total = estimate + rowBytes columns row ∧ total ≤ maxQueryResultBytes := by
  induction columns generalizing estimate with
  | nil =>
      simp only [addRowBytes, rowBytes, List.map_nil, List.sum_nil, Nat.add_zero,
        Option.some.injEq]
      constructor
      · rintro rfl
        exact ⟨rfl, hestimate⟩
      · rintro ⟨rfl, -⟩
        rfl
  | cons column rest ih =>
      -- A cell which is too large by itself exceeds the estimate, too.
      have hraw : rawSize (column.cell row) ≤ cellBytes row column := by
        unfold cellBytes
        omega
      simp only [addRowBytes, rowBytes, List.map_cons, List.sum_cons]
      split_ifs with hexceeds
      · constructor
        · intro hnone
          cases hnone
        · rintro ⟨rfl, htotal⟩
          omega
      · rw [ih (by omega)]
        simp only [rowBytes, Nat.add_assoc]

variable {rows : List Row}

theorem checkRows_eq_ok_iff {columns : List (Column Row)} {count estimate : Nat}
    (hcount : count ≤ maxQueryResultRows) (hestimate : estimate ≤ maxQueryResultBytes) :
    checkRows columns rows count estimate = .ok () ↔
      count + rows.length ≤ maxQueryResultRows ∧
        estimate + resultBytes columns rows ≤ maxQueryResultBytes := by
  induction rows generalizing count estimate with
  | nil => simp [checkRows, hcount, hestimate]
  | cons row rest ih =>
      simp only [checkRows, List.length_cons, resultBytes_cons]
      split_ifs with hfull
      · constructor
        · intro herror
          cases herror
        · omega
      · cases hrow : addRowBytes row columns estimate with
        | none =>
            constructor
            · intro herror
              cases herror
            · rintro ⟨-, hbytes⟩
              have hsome : addRowBytes row columns estimate =
                  some (estimate + rowBytes columns row) :=
                (addRowBytes_eq_some_iff hestimate).mpr ⟨rfl, by omega⟩
              rw [hrow] at hsome
              cases hsome
        | some total =>
            obtain ⟨rfl, htotal⟩ := (addRowBytes_eq_some_iff hestimate).mp hrow
            rw [ih (by omega) htotal]
            omega

/-! ## Admitted calls -/

def RequestFits (statement : Statement Db Row) : Prop :=
  ∃ requestBytes, validateSqlRequest statement.sql statement.params = .ok requestBytes

instance (statement : Statement Db Row) : Decidable (RequestFits statement) :=
  match hrequest : validateSqlRequest statement.sql statement.params with
  | .ok requestBytes => isTrue ⟨requestBytes, hrequest⟩
  | .error message => isFalse fun ⟨requestBytes, hok⟩ => by
      rw [hrequest] at hok
      cases hok

def ResultFits (columns : List (Column Row)) (rows : List Row) : Prop :=
  rows.length ≤ maxQueryResultRows ∧ resultBytes columns rows ≤ maxQueryResultBytes

instance (columns : List (Column Row)) (rows : List Row) :
    Decidable (ResultFits columns rows) :=
  inferInstanceAs (Decidable (_ ∧ _))

def readRows (statement : Statement Db Row) (database : Db) : List Row :=
  match statement.effect with
  | .read rows => rows database
  | .write _ => []

variable {statement : Statement Db Row}

theorem queryJson_eq_ok_iff {database : Db} (hsafe : validateSafeSql statement.sql = .ok ())
    (hcolumns : statement.columns.length ≤ maxQueryResultColumns) (hreadonly : statement.readonly) :
    queryJson statement database = .ok rows ↔
      rows = readRows statement database ∧ RequestFits statement ∧
        ResultFits statement.columns rows := by
  cases heffect : statement.effect with
  | write run => simp [Statement.readonly, heffect] at hreadonly
  | read read =>
      have hrows : readRows statement database = read database := by
        simp [readRows, heffect]
      have hcheck : checkRows statement.columns (read database) 0 0 = .ok () ↔
          ResultFits statement.columns (read database) := by
        rw [checkRows_eq_ok_iff (Nat.zero_le _) (Nat.zero_le _), ResultFits, Nat.zero_add,
          Nat.zero_add]
      have hanswer : queryJson statement database =
          match validateSqlRequest statement.sql statement.params,
            checkRows statement.columns (read database) 0 0 with
          | .error message, _ => .error message
          | .ok _, .error message => .error message
          | .ok _, .ok () => .ok (read database) := by
        unfold queryJson
        rw [hsafe, heffect]
        cases validateSqlRequest statement.sql statement.params with
        | error message => rfl
        | ok requestBytes =>
            simp only [if_neg (not_lt.mpr hcolumns)]
            cases checkRows statement.columns (read database) 0 0 <;> rfl
      rw [hanswer, hrows]
      cases hrequest : validateSqlRequest statement.sql statement.params with
      | error message => simp [RequestFits, hrequest]
      | ok requestBytes =>
          have hfits : RequestFits statement := ⟨requestBytes, hrequest⟩
          cases hresult : checkRows statement.columns (read database) 0 0 with
          | error message =>
              have hexceeds : ¬ ResultFits statement.columns (read database) := by
                rw [← hcheck, hresult]
                simp
              simp only [reduceCtorEq, false_iff, not_and]
              rintro rfl _
              exact hexceeds
          | ok _ =>
              have hwithin := hcheck.mp hresult
              simp only [Except.ok.injEq]
              constructor
              · rintro rfl
                exact ⟨rfl, hfits, hwithin⟩
              · rintro ⟨rfl, -, -⟩
                rfl

theorem queryJson_of_write (hwrites : statement.readonly = false) (database : Db) :
    ∃ message, queryJson statement database = .error message := by
  cases heffect : statement.effect with
  | read rows => simp [Statement.readonly, heffect] at hwrites
  | write run =>
      unfold queryJson
      rw [heffect]
      cases validateSafeSql statement.sql with
      | error message => exact ⟨message, rfl⟩
      | ok _ =>
          cases validateSqlRequest statement.sql statement.params with
          | error message => exact ⟨message, rfl⟩
          | ok requestBytes => exact ⟨_, rfl⟩

theorem eq_readRows_of_queryJson {database : Db}
    (hquery : queryJson statement database = .ok rows) :
    rows = readRows statement database := by
  cases heffect : statement.effect with
  | write run =>
      have hwrites : statement.readonly = false := by
        simp [Statement.readonly, heffect]
      obtain ⟨message, hrejected⟩ := queryJson_of_write hwrites database
      cases hrejected.symm.trans hquery
  | read read =>
      rw [readRows, heffect]
      unfold queryJson at hquery
      rw [heffect] at hquery
      cases hsafe : validateSafeSql statement.sql with
      | error message =>
          rw [hsafe] at hquery
          cases hquery
      | ok _ =>
          cases hrequest : validateSqlRequest statement.sql statement.params with
          | error message =>
              rw [hsafe, hrequest] at hquery
              cases hquery
          | ok requestBytes =>
              rw [hsafe, hrequest] at hquery
              cases hcheck : checkRows statement.columns (read database) 0 0 with
              | error message =>
                  simp only [hcheck] at hquery
                  split_ifs at hquery <;> cases hquery
              | ok _ =>
                  simp only [hcheck] at hquery
                  split_ifs at hquery <;> cases hquery
                  rfl

theorem executeJson_eq {database : Db} (hsafe : validateSafeSql statement.sql = .ok ())
    (hfits : RequestFits statement)
    (hsilent : ∀ result, statement.run database = .ok result → result.rows = []) :
    executeJson statement database =
      match statement.run database with
      | .ok result => (.ok result.rowsAffected, result.database)
      | .error message => (.error message, database) := by
  obtain ⟨requestBytes, hrequest⟩ := hfits
  unfold executeJson
  simp only [hsafe, hrequest]
  cases hrun : statement.run database with
  | error message => rfl
  | ok result => exact if_pos (hsilent result hrun)

end DurableDatabase

open DurableDatabase

variable {Db : Type}

def WellAddressed : ∀ ⦃β : Type⦄, DbCall Db β → Db → Prop
  | _, .query statement, _ =>
      validateSafeSql statement.sql = .ok () ∧ statement.readonly ∧
        statement.columns.length ≤ maxQueryResultColumns
  | _, .execute statement, database =>
      validateSafeSql statement.sql = .ok () ∧
        ∀ result, statement.run database = .ok result → result.rows = []
  | _, .transaction _, _ => False

def WithinLimits : ∀ ⦃β : Type⦄, DbCall Db β → Db → Prop
  | _, .query statement, database =>
      RequestFits statement ∧
        ResultFits statement.columns (readRows statement database)
  | _, .execute statement, _ => RequestFits statement
  | _, .transaction _, _ => True

theorem memoryConnection_query_of_readonly {Row : Type} {statement : Statement Db Row}
    (hreadonly : statement.readonly) (database : Db) :
    memoryConnection (.query statement) database =
      (.ok (readRows statement database), database) := by
  cases heffect : statement.effect with
  | write run => simp [Statement.readonly, heffect] at hreadonly
  | read rows => simp [memoryConnection, Statement.run, readRows, heffect]

theorem native_agrees {β : Type} (call : DbCall Db β) (database : Db)
    (haddressed : WellAddressed call database) (hlimits : WithinLimits call database) :
    Program.SameOutcome (memoryConnection call database).1
        (nativeConnection call database).1 ∧
      (memoryConnection call database).2 = (nativeConnection call database).2 := by
  cases call with
  | query statement =>
      obtain ⟨hsafe, hreadonly, hcolumns⟩ := haddressed
      have hrows : queryJson statement database = .ok (readRows statement database) :=
        (queryJson_eq_ok_iff hsafe hcolumns hreadonly).mpr ⟨rfl, hlimits⟩
      rw [memoryConnection_query_of_readonly hreadonly]
      simp [nativeConnection, hrows]
  | execute statement =>
      obtain ⟨hsafe, hsilent⟩ := haddressed
      have hexecute := executeJson_eq hsafe hlimits hsilent
      cases hrun : statement.run database with
      | error message =>
          rw [hrun] at hexecute
          simp [nativeConnection, memoryConnection, hrun, hexecute]
      | ok result =>
          rw [hrun] at hexecute
          simp [nativeConnection, memoryConnection, hrun, hexecute]
  | transaction body => exact haddressed.elim

theorem run_native_of_alike {α : Type} {program : Program (DbCall Db) Thrown α}
    {database : Db} (halike : Program.Alike program program)
    (haddressed : program.Along memoryConnection WellAddressed database)
    (hlimits : program.Along memoryConnection WithinLimits database) :
    Program.SameOutcome (program.run memoryConnection database).1
        (program.run nativeConnection database).1 ∧
      (program.run memoryConnection database).2 =
        (program.run nativeConnection database).2 :=
  Program.Alike.run (fun _ call now hgood => native_agrees call now hgood.1 hgood.2) halike
    (haddressed.and hlimits)

end TauriPlatform
