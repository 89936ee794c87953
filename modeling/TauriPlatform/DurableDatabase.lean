import TauriPlatform.DatabaseConnection

/-!
# The native database

`DurableDatabase` guards each statement which reaches it over the bridge: some
keywords are refused, the request and the result are bounded, and a query must be
read-only.  `nativeConnection` answers the calls of a service as
`NativeDatabaseConnection` does over this database, for a bridge which passes SQL
and parameters unchanged.
-/

namespace TauriPlatform

open Async

namespace DurableDatabase

def maxQueryResultRows : Nat := 10000
def maxQueryResultBytes : Nat := 10 * 1024 * 1024
def maxQueryResultColumns : Nat := 256
def maxSqlStatementBytes : Nat := 1024 * 1024
def maxSqlParameters : Nat := 999
def maxSqlParameterBytes : Nat := 1024 * 1024
def maxSqlRequestBytes : Nat := 10 * 1024 * 1024
def maxSqlTransactionOperations : Nat := 1000
def maxSqlParameterNesting : Nat := 64

/-! ## Refused keywords -/

/-- `is_ascii_whitespace` or a semicolon. -/
def isBlankOrSemicolon (c : Char) : Bool :=
  c = ' ' || c = '\t' || c = '\n' || c.toNat = 12 || c = '\r' || c = ';'

def afterCommentEnd : List Char → Option (List Char)
  | '*' :: '/' :: rest => some rest
  | _ :: rest => afterCommentEnd rest
  | [] => none

/-- Blanks, byte order marks and comments in front of the next token.  Every round
but the last consumes a character, so the length of the text is enough fuel. -/
def skipTrivia : Nat → List Char → Option (List Char)
  | 0, chars => some chars
  | fuel + 1, chars =>
      match chars.dropWhile isBlankOrSemicolon with
      | '-' :: '-' :: rest =>
          skipTrivia fuel (rest.dropWhile fun c => c ≠ '\n' && c ≠ '\r')
      | '/' :: '*' :: rest => (afterCommentEnd rest).bind (skipTrivia fuel)
      | c :: rest => if c.toNat = 0xFEFF then skipTrivia fuel rest else some (c :: rest)
      | [] => some []

def isKeywordChar (c : Char) : Bool :=
  isDecimalDigit c || ('a' ≤ c && c ≤ 'z') || ('A' ≤ c && c ≤ 'Z') || c = '_'

/-- `next_sql_keyword`: the next word in upper case, and the text behind it. -/
def nextSqlKeyword (sql : List Char) : Option (String × List Char) := do
  let chars ← skipTrivia (sql.length + 1) sql
  let word := chars.takeWhile isKeywordChar
  if word = [] then none
  else some (String.ofList (word.map Char.toUpper), chars.dropWhile isKeywordChar)

/-- `validate_safe_sql`; the failure is the message of the error. -/
def validateSafeSql (sql : String) : Except String Unit :=
  let (command, rest) := (nextSqlKeyword sql.toList).getD ("", [])
  if command = "ATTACH" then
    .error "ATTACH DATABASE is disallowed over client database bridge"
  else if command = "DETACH" then
    .error "DETACH DATABASE is disallowed over client database bridge"
  else if command = "VACUUM" ∧ ((nextSqlKeyword rest).map Prod.fst = some "INTO") then
    .error "VACUUM INTO is disallowed over client database bridge"
  else if command = "PRAGMA" then
    .error "PRAGMA execution is disallowed over client database bridge"
  else if command ∈ ["BEGIN", "COMMIT", "END", "ROLLBACK", "SAVEPOINT", "RELEASE"] then
    .error "Transaction control statements are disallowed over the client database bridge"
  else .ok ()

/-! ## Bounds of a request -/

/-- How the native side prints a floating point number with the given shortest
digits and position of the decimal point. -/
def floatText (digits : List Char) (point : Int) : List Char :=
  let count : Int := digits.length
  if count ≤ point ∧ point ≤ 16 then
    digits ++ List.replicate (point - count).toNat '0' ++ ['.', '0']
  else if 0 < point ∧ point ≤ 16 then
    digits.take point.toNat ++ '.' :: digits.drop point.toNat
  else if -5 < point ∧ point ≤ 0 then
    '0' :: '.' :: List.replicate (-point).toNat '0' ++ digits
  else
    let exponent := point - 1
    let sign := if exponent < 0 then ['-'] else []
    let mantissa := match digits with
      | first :: second :: rest => first :: '.' :: second :: rest
      | short => short
    mantissa ++ 'e' :: sign ++ Nat.toDigits 10 exponent.natAbs

/-- `number.to_string()` of a number which crossed the bridge: an integer of 64
bits stays one, any other number is a float. -/
def nativeNumberText : JsonNumber → List Char
  | .integer value =>
      let digits := Nat.toDigits 10 value.natAbs
      let sign := if value < 0 then ['-'] else []
      if -(2 ^ 63) ≤ value ∧ value < 2 ^ 64 then sign ++ digits
      else sign ++ floatText (dropTrailingZeros digits) digits.length
  | .fraction significand places _ =>
      let digits := Nat.toDigits 10 significand.natAbs
      let sign := if significand < 0 then ['-'] else []
      sign ++ floatText digits (digits.length - (places + 1 : Nat))

def boundedEstimate (estimate : Nat) : Option Nat :=
  if estimate ≤ maxSqlParameterBytes then some estimate else none

/-- The estimate for a text of the given number of bytes: six bytes for each of
them, and the quotes. -/
def textEstimate (bytes : Nat) : Nat :=
  bytes * 6 + 2

mutual

def estimateJsonValueBytes (value : JsonValue) (depth : Nat) : Option Nat :=
  if depth > maxSqlParameterNesting then none
  else
    match value with
    | .null => boundedEstimate 4
    | .bool true => boundedEstimate 4
    | .bool false => boundedEstimate 5
    | .number value => boundedEstimate (nativeNumberText value).length
    | .string value => boundedEstimate (textEstimate (utf8Length value.toList))
    | .array items => (estimateItems items (depth + 1) 2).bind boundedEstimate
    | .object entries => (estimateEntries entries (depth + 1) 2).bind boundedEstimate
termination_by structural value

def estimateItems (items : List JsonValue) (depth size : Nat) : Option Nat :=
  match items with
  | [] => some size
  | item :: rest =>
      match estimateJsonValueBytes item depth with
      | none => none
      | some estimate =>
          let size := size + 1 + estimate
          if size > maxSqlParameterBytes then none else estimateItems rest depth size
termination_by structural items

def estimateEntries (entries : List (String × JsonValue)) (depth size : Nat) :
    Option Nat :=
  match entries with
  | [] => some size
  | (key, item) :: rest =>
      match estimateJsonValueBytes item depth with
      | none => none
      | some estimate =>
          let size := size + utf8Length key.toList * 6 + estimate + 4
          if size > maxSqlParameterBytes then none else estimateEntries rest depth size
termination_by structural entries

end

/-- `value.as_u64()` is above `i64::MAX`. -/
def isLargeUnsigned : JsonValue → Bool
  | .number (.integer value) => 2 ^ 63 ≤ value && value < 2 ^ 64
  | _ => false

/-- The loop of `validate_sql_request` over the parameters. -/
def addParameterBytes : List JsonValue → Nat → Except String Nat
  | [], requestBytes => .ok requestBytes
  | value :: rest, requestBytes =>
      if isLargeUnsigned value then
        .error ("Unsigned integer SQL parameters must fit in " ++
          "SQLite's signed 64-bit integer range")
      else
        match estimateJsonValueBytes value 0 with
        | none =>
            .error "SQL parameter exceeds the supported size or nesting depth"
        | some valueBytes =>
            let requestBytes := requestBytes + valueBytes
            if requestBytes > maxSqlRequestBytes then
              .error "SQL request exceeds the maximum allowed size"
            else addParameterBytes rest requestBytes

/-- `validate_sql_request`: the estimated size of the request. -/
def validateSqlRequest (sql : String) (params : List JsonValue) : Except String Nat :=
  if utf8Length sql.toList > maxSqlStatementBytes then
    .error "SQL statement exceeds the maximum allowed size"
  else if params.length > maxSqlParameters then
    .error "SQL request exceeds the maximum parameter count"
  else addParameterBytes params (utf8Length sql.toList)

/-! ## Bounds of a result -/

def rawSize : SqlValue → Nat
  | .text value => utf8Length value.toList
  | _ => 8

variable {Db Row : Type}

def cellBytes (row : Row) (column : Column Row) : Nat :=
  rawSize (column.cell row) * 6 + utf8Length column.name.toList * 6 + 16

/-- The estimate for the cells of one row, added to what was read before; nothing
once the bound is passed. -/
def addRowBytes (row : Row) : List (Column Row) → Nat → Option Nat
  | [], estimate => some estimate
  | column :: rest, estimate =>
      let estimate := estimate + cellBytes row column
      if rawSize (column.cell row) > maxQueryResultBytes ∨
          estimate > maxQueryResultBytes then none
      else addRowBytes row rest estimate

/-- The loop of `query_json` over the rows. -/
def checkRows (columns : List (Column Row)) : List Row → Nat → Nat → Except String Unit
  | [], _, _ => .ok ()
  | row :: rest, count, estimate =>
      if count ≥ maxQueryResultRows then
        .error "Query result exceeds the maximum row count"
      else
        match addRowBytes row columns estimate with
        | none => .error "Query result exceeds the maximum response size"
        | some estimate => checkRows columns rest (count + 1) estimate

/-! ## Commands -/

def queryJson (statement : Statement Db Row) (database : Db) :
    Except String (List Row) := do
  validateSafeSql statement.sql
  let _ ← validateSqlRequest statement.sql statement.params
  match statement.effect with
  | .write _ =>
      throw "Database query command only accepts read-only SQL statements"
  | .read rows =>
      if statement.columns.length > maxQueryResultColumns then
        throw "Query result exceeds the maximum column count"
      else
        checkRows statement.columns (rows database) 0 0
        return rows database

/-- `execute_json`; a statement which returns rows is an error after its effect. -/
def executeJson (statement : Statement Db Row) (database : Db) :
    Except String Nat × Db :=
  let validated := do
    validateSafeSql statement.sql
    validateSqlRequest statement.sql statement.params
  match validated with
  | .error message => (.error message, database)
  | .ok _ =>
      match statement.run database with
      | .error message => (.error message, database)
      | .ok result =>
          if result.rows = [] then (.ok result.rowsAffected, result.database)
          else
            (.error "Execute returned results - did you mean to call query?",
              result.database)

/-- An operation collected for `transaction_json`, always of type `execute`. -/
structure CollectedOperation (Db : Type) where
  sql : String
  params : List JsonValue
  run : Db → Except String Db

/-- The checks of `transaction_json` before it begins. -/
def validateOperations : List (CollectedOperation Db) → Nat → Except String Unit
  | [], _ => .ok ()
  | operation :: rest, requestBytes => do
      validateSafeSql operation.sql
      let requestBytes :=
        requestBytes + (← validateSqlRequest operation.sql operation.params)
      if requestBytes > maxSqlRequestBytes then
        throw "Database transaction exceeds the maximum request size"
      else validateOperations rest requestBytes

/-- `transaction_json`: all operations, or none of them. -/
def transactionJson (operations : List (CollectedOperation Db)) (database : Db) :
    Except String Db := do
  if operations.length > maxSqlTransactionOperations then
    throw "Database transaction exceeds the maximum operation count"
  else
    validateOperations operations 0
    operations.foldlM (fun database operation => operation.run database) database

def collect (statement : Statement Db Row) : CollectedOperation Db where
  sql := statement.sql
  params := statement.params
  run database := do
    let result ← statement.run database
    match result.rows with
    | [] => return result.database
    | _ => throw "Execute returned results - did you mean to call query?"

end DurableDatabase

/-! ## The native connection -/

open DurableDatabase

variable {Db : Type}

/-- The transaction client of `NativeDatabaseConnection`: reads are refused, and
writes are collected. -/
def nativeTransaction :
    Program.Handler (TransactionCall Db) Thrown (List (CollectedOperation Db))
  | _, .query statement, operations =>
      (.error (databaseError
        ("db.transaction(): query() is not supported inside a transaction callback. " ++
          "The Tauri IPC bridge collects operations and executes them atomically on the " ++
          "Rust side — intermediate reads cannot be returned across the IPC boundary. " ++
          "Perform all reads before calling db.transaction().")
        "A database read was attempted inside a write transaction." "db-tx-read"
        (some s!"SQL attempted: {statement.sql}")), operations)
  | _, .execute statement, operations => (.ok none, operations ++ [collect statement])

/-- `NativeDatabaseConnection` over `DurableDatabase`. -/
def nativeConnection : Program.Handler (DbCall Db) Thrown Db
  | _, .query statement, database =>
      match queryJson statement database with
      | .ok rows => (.ok rows, database)
      | .error message =>
          (.error (databaseError s!"Database query failed: {message}"
            "Failed to retrieve data" "db-query" (some s!"SQL: {statement.sql}")),
            database)
  | _, .execute statement, database =>
      match executeJson statement database with
      | (.ok rowsAffected, later) => (.ok rowsAffected, later)
      | (.error message, later) =>
          (.error (databaseError s!"Database execute failed: {message}"
            "Failed to execute database operation" "db-exec"
            (some s!"SQL: {statement.sql}")), later)
  | _, .transaction body, database =>
      match body.run nativeTransaction [] with
      | (.error error, _) =>
          if error.isDatabaseError then (.error error, database)
          else
            (.error (databaseError s!"Database transaction failed: {error.message}"
              "Failed to execute database transaction" "db-tx" none), database)
      | (.ok value, operations) =>
          match transactionJson operations database with
          | .ok later => (.ok value, later)
          | .error message =>
              (.error (databaseError s!"Database transaction failed: {message}"
                "Failed to execute database transaction" "db-tx" none), database)

end TauriPlatform
