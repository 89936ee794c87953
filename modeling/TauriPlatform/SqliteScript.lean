import Mathlib.Data.List.Basic
import Mathlib.Data.List.TakeWhile

/-!
# Scripts as SQLite reads them

The tokens of SQLite, as far as they matter to where a statement ends, and the statements of a
script.  A statement ends at a semicolon.  Only a trigger holds semicolons within: its body is a
list of commands, each with its semicolon, between `BEGIN` and `END`.  `BEGIN` and `END` may
also be names there; `CASE` may not.
-/

namespace SqliteScript

/-! ## Tokens -/

/-- Names, keywords and numbers are words; an operator is one symbol for each character. -/
inductive Token where
  | space (chars : List Char)
  | lineComment (chars : List Char)
  | blockComment (chars : List Char)
  | quoted (chars : List Char)
  | word (chars : List Char)
  | semicolon
  | symbol (char : Char)
  deriving DecidableEq

namespace Token

def chars : Token → List Char
  | space chars => chars
  | lineComment chars => chars
  | blockComment chars => chars
  | quoted chars => chars
  | word chars => chars
  | semicolon => [';']
  | symbol char => [char]

def significant : Token → Bool
  | space _ => false
  | lineComment _ => false
  | blockComment _ => false
  | _ => true

def keyword : Token → String
  | word chars => String.ofList (chars.map Char.toUpper)
  | _ => ""

end Token

def isSpace (c : Char) : Bool :=
  c = ' ' || (0x09 ≤ c.toNat && c.toNat ≤ 0x0D)

/-- Letters, digits, `_`, `$`, and whatever is not ASCII. -/
def isIdChar (c : Char) : Bool :=
  c.isAlphanum || c = '_' || c = '$' || 0x80 ≤ c.toNat

def lineRest : List Char → List Char × List Char
  | [] => ([], [])
  | c :: rest =>
      if c = '\n' then ([c], rest) else (c :: (lineRest rest).1, (lineRest rest).2)

/-- The rest of a comment, up to `*/`; the end of the script closes it as well. -/
def blockRest : List Char → List Char × List Char
  | [] => ([], [])
  | '*' :: '/' :: rest => (['*', '/'], rest)
  | c :: rest => (c :: (blockRest rest).1, (blockRest rest).2)

def quotedRest (quote : Char) : List Char → Option (List Char × List Char)
  | [] => none
  | [c] => if c = quote then some ([c], []) else none
  | c :: d :: rest =>
      if c ≠ quote then (quotedRest quote (d :: rest)).map fun left => (c :: left.1, left.2)
      else if d = quote then (quotedRest quote rest).map fun left => (c :: d :: left.1, left.2)
      else some ([c], d :: rest)

def bracketRest : List Char → Option (List Char × List Char)
  | [] => none
  | c :: rest =>
      if c = ']' then some ([c], rest)
      else (bracketRest rest).map fun left => (c :: left.1, left.2)

/-- The first token of a text, with what follows.  A byte order mark is white space, a vertical
tab is only behind other white space; quoted text has to be closed, and `/*` at the very end
opens no comment. -/
def nextToken (c : Char) (rest : List Char) : Option (Token × List Char) :=
  if c = ';' then some (.semicolon, rest)
  else if isSpace c ∧ c ≠ '\x0B' then
    some (.space (c :: rest.takeWhile isSpace), rest.dropWhile isSpace)
  else if c = '\uFEFF' then some (.space [c], rest)
  else if c = '-' ∧ rest.head? = some '-' then
    some (.lineComment (c :: '-' :: (lineRest rest.tail).1), (lineRest rest.tail).2)
  else if c = '/' ∧ rest.head? = some '*' then
    if rest.tail = [] then none
    else some (.blockComment (c :: '*' :: (blockRest rest.tail).1), (blockRest rest.tail).2)
  else if c = '\x27' ∨ c = '"' ∨ c = '\x60' then
    (quotedRest c rest).map fun left => (.quoted (c :: left.1), left.2)
  else if c = '[' then (bracketRest rest).map fun left => (.quoted (c :: left.1), left.2)
  else if isIdChar c then
    some (.word (c :: rest.takeWhile isIdChar), rest.dropWhile isIdChar)
  else some (.symbol c, rest)

def tokenizeWithin : Nat → List Char → Option (List Token)
  | _, [] => some []
  | 0, _ :: _ => none
  | fuel + 1, c :: rest => do
      let (token, left) ← nextToken c rest
      let tokens ← tokenizeWithin fuel left
      pure (token :: tokens)

def tokenize (script : String) : Option (List Token) :=
  tokenizeWithin script.toList.length script.toList

/-! ## The tokens make up the script -/

theorem lineRest_append (chars : List Char) :
    (lineRest chars).1 ++ (lineRest chars).2 = chars := by
  induction chars with
  | nil => rfl
  | cons c rest ih =>
      unfold lineRest
      split_ifs
      · rfl
      · rw [List.cons_append, ih]

theorem blockRest_append (chars : List Char) :
    (blockRest chars).1 ++ (blockRest chars).2 = chars := by
  fun_induction blockRest chars with
  | case1 => rfl
  | case2 rest => rfl
  | case3 c rest _ ih => rw [List.cons_append, ih]

theorem quotedRest_append {quote : Char} {chars body left : List Char}
    (hrest : quotedRest quote chars = some (body, left)) : body ++ left = chars := by
  fun_induction quotedRest quote chars generalizing body with
  | case1 => cases hrest
  | case2 =>
      cases hrest
      rfl
  | case3 c hc => cases hrest
  | case4 c d rest hc ih =>
      obtain ⟨⟨inner, after⟩, hinner, hsame⟩ := Option.map_eq_some_iff.mp hrest
      cases hsame
      rw [List.cons_append, ih hinner]
  | case5 c rest hc ih =>
      obtain ⟨⟨inner, after⟩, hinner, hsame⟩ := Option.map_eq_some_iff.mp hrest
      cases hsame
      rw [List.cons_append, List.cons_append, ih hinner]
  | case6 c d rest hc hd =>
      cases hrest
      rfl

theorem bracketRest_append {chars body left : List Char}
    (hrest : bracketRest chars = some (body, left)) : body ++ left = chars := by
  induction chars generalizing body with
  | nil => cases hrest
  | cons c rest ih =>
      unfold bracketRest at hrest
      split_ifs at hrest
      · cases hrest
        rfl
      · obtain ⟨⟨inner, after⟩, hinner, hsame⟩ := Option.map_eq_some_iff.mp hrest
        cases hsame
        rw [List.cons_append, ih hinner]

theorem nextToken_append {c : Char} {rest left : List Char} {token : Token}
    (hnext : nextToken c rest = some (token, left)) : token.chars ++ left = c :: rest := by
  have hsecond : ∀ {d : Char}, rest.head? = some d → d :: rest.tail = rest := by
    intro d hd
    obtain ⟨tail, rfl⟩ := List.head?_eq_some_iff.mp hd
    rfl
  unfold nextToken at hnext
  split_ifs at hnext with hsemicolon hspace hmark hline hblock hend hquote hbracket hid
  · cases hnext
    rw [hsemicolon]
    rfl
  · cases hnext
    rw [Token.chars, List.cons_append, List.takeWhile_append_dropWhile]
  · cases hnext
    rfl
  · cases hnext
    rw [Token.chars, List.cons_append, List.cons_append, lineRest_append, hsecond hline.2]
  · cases hnext
    rw [Token.chars, List.cons_append, List.cons_append, blockRest_append, hsecond hblock.2]
  · obtain ⟨⟨body, after⟩, hbody, hsame⟩ := Option.map_eq_some_iff.mp hnext
    cases hsame
    rw [Token.chars, List.cons_append, quotedRest_append hbody]
  · obtain ⟨⟨body, after⟩, hbody, hsame⟩ := Option.map_eq_some_iff.mp hnext
    cases hsame
    rw [Token.chars, List.cons_append, bracketRest_append hbody]
  · cases hnext
    rw [Token.chars, List.cons_append, List.takeWhile_append_dropWhile]
  · cases hnext
    rfl

theorem chars_tokenizeWithin {fuel : Nat} {chars : List Char} {tokens : List Token}
    (htokens : tokenizeWithin fuel chars = some tokens) :
    tokens.flatMap Token.chars = chars := by
  induction fuel generalizing chars tokens with
  | zero =>
      cases chars with
      | nil =>
          cases htokens
          rfl
      | cons c rest => cases htokens
  | succ fuel ih =>
      cases chars with
      | nil =>
          cases htokens
          rfl
      | cons c rest =>
          simp only [tokenizeWithin, bind, Option.bind_eq_some_iff, pure, Option.some.injEq,
            Prod.exists] at htokens
          obtain ⟨token, left, hnext, later, hlater, rfl⟩ := htokens
          rw [List.flatMap_cons, ih hlater, nextToken_append hnext]

theorem chars_tokenize {script : String} {tokens : List Token}
    (htokens : tokenize script = some tokens) :
    tokens.flatMap Token.chars = script.toList :=
  chars_tokenizeWithin htokens

/-! ## Statements

The grammar is over the significant tokens. -/

/-- Tokens without a semicolon, in which each `CASE` has its `END`.  `Name` is what the other
tokens have to be. -/
inductive Clauses (Name : Token → Prop) : List Token → Prop
  | nil : Clauses Name []
  | name {token : Token} {rest : List Token} :
      token ≠ .semicolon → token.keyword ≠ "CASE" → Name token → Clauses Name rest →
      Clauses Name (token :: rest)
  | nested {first last : Token} {inner rest : List Token} :
      first.keyword = "CASE" → last.keyword = "END" → Clauses Name inner → Clauses Name rest →
      Clauses Name (first :: (inner ++ last :: rest))

/-- Any tokens, in which each `CASE` has its `END`. -/
abbrev AnyClauses : List Token → Prop :=
  Clauses fun _ => True

theorem Clauses.append {Name : Token → Prop} {front back : List Token}
    (hfront : Clauses Name front) (hback : Clauses Name back) : Clauses Name (front ++ back) := by
  induction hfront with
  | nil => exact hback
  | name hsemicolon hcase hname _ ih => exact .name hsemicolon hcase hname ih
  | nested hfirst hlast hinner _ _ ih =>
      rw [List.cons_append, List.append_assoc, List.cons_append]
      exact .nested hfirst hlast hinner ih

theorem Clauses.mono {Name Other : Token → Prop} (himp : ∀ token, Name token → Other token)
    {tokens : List Token} (hclauses : Clauses Name tokens) : Clauses Other tokens := by
  induction hclauses with
  | nil => exact .nil
  | name hsemicolon hcase hname _ ih => exact .name hsemicolon hcase (himp _ hname) ih
  | nested hfirst hlast _ _ ihinner ihrest => exact .nested hfirst hlast ihinner ihrest

def commandKeywords : List String :=
  ["ALTER", "ANALYZE", "ATTACH", "BEGIN", "COMMIT", "DELETE", "DETACH", "DROP", "END", "INSERT",
    "PRAGMA", "REINDEX", "RELEASE", "REPLACE", "ROLLBACK", "SAVEPOINT", "SELECT", "UPDATE",
    "VACUUM", "VALUES", "WITH"]

/-- What `CREATE` creates besides triggers. -/
def createdKeywords : List String :=
  ["TABLE", "VIRTUAL", "INDEX", "UNIQUE", "VIEW"]

def triggerKeywords : List String :=
  ["DELETE", "INSERT", "REPLACE", "SELECT", "UPDATE", "VALUES", "WITH"]

/-- `TEMP`, or nothing. -/
inductive Temporary : List Token → Prop
  | absent : Temporary []
  | temp {token : Token} : token.keyword = "TEMP" → Temporary [token]
  | temporary {token : Token} : token.keyword = "TEMPORARY" → Temporary [token]

inductive Simple : List Token → Prop
  | command {first : Token} {rest : List Token} :
      first.keyword ∈ commandKeywords → .semicolon ∉ rest → Simple (first :: rest)
  | create {create kind : Token} {temporary rest : List Token} :
      create.keyword = "CREATE" → Temporary temporary → kind.keyword ∈ createdKeywords →
      .semicolon ∉ rest → Simple (create :: (temporary ++ kind :: rest))

inductive TriggerCommand (Command : List Token → Prop) : List Token → Prop
  | mk {first : Token} {rest : List Token} :
      first.keyword ∈ triggerKeywords → Command (first :: rest) →
      TriggerCommand Command (first :: rest ++ [.semicolon])

/-- A trigger.  `Head` is what may stand before its body, and `Command` what in it. -/
inductive Trigger (Head Command : List Token → Prop) : List Token → Prop
  | mk {create trigger first last : Token} {temporary head : List Token}
      {commands : List (List Token)} :
      create.keyword = "CREATE" → Temporary temporary → trigger.keyword = "TRIGGER" →
      Head head → first.keyword = "BEGIN" → commands ≠ [] →
      (∀ command ∈ commands, TriggerCommand Command command) → last.keyword = "END" →
      Trigger Head Command
        (create :: (temporary ++ trigger :: (head ++ first :: (commands.flatten ++ [last]))))

inductive Statement : List Token → Prop
  | simple {tokens : List Token} : Simple tokens → Statement tokens
  | trigger {tokens : List Token} : Trigger AnyClauses AnyClauses tokens → Statement tokens
  | explain {explain : Token} {tokens : List Token} :
      explain.keyword = "EXPLAIN" →
      Simple tokens ∨ Trigger AnyClauses AnyClauses tokens → Statement (explain :: tokens)
  | explainPlan {explain query plan : Token} {tokens : List Token} :
      explain.keyword = "EXPLAIN" → query.keyword = "QUERY" → plan.keyword = "PLAN" →
      Simple tokens ∨ Trigger AnyClauses AnyClauses tokens →
      Statement (explain :: query :: plan :: tokens)

/-! ## Scripts -/

structure Piece where
  statement : List Token
  semicolon : List Token

def Piece.text (piece : Piece) : String :=
  String.ofList ((piece.statement ++ piece.semicolon).flatMap Token.chars)

def Piece.tokens (piece : Piece) : List Token :=
  piece.statement.filter Token.significant

/-- The tokens are a script of these statements.  Only the last one may lack its semicolon, and
what is left out is white space, comments and empty statements. -/
inductive Script : List Token → List Piece → Prop
  | blank {tokens : List Token} :
      (∀ token ∈ tokens, token.significant = false) → Script tokens []
  | last {tokens : List Token} :
      Statement (tokens.filter Token.significant) → Script tokens [⟨tokens, []⟩]
  | empty {tokens rest : List Token} {pieces : List Piece} :
      (∀ token ∈ tokens, token.significant = false) → Script rest pieces →
      Script (tokens ++ .semicolon :: rest) pieces
  | statement {tokens rest : List Token} {pieces : List Piece} :
      Statement (tokens.filter Token.significant) → Script rest pieces →
      Script (tokens ++ .semicolon :: rest) (⟨tokens, [.semicolon]⟩ :: pieces)

end SqliteScript
