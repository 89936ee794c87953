import TauriPlatform.SqliteLexemes
import Mathlib.Data.Rat.Defs

/-!
# Conditions of SQLite

The conditions of a statement: names, literals and parameters under the operators of
comparison, arithmetic and logic.  A reader takes the lexemes one by one and keeps what is still
open on a stack, as the parser of SQLite does.  A part without parentheses, put in parentheses
behind `AND`, can only narrow a condition.  The module names nothing of a particular program.
-/

namespace SqliteText

/-! ## Expressions -/

inductive BinaryOp where
  | or
  | and
  | is
  | isNot
  | eq
  | ne
  | lt
  | le
  | gt
  | ge
  | bitAnd
  | bitOr
  | shiftLeft
  | shiftRight
  | plus
  | minus
  | times
  | divide
  | remainder
  | concat
  deriving DecidableEq

/-- An operator of a higher level binds more tightly; `NOT` is of level 3. -/
def BinaryOp.level : BinaryOp → Nat
  | or => 1
  | and => 2
  | is | isNot | eq | ne => 4
  | lt | le | gt | ge => 5
  | bitAnd | bitOr | shiftLeft | shiftRight => 6
  | plus | minus => 7
  | times | divide | remainder => 8
  | concat => 9

inductive PrefixOp where
  | not
  | positive
  | negative
  | complement
  deriving DecidableEq

def PrefixOp.level : PrefixOp → Nat
  | not => 3
  | positive | negative | complement => 10

inductive Expr where
  | null
  | number (chars : List Char)
  | text (chars : List Char)
  | blob (chars : List Char)
  | parameter (index : Nat)
  /-- A column, or a word such as `TRUE` or `CURRENT_DATE`. -/
  | name (chars : List Char)
  | prefixed (op : PrefixOp) (operand : Expr)
  | binary (op : BinaryOp) (left right : Expr)
  | isNull (operand : Expr)
  | notNull (operand : Expr)
  deriving DecidableEq

/-- `left IN (members)`. -/
def Expr.member (left : Expr) : List Expr → Expr
  | [] => .number ['0']
  | [last] => .binary .eq left last
  | first :: rest => .binary .or (.binary .eq left first) (member left rest)

/-! ## Reading -/

def reserved : List String :=
  ["ADD", "ALL", "ALTER", "AND", "AS", "AUTOINCREMENT", "BETWEEN", "CASE", "CHECK", "COLLATE",
    "COMMIT", "CONSTRAINT", "CREATE", "DEFAULT", "DEFERRABLE", "DELETE", "DISTINCT",
    "DROP", "ELSE", "ESCAPE", "EXCEPT", "EXISTS", "FOREIGN", "FROM", "GROUP", "HAVING", "IN",
    "INDEX", "INSERT", "INTERSECT", "INTO", "IS", "ISNULL", "JOIN", "LIMIT", "NOT", "NOTHING",
    "NOTNULL", "NULL", "ON", "OR", "ORDER", "PRIMARY", "REFERENCES", "RETURNING",
    "SELECT", "SET", "TABLE", "THEN", "TO", "TRANSACTION", "UNION", "UNIQUE", "UPDATE", "USING",
    "VALUES", "WHEN", "WHERE"]

def isKeyword (keyword : String) : Lexeme → Bool
  | .word chars => keywordOf chars = keyword
  | _ => false

/-- The operand which is written as one word; `CAST` and `RAISE` want a parenthesis. -/
def operandWord (chars : List Char) : Option Expr :=
  if keywordOf chars = "NULL" then some .null
  else if keywordOf chars ∈ "CAST" :: "RAISE" :: reserved then none
  else some (.name chars)

def symbolOp : List Char → Option BinaryOp
  | ['='] | ['=', '='] => some .eq
  | ['<', '>'] | ['!', '='] => some .ne
  | ['<'] => some .lt
  | ['<', '='] => some .le
  | ['>'] => some .gt
  | ['>', '='] => some .ge
  | ['&'] => some .bitAnd
  | ['|'] => some .bitOr
  | ['<', '<'] => some .shiftLeft
  | ['>', '>'] => some .shiftRight
  | ['+'] => some .plus
  | ['-'] => some .minus
  | ['*'] => some .times
  | ['/'] => some .divide
  | ['%'] => some .remainder
  | ['|', '|'] => some .concat
  | _ => none

def wordOp (keyword : String) : Option BinaryOp :=
  match keyword with
  | "OR" => some .or
  | "AND" => some .and
  | "IS" => some .is
  | _ => none

def symbolPrefix : List Char → Option PrefixOp
  | ['+'] => some .positive
  | ['-'] => some .negative
  | ['~'] => some .complement
  | _ => none

inductive Frame where
  | paren
  | prefixed (op : PrefixOp)
  | infixed (op : BinaryOp) (left : Expr)
  /-- `left IN (`, with the members so far, the last one first. -/
  | members (left : Expr) (before : List Expr)
  deriving DecidableEq

/-- A parenthesis, behind which `WITH` begins a subquery. -/
def Frame.opensParen : Frame → Bool
  | .paren => true
  | .members _ _ => true
  | _ => false

inductive Mode where
  | operand
  | operator (expr : Expr)
  /-- An operand, and `NOT` behind it. -/
  | notBehind (expr : Expr)
  /-- An operand, and `IN` behind it. -/
  | inBehind (expr : Expr)
  deriving DecidableEq

/-- The frames are listed from the innermost one; `parameters` counts the `?`s. -/
structure Reader where
  frames : List Frame
  mode : Mode
  parameters : Nat
  deriving DecidableEq

def reduce (level : Nat) : List Frame → Expr → List Frame × Expr
  | .prefixed op :: rest, expr =>
      if level ≤ op.level then reduce level rest (.prefixed op expr)
      else (.prefixed op :: rest, expr)
  | .infixed op left :: rest, expr =>
      if level ≤ op.level then reduce level rest (.binary op left expr)
      else (.infixed op left :: rest, expr)
  | .paren :: rest, expr => (.paren :: rest, expr)
  | .members left before :: rest, expr => (.members left before :: rest, expr)
  | [], expr => ([], expr)

namespace Reader

def behind (reader : Reader) (expr : Expr) : Reader :=
  { reader with mode := .operator expr }

def inside (reader : Reader) (frames : List Frame) (frame : Frame) : Reader :=
  { reader with frames := frame :: frames, mode := .operand }

/-- `NOT` where an operand is expected; behind `IS` it belongs to the operator. -/
def readNot (reader : Reader) : Reader :=
  match reader.frames with
  | .infixed .is left :: rest => reader.inside rest (.infixed .isNot left)
  | frames => reader.inside frames (.prefixed .not)

def readOperand (reader : Reader) : Lexeme → Option Reader
  | .number chars => some (reader.behind (.number chars))
  | .text chars => some (reader.behind (.text chars))
  | .blob chars => some (reader.behind (.blob chars))
  | .name chars => some (reader.behind (.name chars))
  | .parameter chars =>
      if chars = ['?'] then
        some { reader.behind (.parameter reader.parameters) with
          parameters := reader.parameters + 1 }
      else none
  | .word chars =>
      if keywordOf chars = "NOT" then some reader.readNot
      else if keywordOf chars = "WITH" ∧ reader.frames.head?.any Frame.opensParen then none
      else (operandWord chars).map reader.behind
  | .symbol chars =>
      if chars = ['('] then some (reader.inside reader.frames .paren)
      else (symbolPrefix chars).map fun op => reader.inside reader.frames (.prefixed op)
  | .variable _ => none
  | .illegal => none

def readBinary (reader : Reader) (expr : Expr) (op : BinaryOp) : Reader :=
  let (frames, left) := reduce op.level reader.frames expr
  reader.inside frames (.infixed op left)

/-- `)` behind an operand. -/
def readClosing (reader : Reader) (expr : Expr) : Option Reader :=
  match reduce 0 reader.frames expr with
  | (.paren :: rest, inner) => some { reader with frames := rest, mode := .operator inner }
  | (.members left before :: rest, last) =>
      some { reader with
        frames := rest, mode := .operator (left.member (before.reverse ++ [last])) }
  | _ => none

/-- `,` behind an operand. -/
def readComma (reader : Reader) (expr : Expr) : Option Reader :=
  match reduce 0 reader.frames expr with
  | (.members left before :: rest, next) =>
      some (reader.inside rest (.members left (next :: before)))
  | _ => none

/-- A test behind an operand, such as `ISNULL`. -/
def readTest (reader : Reader) (expr : Expr) (test : Expr → Expr) : Reader :=
  let (frames, operand) := reduce BinaryOp.is.level reader.frames expr
  { reader with frames := frames, mode := .operator (test operand) }

def readOperator (reader : Reader) (expr : Expr) : Lexeme → Option Reader
  | .word chars =>
      let keyword := keywordOf chars
      if keyword = "NOT" then some { reader with mode := .notBehind expr }
      else if keyword = "IN" then some { reader with mode := .inBehind expr }
      else if keyword = "ISNULL" then some (reader.readTest expr .isNull)
      else if keyword = "NOTNULL" then some (reader.readTest expr .notNull)
      else (wordOp keyword).map (reader.readBinary expr)
  | .symbol chars =>
      if chars = [')'] then reader.readClosing expr
      else if chars = [','] then reader.readComma expr
      else (symbolOp chars).map (reader.readBinary expr)
  | _ => none

def step (reader : Reader) (lexeme : Lexeme) : Option Reader :=
  match reader.mode with
  | .operand => reader.readOperand lexeme
  | .operator expr => reader.readOperator expr lexeme
  | .notBehind expr =>
      if isKeyword "NULL" lexeme then some (reader.readTest expr .notNull) else none
  | .inBehind expr =>
      if lexeme = .symbol ['('] then
        let (frames, left) := reduce BinaryOp.is.level reader.frames expr
        some (reader.inside frames (.members left []))
      else none

def finish (reader : Reader) : Option Expr :=
  match reader.mode with
  | .operator expr =>
      match reduce 0 reader.frames expr with
      | ([], whole) => some whole
      | _ => none
  | _ => none

def read (reader : Reader) (lexemes : List Lexeme) : Option Reader :=
  lexemes.foldlM step reader

end Reader

/-- The expression which a list of lexemes makes up; the first `?` has the index 0. -/
def parse (lexemes : List Lexeme) : Option Expr :=
  (Reader.read ⟨[], .operand, 0⟩ lexemes).bind Reader.finish

example : parse (lex "a = 'x' AND (b <= ? OR (b IS NULL AND c <= ?))".toList) =
    some (.binary .and (.binary .eq (.name ['a']) (.text "'x'".toList))
      (.binary .or (.binary .le (.name ['b']) (.parameter 0))
        (.binary .and (.binary .is (.name ['b']) .null)
          (.binary .le (.name ['c']) (.parameter 1))))) := by
  decide

example : parse (lex "a NOT NULL AND NOT b IN ('x', -1) = c".toList) =
    some (.binary .and (.notNull (.name ['a'])) (.prefixed .not (.binary .eq
      (.binary .or (.binary .eq (.name ['b']) (.text "'x'".toList))
        (.binary .eq (.name ['b']) (.prefixed .negative (.number ['1'])))) (.name ['c'])))) := by
  decide

/-! ## A part in parentheses -/

def Frame.isOperator : Frame → Bool
  | .prefixed _ => true
  | .infixed _ _ => true
  | _ => false

def Reader.Within (outer : List Frame) (reader : Reader) : Prop :=
  ∃ inner : List Frame, reader.frames = inner ++ .paren :: outer ∧ inner.all Frame.isOperator

theorem reduce_within {outer inner : List Frame} (hinner : inner.all Frame.isOperator)
    (level : Nat) (expr : Expr) :
    ∃ left whole, reduce level (inner ++ .paren :: outer) expr = (left ++ .paren :: outer, whole) ∧
      left.all Frame.isOperator ∧ (level = 0 → left = []) := by
  induction inner generalizing expr with
  | nil => exact ⟨[], expr, rfl, rfl, fun _ => rfl⟩
  | cons frame inner ih =>
      have hcons := hinner
      rw [List.all_cons, Bool.and_eq_true] at hcons
      have hkept : level ≠ 0 → ∃ left whole, (frame :: inner ++ .paren :: outer, expr) =
          (left ++ .paren :: outer, whole) ∧ left.all Frame.isOperator ∧
          (level = 0 → left = []) := by
        intro hlevel
        exact ⟨frame :: inner, expr, rfl, hinner, fun h => absurd h hlevel⟩
      cases frame with
      | prefixed op =>
          rw [List.cons_append, reduce]
          split_ifs with hle
          · exact ih hcons.2 _
          · exact hkept (by omega)
      | infixed op left =>
          rw [List.cons_append, reduce]
          split_ifs with hle
          · exact ih hcons.2 _
          · exact hkept (by omega)
      | paren => exact absurd hcons.1 (by decide)
      | members left before => exact absurd hcons.1 (by simp [Frame.isOperator])

namespace Reader

variable {outer : List Frame} {reader next : Reader}

theorem within_inside {inner : List Frame} {frame : Frame} (hinner : inner.all Frame.isOperator)
    (hframe : frame.isOperator) : (reader.inside (inner ++ .paren :: outer) frame).Within outer := by
  refine ⟨frame :: inner, rfl, ?_⟩
  rw [List.all_cons, hframe, hinner]
  rfl

theorem Within.readNot (hwithin : reader.Within outer) : reader.readNot.Within outer := by
  obtain ⟨inner, hframes, hinner⟩ := hwithin
  unfold Reader.readNot
  rw [hframes]
  split
  · rename_i left rest hsplit
    cases inner with
    | nil => cases hsplit
    | cons frame inner =>
        rw [List.all_cons, Bool.and_eq_true] at hinner
        rw [List.cons_append, List.cons.injEq] at hsplit
        rw [← hsplit.2]
        exact within_inside hinner.2 rfl
  · exact within_inside hinner rfl

theorem Within.readOperand (hwithin : reader.Within outer) {lexeme : Lexeme}
    (hopening : lexeme ≠ .symbol ['(']) (hread : reader.readOperand lexeme = some next) :
    next.Within outer := by
  cases lexeme with
  | number chars =>
      cases hread
      exact hwithin
  | text chars =>
      cases hread
      exact hwithin
  | blob chars =>
      cases hread
      exact hwithin
  | name chars =>
      cases hread
      exact hwithin
  | parameter chars =>
      simp only [Reader.readOperand, Option.ite_none_right_eq_some, Option.some.injEq] at hread
      rw [← hread.2]
      exact hwithin
  | word chars =>
      simp only [Reader.readOperand] at hread
      split_ifs at hread with hnot hwith
      · cases hread
        exact hwithin.readNot
      · obtain ⟨expr, -, rfl⟩ := Option.map_eq_some_iff.mp hread
        exact hwithin
  | symbol chars =>
      have hchars : chars ≠ ['('] := fun h => hopening (by rw [h])
      rw [Reader.readOperand, if_neg hchars] at hread
      obtain ⟨op, -, rfl⟩ := Option.map_eq_some_iff.mp hread
      obtain ⟨inner, hframes, hinner⟩ := hwithin
      rw [hframes]
      exact within_inside hinner rfl
  | «variable» chars => cases hread
  | illegal => cases hread

theorem Within.readBinary (hwithin : reader.Within outer) (expr : Expr) (op : BinaryOp) :
    (reader.readBinary expr op).Within outer := by
  obtain ⟨inner, hframes, hinner⟩ := hwithin
  obtain ⟨left, whole, hreduce, hleft, -⟩ := reduce_within hinner op.level expr
  rw [Reader.readBinary, hframes, hreduce]
  exact within_inside hleft rfl

theorem Within.readTest (hwithin : reader.Within outer) (expr : Expr) (test : Expr → Expr) :
    (reader.readTest expr test).Within outer := by
  obtain ⟨inner, hframes, hinner⟩ := hwithin
  obtain ⟨left, whole, hreduce, hleft, -⟩ := reduce_within hinner BinaryOp.is.level expr
  rw [Reader.readTest, hframes, hreduce]
  exact ⟨left, rfl, hleft⟩

theorem Within.readOperator (hwithin : reader.Within outer) {expr : Expr} {lexeme : Lexeme}
    (hclosing : lexeme ≠ .symbol [')']) (hread : reader.readOperator expr lexeme = some next) :
    next.Within outer := by
  cases lexeme with
  | word chars =>
      simp only [Reader.readOperator] at hread
      split_ifs at hread with hnot hin hnull hnotNull
      · cases hread
        exact hwithin
      · cases hread
        exact hwithin
      · cases hread
        exact hwithin.readTest expr _
      · cases hread
        exact hwithin.readTest expr _
      · obtain ⟨op, -, rfl⟩ := Option.map_eq_some_iff.mp hread
        exact hwithin.readBinary expr op
  | symbol chars =>
      have hchars : chars ≠ [')'] := fun h => hclosing (by rw [h])
      rw [Reader.readOperator, if_neg hchars] at hread
      split_ifs at hread with hcomma
      · obtain ⟨inner, hframes, hinner⟩ := hwithin
        obtain ⟨left, whole, hreduce, -, hnone⟩ := reduce_within hinner 0 expr
        rw [Reader.readComma, hframes, hreduce, hnone rfl] at hread
        cases hread
      · obtain ⟨op, -, rfl⟩ := Option.map_eq_some_iff.mp hread
        exact hwithin.readBinary expr op
  | _ => cases hread

theorem Within.step (hwithin : reader.Within outer) {lexeme : Lexeme}
    (hopening : lexeme ≠ .symbol ['(']) (hclosing : lexeme ≠ .symbol [')'])
    (hstep : reader.step lexeme = some next) : next.Within outer := by
  unfold Reader.step at hstep
  cases hmode : reader.mode with
  | operand =>
      rw [hmode] at hstep
      exact hwithin.readOperand hopening hstep
  | operator expr =>
      rw [hmode] at hstep
      exact hwithin.readOperator hclosing hstep
  | notBehind expr =>
      simp only [hmode, Option.ite_none_right_eq_some, Option.some.injEq] at hstep
      rw [← hstep.2]
      exact hwithin.readTest expr _
  | inBehind expr =>
      simp only [hmode, if_neg hopening] at hstep
      cases hstep

def WithoutParens (lexemes : List Lexeme) : Prop :=
  .symbol ['('] ∉ lexemes ∧ .symbol [')'] ∉ lexemes

theorem Within.read {lexemes : List Lexeme} (hplain : WithoutParens lexemes)
    (hwithin : reader.Within outer) (hread : reader.read lexemes = some next) :
    next.Within outer := by
  induction lexemes generalizing reader with
  | nil =>
      cases hread
      exact hwithin
  | cons lexeme rest ih =>
      obtain ⟨hopening, hclosing⟩ := hplain
      rw [List.mem_cons, not_or] at hopening hclosing
      obtain ⟨middle, hstep, hrest⟩ := Option.bind_eq_some_iff.mp hread
      exact ih ⟨hopening.2, hclosing.2⟩
        (hwithin.step (Ne.symm hopening.1) (Ne.symm hclosing.1) hstep) hrest

theorem Within.closing (hwithin : reader.Within outer)
    (hstep : reader.step (.symbol [')']) = some next) :
    next.frames = outer ∧ ∃ expr, next.mode = .operator expr := by
  unfold Reader.step at hstep
  cases hmode : reader.mode with
  | operand =>
      simp only [hmode, Reader.readOperand] at hstep
      cases hstep
  | operator expr =>
      obtain ⟨inner, hframes, hinner⟩ := hwithin
      obtain ⟨left, whole, hreduce, -, hnone⟩ := reduce_within hinner 0 expr
      simp only [hmode, Reader.readOperator, if_true] at hstep
      rw [Reader.readClosing, hframes, hreduce, hnone rfl] at hstep
      cases hstep
      exact ⟨rfl, whole, rfl⟩
  | notBehind expr =>
      simp only [hmode] at hstep
      cases hstep
  | inBehind expr =>
      simp only [hmode] at hstep
      cases hstep

theorem read_append (reader : Reader) (first second : List Lexeme) :
    reader.read (first ++ second) = (reader.read first).bind fun middle => middle.read second := by
  rw [Reader.read, List.foldlM_append]
  rfl

end Reader

/-- A condition to which a part in parentheses is added with `AND`: the part does not change what
stands before it. -/
theorem parse_and_parens {before body : List Lexeme} {reader : Reader} {last condition : Expr}
    (hbefore : Reader.read ⟨[], .operand, 0⟩ before = some reader)
    (hmode : reader.mode = .operator last)
    (hreduce : reduce BinaryOp.and.level reader.frames last = ([], condition))
    (hbody : Reader.WithoutParens body) {expr : Expr}
    (hparse : parse (before ++ .word "AND".toList :: .symbol ['('] :: (body ++ [.symbol [')']])) =
      some expr) :
    ∃ part, expr = .binary .and condition part := by
  have hopened : reader.read (.word "AND".toList :: .symbol ['('] :: (body ++ [.symbol [')']])) =
      Reader.read ⟨[.paren, .infixed .and condition], .operand, reader.parameters⟩
        (body ++ [.symbol [')']]) := by
    have hand : reader.step (.word "AND".toList) =
        some ⟨[.infixed .and condition], .operand, reader.parameters⟩ := by
      have hop : wordOp (keywordOf "AND".toList) = some .and := by decide
      simp only [Reader.step, hmode, Reader.readOperator]
      rw [if_neg (by decide), if_neg (by decide), if_neg (by decide), if_neg (by decide), hop,
        Option.map_some, Reader.readBinary, hreduce]
      rfl
    rw [Reader.read, List.foldlM_cons, hand]
    rfl
  rw [parse, Reader.read_append, hbefore, Option.bind_some, hopened, Reader.read_append] at hparse
  obtain ⟨closed, hclosed, hfinish⟩ := Option.bind_eq_some_iff.mp hparse
  obtain ⟨inner, hinner, hclosing⟩ := Option.bind_eq_some_iff.mp hclosed
  have hwithin : Reader.Within [.infixed .and condition] inner :=
    Reader.Within.read hbody ⟨[], rfl, rfl⟩ hinner
  obtain ⟨last', hlast, hdone⟩ := Option.bind_eq_some_iff.mp hclosing
  cases hdone
  obtain ⟨hframes, part, hpart⟩ := hwithin.closing hlast
  rw [Reader.finish, hpart, hframes] at hfinish
  cases hfinish
  exact ⟨part, rfl⟩

/-! ## Parameters -/

def Expr.parameters : Expr → List Nat
  | .parameter index => [index]
  | .prefixed _ operand => operand.parameters
  | .binary _ left right => left.parameters ++ right.parameters
  | .isNull operand => operand.parameters
  | .notNull operand => operand.parameters
  | _ => []

def Expr.Below (count : Nat) (expr : Expr) : Prop :=
  ∀ index ∈ expr.parameters, index < count

def Frame.Below (count : Nat) : Frame → Prop
  | .paren => True
  | .prefixed _ => True
  | .infixed _ left => left.Below count
  | .members left before => left.Below count ∧ ∀ member ∈ before, member.Below count

def Mode.Below (count : Nat) : Mode → Prop
  | .operand => True
  | .operator expr => expr.Below count
  | .notBehind expr => expr.Below count
  | .inBehind expr => expr.Below count

structure Reader.Below (reader : Reader) : Prop where
  frames : ∀ frame ∈ reader.frames, frame.Below reader.parameters
  mode : reader.mode.Below reader.parameters

section Parameters

variable {count : Nat}

theorem Expr.below_binary {op : BinaryOp} {left right : Expr} (hleft : left.Below count)
    (hright : right.Below count) : (Expr.binary op left right).Below count := by
  intro index hindex
  rcases List.mem_append.mp hindex with hindex | hindex
  · exact hleft index hindex
  · exact hright index hindex

theorem Expr.below_member {left : Expr} (hleft : left.Below count) {members : List Expr}
    (hmembers : ∀ member ∈ members, member.Below count) : (left.member members).Below count := by
  induction members with
  | nil => exact fun _ hindex => absurd hindex List.not_mem_nil
  | cons first rest ih =>
      obtain ⟨hfirst, hrest⟩ := List.forall_mem_cons.mp hmembers
      cases rest with
      | nil => exact below_binary hleft hfirst
      | cons second rest => exact below_binary (below_binary hleft hfirst) (ih hrest)

theorem Expr.Below.mono {more : Nat} {expr : Expr} (hexpr : expr.Below count)
    (hmore : count ≤ more) : expr.Below more :=
  fun index hindex => (hexpr index hindex).trans_le hmore

theorem Frame.Below.mono {more : Nat} {frame : Frame} (hframe : frame.Below count)
    (hmore : count ≤ more) : frame.Below more := by
  cases frame with
  | paren => trivial
  | prefixed op => trivial
  | infixed op left => exact Expr.Below.mono hframe hmore
  | members left before =>
      exact ⟨hframe.1.mono hmore, fun member hmember => (hframe.2 member hmember).mono hmore⟩

theorem reduce_below (level : Nat) {frames : List Frame} {expr : Expr}
    (hframes : ∀ frame ∈ frames, frame.Below count) (hexpr : expr.Below count) :
    (∀ frame ∈ (reduce level frames expr).1, frame.Below count) ∧
      (reduce level frames expr).2.Below count := by
  induction frames generalizing expr with
  | nil => exact ⟨hframes, hexpr⟩
  | cons frame rest ih =>
      obtain ⟨hframe, hrest⟩ := List.forall_mem_cons.mp hframes
      cases frame with
      | paren => exact ⟨hframes, hexpr⟩
      | members left before => exact ⟨hframes, hexpr⟩
      | prefixed op =>
          rw [reduce]
          split_ifs
          · exact ih hrest hexpr
          · exact ⟨hframes, hexpr⟩
      | infixed op left =>
          rw [reduce]
          split_ifs
          · exact ih hrest (Expr.below_binary hframe hexpr)
          · exact ⟨hframes, hexpr⟩

namespace Reader

variable {reader next : Reader}

theorem below_inside {frames : List Frame} {frame : Frame}
    (hframes : ∀ frame ∈ frames, frame.Below reader.parameters)
    (hframe : frame.Below reader.parameters) : (reader.inside frames frame).Below where
  frames := List.forall_mem_cons.mpr ⟨hframe, hframes⟩
  mode := trivial

variable {expr : Expr}

theorem Below.behind (hreader : reader.Below) (hexpr : expr.Below reader.parameters) :
    (reader.behind expr).Below where
  frames := hreader.frames
  mode := hexpr

theorem Below.readNot (hreader : reader.Below) :
    reader.readNot.Below ∧ reader.readNot.parameters = reader.parameters := by
  unfold Reader.readNot
  split
  · rename_i left rest hframes
    have hall := hreader.frames
    rw [hframes] at hall
    obtain ⟨hframe, hrest⟩ := List.forall_mem_cons.mp hall
    exact ⟨below_inside hrest hframe, rfl⟩
  · exact ⟨below_inside hreader.frames trivial, rfl⟩

/-- Of the lexemes only `?` is counted. -/
def counted (lexeme : Lexeme) : Nat :=
  if lexeme = .parameter ['?'] then 1 else 0

theorem below_of_none (hnone : expr.parameters = []) {count : Nat} :
    expr.Below count := by
  intro index hindex
  rw [hnone] at hindex
  exact absurd hindex List.not_mem_nil

theorem operandWord_parameters {chars : List Char} (hword : operandWord chars = some expr) :
    expr.parameters = [] := by
  unfold operandWord at hword
  split_ifs at hword
  · cases hword
    rfl
  · cases hword
    rfl

variable {lexeme : Lexeme}

theorem Below.readOperand (hreader : reader.Below) (hread : reader.readOperand lexeme = some next) :
    next.Below ∧ next.parameters = reader.parameters + counted lexeme := by
  cases lexeme with
  | number chars =>
      cases hread
      exact ⟨hreader.behind (below_of_none rfl), rfl⟩
  | text chars =>
      cases hread
      exact ⟨hreader.behind (below_of_none rfl), rfl⟩
  | blob chars =>
      cases hread
      exact ⟨hreader.behind (below_of_none rfl), rfl⟩
  | name chars =>
      cases hread
      exact ⟨hreader.behind (below_of_none rfl), rfl⟩
  | parameter chars =>
      simp only [Reader.readOperand, Option.ite_none_right_eq_some, Option.some.injEq] at hread
      obtain ⟨rfl, rfl⟩ := hread
      refine ⟨⟨fun frame hframe => (hreader.frames frame hframe).mono (Nat.le_succ _), ?_⟩, rfl⟩
      intro index hindex
      rw [List.mem_singleton.mp hindex]
      exact Nat.lt_succ_self _
  | word chars =>
      simp only [Reader.readOperand] at hread
      split_ifs at hread with hnot hwith
      · cases hread
        exact hreader.readNot
      · obtain ⟨expr, hexpr, rfl⟩ := Option.map_eq_some_iff.mp hread
        exact ⟨hreader.behind (below_of_none (operandWord_parameters hexpr)), rfl⟩
  | symbol chars =>
      simp only [Reader.readOperand] at hread
      split_ifs at hread with hparen
      · cases hread
        exact ⟨below_inside hreader.frames trivial, rfl⟩
      · obtain ⟨op, -, rfl⟩ := Option.map_eq_some_iff.mp hread
        exact ⟨below_inside hreader.frames trivial, rfl⟩
  | «variable» chars => cases hread
  | illegal => cases hread

theorem Below.readBinary (hreader : reader.Below) (hexpr : expr.Below reader.parameters)
    (op : BinaryOp) :
    (reader.readBinary expr op).Below := by
  obtain ⟨hframes, hleft⟩ := reduce_below op.level hreader.frames hexpr
  exact below_inside hframes hleft

theorem Below.readTest (hreader : reader.Below) (hexpr : expr.Below reader.parameters)
    {test : Expr → Expr} (htest : ∀ operand, (test operand).parameters = operand.parameters) :
    (reader.readTest expr test).Below := by
  obtain ⟨hframes, hoperand⟩ := reduce_below BinaryOp.is.level hreader.frames hexpr
  refine ⟨hframes, ?_⟩
  intro index hindex
  rw [htest] at hindex
  exact hoperand index hindex

theorem Below.readClosing (hreader : reader.Below) (hexpr : expr.Below reader.parameters)
    (hread : reader.readClosing expr = some next) :
    next.Below ∧ next.parameters = reader.parameters := by
  obtain ⟨hframes, hinner⟩ := reduce_below 0 hreader.frames hexpr
  unfold Reader.readClosing at hread
  split at hread
  · rename_i rest inner hreduce
    rw [hreduce] at hframes hinner
    cases hread
    exact ⟨⟨(List.forall_mem_cons.mp hframes).2, hinner⟩, rfl⟩
  · rename_i left before rest last hreduce
    rw [hreduce] at hframes hinner
    obtain ⟨⟨hleft, hbefore⟩, hrest⟩ := List.forall_mem_cons.mp hframes
    cases hread
    refine ⟨⟨hrest, Expr.below_member hleft fun member hmember => ?_⟩, rfl⟩
    rcases List.mem_append.mp hmember with hmember | hmember
    · exact hbefore member (List.mem_reverse.mp hmember)
    · rw [List.mem_singleton.mp hmember]
      exact hinner
  · cases hread

theorem Below.readComma (hreader : reader.Below) (hexpr : expr.Below reader.parameters)
    (hread : reader.readComma expr = some next) :
    next.Below ∧ next.parameters = reader.parameters := by
  obtain ⟨hframes, hnext⟩ := reduce_below 0 hreader.frames hexpr
  unfold Reader.readComma at hread
  split at hread
  · rename_i left before rest inner hreduce
    rw [hreduce] at hframes hnext
    obtain ⟨⟨hleft, hbefore⟩, hrest⟩ := List.forall_mem_cons.mp hframes
    cases hread
    exact ⟨below_inside hrest ⟨hleft, List.forall_mem_cons.mpr ⟨hnext, hbefore⟩⟩, rfl⟩
  · cases hread

theorem Below.readOperator (hreader : reader.Below) (hexpr : expr.Below reader.parameters)
    (hread : reader.readOperator expr lexeme = some next) :
    next.Below ∧ next.parameters = reader.parameters + counted lexeme := by
  cases lexeme with
  | word chars =>
      simp only [Reader.readOperator] at hread
      split_ifs at hread with hnot hin hnull hnotNull
      · cases hread
        exact ⟨⟨hreader.frames, hexpr⟩, rfl⟩
      · cases hread
        exact ⟨⟨hreader.frames, hexpr⟩, rfl⟩
      · cases hread
        exact ⟨hreader.readTest hexpr fun _ => rfl, rfl⟩
      · cases hread
        exact ⟨hreader.readTest hexpr fun _ => rfl, rfl⟩
      · obtain ⟨op, -, rfl⟩ := Option.map_eq_some_iff.mp hread
        exact ⟨hreader.readBinary hexpr op, rfl⟩
  | symbol chars =>
      simp only [Reader.readOperator] at hread
      split_ifs at hread with hclosing hcomma
      · exact hreader.readClosing hexpr hread
      · exact hreader.readComma hexpr hread
      · obtain ⟨op, -, rfl⟩ := Option.map_eq_some_iff.mp hread
        exact ⟨hreader.readBinary hexpr op, rfl⟩
  | _ => cases hread

theorem counted_of_isKeyword {keyword : String} (hkeyword : isKeyword keyword lexeme) :
    counted lexeme = 0 := by
  cases lexeme with
  | word chars => rfl
  | _ => cases hkeyword

theorem Below.step (hreader : reader.Below) (hstep : reader.step lexeme = some next) :
    next.Below ∧ next.parameters = reader.parameters + counted lexeme := by
  have hmodeBelow := hreader.mode
  unfold Reader.step at hstep
  cases hmode : reader.mode with
  | operand =>
      rw [hmode] at hstep
      exact hreader.readOperand hstep
  | operator expr =>
      rw [hmode] at hstep hmodeBelow
      exact hreader.readOperator hmodeBelow hstep
  | notBehind expr =>
      rw [hmode] at hmodeBelow
      simp only [hmode, Option.ite_none_right_eq_some, Option.some.injEq] at hstep
      obtain ⟨hkeyword, rfl⟩ := hstep
      rw [counted_of_isKeyword hkeyword]
      exact ⟨hreader.readTest hmodeBelow fun _ => rfl, rfl⟩
  | inBehind expr =>
      rw [hmode] at hmodeBelow
      simp only [hmode, Option.ite_none_right_eq_some, Option.some.injEq] at hstep
      obtain ⟨rfl, rfl⟩ := hstep
      obtain ⟨hframes, hleft⟩ := reduce_below BinaryOp.is.level hreader.frames hmodeBelow
      exact ⟨below_inside hframes ⟨hleft, fun _ hmember => absurd hmember List.not_mem_nil⟩, rfl⟩

theorem Below.read {lexemes : List Lexeme} (hreader : reader.Below)
    (hread : reader.read lexemes = some next) :
    next.Below ∧ next.parameters = reader.parameters + lexemes.count (.parameter ['?']) := by
  induction lexemes generalizing reader with
  | nil =>
      cases hread
      exact ⟨hreader, rfl⟩
  | cons lexeme rest ih =>
      obtain ⟨middle, hstep, hrest⟩ := Option.bind_eq_some_iff.mp hread
      obtain ⟨hmiddle, hcount⟩ := hreader.step hstep
      obtain ⟨hnext, hcounts⟩ := ih hmiddle hrest
      refine ⟨hnext, ?_⟩
      rw [hcounts, hcount, List.count_cons, counted]
      simp only [beq_iff_eq]
      omega

end Reader

theorem parse_below {lexemes : List Lexeme} {expr : Expr} (hparse : parse lexemes = some expr) :
    expr.Below (lexemes.count (.parameter ['?'])) := by
  obtain ⟨reader, hread, hfinish⟩ := Option.bind_eq_some_iff.mp hparse
  have hstart : Reader.Below ⟨[], .operand, 0⟩ :=
    ⟨fun _ hframe => absurd hframe List.not_mem_nil, trivial⟩
  obtain ⟨hreader, hcount⟩ := hstart.read hread
  have hmode := hreader.mode
  rw [Nat.zero_add] at hcount
  unfold Reader.finish at hfinish
  split at hfinish
  · rename_i last hlast
    rw [hlast] at hmode
    obtain ⟨-, hwhole⟩ := reduce_below 0 hreader.frames hmode
    split at hfinish
    · rename_i whole hreduce
      cases hfinish
      rw [hreduce, hcount] at hwhole
      exact hwhole
    · cases hfinish
  · cases hfinish

end Parameters

/-! ## Lexemes which stand in no condition -/

theorem Reader.read_eq_none {lexeme : Lexeme} {lexemes : List Lexeme} {reader : Reader}
    (hnone : ∀ reader : Reader, reader.step lexeme = none) (hmem : lexeme ∈ lexemes) :
    reader.read lexemes = none := by
  induction lexemes generalizing reader with
  | nil => exact absurd hmem List.not_mem_nil
  | cons first rest ih =>
      rw [Reader.read, List.foldlM_cons, Option.bind_eq_bind, Option.bind_eq_none_iff]
      intro next hnext
      rcases List.mem_cons.mp hmem with rfl | hrest
      · rw [hnone reader] at hnext
        cases hnext
      · exact ih hrest

theorem parse_eq_none {lexeme : Lexeme} {lexemes : List Lexeme}
    (hnone : ∀ reader : Reader, reader.step lexeme = none) (hmem : lexeme ∈ lexemes) :
    parse lexemes = none := by
  rw [parse, Reader.read_eq_none hnone hmem]
  rfl

theorem Reader.step_illegal (reader : Reader) : reader.step .illegal = none := by
  unfold Reader.step
  split
  · rfl
  · rfl
  · rfl
  · rfl

theorem Reader.step_keyword {chars : List Char} (hreserved : keywordOf chars ∈ reserved)
    (hnone : keywordOf chars ∉ ["NOT", "NULL", "WITH", "IN", "ISNULL", "NOTNULL", "OR", "AND", "IS"])
    (reader : Reader) : reader.step (.word chars) = none := by
  simp only [List.mem_cons, List.not_mem_nil, or_false, not_or] at hnone
  obtain ⟨hnot, hnull, hwith, hin, hisNull, hnotNull, hor, hand, his⟩ := hnone
  unfold Reader.step
  split
  · simp only [readOperand, hnot, hwith, false_and, if_false, operandWord, hnull,
      List.mem_cons_of_mem _ (List.mem_cons_of_mem _ hreserved), if_true, Option.map_none]
  · have hop : wordOp (keywordOf chars) = none := by
      unfold wordOp
      split
      · exact absurd ‹_› hor
      · exact absurd ‹_› hand
      · exact absurd ‹_› his
      · rfl
    simp only [readOperator, hnot, hin, hisNull, hnotNull, if_false, hop, Option.map_none]
  · simp only [isKeyword, hnull, decide_false, Bool.false_eq_true, if_false]
  · rw [if_neg (by simp)]

end SqliteText
