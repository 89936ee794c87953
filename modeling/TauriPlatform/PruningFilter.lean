import TauriPlatform.JsonValue
import TauriPlatform.RegularPattern
import TauriPlatform.SqliteConditions

/-!
# Filters of pruning policies

`isSafePruningFilterCondition` accepts a text which is meant to be the comparison of a column
with a literal value.  The blank before `IS` may be missing, and a text in quotes may hold a NUL.
-/

namespace TauriPlatform

open Regular SqliteScript SqliteText

namespace PruningFilter

/-! ## The accepted texts -/

def blanks : Pattern :=
  .star (.set isSqlBlank)

def someBlanks : Pattern :=
  .plus (.set isSqlBlank)

def isIdentifierChar (c : Char) : Bool :=
  c.isAlphanum || c = '_'

def identifier : Pattern :=
  .seq (.set isNameStart) (.star (.set isIdentifierChar))

def operators : List (List Char) :=
  [['='], ['<', '>'], ['!', '='], ['<', '='], ['>', '='], ['<'], ['>']]

def operator : Pattern :=
  .anyOf (operators.map .text)

def quotedBody : Pattern :=
  .star (.either (.text ['\x27', '\x27']) (.set (· ≠ '\x27')))

def quoted : Pattern :=
  .seq (.char '\x27') (.seq quotedBody (.char '\x27'))

def sign : Pattern :=
  .optional (.set fun c => c = '-' || c = '+')

def digits : Pattern :=
  .plus (.set isDigit)

def mantissa : Pattern :=
  .either (.seq digits (.optional (.seq (.char '.') (.star (.set isDigit)))))
    (.seq (.char '.') digits)

def exponent : Pattern :=
  .seq (.set fun c => c = 'e' || c = 'E') (.seq sign digits)

def number : Pattern :=
  .seq mantissa (.optional exponent)

def keyword (text : String) : Pattern :=
  .textIgnoringCase text.toList

def literal : Pattern :=
  .anyOf [quoted, .seq sign number, keyword "TRUE", keyword "FALSE", keyword "NULL"]

def comparison : Pattern :=
  .seq operator (.seq blanks literal)

def nullTest : Pattern :=
  .seq (keyword "IS")
    (.seq someBlanks (.seq (.optional (.seq (keyword "NOT") someBlanks)) (keyword "NULL")))

def safePruningFilter : Pattern :=
  .seq blanks (.seq identifier (.seq blanks (.seq (.either comparison nullTest) blanks)))

end PruningFilter

open PruningFilter

def isSafePruningFilterCondition (value : String) : Bool :=
  jsLength value ≤ 512 && safePruningFilter.accepts value.toList

example : isSafePruningFilterCondition "status = 'it''s'" := by
  decide

example : ¬ isSafePruningFilterCondition "status = 'ARCHIVED' OR 1 = 1" := by
  decide

namespace PruningFilter

/-! ## The parts of an accepted text -/

def IsBlanks (chars : List Char) : Prop :=
  chars.all isSqlBlank

def IsIdentifier (chars : List Char) : Prop :=
  ∃ c more, chars = c :: more ∧ isNameStart c ∧ more.all isIdentifierChar

def IsKeyword (keyword : String) (chars : List Char) : Prop :=
  keywordOf chars = keyword ∧ chars.all isNameStart

inductive IsLiteral : List Char → Prop
  | quoted {body : List Char} (hbody : Quoted '\x27' body) :
      IsLiteral ('\x27' :: (body ++ ['\x27']))
  | number {sign number : List Char} (hsign : sign = [] ∨ sign = ['-'] ∨ sign = ['+'])
      (hnumber : IsDecimal number) : IsLiteral (sign ++ number)
  | keyword {word : List Char} {keyword : String} (hmem : keyword ∈ ["TRUE", "FALSE", "NULL"])
      (hword : IsKeyword keyword word) : IsLiteral word

inductive IsComparison : List Char → Prop
  | intro {operator blanks literal : List Char} (hoperator : operator ∈ operators)
      (hblanks : IsBlanks blanks) (hliteral : IsLiteral literal) :
      IsComparison (operator ++ (blanks ++ literal))

/-- `IS`, with what stands behind its blanks. -/
inductive IsNullTest : List Char → List Char → Prop
  | null {word blanks null : List Char} (hword : IsKeyword "IS" word) (hblanks : IsBlanks blanks)
      (hne : blanks ≠ []) (hnull : IsKeyword "NULL" null) : IsNullTest word (blanks ++ null)
  | notNull {word blanks not between null : List Char} (hword : IsKeyword "IS" word)
      (hblanks : IsBlanks blanks) (hne : blanks ≠ []) (hnot : IsKeyword "NOT" not)
      (hbetween : IsBlanks between) (hbetweenNe : between ≠ []) (hnull : IsKeyword "NULL" null) :
      IsNullTest word (blanks ++ (not ++ (between ++ null)))

inductive Accepted : List Char → Prop
  | comparison {before word between test after : List Char} (hbefore : IsBlanks before)
      (hword : IsIdentifier word) (hbetween : IsBlanks between) (htest : IsComparison test)
      (hafter : IsBlanks after) : Accepted (before ++ (word ++ (between ++ (test ++ after))))
  | nullTest {before word between is null after : List Char} (hbefore : IsBlanks before)
      (hword : IsIdentifier word) (hbetween : IsBlanks between) (hne : between ≠ [])
      (htest : IsNullTest is null) (hafter : IsBlanks after) :
      Accepted (before ++ (word ++ (between ++ (is ++ (null ++ after)))))
  /-- The word of the column and `IS` make up one word. -/
  | joined {before word is null after : List Char} (hbefore : IsBlanks before)
      (hword : IsIdentifier word) (htest : IsNullTest is null) (hafter : IsBlanks after) :
      Accepted (before ++ (word ++ (is ++ (null ++ after))))

section Parts

variable {chars : List Char}

theorem matches_blanks : Matches blanks chars ↔ IsBlanks chars := by
  rw [blanks, matches_star_set, IsBlanks, List.all_eq_true]

theorem matches_someBlanks : Matches someBlanks chars ↔ chars ≠ [] ∧ IsBlanks chars := by
  rw [someBlanks, matches_plus_set, IsBlanks, List.all_eq_true]

theorem all_isNameStart_of_matches {expected : List Char}
    (hletters : expected.all fun c => isNameStart c.toUpper && isNameStart c.toLower)
    (hmatches : Matches (.textIgnoringCase expected) chars) : chars.all isNameStart := by
  induction expected generalizing chars with
  | nil =>
      rw [matches_epsilon.mp hmatches]
      rfl
  | cons c rest ih =>
      rw [List.all_cons, Bool.and_eq_true, Bool.and_eq_true] at hletters
      obtain ⟨first, second, hfirst, hsecond, rfl⟩ := matches_seq.mp hmatches
      obtain ⟨d, hd, rfl⟩ := matches_set.mp hfirst
      rw [List.singleton_append, List.all_cons, ih hletters.2 hsecond, Bool.and_true]
      simp only [Bool.or_eq_true, beq_iff_eq] at hd
      rcases hd with rfl | rfl
      · exact hletters.1.1
      · exact hletters.1.2

theorem isKeyword_of_matches {text : String} (hcases : text.toList.all hasCases)
    (hletters : text.toList.all fun c => isNameStart c.toUpper && isNameStart c.toLower)
    (hmatches : Matches (keyword text) chars) : IsKeyword text chars := by
  refine ⟨?_, all_isNameStart_of_matches hletters hmatches⟩
  rw [keywordOf, map_toUpper_of_matches hcases hmatches, String.ofList_toList]

theorem quoted_of_matches (hmatches : Matches quotedBody chars) : Quoted '\x27' chars := by
  unfold quotedBody at hmatches
  generalize hpattern : Pattern.star _ = pattern at hmatches
  induction hmatches with
  | starNil => exact .nil
  | starCons hfirst _ _ ihrest =>
      cases hpattern
      rcases matches_either.mp hfirst with hdoubled | hplain
      · rw [matches_text.mp hdoubled]
        exact .doubled (ihrest rfl)
      · obtain ⟨c, hc, rfl⟩ := matches_set.mp hplain
        exact .plain (by simpa using hc) (ihrest rfl)
  | epsilon => cases hpattern
  | set => cases hpattern
  | seq => cases hpattern
  | left => cases hpattern
  | right => cases hpattern

theorem matches_digits : Matches digits chars ↔ chars ≠ [] ∧ chars.all isDigit := by
  rw [digits, matches_plus_set, List.all_eq_true]

theorem sign_of_matches (hmatches : Matches sign chars) :
    chars = [] ∨ chars = ['-'] ∨ chars = ['+'] := by
  rcases matches_optional.mp hmatches with hsign | rfl
  · obtain ⟨c, hc, rfl⟩ := matches_set.mp hsign
    simp only [Bool.or_eq_true, decide_eq_true_eq] at hc
    rcases hc with rfl | rfl
    · exact .inr (.inl rfl)
    · exact .inr (.inr rfl)
  · exact .inl rfl

theorem isExponent_of_matches (hmatches : Matches (.optional exponent) chars) :
    IsExponent chars := by
  rcases matches_optional.mp hmatches with hexponent | rfl
  · obtain ⟨first, second, hfirst, hsecond, rfl⟩ := matches_seq.mp hexponent
    obtain ⟨marker, hmarker, rfl⟩ := matches_set.mp hfirst
    obtain ⟨signs, number, hsign, hnumber, rfl⟩ := matches_seq.mp hsecond
    obtain ⟨hne, hdigits⟩ := matches_digits.mp hnumber
    cases number with
    | nil => exact absurd rfl hne
    | cons digit number =>
        rw [List.all_cons, Bool.and_eq_true] at hdigits
        have hsigns : signs = [] ∨ signs = ['+'] ∨ signs = ['-'] := by
          rcases sign_of_matches hsign with hnone | hminus | hplus
          · exact .inl hnone
          · exact .inr (.inr hminus)
          · exact .inr (.inl hplus)
        exact .inr ⟨marker, signs, digit, number, rfl, by simpa using hmarker, hsigns,
          hdigits.1, hdigits.2⟩
  · exact .inl rfl

theorem isDecimal_of_matches (hmatches : Matches number chars) : IsDecimal chars := by
  obtain ⟨first, second, hmantissa, hexponent, rfl⟩ := matches_seq.mp hmatches
  rcases matches_either.mp hmantissa with hwhole | hfraction
  · obtain ⟨whole, fraction, hdigits, hpoint, rfl⟩ := matches_seq.mp hwhole
    obtain ⟨hne, hall⟩ := matches_digits.mp hdigits
    refine ⟨whole, fraction, second, rfl, hall, ?_, isExponent_of_matches hexponent, .inl hne⟩
    rcases matches_optional.mp hpoint with hsome | rfl
    · obtain ⟨point, behind, hchar, hbehind, rfl⟩ := matches_seq.mp hsome
      rw [matches_char.mp hchar]
      exact .inr ⟨behind, rfl, List.all_eq_true.mpr (matches_star_set.mp hbehind)⟩
    · exact .inl rfl
  · obtain ⟨point, behind, hchar, hbehind, rfl⟩ := matches_seq.mp hfraction
    obtain ⟨hne, hall⟩ := matches_digits.mp hbehind
    rw [matches_char.mp hchar]
    refine ⟨[], '.' :: behind, second, rfl, rfl, .inr ⟨behind, rfl, hall⟩,
      isExponent_of_matches hexponent, .inr ?_⟩
    cases behind with
    | nil => exact absurd rfl hne
    | cons digit behind => exact ⟨digit, behind, rfl⟩

theorem isLiteral_of_matches (hmatches : Matches literal chars) : IsLiteral chars := by
  obtain ⟨pattern, hpattern, hmatches⟩ := matches_anyOf.mp hmatches
  simp only [List.mem_cons, List.not_mem_nil, or_false] at hpattern
  rcases hpattern with rfl | rfl | rfl | rfl | rfl
  · obtain ⟨opening, rest, hopening, hrest, rfl⟩ := matches_seq.mp hmatches
    obtain ⟨body, closing, hbody, hclosing, rfl⟩ := matches_seq.mp hrest
    rw [matches_char.mp hopening, matches_char.mp hclosing]
    exact .quoted (quoted_of_matches hbody)
  · obtain ⟨signs, digits, hsign, hdigits, rfl⟩ := matches_seq.mp hmatches
    exact .number (sign_of_matches hsign) (isDecimal_of_matches hdigits)
  · exact .keyword (by simp) (isKeyword_of_matches (by decide) (by decide) hmatches)
  · exact .keyword (by simp) (isKeyword_of_matches (by decide) (by decide) hmatches)
  · exact .keyword (by simp) (isKeyword_of_matches (by decide) (by decide) hmatches)

theorem isComparison_of_matches (hmatches : Matches comparison chars) : IsComparison chars := by
  obtain ⟨op, rest, hop, hrest, rfl⟩ := matches_seq.mp hmatches
  obtain ⟨between, value, hbetween, hvalue, rfl⟩ := matches_seq.mp hrest
  obtain ⟨pattern, hpattern, hop⟩ := matches_anyOf.mp hop
  obtain ⟨text, htext, rfl⟩ := List.mem_map.mp hpattern
  rw [matches_text.mp hop]
  exact .intro htext (matches_blanks.mp hbetween) (isLiteral_of_matches hvalue)

theorem isNullTest_of_matches (hmatches : Matches nullTest chars) :
    ∃ is null, chars = is ++ null ∧ IsNullTest is null := by
  obtain ⟨is, behindIs, his, hbehindIs, rfl⟩ := matches_seq.mp hmatches
  obtain ⟨between, tail, hbetween, htail, rfl⟩ := matches_seq.mp hbehindIs
  obtain ⟨nots, null, hnot, hnull, rfl⟩ := matches_seq.mp htail
  have hword := isKeyword_of_matches (by decide) (by decide) his
  have hnullWord := isKeyword_of_matches (by decide) (by decide) hnull
  obtain ⟨hne, hblanks⟩ := matches_someBlanks.mp hbetween
  rcases matches_optional.mp hnot with hnot | rfl
  · obtain ⟨not, after, hnotWord, hafter, rfl⟩ := matches_seq.mp hnot
    obtain ⟨hafterNe, hafterBlanks⟩ := matches_someBlanks.mp hafter
    refine ⟨is, _, rfl, ?_⟩
    rw [List.append_assoc]
    exact .notNull hword hblanks hne (isKeyword_of_matches (by decide) (by decide) hnotWord)
      hafterBlanks hafterNe hnullWord
  · exact ⟨is, _, rfl, .null hword hblanks hne hnullWord⟩

theorem accepted_of_matches (hmatches : Matches safePruningFilter chars) : Accepted chars := by
  obtain ⟨before, behindBlanks, hbefore, hbehindBlanks, rfl⟩ := matches_seq.mp hmatches
  obtain ⟨word, behindWord, hword, hbehindWord, rfl⟩ := matches_seq.mp hbehindBlanks
  obtain ⟨between, tail, hbetween, htail, rfl⟩ := matches_seq.mp hbehindWord
  obtain ⟨test, after, htest, hafter, rfl⟩ := matches_seq.mp htail
  obtain ⟨first, more, hfirst, hmore, rfl⟩ := matches_seq.mp hword
  obtain ⟨c, hc, rfl⟩ := matches_set.mp hfirst
  have hidentifier : IsIdentifier ([c] ++ more) :=
    ⟨c, more, rfl, hc, List.all_eq_true.mpr (matches_star_set.mp hmore)⟩
  have hbeforeBlanks := matches_blanks.mp hbefore
  have hafterBlanks := matches_blanks.mp hafter
  rcases matches_either.mp htest with hcomparison | hnull
  · exact .comparison hbeforeBlanks hidentifier (matches_blanks.mp hbetween)
      (isComparison_of_matches hcomparison) hafterBlanks
  · obtain ⟨is, null, rfl, hnullTest⟩ := isNullTest_of_matches hnull
    rw [List.append_assoc is null after]
    by_cases hne : between = []
    · subst hne
      rw [List.nil_append]
      exact .joined hbeforeBlanks hidentifier hnullTest hafterBlanks
    · exact .nullTest hbeforeBlanks hidentifier (matches_blanks.mp hbetween) hne hnullTest
        hafterBlanks

end Parts

/-! ## The lexemes of an accepted text -/

inductive IsLiteralLexemes : List Lexeme → Prop
  | text (chars : List Char) : IsLiteralLexemes [.text chars]
  | number (chars : List Char) : IsLiteralLexemes [.number chars]
  | signed {sign : List Char} (hsign : sign = ['-'] ∨ sign = ['+']) (chars : List Char) :
      IsLiteralLexemes [.symbol sign, .number chars]
  | keyword {word : List Char} (hword : keywordOf word ∈ ["TRUE", "FALSE", "NULL"]) :
      IsLiteralLexemes [.word word]

/-- `NULL` or `NOT NULL`. -/
inductive IsNullLexemes : List Lexeme → Prop
  | null {null : List Char} (hnull : keywordOf null = "NULL") : IsNullLexemes [.word null]
  | notNull {not null : List Char} (hnot : keywordOf not = "NOT")
      (hnull : keywordOf null = "NULL") : IsNullLexemes [.word not, .word null]

/-- A column which is compared with a literal, or tested for `NULL`. -/
inductive IsTestLexemes : List Lexeme → Prop
  | comparison (column : List Char) {op : List Char} {literal : List Lexeme}
      (hop : op ∈ operators) (hliteral : IsLiteralLexemes literal) :
      IsTestLexemes (.word column :: .symbol op :: literal)
  | nullTest (column : List Char) {is : List Char} {null : List Lexeme}
      (his : keywordOf is = "IS") (hnull : IsNullLexemes null) :
      IsTestLexemes (.word column :: .word is :: null)

/-- A column and `IS` which make up one word. -/
inductive IsJoinedLexemes : List Lexeme → Prop
  | intro (column : List Char) {null : List Lexeme} (hnull : IsNullLexemes null) :
      IsJoinedLexemes (.word column :: null)

theorem not_isTestLexemes_of_joined {lexemes : List Lexeme} (hjoined : IsJoinedLexemes lexemes) :
    ¬ IsTestLexemes lexemes := by
  intro htest
  obtain ⟨column, hnull⟩ := hjoined
  cases hnull with
  | null hnull =>
      cases htest with
      | nullTest _ _ hempty => cases hempty
  | notNull hnot hnull =>
      cases htest with
      | nullTest _ his =>
          rw [hnot] at his
          exact absurd his (by decide)

def endsLiteral (c : Char) : Bool :=
  isSqlBlank c || c = ')'

theorem begins_of_endsLiteral {p : Char → Bool} {rest : List Char}
    (hrest : Begins endsLiteral rest) (hall : [' ', '\t', '\n', '\r', ')'].all p) :
    Begins p rest := by
  refine hrest.mono fun c hc => List.all_eq_true.mp hall c ?_
  simpa [endsLiteral, isSqlBlank, or_assoc] using hc

section Lexing

variable {chars rest : List Char}

theorem head?_ne_of_begins {c : Char} (hbegins : Begins (fun d => d ≠ c) chars) :
    chars.head? ≠ some c := by
  intro hhead
  rw [Begins, hhead] at hbegins
  simp at hbegins

theorem isIdChar_of_isIdentifierChar {c : Char} (hc : isIdentifierChar c) : isIdChar c := by
  simp only [isIdentifierChar, Bool.or_eq_true] at hc
  rcases hc with hc | hc
  · simp [isIdChar, hc]
  · simp only [isIdChar, hc, Bool.or_true, Bool.true_or]

theorem isIdentifierChar_of_isNameStart {c : Char} (hc : isNameStart c) : isIdentifierChar c := by
  simp only [isNameStart, Bool.or_eq_true] at hc
  rcases hc with hc | hc
  · simp [isIdentifierChar, Char.isAlphanum, hc]
  · simp only [isIdentifierChar, hc, Bool.or_true]

theorem IsKeyword.isIdentifier {keyword : String} (hword : IsKeyword keyword chars)
    (hne : keyword ≠ "") : IsIdentifier chars := by
  obtain ⟨hkeyword, hletters⟩ := hword
  cases chars with
  | nil => exact absurd hkeyword.symm hne
  | cons c more =>
      rw [List.all_cons, Bool.and_eq_true] at hletters
      refine ⟨c, more, rfl, hletters.1, ?_⟩
      rw [List.all_eq_true] at hletters ⊢
      exact fun d hd => isIdentifierChar_of_isNameStart (hletters.2 d hd)

variable {word : List Char}

theorem IsIdentifier.all (hword : IsIdentifier word) :
    word.all isIdentifierChar := by
  obtain ⟨c, more, rfl, hc, hmore⟩ := hword
  rw [List.all_cons, isIdentifierChar_of_isNameStart hc, hmore]
  rfl

theorem IsIdentifier.append {more : List Char} (hword : IsIdentifier word)
    (hmore : IsIdentifier more) : IsIdentifier (word ++ more) := by
  obtain ⟨c, behind, rfl, hc, hbehind⟩ := hword
  refine ⟨c, behind ++ more, rfl, hc, ?_⟩
  rw [List.all_append, hbehind, hmore.all]
  rfl

theorem lexAll_identifier (hword : IsIdentifier word)
    (hrest : Begins (fun d => !isIdChar d && d ≠ '\x27') rest) :
    lexAll (word ++ rest) = .word word :: lexAll rest := by
  obtain ⟨c, more, rfl, hc, hmore⟩ := hword
  have hid : more.all isIdChar := by
    rw [List.all_eq_true] at hmore ⊢
    exact fun d hd => isIdChar_of_isIdentifierChar (hmore d hd)
  have hends : Begins (fun d => !isIdChar d) rest :=
    hrest.mono fun d hd => (Bool.and_eq_true _ _ ▸ hd).1
  apply lexAll_word hc hid hends
  have hquote : Begins (fun d => d ≠ '\x27') (more ++ rest) := by
    refine begins_append (begins_of_all ?_) fun _ => hrest.mono fun d hd =>
      (Bool.and_eq_true _ _ ▸ hd).2
    rw [List.all_eq_true] at hid ⊢
    intro d hd
    rw [decide_eq_true_eq]
    rintro rfl
    exact absurd (hid _ hd) (by decide)
  exact head?_ne_of_begins hquote

theorem lexAll_operator {op : List Char} (hop : op ∈ operators)
    (hrest : Begins (fun d => d ≠ '=' && d ≠ '<' && d ≠ '>') rest) :
    lexAll (op ++ rest) = .symbol op :: lexAll rest := by
  have hsingle : ∀ c, c = '=' ∨ c = '<' ∨ c = '>' → Begins (fun d => (c, d) ∉ pairs) rest := by
    intro c hc
    refine hrest.mono fun d hd => ?_
    simp only [Bool.and_eq_true, decide_eq_true_eq] at hd
    rcases hc with rfl | rfl | rfl
    all_goals simp [pairs, hd]
  simp only [operators, List.mem_cons, List.not_mem_nil, or_false] at hop
  rcases hop with rfl | rfl | rfl | rfl | rfl | rfl | rfl
  · exact lexAll_symbol (by decide) (by decide) (hsingle _ (by simp))
  · exact lexAll_pair (by decide) (by decide)
  · exact lexAll_pair (by decide) (by decide)
  · exact lexAll_pair (by decide) (by decide)
  · exact lexAll_pair (by decide) (by decide)
  · exact lexAll_symbol (by decide) (by decide) (hsingle _ (by simp))
  · exact lexAll_symbol (by decide) (by decide) (hsingle _ (by simp))

theorem begins_decimal {number : List Char} (hnumber : IsDecimal number) :
    ∃ c more, number = c :: more ∧ (isDigit c ∨ c = '.') := by
  obtain ⟨whole, fraction, exponent, rfl, hwhole, -, -, hne⟩ := hnumber
  cases whole with
  | nil =>
      rcases hne with hne | ⟨digit, digits, rfl⟩
      · exact absurd rfl hne
      · exact ⟨'.', _, rfl, .inr rfl⟩
  | cons digit whole =>
      rw [List.all_cons, Bool.and_eq_true] at hwhole
      exact ⟨digit, _, rfl, .inl hwhole.1⟩

def startsLiteral (c : Char) : Bool :=
  c = '\x27' || c = '-' || c = '+' || isDigit c || c = '.' || isNameStart c

theorem IsLiteral.begins (hliteral : IsLiteral chars) :
    ∃ c more, chars = c :: more ∧ startsLiteral c := by
  cases hliteral with
  | quoted hbody => exact ⟨_, _, rfl, by decide⟩
  | number hsign hnumber =>
      rcases hsign with rfl | rfl | rfl
      · obtain ⟨c, more, rfl, hc⟩ := begins_decimal hnumber
        refine ⟨c, more, rfl, ?_⟩
        rcases hc with hc | rfl
        · simp [startsLiteral, hc]
        · decide
      · exact ⟨_, _, rfl, by decide⟩
      · exact ⟨_, _, rfl, by decide⟩
  | keyword hmem hword =>
      obtain ⟨c, more, rfl, hc, -⟩ := hword.isIdentifier (by rintro rfl; revert hmem; decide)
      exact ⟨c, more, rfl, by simp [startsLiteral, hc]⟩

theorem lexAll_literal (hliteral : IsLiteral chars) :
    ∃ lexemes, IsLiteralLexemes lexemes ∧
      ∀ rest, Begins endsLiteral rest → lexAll (chars ++ rest) = lexemes ++ lexAll rest := by
  cases hliteral with
  | @quoted body hbody =>
      refine ⟨[.text ('\x27' :: (body ++ ['\x27']))], .text _, fun rest hrest => ?_⟩
      rw [List.cons_append, List.append_assoc]
      exact lexAll_text hbody (head?_ne_of_begins (begins_of_endsLiteral hrest (by decide)))
  | @number sign number hsign hnumber =>
      have hlex : ∀ rest, Begins endsLiteral rest →
          lexAll (number ++ rest) = .number number :: lexAll rest := fun rest hrest =>
        lexAll_number hnumber (begins_of_endsLiteral hrest (by decide))
      rcases hsign with rfl | rfl | rfl
      · exact ⟨[.number _], .number _, hlex⟩
      · refine ⟨_, .signed (.inl rfl) number, fun rest hrest => ?_⟩
        rw [List.append_assoc, List.singleton_append, lexAll_minus ?_, hlex rest hrest]
        · rfl
        · obtain ⟨c, more, rfl, hc⟩ := begins_decimal hnumber
          rw [List.cons_append, begins_cons]
          rcases hc with hc | rfl
          · have hne : c ≠ '-' ∧ c ≠ '>' := by
              constructor
              all_goals
                rintro rfl
                exact absurd hc (by decide)
            simpa using hne
          · decide
      · refine ⟨_, .signed (.inr rfl) number, fun rest hrest => ?_⟩
        have hnone : Begins (fun d => ('+', d) ∉ pairs) (number ++ rest) := by
          cases number ++ rest with
          | nil => rfl
          | cons d more => simp [pairs]
        rw [List.append_assoc, List.singleton_append, lexAll_symbol (by decide) (by decide) hnone,
          hlex rest hrest]
        rfl
  | keyword hmem hword =>
      refine ⟨_, .keyword (hword.1 ▸ hmem), fun rest hrest => ?_⟩
      exact lexAll_identifier (hword.isIdentifier (by rintro rfl; revert hmem; decide))
        (begins_of_endsLiteral hrest (by decide))

theorem lexAll_spaced {blanks : List Char} (hblanks : IsBlanks blanks) (hword : IsIdentifier word)
    (hrest : Begins (fun d => !isIdChar d && d ≠ '\x27') rest) :
    lexAll (blanks ++ (word ++ rest)) = .word word :: lexAll rest := by
  rw [lexAll_blanks hblanks ?_, lexAll_identifier hword hrest]
  obtain ⟨c, more, rfl, hc, -⟩ := hword
  rw [List.cons_append, begins_cons, decide_eq_true_eq]
  rintro rfl
  exact absurd hc (by decide)

theorem begins_blanks {blanks : List Char} {p : Char → Bool} (hblanks : IsBlanks blanks)
    (hall : [' ', '\t', '\n', '\r'].all p) (hrest : blanks = [] → Begins p rest) :
    Begins p (blanks ++ rest) := by
  refine begins_append (Begins.mono (begins_of_all hblanks) fun c hc => ?_) hrest
  apply List.all_eq_true.mp hall c
  simpa [isSqlBlank, or_assoc] using hc

theorem lexAll_nullTest {is null : List Char} (htest : IsNullTest is null) :
    ∃ lexemes, IsNullLexemes lexemes ∧
      ∀ rest, Begins endsLiteral rest → lexAll (null ++ rest) = lexemes ++ lexAll rest := by
  cases htest with
  | null hword hblanks hne hnull =>
      refine ⟨_, .null hnull.1, fun rest hrest => ?_⟩
      rw [List.append_assoc, lexAll_spaced hblanks (hnull.isIdentifier (by decide))
        (begins_of_endsLiteral hrest (by decide))]
      rfl
  | notNull hword hblanks hne hnot hbetween hbetweenNe hnull =>
      refine ⟨_, .notNull hnot.1 hnull.1, fun rest hrest => ?_⟩
      rw [List.append_assoc, List.append_assoc,
        lexAll_spaced hblanks (hnot.isIdentifier (by decide)) ?_, List.append_assoc,
        lexAll_spaced hbetween (hnull.isIdentifier (by decide))
          (begins_of_endsLiteral hrest (by decide))]
      · rfl
      · rw [List.append_assoc]
        exact begins_blanks hbetween (by decide) fun hempty => absurd hempty hbetweenNe

theorem lexAll_comparison (htest : IsComparison chars) :
    ∃ op literal, op ∈ operators ∧ IsLiteralLexemes literal ∧
      ∀ rest, Begins endsLiteral rest →
        lexAll (chars ++ rest) = .symbol op :: (literal ++ lexAll rest) := by
  obtain ⟨hop, hblanks, hliteral⟩ := htest
  rename_i op blanks literal
  obtain ⟨lexemes, hlexemes, hlex⟩ := lexAll_literal hliteral
  obtain ⟨c, more, hstart, hc⟩ := hliteral.begins
  have hneither : ∀ d, startsLiteral d = false → c ≠ d := by
    rintro d hd rfl
    rw [hd] at hc
    cases hc
  refine ⟨op, lexemes, hop, hlexemes, fun rest hrest => ?_⟩
  rw [List.append_assoc, List.append_assoc, lexAll_operator hop, lexAll_blanks hblanks,
    hlex rest hrest]
  · rw [hstart, List.cons_append, begins_cons]
    simpa using hneither '\x0B' (by decide)
  · refine begins_blanks hblanks (by decide) fun _ => ?_
    rw [hstart, List.cons_append, begins_cons]
    simpa [and_assoc] using ⟨hneither '=' (by decide), hneither '<' (by decide),
      hneither '>' (by decide)⟩

end Lexing

/-! ## Where the column ends -/

def behindColumn (chars : List Char) : List Char :=
  ((chars.dropWhile isSqlBlank).dropWhile isIdentifierChar).dropWhile isSqlBlank

def isOperatorChar (c : Char) : Bool :=
  c = '=' || c = '<' || c = '>' || c = '!'

/-- An operator follows the first word, or the word `IS` does. -/
def columnStandsAlone (chars : List Char) : Bool :=
  (behindColumn chars).head?.any isOperatorChar ||
    keywordOf ((behindColumn chars).takeWhile isIdentifierChar) = "IS"

section Column

variable {chars before word between rest : List Char}

theorem behindColumn_eq (hbefore : IsBlanks before) (hword : IsIdentifier word)
    (hbetween : IsBlanks between) (hrest : Begins (fun c => !isSqlBlank c) rest)
    (hends : between = [] → Begins (fun c => !isIdentifierChar c) rest) :
    behindColumn (before ++ (word ++ (between ++ rest))) = rest := by
  have hfirst : Begins (fun c => !isSqlBlank c) (word ++ (between ++ rest)) := by
    obtain ⟨c, more, rfl, hc, -⟩ := hword
    rw [List.cons_append, begins_cons, Bool.not_eq_true', isSqlBlank]
    simp only [Bool.or_eq_false_iff, decide_eq_false_iff_not]
    refine ⟨⟨⟨?_, ?_⟩, ?_⟩, ?_⟩
    all_goals
      rintro rfl
      exact absurd hc (by decide)
  have hsecond : Begins (fun c => !isIdentifierChar c) (between ++ rest) :=
    begins_blanks hbetween (by decide) hends
  rw [behindColumn, (takeWhile_append_of_all hbefore hfirst).2,
    (takeWhile_append_of_all hword.all hsecond).2, (takeWhile_append_of_all hbetween hrest).2]

theorem begins_operator {p : Char → Bool} {op : List Char} (hop : op ∈ operators)
    (hall : ['=', '<', '>', '!'].all p) : Begins p (op ++ rest) := by
  simp only [List.all_cons, List.all_nil, Bool.and_true, Bool.and_eq_true] at hall
  simp only [operators, List.mem_cons, List.not_mem_nil, or_false] at hop
  rcases hop with rfl | rfl | rfl | rfl | rfl | rfl | rfl
  all_goals simp [hall]

theorem IsComparison.begins {p : Char → Bool} {test : List Char} (htest : IsComparison test)
    (hall : ['=', '<', '>', '!'].all p) : Begins p (test ++ rest) := by
  obtain ⟨hop, -, -⟩ := htest
  rw [List.append_assoc]
  exact begins_operator hop hall

theorem columnStandsAlone_eq_keyword {next : List Char} (hbefore : IsBlanks before)
    (hword : IsIdentifier word) (hbetween : IsBlanks between) (hne : between ≠ [])
    (hnext : IsIdentifier next) (hrest : Begins (fun c => !isIdentifierChar c) rest) :
    columnStandsAlone (before ++ (word ++ (between ++ (next ++ rest)))) =
      decide (keywordOf next = "IS") := by
  have htake := (takeWhile_append_of_all hnext.all hrest).1
  obtain ⟨c, more, rfl, hc, hmore⟩ := hnext
  have hneither : ∀ d, isNameStart d = false → c ≠ d := by
    rintro d hd rfl
    rw [hd] at hc
    cases hc
  have hplain : Begins (fun c => !isSqlBlank c) (c :: more ++ rest) := by
    rw [List.cons_append, begins_cons, Bool.not_eq_true', isSqlBlank]
    simp [hneither ' ' (by decide), hneither '\t' (by decide), hneither '\n' (by decide),
      hneither '\r' (by decide)]
  have hbehind := behindColumn_eq hbefore hword hbetween hplain fun hempty => absurd hempty hne
  rw [columnStandsAlone, hbehind, htake]
  simp [isOperatorChar, hneither '=' (by decide), hneither '<' (by decide),
    hneither '>' (by decide), hneither '!' (by decide)]

theorem columnStandsAlone_comparison {test after : List Char} (hbefore : IsBlanks before)
    (hword : IsIdentifier word) (hbetween : IsBlanks between) (htest : IsComparison test) :
    columnStandsAlone (before ++ (word ++ (between ++ (test ++ after)))) := by
  rw [columnStandsAlone, behindColumn_eq hbefore hword hbetween (htest.begins (by decide))
    fun _ => htest.begins (by decide)]
  obtain ⟨hop, -, -⟩ := htest
  simp only [operators, List.mem_cons, List.not_mem_nil, or_false] at hop
  rcases hop with rfl | rfl | rfl | rfl | rfl | rfl | rfl
  all_goals rfl

end Column

/-! ## Reading an accepted text -/

section Reading

variable {chars rest : List Char}

theorem begins_identifierEnd {p : Char → Bool} {blanks : List Char} (hblanks : IsBlanks blanks)
    (hne : blanks ≠ []) (hall : [' ', '\t', '\n', '\r'].all p) (rest : List Char) :
    Begins p (blanks ++ rest) :=
  begins_blanks hblanks hall fun hempty => absurd hempty hne

variable {null : List Char}

theorem IsNullTest.spaced {is : List Char} (htest : IsNullTest is null) :
    ∃ blanks behind, null = blanks ++ behind ∧ IsBlanks blanks ∧ blanks ≠ [] := by
  cases htest with
  | null hword hblanks hne hnull => exact ⟨_, _, rfl, hblanks, hne⟩
  | notNull hword hblanks hne hnot hbetween hbetweenNe hnull => exact ⟨_, _, rfl, hblanks, hne⟩

theorem IsNullTest.isKeyword {is : List Char} (htest : IsNullTest is null) :
    IsKeyword "IS" is := by
  cases htest with
  | null hword => exact hword
  | notNull hword => exact hword

/-- Where the word of the column does not end before `IS`, the next word is not `IS`. -/
theorem columnStandsAlone_joined {before word is after : List Char} (hbefore : IsBlanks before)
    (hword : IsIdentifier word) (htest : IsNullTest is null)
    (hafter : Begins (fun c => !isIdentifierChar c) after) :
    columnStandsAlone (before ++ (word ++ (is ++ (null ++ after)))) = false := by
  have hjoined := hword.append (htest.isKeyword.isIdentifier (by decide))
  cases htest with
  | null _ hblanks hne hnull =>
      rw [← List.append_assoc word, List.append_assoc _ _ after, columnStandsAlone_eq_keyword hbefore hjoined hblanks hne
        (hnull.isIdentifier (by decide)) hafter, hnull.1]
      rfl
  | notNull _ hblanks hne hnot hbetween hbetweenNe hnull =>
      rw [← List.append_assoc word, List.append_assoc _ _ after, List.append_assoc _ _ after,
        columnStandsAlone_eq_keyword hbefore hjoined hblanks hne (hnot.isIdentifier (by decide)),
        hnot.1]
      · rfl
      · rw [List.append_assoc]
        exact begins_identifierEnd hbetween hbetweenNe (by decide) _

theorem lexAll_accepted (haccepted : Accepted chars) :
    ∃ lexemes, (∀ rest, Begins (fun c => c = ')') rest →
        lexAll (chars ++ rest) = lexemes ++ lexAll rest) ∧
      (columnStandsAlone chars ∧ IsTestLexemes lexemes ∨
        columnStandsAlone chars = false ∧ IsJoinedLexemes lexemes) := by
  have hends : ∀ {after rest : List Char}, IsBlanks after → Begins (fun c => c = ')') rest →
      Begins endsLiteral (after ++ rest) := by
    intro after rest hafter hrest
    refine begins_blanks hafter (by decide) fun _ => hrest.mono fun c hc => ?_
    simp [endsLiteral, of_decide_eq_true hc]
  have hclosed : ∀ {after rest : List Char}, IsBlanks after → Begins (fun c => c = ')') rest →
      lexAll (after ++ rest) = lexAll rest := by
    intro after rest hafter hrest
    refine lexAll_blanks hafter (hrest.mono fun c hc => ?_)
    rw [of_decide_eq_true hc]
    decide
  cases haccepted with
  | @comparison before word between test after hbefore hword hbetween htest hafter =>
      obtain ⟨op, literal, hop, hliteral, hlex⟩ := lexAll_comparison htest
      refine ⟨_, fun rest hrest => ?_, .inl ⟨columnStandsAlone_comparison hbefore hword hbetween
        htest, .comparison word hop hliteral⟩⟩
      simp only [List.append_assoc]
      rw [lexAll_spaced hbefore hword, lexAll_blanks hbetween, hlex _ (hends hafter hrest),
        hclosed hafter hrest]
      · rfl
      · exact htest.begins (by decide)
      · exact begins_blanks hbetween (by decide) fun _ => htest.begins (by decide)
  | @nullTest before word between is null after hbefore hword hbetween hne htest hafter =>
      obtain ⟨lexemes, hlexemes, hlex⟩ := lexAll_nullTest htest
      have his := htest.isKeyword
      obtain ⟨blanks, behind, hspaced, hblanks, hblanksNe⟩ := htest.spaced
      refine ⟨_, fun rest hrest => ?_, .inl ⟨?_, .nullTest word his.1 hlexemes⟩⟩
      · simp only [List.append_assoc]
        rw [lexAll_spaced hbefore hword, lexAll_spaced hbetween (his.isIdentifier (by decide)),
          hlex _ (hends hafter hrest), hclosed hafter hrest]
        · rfl
        · rw [hspaced, List.append_assoc]
          exact begins_identifierEnd hblanks hblanksNe (by decide) _
        · exact begins_identifierEnd hbetween hne (by decide) _
      · rw [columnStandsAlone_eq_keyword hbefore hword hbetween hne
          (his.isIdentifier (by decide)), his.1]
        · rfl
        · rw [hspaced, List.append_assoc]
          exact begins_identifierEnd hblanks hblanksNe (by decide) _
  | @joined before word is null after hbefore hword htest hafter =>
      obtain ⟨lexemes, hlexemes, hlex⟩ := lexAll_nullTest htest
      have his := htest.isKeyword
      obtain ⟨blanks, behind, hspaced, hblanks, hblanksNe⟩ := htest.spaced
      refine ⟨_, fun rest hrest => ?_, .inr ⟨?_, .intro (word ++ is) hlexemes⟩⟩
      · simp only [List.append_assoc]
        rw [← List.append_assoc word,
          lexAll_spaced hbefore (hword.append (his.isIdentifier (by decide))),
          hlex _ (hends hafter hrest), hclosed hafter hrest]
        · rfl
        · rw [hspaced, List.append_assoc]
          exact begins_identifierEnd hblanks hblanksNe (by decide) _
      · refine columnStandsAlone_joined hbefore hword htest ?_
        rw [← List.append_nil after]
        exact begins_blanks hafter (by decide) fun _ => rfl

end Reading

/-! ## A NUL in an accepted text -/

section Nul

variable {chars : List Char}

def notNul (c : Char) : Bool :=
  c ≠ '\x00'

theorem all_notNul {p : Char → Bool} (hall : chars.all p) (hp : p '\x00' = false) :
    chars.all notNul := by
  rw [List.all_eq_true] at hall ⊢
  intro c hc
  rw [notNul, decide_eq_true_eq]
  rintro rfl
  have hmem := hall _ hc
  rw [hp] at hmem
  cases hmem

theorem IsKeyword.all_notNul {keyword : String} (hword : IsKeyword keyword chars) :
    chars.all notNul :=
  PruningFilter.all_notNul hword.2 (by decide)

theorem IsNullTest.all_notNul {is null : List Char} (htest : IsNullTest is null) :
    is.all notNul ∧ null.all notNul := by
  cases htest with
  | null hword hblanks _ hnull =>
      refine ⟨hword.all_notNul, ?_⟩
      rw [List.all_append, PruningFilter.all_notNul hblanks (by decide), hnull.all_notNul]
      rfl
  | notNull hword hblanks _ hnot hbetween _ hnull =>
      refine ⟨hword.all_notNul, ?_⟩
      rw [List.all_append, List.all_append, List.all_append,
        PruningFilter.all_notNul hblanks (by decide), hnot.all_notNul,
        PruningFilter.all_notNul hbetween (by decide), hnull.all_notNul]
      rfl

theorem IsLiteral.all_notNul (hliteral : IsLiteral chars) :
    chars.all notNul ∨
      ∃ body, chars = '\x27' :: (body ++ ['\x27']) ∧ Quoted '\x27' body ∧ '\x00' ∈ body := by
  cases hliteral with
  | @quoted body hbody =>
      by_cases hnul : '\x00' ∈ body
      · exact .inr ⟨body, rfl, hbody, hnul⟩
      · have hbodyAll : body.all notNul := by
          rw [List.all_eq_true]
          intro c hc
          rw [notNul, decide_eq_true_eq]
          rintro rfl
          exact hnul hc
        left
        rw [List.all_cons, List.all_append, hbodyAll]
        rfl
  | @number sign number hsign hnumber =>
      have hnumberAll : number.all notNul := hnumber.all (fun c hdigit => by
        rw [notNul, decide_eq_true_eq]
        rintro rfl
        exact absurd hdigit (by decide)) (by decide)
      left
      rw [List.all_append, hnumberAll]
      rcases hsign with rfl | rfl | rfl
      all_goals rfl
  | keyword _ hword => exact .inl hword.all_notNul

theorem operators_notNul {op : List Char} (hop : op ∈ operators) : op.all notNul := by
  simp only [operators, List.mem_cons, List.not_mem_nil, or_false] at hop
  rcases hop with rfl | rfl | rfl | rfl | rfl | rfl | rfl
  all_goals rfl

theorem takeWhile_of_all {rest : List Char} (hall : chars.all notNul) :
    (chars ++ rest).takeWhile notNul = chars ++ rest.takeWhile notNul :=
  List.takeWhile_append_of_pos (List.all_eq_true.mp hall)

theorem takeWhile_of_nul {rest : List Char} (hnul : '\x00' ∈ chars) :
    (chars ++ rest).takeWhile notNul = chars.takeWhile notNul := by
  rw [List.takeWhile_append, if_neg]
  intro hlength
  have hsame := (List.takeWhile_prefix notNul).eq_of_length hlength
  rw [List.takeWhile_eq_self_iff] at hsame
  exact absurd (hsame _ hnul) (by decide)

theorem lexAll_takeWhile_of_nul (haccepted : Accepted chars) (hnul : '\x00' ∈ chars) :
    ∃ column op, lexAll (chars.takeWhile notNul) = [.word column, .symbol op, .illegal] := by
  have hnone : ∀ {part : List Char}, part.all notNul → '\x00' ∉ part := fun hall hmem =>
    absurd (List.all_eq_true.mp hall _ hmem) (by decide)
  have hblanksAll : ∀ {blanks : List Char}, IsBlanks blanks → blanks.all notNul := fun hblanks =>
    PruningFilter.all_notNul hblanks (by decide)
  have hwordAll : ∀ {word : List Char}, IsIdentifier word → word.all notNul := fun hword =>
    PruningFilter.all_notNul hword.all (by decide)
  cases haccepted with
  | @comparison before word between test after hbefore hword hbetween htest hafter =>
      obtain ⟨hop, hblanks, hliteral⟩ := htest
      rename_i op blanks literal
      rcases hliteral.all_notNul with hall | ⟨body, rfl, hbody, hmem⟩
      · simp only [List.mem_append, hnone (hblanksAll hbefore), hnone (hwordAll hword),
          hnone (hblanksAll hbetween), hnone (operators_notNul hop), hnone (hblanksAll hblanks),
          hnone hall, hnone (hblanksAll hafter), or_self] at hnul
      · refine ⟨word, op, ?_⟩
        simp only [List.append_assoc, List.cons_append]
        rw [takeWhile_of_all (hblanksAll hbefore), takeWhile_of_all (hwordAll hword),
          takeWhile_of_all (hblanksAll hbetween), takeWhile_of_all (operators_notNul hop),
          takeWhile_of_all (hblanksAll hblanks), List.takeWhile_cons_of_pos (by decide),
          takeWhile_of_nul hmem, lexAll_spaced hbefore hword, lexAll_blanks hbetween,
          lexAll_operator hop, lexAll_blanks hblanks, lexAll_open (hbody.takeWhile (by decide))]
        · exact begins_cons.mpr (by decide)
        · exact begins_blanks hblanks (by decide) fun _ => begins_cons.mpr (by decide)
        · exact begins_operator hop (by decide)
        · exact begins_blanks hbetween (by decide) fun _ => begins_operator hop (by decide)
  | nullTest hbefore hword hbetween hne htest hafter =>
      obtain ⟨his, hnull⟩ := htest.all_notNul
      simp only [List.mem_append, hnone (hblanksAll hbefore), hnone (hwordAll hword),
        hnone (hblanksAll hbetween), hnone his, hnone hnull, hnone (hblanksAll hafter),
        or_self] at hnul
  | joined hbefore hword htest hafter =>
      obtain ⟨his, hnull⟩ := htest.all_notNul
      simp only [List.mem_append, hnone (hblanksAll hbefore), hnone (hwordAll hword), hnone his,
        hnone hnull, hnone (hblanksAll hafter), or_self] at hnul

end Nul

/-- The lexemes of an accepted text are a test of a column just where the text holds no NUL and
its column stands alone. -/
theorem isTestLexemes_lex_iff {chars : List Char} (haccepted : Accepted chars) :
    IsTestLexemes (lex chars) ↔ '\x00' ∉ chars ∧ columnStandsAlone chars := by
  have hlex : lex chars = lexAll (chars.takeWhile notNul) := rfl
  by_cases hnul : '\x00' ∈ chars
  · obtain ⟨column, op, hopen⟩ := lexAll_takeWhile_of_nul haccepted hnul
    rw [hlex, hopen]
    constructor
    · intro htest
      cases htest with
      | comparison _ _ hliteral => cases hliteral
    · exact fun h => absurd hnul h.1
  · have hall : chars.all notNul := by
      rw [List.all_eq_true]
      intro c hc
      rw [notNul, decide_eq_true_eq]
      rintro rfl
      exact hnul hc
    obtain ⟨lexemes, hlexemes, hcolumn⟩ := lexAll_accepted haccepted
    have hlexemes := hlexemes [] (begins_nil _)
    rw [List.append_nil] at hlexemes
    rw [hlex, List.takeWhile_eq_self_iff.mpr (List.all_eq_true.mp hall), hlexemes]
    have hnone : lexemes ++ lexAll [] = lexemes := List.append_nil lexemes
    rw [hnone]
    rcases hcolumn with ⟨halone, htest⟩ | ⟨hjoined, hlexemes⟩
    · exact ⟨fun _ => ⟨hnul, halone⟩, fun _ => htest⟩
    · constructor
      · exact fun htest => absurd htest (not_isTestLexemes_of_joined hlexemes)
      · rintro ⟨-, halone⟩
        rw [hjoined] at halone
        cases halone

end PruningFilter

theorem accepted_of_isSafe {value : String} (hsafe : isSafePruningFilterCondition value) :
    PruningFilter.Accepted value.toList := by
  rw [isSafePruningFilterCondition, Bool.and_eq_true, accepts_iff] at hsafe
  exact accepted_of_matches hsafe.2

end TauriPlatform
