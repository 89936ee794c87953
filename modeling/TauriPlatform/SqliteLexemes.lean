import TauriPlatform.SqliteScript

/-!
# Lexemes of SQLite

A statement as the parser of SQLite is given it: names, keywords, literals, parameters and
operators, without white space and comments.  The module names nothing of a particular program.
-/

namespace SqliteText

open SqliteScript

/-! ## The lexer -/

inductive Lexeme where
  /-- A name or a keyword. -/
  | word (chars : List Char)
  | number (chars : List Char)
  /-- A text in single quotes. -/
  | text (chars : List Char)
  /-- A name in quotes or brackets. -/
  | name (chars : List Char)
  | blob (chars : List Char)
  /-- `?` or `?NNN`. -/
  | parameter (chars : List Char)
  | variable (chars : List Char)
  | symbol (chars : List Char)
  | illegal
  deriving DecidableEq

def isDigit (c : Char) : Bool :=
  '0' ≤ c && c ≤ '9'

def isHexDigit (c : Char) : Bool :=
  isDigit c || ('a' ≤ c && c ≤ 'f') || ('A' ≤ c && c ≤ 'F')

def signRest : List Char → List Char × List Char
  | c :: rest => if c = '+' ∨ c = '-' then ([c], rest) else ([], c :: rest)
  | [] => ([], [])

def exponentRest : List Char → List Char × List Char
  | marker :: rest =>
      let (sign, digits) := signRest rest
      if (marker = 'e' ∨ marker = 'E') ∧ digits.head?.any isDigit then
        (marker :: sign ++ digits.takeWhile isDigit, digits.dropWhile isDigit)
      else ([], marker :: rest)
  | [] => ([], [])

def fractionRest : List Char → List Char × List Char
  | '.' :: rest => ('.' :: rest.takeWhile isDigit, rest.dropWhile isDigit)
  | rest => ([], rest)

def numberRest (chars : List Char) : List Char × List Char :=
  match chars with
  | '0' :: marker :: digit :: rest =>
      if (marker = 'x' ∨ marker = 'X') ∧ isHexDigit digit then
        ('0' :: marker :: digit :: rest.takeWhile isHexDigit, rest.dropWhile isHexDigit)
      else decimalRest chars
  | _ => decimalRest chars
where
  decimalRest (chars : List Char) : List Char × List Char :=
    let whole := chars.takeWhile isDigit
    let fraction := fractionRest (chars.dropWhile isDigit)
    let exponent := exponentRest fraction.2
    (whole ++ fraction.1 ++ exponent.1, exponent.2)

def nextNumber (chars : List Char) : Lexeme × List Char :=
  let (literal, rest) := numberRest chars
  (if (rest.takeWhile isIdChar).isEmpty then .number literal else .illegal,
    rest.dropWhile isIdChar)

def nextBlob (marker : Char) (chars : List Char) : Lexeme × List Char :=
  let digits := chars.takeWhile isHexDigit
  match chars.dropWhile isHexDigit with
  | '\x27' :: left =>
      (if digits.length % 2 = 0 then .blob (marker :: '\x27' :: digits ++ ['\x27']) else .illegal,
        left)
  | left => (.illegal, (left.dropWhile (· ≠ '\x27')).tail)

def pairs : List (Char × Char) :=
  [('=', '='), ('<', '='), ('<', '>'), ('<', '<'), ('>', '='), ('>', '>'), ('!', '='),
    ('|', '|'), ('-', '>')]

def isSymbol (c : Char) : Bool :=
  ['(', ')', '+', '-', '*', '/', '%', '=', '<', '>', '|', '&', '~', ',', ';', '.'].contains c

def nextSymbol (c : Char) (rest : List Char) : Lexeme × List Char :=
  match rest with
  | d :: more =>
      if (c, d) ∈ pairs then
        if c = '-' ∧ more.head? = some '>' then (.symbol [c, d, '>'], more.tail)
        else (.symbol [c, d], more)
      else (if isSymbol c then .symbol [c] else .illegal, rest)
  | [] => (if isSymbol c then .symbol [c] else .illegal, [])

/-- What follows a blank or a comment, if the text begins with one.  A byte order mark is
blank, a vertical tab only behind other blanks, and `/*` at the very end opens no comment. -/
def skipRest (c : Char) (rest : List Char) : Option (List Char) :=
  if isSpace c ∧ c ≠ '\x0B' then some (rest.dropWhile isSpace)
  else if c = '\uFEFF' then some rest
  else if c = '-' ∧ rest.head? = some '-' then some (lineRest rest.tail).2
  else if c = '/' ∧ rest.head? = some '*' ∧ rest.tail ≠ [] then some (blockRest rest.tail).2
  else none

def closed (lexeme : List Char → Lexeme) (c : Char) :
    Option (List Char × List Char) → Lexeme × List Char
  | some (body, left) => (lexeme (c :: body), left)
  | none => (.illegal, [])

def lexemeRest (c : Char) (rest : List Char) : Lexeme × List Char :=
  if c = '\x27' then closed .text c (quotedRest c rest)
  else if c = '"' ∨ c = '\x60' then closed .name c (quotedRest c rest)
  else if c = '[' then closed .name c (bracketRest rest)
  else if isDigit c ∨ c = '.' ∧ rest.head?.any isDigit then nextNumber (c :: rest)
  else if c = '?' then (.parameter (c :: rest.takeWhile isDigit), rest.dropWhile isDigit)
  else if (c = 'x' ∨ c = 'X') ∧ rest.head? = some '\x27' then nextBlob c rest.tail
  else if c = '@' ∨ c = '#' ∨ c = ':' ∨ c = '$' then
    (if (rest.takeWhile isIdChar).isEmpty then .illegal
      else .variable (c :: rest.takeWhile isIdChar), rest.dropWhile isIdChar)
  else if isIdChar c then (.word (c :: rest.takeWhile isIdChar), rest.dropWhile isIdChar)
  else nextSymbol c rest

def lexWithin : Nat → List Char → List Lexeme
  | _, [] => []
  | 0, _ :: _ => []
  | fuel + 1, c :: rest =>
      match skipRest c rest with
      | some left => lexWithin fuel left
      | none => (lexemeRest c rest).1 :: lexWithin fuel (lexemeRest c rest).2

def lexAll (chars : List Char) : List Lexeme :=
  lexWithin chars.length chars

def lex (chars : List Char) : List Lexeme :=
  lexAll (chars.takeWhile (· ≠ '\x00'))

def keywordOf (chars : List Char) : String :=
  String.ofList (chars.map Char.toUpper)

/-! ## Every step takes a character -/

theorem length_dropWhile_le (p : Char → Bool) (chars : List Char) :
    (chars.dropWhile p).length ≤ chars.length :=
  (List.dropWhile_suffix p).length_le

theorem lineRest_length_le (chars : List Char) : (lineRest chars).2.length ≤ chars.length := by
  have hlength := congrArg List.length (lineRest_append chars)
  rw [List.length_append] at hlength
  omega

theorem blockRest_length_le (chars : List Char) : (blockRest chars).2.length ≤ chars.length := by
  have hlength := congrArg List.length (blockRest_append chars)
  rw [List.length_append] at hlength
  omega

theorem quotedRest_length_le {quote : Char} {chars body left : List Char}
    (hrest : quotedRest quote chars = some (body, left)) : left.length ≤ chars.length := by
  have hlength := congrArg List.length (quotedRest_append hrest)
  rw [List.length_append] at hlength
  omega

theorem bracketRest_length_le {chars body left : List Char}
    (hrest : bracketRest chars = some (body, left)) : left.length ≤ chars.length := by
  have hlength := congrArg List.length (bracketRest_append hrest)
  rw [List.length_append] at hlength
  omega

theorem fractionRest_length_le (chars : List Char) :
    (fractionRest chars).2.length ≤ chars.length := by
  unfold fractionRest
  split
  · exact (length_dropWhile_le _ _).trans (Nat.le_succ _)
  · exact le_rfl

theorem exponentRest_length_le (chars : List Char) :
    (exponentRest chars).2.length ≤ chars.length := by
  have hsign : ∀ chars, (signRest chars).2.length ≤ chars.length := by
    intro chars
    unfold signRest
    split
    · split_ifs
      · exact Nat.le_succ _
      · exact le_rfl
    · exact le_rfl
  unfold exponentRest
  split
  · rename_i marker rest
    dsimp only
    split_ifs
    · exact ((length_dropWhile_le _ _).trans (hsign rest)).trans (Nat.le_succ _)
    · exact le_rfl
  · exact le_rfl

theorem nextNumber_length_le {c : Char} {rest : List Char}
    (hstart : isDigit c ∨ c = '.' ∧ rest.head?.any isDigit) :
    (nextNumber (c :: rest)).2.length ≤ rest.length := by
  have hdecimal : (numberRest.decimalRest (c :: rest)).2.length ≤ rest.length := by
    refine (exponentRest_length_le _).trans ?_
    rcases hstart with hdigit | ⟨rfl, -⟩
    · rw [List.dropWhile_cons_of_pos hdigit]
      exact (fractionRest_length_le _).trans (length_dropWhile_le _ _)
    · exact length_dropWhile_le _ _
  have hliteral : (numberRest (c :: rest)).2.length ≤ rest.length := by
    unfold numberRest
    split
    · rename_i marker digit more hchars
      split_ifs
      · rw [(List.cons.inj hchars).2]
        have hmore := length_dropWhile_le isHexDigit more
        exact hmore.trans ((Nat.le_succ _).trans (Nat.le_succ _))
      · exact hdecimal
    · exact hdecimal
  exact (length_dropWhile_le _ _).trans hliteral

theorem nextSymbol_length_le (c : Char) (rest : List Char) :
    (nextSymbol c rest).2.length ≤ rest.length := by
  unfold nextSymbol
  split
  · split_ifs with hpair hthird
    · rw [List.length_tail, List.length_cons]
      omega
    · exact Nat.le_succ _
    · exact le_rfl
    · exact le_rfl
  · exact le_rfl

theorem nextBlob_length_le (marker : Char) (chars : List Char) :
    (nextBlob marker chars).2.length ≤ chars.length := by
  have hdigits := length_dropWhile_le isHexDigit chars
  unfold nextBlob
  dsimp only
  split
  · rename_i left hleft
    rw [hleft, List.length_cons] at hdigits
    exact (Nat.le_succ _).trans hdigits
  · rename_i left _
    have hrest := length_dropWhile_le (· ≠ '\x27') (chars.dropWhile isHexDigit)
    rw [List.length_tail]
    omega

theorem skipRest_length_le {c : Char} {rest left : List Char}
    (hskip : skipRest c rest = some left) : left.length ≤ rest.length := by
  have htail : rest.tail.length ≤ rest.length := by
    rw [List.length_tail]
    omega
  unfold skipRest at hskip
  split_ifs at hskip with hspace hmark hline hblock
  · cases hskip
    exact length_dropWhile_le _ _
  · cases hskip
    exact le_rfl
  · cases hskip
    exact (lineRest_length_le _).trans htail
  · cases hskip
    exact (blockRest_length_le _).trans htail

theorem closed_length_le {lexeme : List Char → Lexeme} {c : Char} {rest : List Char}
    {found : Option (List Char × List Char)}
    (hfound : ∀ body left, found = some (body, left) → left.length ≤ rest.length) :
    (closed lexeme c found).2.length ≤ rest.length := by
  cases found with
  | none => exact Nat.zero_le _
  | some parts => exact hfound parts.1 parts.2 rfl

theorem lexemeRest_length_le (c : Char) (rest : List Char) :
    (lexemeRest c rest).2.length ≤ rest.length := by
  have htail : rest.tail.length ≤ rest.length := by
    rw [List.length_tail]
    omega
  have hbound : ∀ pair, lexemeRest c rest = pair → pair.2.length ≤ rest.length := by
    intro pair hpair
    unfold lexemeRest at hpair
    split_ifs at hpair with htext hname hbracket hnumber hparameter hblob hvariable hempty hid
    · exact hpair ▸ closed_length_le fun _ _ => quotedRest_length_le
    · exact hpair ▸ closed_length_le fun _ _ => quotedRest_length_le
    · exact hpair ▸ closed_length_le fun _ _ => bracketRest_length_le
    · exact hpair ▸ nextNumber_length_le hnumber
    · exact hpair ▸ length_dropWhile_le _ _
    · exact hpair ▸ (nextBlob_length_le _ _).trans htail
    · exact hpair ▸ length_dropWhile_le _ _
    · exact hpair ▸ length_dropWhile_le _ _
    · exact hpair ▸ length_dropWhile_le _ _
    · exact hpair ▸ nextSymbol_length_le c rest
  exact hbound _ rfl

/-! ## One lexeme after another -/

theorem lexWithin_eq {fuel : Nat} {chars : List Char} (hfuel : chars.length ≤ fuel) :
    lexWithin fuel chars = lexAll chars := by
  unfold lexAll
  generalize hlength : chars.length = length at hfuel
  induction length using Nat.strong_induction_on generalizing chars fuel with
  | _ length ih =>
      cases chars with
      | nil => cases fuel <;> cases length <;> rfl
      | cons c rest =>
          rw [List.length_cons] at hlength
          obtain ⟨fuel, rfl⟩ := Nat.exists_eq_add_of_le' (show 1 ≤ fuel by omega)
          subst hlength
          have hstep : ∀ left : List Char, left.length ≤ rest.length →
              lexWithin fuel left = lexWithin rest.length left := by
            intro left hleft
            have hfirst := ih left.length (by omega) rfl (show left.length ≤ fuel by omega)
            have hsecond := ih left.length (by omega) rfl hleft
            rw [hfirst, hsecond]
          unfold lexWithin
          split
          · exact hstep _ (skipRest_length_le ‹_›)
          · rw [hstep _ (lexemeRest_length_le c rest)]

theorem lexAll_skip {c : Char} {rest left : List Char} (hskip : skipRest c rest = some left) :
    lexAll (c :: rest) = lexAll left := by
  have hunfold : lexAll (c :: rest) = lexWithin rest.length left := by
    rw [lexAll, List.length_cons, lexWithin, hskip]
  rw [hunfold, lexWithin_eq (skipRest_length_le hskip)]

theorem lexAll_lexeme {c : Char} {rest left : List Char} {lexeme : Lexeme}
    (hskip : skipRest c rest = none) (hlexeme : lexemeRest c rest = (lexeme, left)) :
    lexAll (c :: rest) = lexeme :: lexAll left := by
  have hlength := lexemeRest_length_le c rest
  rw [hlexeme] at hlength
  have hunfold : lexAll (c :: rest) = lexeme :: lexWithin rest.length left := by
    rw [lexAll, List.length_cons, lexWithin, hskip, hlexeme]
  rw [hunfold, lexWithin_eq hlength]

/-! ## Single lexemes -/

def Begins (p : Char → Bool) (chars : List Char) : Prop :=
  chars.head?.all p = true

@[simp] theorem begins_nil (p : Char → Bool) : Begins p [] :=
  rfl

@[simp] theorem begins_cons {p : Char → Bool} {c : Char} {rest : List Char} :
    Begins p (c :: rest) ↔ p c := by
  simp [Begins]

theorem begins_append {p : Char → Bool} {chars rest : List Char} (hchars : Begins p chars)
    (hrest : chars = [] → Begins p rest) : Begins p (chars ++ rest) := by
  cases chars with
  | nil => exact hrest rfl
  | cons c chars => exact hchars

theorem Begins.mono {p q : Char → Bool} {chars : List Char} (hchars : Begins p chars)
    (himp : ∀ c, p c → q c) : Begins q chars := by
  cases chars with
  | nil => rfl
  | cons c chars => exact begins_cons.mpr (himp c (begins_cons.mp hchars))

theorem begins_of_all {p : Char → Bool} {chars : List Char} (hall : chars.all p) :
    Begins p chars := by
  cases chars with
  | nil => rfl
  | cons c chars =>
      rw [List.all_cons, Bool.and_eq_true] at hall
      exact begins_cons.mpr hall.1

theorem takeWhile_append {p : Char → Bool} {rest : List Char} (chars : List Char)
    (hrest : Begins (fun c => !p c) rest) :
    (chars ++ rest).takeWhile p = chars.takeWhile p ∧
      (chars ++ rest).dropWhile p = chars.dropWhile p ++ rest := by
  induction chars with
  | nil =>
      cases rest with
      | nil => exact ⟨rfl, rfl⟩
      | cons c rest =>
          have hc : ¬ p c := by simpa using begins_cons.mp hrest
          exact ⟨List.takeWhile_cons_of_neg hc, List.dropWhile_cons_of_neg hc⟩
  | cons c chars ih =>
      rw [List.cons_append]
      by_cases hc : p c
      · rw [List.takeWhile_cons_of_pos hc, List.takeWhile_cons_of_pos hc,
          List.dropWhile_cons_of_pos hc, List.dropWhile_cons_of_pos hc, ih.1, ih.2]
        exact ⟨rfl, rfl⟩
      · rw [List.takeWhile_cons_of_neg hc, List.takeWhile_cons_of_neg hc,
          List.dropWhile_cons_of_neg hc, List.dropWhile_cons_of_neg hc]
        exact ⟨rfl, rfl⟩

theorem takeWhile_append_of_all {p : Char → Bool} {chars rest : List Char} (hall : chars.all p)
    (hrest : Begins (fun c => !p c) rest) :
    (chars ++ rest).takeWhile p = chars ∧ (chars ++ rest).dropWhile p = rest := by
  obtain ⟨htake, hdrop⟩ := takeWhile_append chars hrest
  rw [htake, hdrop, List.takeWhile_eq_self_iff.mpr (List.all_eq_true.mp hall),
    List.dropWhile_eq_nil_iff.mpr (List.all_eq_true.mp hall)]
  exact ⟨rfl, rfl⟩

def isSqlBlank (c : Char) : Bool :=
  c = ' ' || c = '\t' || c = '\n' || c = '\r'

theorem lexAll_blank {c : Char} {rest : List Char} (hblank : isSqlBlank c)
    (hrest : Begins (fun d => d ≠ '\x0B') rest) : lexAll (c :: rest) = lexAll rest := by
  have hspaces : ∀ d, isSqlBlank d → isSpace d ∧ d ≠ '\x0B' := by
    intro d hd
    simp only [isSqlBlank, Bool.or_eq_true, decide_eq_true_eq, or_assoc] at hd
    rcases hd with rfl | rfl | rfl | rfl <;> decide
  rw [lexAll_skip (if_pos (hspaces c hblank))]
  cases rest with
  | nil => rfl
  | cons d rest =>
      by_cases hd : isSpace d
      · have htab : d ≠ '\x0B' := by simpa using begins_cons.mp hrest
        rw [List.dropWhile_cons_of_pos hd, lexAll_skip (if_pos ⟨hd, htab⟩)]
      · rw [List.dropWhile_cons_of_neg hd]

theorem lexAll_blanks {blanks rest : List Char} (hblanks : blanks.all isSqlBlank)
    (hrest : Begins (fun d => d ≠ '\x0B') rest) : lexAll (blanks ++ rest) = lexAll rest := by
  induction blanks with
  | nil => rfl
  | cons c blanks ih =>
      rw [List.all_cons, Bool.and_eq_true] at hblanks
      rw [List.cons_append, lexAll_blank hblanks.1, ih hblanks.2]
      cases blanks with
      | nil => exact hrest
      | cons d blanks =>
          rw [List.all_cons, Bool.and_eq_true] at hblanks
          rw [List.cons_append, begins_cons, decide_eq_true_eq]
          rintro rfl
          exact absurd hblanks.2.1 (by decide)

/-- A letter or `_`. -/
def isNameStart (c : Char) : Bool :=
  c.isAlpha || c = '_'

theorem toNat_of_isNameStart {c : Char} (hstart : isNameStart c) :
    65 ≤ c.toNat ∧ c.toNat ≤ 122 ∧ isIdChar c := by
  simp only [isNameStart, Bool.or_eq_true, decide_eq_true_eq] at hstart
  rcases hstart with halpha | rfl
  · have hid : isIdChar c := by simp [isIdChar, Char.isAlphanum, halpha]
    rcases Bool.or_eq_true_iff.mp halpha with hupper | hlower
    · have hcode := of_decide_eq_true hupper
      have hhigh : c.toNat ≤ 90 := UInt32.le_iff_toNat_le.mp hcode.2
      exact ⟨UInt32.le_iff_toNat_le.mp hcode.1, hhigh.trans (by decide), hid⟩
    · obtain ⟨hlow, hhigh⟩ := Bool.and_eq_true_iff.mp hlower
      have hcode : 97 ≤ c.toNat := UInt32.le_iff_toNat_le.mp (of_decide_eq_true hlow)
      exact ⟨le_trans (by decide) hcode, UInt32.le_iff_toNat_le.mp (of_decide_eq_true hhigh), hid⟩
  · decide

theorem lexAll_word {c : Char} {more rest : List Char} (hstart : isNameStart c)
    (hmore : more.all isIdChar) (hrest : Begins (fun d => !isIdChar d) rest)
    (hquote : (more ++ rest).head? ≠ some '\x27') :
    lexAll (c :: more ++ rest) = .word (c :: more) :: lexAll rest := by
  obtain ⟨hlow, hhigh, hid⟩ := toNat_of_isNameStart hstart
  have hne : ∀ d : Char, d.toNat < 65 ∨ 122 < d.toNat → c ≠ d := by
    rintro d hd rfl
    omega
  have hstarts : ∀ d, isNameStart d = false → c ≠ d := by
    rintro d hd rfl
    rw [hd] at hstart
    cases hstart
  have hspace : ¬ isSpace c := by
    simp only [isSpace, Bool.or_eq_true, decide_eq_true_eq, Bool.and_eq_true, not_or, not_and]
    refine ⟨hstarts ' ' (by decide), ?_⟩
    omega
  have hskip : skipRest c (more ++ rest) = none := by
    unfold skipRest
    rw [if_neg (fun h => hspace h.1), if_neg (hstarts _ (by decide)),
      if_neg (fun h => hstarts _ (by decide) h.1), if_neg (fun h => hstarts _ (by decide) h.1)]
  have hdigit : ¬ isDigit c := by
    simp only [isDigit, Bool.and_eq_true, decide_eq_true_eq, Char.le_def,
      UInt32.le_iff_toNat_le, not_and, not_le]
    intro _
    exact lt_of_lt_of_le (by decide) hlow
  have hnumber : ¬ (isDigit c ∨ c = '.' ∧ (more ++ rest).head?.any isDigit) := by
    rintro (hc | hc)
    · exact hdigit hc
    · exact hstarts _ (by decide) hc.1
  have hvariable : ¬ (c = '@' ∨ c = '#' ∨ c = ':' ∨ c = '$') := by
    rintro (hc | hc | hc | hc)
    all_goals exact hstarts _ (by decide) hc
  have hname : ¬ (c = '"' ∨ c = '\x60') := by
    rintro (hc | hc)
    all_goals exact hstarts _ (by decide) hc
  have hlexeme : lexemeRest c (more ++ rest) = (.word (c :: more), rest) := by
    unfold lexemeRest
    rw [if_neg (hstarts _ (by decide)), if_neg hname, if_neg (hstarts _ (by decide)),
      if_neg hnumber, if_neg (hstarts _ (by decide)), if_neg (fun h => hquote h.2),
      if_neg hvariable, if_pos hid, (takeWhile_append_of_all hmore hrest).1,
      (takeWhile_append_of_all hmore hrest).2]
  exact lexAll_lexeme hskip hlexeme

def isPlainSymbol (c : Char) : Bool :=
  ['(', ')', '+', '*', '%', '=', '<', '>', '!', '|', '&', '~', ',', ';'].contains c

theorem lexAll_symbolRest {c : Char} {rest left : List Char} {lexeme : Lexeme}
    (hsymbol : isPlainSymbol c) (hnext : nextSymbol c rest = (lexeme, left)) :
    lexAll (c :: rest) = lexeme :: lexAll left := by
  have hstart : skipRest c rest = none ∧ lexemeRest c rest = nextSymbol c rest := by
    simp only [isPlainSymbol, List.contains_iff_mem, List.mem_cons, List.not_mem_nil,
      or_false] at hsymbol
    rcases hsymbol with (rfl | rfl | rfl | rfl | rfl | rfl | rfl | rfl | rfl | rfl | rfl | rfl | rfl | rfl)
    all_goals exact ⟨rfl, rfl⟩
  exact lexAll_lexeme hstart.1 (hstart.2.trans hnext)

theorem lexAll_symbol {c : Char} {rest : List Char} (hplain : isPlainSymbol c)
    (hsymbol : isSymbol c) (hrest : Begins (fun d => (c, d) ∉ pairs) rest) :
    lexAll (c :: rest) = .symbol [c] :: lexAll rest := by
  apply lexAll_symbolRest hplain
  cases rest with
  | nil => rw [nextSymbol, if_pos hsymbol]
  | cons d rest =>
      have hpair : (c, d) ∉ pairs := by simpa using begins_cons.mp hrest
      rw [nextSymbol, if_neg hpair, if_pos hsymbol]

theorem lexAll_pair {c d : Char} {rest : List Char} (hplain : isPlainSymbol c)
    (hpair : (c, d) ∈ pairs) : lexAll (c :: d :: rest) = .symbol [c, d] :: lexAll rest := by
  apply lexAll_symbolRest hplain
  have hminus : c ≠ '-' := by
    rintro rfl
    exact absurd hplain (by decide)
  rw [nextSymbol, if_pos hpair, if_neg fun h => hminus h.1]

theorem lexAll_minus {rest : List Char} (hrest : Begins (fun d => d ≠ '-' && d ≠ '>') rest) :
    lexAll ('-' :: rest) = .symbol ['-'] :: lexAll rest := by
  have hdash : rest.head? ≠ some '-' := by
    intro hhead
    rw [Begins, hhead] at hrest
    exact absurd hrest (by decide)
  have hskip : skipRest '-' rest = none := by
    unfold skipRest
    rw [if_neg (by decide), if_neg (by decide), if_neg fun h => hdash h.2, if_neg (by simp)]
  have hlexeme : lexemeRest '-' rest = nextSymbol '-' rest := rfl
  apply lexAll_lexeme hskip
  rw [hlexeme]
  cases rest with
  | nil => rfl
  | cons d rest =>
      have hd := begins_cons.mp hrest
      simp only [Bool.and_eq_true, decide_eq_true_eq] at hd
      have hpair : ('-', d) ∉ pairs := by simp [pairs, hd.2]
      rw [nextSymbol, if_neg hpair]
      rfl

inductive Quoted (quote : Char) : List Char → Prop
  | nil : Quoted quote []
  | plain {c : Char} {rest : List Char} (hc : c ≠ quote) (hrest : Quoted quote rest) :
      Quoted quote (c :: rest)
  | doubled {rest : List Char} (hrest : Quoted quote rest) : Quoted quote (quote :: quote :: rest)

theorem quotedRest_of_quoted {quote : Char} {body rest : List Char} (hbody : Quoted quote body)
    (hrest : rest.head? ≠ some quote) :
    quotedRest quote (body ++ quote :: rest) = some (body ++ [quote], rest) := by
  induction hbody with
  | nil =>
      cases rest with
      | nil => simp [quotedRest]
      | cons c rest =>
          have hc : c ≠ quote := by simpa using hrest
          simp [quotedRest, hc]
  | @plain c inner hc _ ih =>
      obtain ⟨d, more, hmore⟩ : ∃ d more, inner ++ quote :: rest = d :: more := by
        cases inner with
        | nil => exact ⟨quote, rest, rfl⟩
        | cons d inner => exact ⟨d, inner ++ quote :: rest, rfl⟩
      rw [List.cons_append, hmore, quotedRest, if_pos hc, ← hmore, ih]
      rfl
  | @doubled inner _ ih =>
      rw [List.cons_append, List.cons_append, quotedRest, if_neg (not_not.mpr rfl), if_pos rfl, ih]
      rfl

theorem lexAll_text {body rest : List Char} (hbody : Quoted '\x27' body)
    (hrest : rest.head? ≠ some '\x27') :
    lexAll ('\x27' :: (body ++ '\x27' :: rest)) =
      .text ('\x27' :: (body ++ ['\x27'])) :: lexAll rest := by
  apply lexAll_lexeme rfl
  have hstart : lexemeRest '\x27' (body ++ '\x27' :: rest) =
      closed .text '\x27' (quotedRest '\x27' (body ++ '\x27' :: rest)) := rfl
  rw [hstart, quotedRest_of_quoted hbody hrest]
  rfl

theorem quotedRest_of_open {quote : Char} {body : List Char} (hbody : Quoted quote body) :
    quotedRest quote body = none := by
  induction hbody with
  | nil => rfl
  | @plain c rest hc _ ih =>
      cases rest with
      | nil => rw [quotedRest, if_neg hc]
      | cons d rest =>
          rw [quotedRest, if_pos hc, ih]
          rfl
  | doubled _ ih =>
      rw [quotedRest, if_neg (not_not.mpr rfl), if_pos rfl, ih]
      rfl

theorem lexAll_open {body : List Char} (hbody : Quoted '\x27' body) :
    lexAll ('\x27' :: body) = [.illegal] := by
  have hstart : lexemeRest '\x27' body = closed .text '\x27' (quotedRest '\x27' body) := rfl
  rw [quotedRest_of_open hbody] at hstart
  exact lexAll_lexeme rfl hstart

theorem Quoted.takeWhile {quote : Char} {body : List Char} {p : Char → Bool}
    (hbody : Quoted quote body) (hquote : p quote) : Quoted quote (body.takeWhile p) := by
  induction hbody with
  | nil => exact .nil
  | @plain c rest hc _ ih =>
      rw [List.takeWhile_cons]
      split
      · exact .plain hc ih
      · exact .nil
  | doubled _ ih =>
      rw [List.takeWhile_cons_of_pos hquote, List.takeWhile_cons_of_pos hquote]
      exact .doubled ih

/-! ## Numbers -/

def IsFraction (chars : List Char) : Prop :=
  chars = [] ∨ ∃ digits, chars = '.' :: digits ∧ digits.all isDigit

def IsExponent (chars : List Char) : Prop :=
  chars = [] ∨ ∃ marker sign digit digits, chars = marker :: sign ++ digit :: digits ∧
    (marker = 'e' ∨ marker = 'E') ∧ (sign = [] ∨ sign = ['+'] ∨ sign = ['-']) ∧
    isDigit digit ∧ digits.all isDigit

def IsDecimal (chars : List Char) : Prop :=
  ∃ whole fraction exponent, chars = whole ++ fraction ++ exponent ∧ whole.all isDigit ∧
    IsFraction fraction ∧ IsExponent exponent ∧
    (whole ≠ [] ∨ ∃ digit digits, fraction = '.' :: digit :: digits)

def endsNumber (c : Char) : Bool :=
  !isIdChar c && c ≠ '.' && c ≠ '+' && c ≠ '-'

theorem isIdChar_of_isDigit {c : Char} (hdigit : isDigit c) : isIdChar c := by
  simp only [isDigit, Bool.and_eq_true, decide_eq_true_eq, Char.le_def,
    UInt32.le_iff_toNat_le] at hdigit
  simp only [isIdChar, Char.isAlphanum, Char.isDigit, Bool.or_eq_true, Bool.and_eq_true,
    decide_eq_true_eq, UInt32.le_iff_toNat_le]
  exact .inl (.inl (.inl (.inr hdigit)))

theorem isIdChar_of_isHexDigit {c : Char} (hdigit : isHexDigit c) : isIdChar c := by
  simp only [isHexDigit, Bool.or_eq_true, Bool.and_eq_true, decide_eq_true_eq] at hdigit
  rcases hdigit with (hdigit | hlower) | hupper
  · exact isIdChar_of_isDigit hdigit
  · have hlow : c.isLower := Bool.and_eq_true_iff.mpr
      ⟨decide_eq_true hlower.1, decide_eq_true (UInt32.le_trans hlower.2 (by decide))⟩
    have halpha : c.isAlpha := Bool.or_eq_true_iff.mpr (.inr hlow)
    simp [isIdChar, Char.isAlphanum, halpha]
  · have hupp : c.isUpper :=
      decide_eq_true ⟨hupper.1, UInt32.le_trans hupper.2 (by decide)⟩
    have halpha : c.isAlpha := Bool.or_eq_true_iff.mpr (.inl hupp)
    simp [isIdChar, Char.isAlphanum, halpha]

theorem not_isDigit_of_not_isIdChar {c : Char} (hc : (!isIdChar c) = true) :
    (!isDigit c) = true := by
  rw [Bool.not_eq_true'] at hc ⊢
  by_contra hdigit
  rw [isIdChar_of_isDigit (by simpa using hdigit)] at hc
  cases hc

theorem exponentRest_nil {rest : List Char} (hrest : Begins (fun c => !isIdChar c) rest) :
    exponentRest rest = ([], rest) := by
  cases rest with
  | nil => rfl
  | cons c rest =>
      have hc := begins_cons.mp hrest
      have hmarker : ¬ (c = 'e' ∨ c = 'E') := by
        rintro (rfl | rfl)
        all_goals exact absurd hc (by decide)
      unfold exponentRest
      dsimp only
      rw [if_neg fun h => hmarker h.1]

section Decimal

variable {rest : List Char}

theorem exponentRest_of_isExponent {exponent : List Char} (hexponent : IsExponent exponent)
    (hrest : Begins (fun c => !isIdChar c) rest) :
    exponentRest (exponent ++ rest) = (exponent, rest) := by
  rcases hexponent with rfl | ⟨marker, sign, digit, digits, rfl, hmarker, hsign, hdigit, hdigits⟩
  · exact exponentRest_nil hrest
  · have hall : (digit :: digits).all isDigit := by
      rw [List.all_cons, hdigit, hdigits]
      rfl
    have hends : Begins (fun c => !isDigit c) rest :=
      hrest.mono fun c => not_isDigit_of_not_isIdChar
    obtain ⟨htake, hdrop⟩ := takeWhile_append_of_all hall hends
    have hplain : digit ≠ '+' ∧ digit ≠ '-' := by
      constructor
      all_goals
        rintro rfl
        exact absurd hdigit (by decide)
    have hsigned : signRest (sign ++ (digit :: digits ++ rest)) =
        (sign, digit :: digits ++ rest) := by
      rcases hsign with rfl | rfl | rfl
      · rw [List.nil_append, List.cons_append, signRest,
          if_neg (not_or.mpr hplain)]
      · rfl
      · rfl
    rw [List.cons_append, List.cons_append, List.append_assoc, exponentRest, hsigned]
    dsimp only
    rw [if_pos ⟨hmarker, by simpa using hdigit⟩, htake, hdrop]
    simp

theorem fractionRest_of_isFraction {fraction : List Char} (hfraction : IsFraction fraction)
    (hrest : Begins (fun c => !isDigit c && c ≠ '.') rest) :
    fractionRest (fraction ++ rest) = (fraction, rest) := by
  rcases hfraction with rfl | ⟨digits, rfl, hdigits⟩
  · rw [List.nil_append, fractionRest]
    rintro more rfl
    exact absurd (begins_cons.mp hrest) (by decide)
  · have hends : Begins (fun c => !isDigit c) rest := by
      refine hrest.mono fun c hc => ?_
      rw [Bool.and_eq_true] at hc
      exact hc.1
    obtain ⟨htake, hdrop⟩ := takeWhile_append_of_all hdigits hends
    rw [List.cons_append, fractionRest, htake, hdrop]

theorem begins_exponent {exponent : List Char} (hexponent : IsExponent exponent) :
    Begins (fun c => !isDigit c && c ≠ '.') exponent := by
  rcases hexponent with rfl | ⟨marker, sign, digit, digits, rfl, hmarker, -⟩
  · rfl
  · rw [List.cons_append, begins_cons]
    rcases hmarker with rfl | rfl
    all_goals decide

theorem begins_fraction {fraction : List Char} (hfraction : IsFraction fraction) :
    Begins (fun c => !isDigit c) fraction := by
  rcases hfraction with rfl | ⟨digits, rfl, -⟩
  · rfl
  · exact begins_cons.mpr (by decide)

theorem decimalRest_of_isDecimal {chars : List Char} (hchars : IsDecimal chars)
    (hrest : Begins (fun c => !isIdChar c && c ≠ '.') rest) :
    numberRest.decimalRest (chars ++ rest) = (chars, rest) := by
  obtain ⟨whole, fraction, exponent, rfl, hwhole, hfraction, hexponent, -⟩ := hchars
  have hname : Begins (fun c => !isIdChar c) rest := by
    refine hrest.mono fun c hc => ?_
    rw [Bool.and_eq_true] at hc
    exact hc.1
  have hpoint : Begins (fun c => !isDigit c && c ≠ '.') rest := by
    refine hrest.mono fun c hc => ?_
    rw [Bool.and_eq_true] at hc ⊢
    exact ⟨not_isDigit_of_not_isIdChar hc.1, hc.2⟩
  have hafter : Begins (fun c => !isDigit c && c ≠ '.') (exponent ++ rest) :=
    begins_append (begins_exponent hexponent) fun _ => hpoint
  have hdigits : Begins (fun c => !isDigit c) (fraction ++ (exponent ++ rest)) := by
    refine begins_append (begins_fraction hfraction) fun _ => hafter.mono fun c hc => ?_
    rw [Bool.and_eq_true] at hc
    exact hc.1
  obtain ⟨htake, hdrop⟩ := takeWhile_append_of_all hwhole hdigits
  unfold numberRest.decimalRest
  rw [List.append_assoc, List.append_assoc, htake, hdrop]
  dsimp only
  rw [fractionRest_of_isFraction hfraction hafter]
  dsimp only
  rw [exponentRest_of_isExponent hexponent hname, List.append_assoc]

theorem IsDecimal.all {chars : List Char} {p : Char → Bool} (hchars : IsDecimal chars)
    (hdigit : ∀ c, isDigit c → p c) (hother : ['.', 'e', 'E', '+', '-'].all p) : chars.all p := by
  have hdigits : ∀ {digits : List Char}, digits.all isDigit → digits.all p := by
    intro digits hall
    rw [List.all_eq_true] at hall ⊢
    exact fun c hc => hdigit c (hall c hc)
  simp only [List.all_cons, List.all_nil, Bool.and_true, Bool.and_eq_true] at hother
  obtain ⟨hpoint, hlower, hupper, hplus, hminus⟩ := hother
  obtain ⟨whole, fraction, exponent, rfl, hwhole, hfraction, hexponent, -⟩ := hchars
  have hfractionAll : fraction.all p := by
    rcases hfraction with rfl | ⟨digits, rfl, hall⟩
    · rfl
    · rw [List.all_cons, hpoint, hdigits hall]
      rfl
  have hexponentAll : exponent.all p := by
    rcases hexponent with rfl | ⟨marker, sign, digit, digits, rfl, hmarker, hsign, hfirst, hmore⟩
    · rfl
    · have hmarkerAll : p marker := by
        rcases hmarker with rfl | rfl
        · exact hlower
        · exact hupper
      have hsignAll : sign.all p := by
        rcases hsign with rfl | rfl | rfl
        · rfl
        · rw [List.all_cons, hplus]
          rfl
        · rw [List.all_cons, hminus]
          rfl
      rw [List.all_append, List.all_cons, List.all_cons, hmarkerAll, hsignAll,
        hdigit digit hfirst, hdigits hmore]
      rfl
  rw [List.all_append, List.all_append, hdigits hwhole, hfractionAll, hexponentAll]
  rfl

theorem IsDecimal.notHex {chars : List Char} (hchars : IsDecimal chars) :
    chars.all fun c => c ≠ 'x' && c ≠ 'X' := by
  refine hchars.all (fun c hdigit => ?_) (by decide)
  rw [Bool.and_eq_true, decide_eq_true_eq, decide_eq_true_eq]
  constructor
  all_goals
    rintro rfl
    exact absurd hdigit (by decide)

/-- The second character of a decimal literal, or what follows it, is no `x`. -/
theorem numberRest_of_isDecimal {chars : List Char} (hchars : IsDecimal chars)
    (hrest : Begins (fun c => !isIdChar c && c ≠ '.') rest) :
    numberRest (chars ++ rest) = (chars, rest) := by
  have hdecimal := decimalRest_of_isDecimal hchars hrest
  have hnone := hchars.notHex
  unfold numberRest
  split
  · rename_i marker digit more hsplit
    have hmarker : ¬ (marker = 'x' ∨ marker = 'X') := by
      intro hmarker
      have hid : isIdChar marker := by
        rcases hmarker with rfl | rfl
        all_goals decide
      match chars with
      | [] =>
          rw [List.nil_append] at hsplit
          rw [hsplit] at hrest
          exact absurd (begins_cons.mp hrest) (by decide)
      | [c] =>
          rw [List.singleton_append, List.cons.injEq] at hsplit
          rw [hsplit.2, begins_cons, hid] at hrest
          exact absurd hrest (by simp)
      | c :: d :: chars =>
          rw [List.cons_append, List.cons_append, List.cons.injEq, List.cons.injEq] at hsplit
          obtain ⟨-, rfl, -⟩ := hsplit
          rw [List.all_cons, List.all_cons] at hnone
          rcases hmarker with rfl | rfl
          all_goals simp at hnone
    rw [if_neg fun h => hmarker h.1]
    exact hdecimal
  · exact hdecimal

theorem lexAll_numberStart {c : Char} (hstart : isDigit c ∨ c = '.' ∧ rest.head?.any isDigit) :
    lexAll (c :: rest) = (nextNumber (c :: rest)).1 :: lexAll (nextNumber (c :: rest)).2 := by
  have hne : ∀ d, isDigit d = false → d ≠ '.' → c ≠ d := by
    rintro d hdigit hpoint rfl
    rcases hstart with hc | hc
    · rw [hdigit] at hc
      cases hc
    · exact hpoint hc.1
  have hspace : ¬ isSpace c := by
    rcases hstart with hc | ⟨rfl, -⟩
    · simp only [isDigit, Bool.and_eq_true, decide_eq_true_eq, Char.le_def,
        UInt32.le_iff_toNat_le] at hc
      have hlow : 48 ≤ c.toNat := hc.1
      simp only [isSpace, Bool.or_eq_true, decide_eq_true_eq, Bool.and_eq_true, not_or, not_and]
      refine ⟨hne ' ' (by decide) (by decide), ?_⟩
      omega
    · decide
  have hskip : skipRest c rest = none := by
    unfold skipRest
    rw [if_neg (fun h => hspace h.1), if_neg (hne _ (by decide) (by decide)),
      if_neg (fun h => hne _ (by decide) (by decide) h.1),
      if_neg (fun h => hne _ (by decide) (by decide) h.1)]
  have hname : ¬ (c = '"' ∨ c = '\x60') := by
    rintro (hc | hc)
    all_goals exact hne _ (by decide) (by decide) hc
  have hlexeme : lexemeRest c rest = nextNumber (c :: rest) := by
    unfold lexemeRest
    rw [if_neg (hne _ (by decide) (by decide)), if_neg hname,
      if_neg (hne _ (by decide) (by decide)), if_pos hstart]
  exact lexAll_lexeme hskip hlexeme

theorem lexAll_number {chars : List Char} (hchars : IsDecimal chars)
    (hrest : Begins (fun c => !isIdChar c && c ≠ '.') rest) :
    lexAll (chars ++ rest) = .number chars :: lexAll rest := by
  have hnumber := numberRest_of_isDecimal hchars hrest
  have hname : Begins (fun c => !isIdChar c) rest := by
    refine hrest.mono fun c hc => ?_
    rw [Bool.and_eq_true] at hc
    exact hc.1
  obtain ⟨htake, hdrop⟩ := @takeWhile_append_of_all isIdChar [] rest rfl hname
  rw [List.nil_append] at htake hdrop
  have hnext : nextNumber (chars ++ rest) = (.number chars, rest) := by
    rw [nextNumber, hnumber]
    dsimp only
    rw [htake, hdrop]
    rfl
  obtain ⟨c, more, hcons, hstart⟩ : ∃ c more, chars ++ rest = c :: more ∧
      (isDigit c ∨ c = '.' ∧ more.head?.any isDigit) := by
    obtain ⟨whole, fraction, exponent, rfl, hwhole, hfraction, -, hdigits⟩ := hchars
    cases whole with
    | cons c whole =>
        rw [List.all_cons, Bool.and_eq_true] at hwhole
        exact ⟨c, _, rfl, .inl hwhole.1⟩
    | nil =>
        obtain ⟨digit, digits, rfl⟩ := hdigits.resolve_left fun h => h rfl
        refine ⟨'.', _, rfl, .inr ⟨rfl, ?_⟩⟩
        rcases hfraction with hnil | ⟨others, hsame, hall⟩
        · cases hnil
        · rw [← (List.cons.inj hsame).2, List.all_cons, Bool.and_eq_true] at hall
          exact hall.1
  rw [hcons, lexAll_numberStart hstart, ← hcons, hnext]

theorem endsNumber_not_isIdChar {c : Char} (hc : endsNumber c) : (!isIdChar c) = true := by
  simp only [endsNumber, Bool.and_eq_true] at hc
  exact hc.1.1.1

theorem endsNumber_of_isIdChar {c : Char} (hid : isIdChar c) :
    c ≠ '.' ∧ c ≠ '+' ∧ c ≠ '-' := by
  refine ⟨?_, ?_, ?_⟩
  all_goals
    rintro rfl
    exact absurd hid (by decide)

theorem head_of_word {word : List Char} (hword : word.all isIdChar)
    (hrest : Begins endsNumber rest) :
    Begins (fun c => c ≠ '.' && c ≠ '+' && c ≠ '-') (word ++ rest) := by
  refine begins_append (begins_of_all ?_) fun _ => hrest.mono fun c hc => ?_
  · rw [List.all_eq_true] at hword ⊢
    intro c hc
    simpa [and_assoc] using endsNumber_of_isIdChar (hword c hc)
  · simp only [endsNumber, Bool.and_eq_true, decide_eq_true_eq] at hc
    simpa [and_assoc] using ⟨hc.1.1.2, hc.1.2, hc.2⟩

theorem exponentRest_append {word : List Char} (hword : word.all isIdChar)
    (hrest : Begins endsNumber rest) :
    exponentRest (word ++ rest) = ((exponentRest word).1, (exponentRest word).2 ++ rest) := by
  cases word with
  | nil => exact exponentRest_nil (hrest.mono fun c => endsNumber_not_isIdChar)
  | cons marker word =>
      rw [List.all_cons, Bool.and_eq_true] at hword
      have hsign : ∀ {rest : List Char}, Begins endsNumber rest →
          signRest (word ++ rest) = ([], word ++ rest) := by
        intro rest hrest
        have hhead := head_of_word hword.2 hrest
        cases hchars : word ++ rest with
        | nil => rfl
        | cons c chars =>
            rw [hchars, begins_cons] at hhead
            simp only [Bool.and_eq_true, decide_eq_true_eq] at hhead
            rw [signRest, if_neg (not_or.mpr ⟨hhead.1.2, hhead.2⟩)]
      have hdigits : Begins (fun c => !isDigit c) rest :=
        hrest.mono fun c hc => not_isDigit_of_not_isIdChar (endsNumber_not_isIdChar hc)
      have hhead : (word ++ rest).head?.any isDigit = word.head?.any isDigit := by
        cases word with
        | cons c word => rfl
        | nil =>
            cases rest with
            | nil => rfl
            | cons c rest => simpa using begins_cons.mp hdigits
      have hnone := hsign (begins_nil endsNumber)
      rw [List.append_nil] at hnone
      obtain ⟨htake, hdrop⟩ := takeWhile_append word hdigits
      rw [List.cons_append, exponentRest, exponentRest, hsign hrest, hnone]
      dsimp only
      rw [hhead, htake, hdrop]
      split_ifs
      · rfl
      · rfl

theorem decimalRest_append {word : List Char} (hword : word.all isIdChar)
    (hrest : Begins endsNumber rest) :
    numberRest.decimalRest (word ++ rest) =
      ((numberRest.decimalRest word).1, (numberRest.decimalRest word).2 ++ rest) := by
  have hdigits : Begins (fun c => !isDigit c) rest :=
    hrest.mono fun c hc => not_isDigit_of_not_isIdChar (endsNumber_not_isIdChar hc)
  obtain ⟨htake, hdrop⟩ := takeWhile_append word hdigits
  have hafter : (word.dropWhile isDigit).all isIdChar := by
    rw [List.all_eq_true] at hword ⊢
    intro c hc
    exact hword c ((List.dropWhile_suffix _).mem hc)
  have hfraction : ∀ {rest : List Char}, Begins endsNumber rest →
      fractionRest (word.dropWhile isDigit ++ rest) = ([], word.dropWhile isDigit ++ rest) := by
    intro rest hrest
    have hhead := head_of_word hafter hrest
    rw [fractionRest]
    rintro more hmore
    rw [hmore, begins_cons] at hhead
    exact absurd hhead (by decide)
  have hnone := hfraction (begins_nil endsNumber)
  rw [List.append_nil] at hnone
  rw [numberRest.decimalRest, numberRest.decimalRest, htake, hdrop, hfraction hrest, hnone]
  dsimp only
  rw [exponentRest_append hafter hrest]

theorem numberRest_of_not_hex {chars : List Char}
    (hplain : ∀ d e more, chars = '0' :: d :: e :: more →
      ¬ ((d = 'x' ∨ d = 'X') ∧ isHexDigit e)) :
    numberRest chars = numberRest.decimalRest chars := by
  unfold numberRest
  split
  · rename_i marker digit more
    rw [if_neg (hplain marker digit more rfl)]
  · rfl

theorem numberRest_append {word : List Char} (hword : word.all isIdChar)
    (hrest : Begins endsNumber rest) :
    numberRest (word ++ rest) = ((numberRest word).1, (numberRest word).2 ++ rest) := by
  have hdecimal := decimalRest_append hword hrest
  have hnever : ∀ {c : Char} {chars : List Char}, rest = c :: chars → ¬ isIdChar c := by
    rintro c chars rfl
    simpa using endsNumber_not_isIdChar (begins_cons.mp hrest)
  match word with
  | [] =>
      rw [numberRest_of_not_hex, numberRest_of_not_hex, hdecimal]
      · exact fun _ _ _ hsplit => absurd hsplit (by simp)
      · exact fun _ _ _ hsplit => absurd (by decide) (hnever hsplit)
  | [c] =>
      rw [numberRest_of_not_hex, numberRest_of_not_hex, hdecimal]
      · exact fun _ _ _ hsplit => absurd hsplit (by simp)
      · rintro d e more hsplit ⟨hmarker, -⟩
        apply hnever (List.cons.inj hsplit).2
        rcases hmarker with rfl | rfl
        all_goals decide
  | [c, d] =>
      rw [numberRest_of_not_hex, numberRest_of_not_hex, hdecimal]
      · exact fun _ _ _ hsplit => absurd hsplit (by simp)
      · rintro d' e more hsplit ⟨-, hdigit⟩
        exact hnever (List.cons.inj (List.cons.inj hsplit).2).2 (isIdChar_of_isHexDigit hdigit)
  | c :: d :: e :: more =>
      by_cases hhex : c = '0' ∧ (d = 'x' ∨ d = 'X') ∧ isHexDigit e
      · obtain ⟨rfl, hhex⟩ := hhex
        have hends : Begins (fun c => !isHexDigit c) rest := by
          refine hrest.mono fun c hc => ?_
          by_contra hdigit
          have hid := isIdChar_of_isHexDigit (c := c) (by simpa using hdigit)
          rw [endsNumber, hid] at hc
          cases hc
        obtain ⟨htake, hdrop⟩ := takeWhile_append more hends
        have hliteral : ∀ more : List Char, numberRest ('0' :: d :: e :: more) =
            ('0' :: d :: e :: more.takeWhile isHexDigit, more.dropWhile isHexDigit) := by
          intro more
          rw [numberRest, if_pos hhex]
        rw [List.cons_append, List.cons_append, List.cons_append, hliteral, hliteral, htake, hdrop]
      · have hplain : ∀ {more : List Char} (d' e' : Char) (more' : List Char),
            c :: d :: e :: more = '0' :: d' :: e' :: more' →
            ¬ ((d' = 'x' ∨ d' = 'X') ∧ isHexDigit e') := by
          rintro more d' e' more' hsplit hmore
          simp only [List.cons.injEq] at hsplit
          obtain ⟨rfl, rfl, rfl, -⟩ := hsplit
          exact hhex ⟨rfl, hmore⟩
        rw [numberRest_of_not_hex, numberRest_of_not_hex, hdecimal]
        · exact hplain
        · exact hplain

theorem numberRest_split (chars : List Char) :
    (numberRest chars).1 ++ (numberRest chars).2 = chars := by
  have hsign : ∀ chars, (signRest chars).1 ++ (signRest chars).2 = chars := by
    intro chars
    unfold signRest
    split
    · split_ifs
      · rfl
      · rfl
    · rfl
  have hexponent : ∀ chars, (exponentRest chars).1 ++ (exponentRest chars).2 = chars := by
    intro chars
    unfold exponentRest
    split
    · rename_i marker rest
      dsimp only
      split_ifs
      · rw [List.append_assoc, List.takeWhile_append_dropWhile, List.cons_append, hsign]
      · rfl
    · rfl
  have hfraction : ∀ chars, (fractionRest chars).1 ++ (fractionRest chars).2 = chars := by
    intro chars
    unfold fractionRest
    split
    · rw [List.cons_append, List.takeWhile_append_dropWhile]
    · rfl
  have hdecimal : ∀ chars, (numberRest.decimalRest chars).1 ++ (numberRest.decimalRest chars).2 =
      chars := by
    intro chars
    rw [numberRest.decimalRest]
    dsimp only
    rw [List.append_assoc, hexponent, List.append_assoc, hfraction,
      List.takeWhile_append_dropWhile]
  unfold numberRest
  split
  · split_ifs
    · simp only [List.cons_append, List.takeWhile_append_dropWhile]
    · exact hdecimal _
  · exact hdecimal _

theorem nextNumber_word {word : List Char} (hword : word.all isIdChar) :
    (nextNumber word).1 = .number word ∨ (nextNumber word).1 = .illegal := by
  have hsplit := numberRest_split word
  rw [nextNumber]
  dsimp only
  split_ifs with hempty
  · left
    have hleft : (numberRest word).2.all isIdChar := by
      rw [← hsplit, List.all_append, Bool.and_eq_true] at hword
      exact hword.2
    rw [List.takeWhile_eq_self_iff.mpr (List.all_eq_true.mp hleft), List.isEmpty_iff] at hempty
    rw [hempty, List.append_nil] at hsplit
    rw [hsplit]
  · exact .inr rfl

theorem lexAll_digits {c : Char} {more : List Char} (hc : isDigit c)
    (hmore : more.all isIdChar) (hrest : Begins endsNumber rest) :
    lexAll (c :: more ++ rest) = (nextNumber (c :: more)).1 :: lexAll rest := by
  have hword : (c :: more).all isIdChar := by
    rw [List.all_cons, isIdChar_of_isDigit hc, hmore]
    rfl
  have hname : Begins (fun c => !isIdChar c) rest :=
    hrest.mono fun d => endsNumber_not_isIdChar
  have hleft : (numberRest (c :: more)).2.all isIdChar := by
    rw [← numberRest_split (c :: more), List.all_append, Bool.and_eq_true] at hword
    exact hword.2
  have hwhole := (List.takeWhile_eq_self_iff.mpr (List.all_eq_true.mp hleft))
  obtain ⟨htake, hdrop⟩ := takeWhile_append_of_all hleft hname
  have hnext : nextNumber (c :: more ++ rest) = ((nextNumber (c :: more)).1, rest) := by
    rw [nextNumber, nextNumber, numberRest_append hword hrest]
    dsimp only
    rw [htake, hdrop, hwhole]
  rw [List.cons_append] at hnext ⊢
  rw [lexAll_numberStart (.inl hc), hnext]

end Decimal

end SqliteText
