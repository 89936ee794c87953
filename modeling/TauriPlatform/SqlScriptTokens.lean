import TauriPlatform.SqlScript
import TauriPlatform.SqliteScript
import Mathlib

/-!
# The scan of a script, token by token

What the scanner does with each token of SQLite.  It reads a word of SQLite as its own words,
which end where a character is no ASCII letter, digit or `_`.
-/

namespace TauriPlatform

open SqliteScript

namespace SqlScanner

/-! ## The loop without its fuel -/

def statementsIn (scanner : SqlScanner) (chars : List Char) : List String :=
  (scan chars.length scanner chars).pushStatement.statements

theorem length_plainStep (scanner : SqlScanner) (current : Char) (rest : List Char) :
    (scanner.plainStep current rest).2.length ≤ rest.length := by
  unfold plainStep
  dsimp only
  split_ifs
  · exact (List.tail_sublist rest).length_le
  · exact (List.tail_sublist rest).length_le
  · exact le_rfl
  · exact le_rfl
  · exact le_rfl
  · exact (List.dropWhile_suffix _).length_le
  · exact le_rfl

theorem length_step (scanner : SqlScanner) (current : Char) (rest : List Char) :
    (scanner.step current rest).2.length ≤ rest.length := by
  unfold step
  split_ifs
  · exact le_rfl
  · exact (List.tail_sublist rest).length_le
  · exact le_rfl
  · cases scanner.quoteEnd with
    | none => exact length_plainStep scanner current rest
    | some quoteEnd =>
        dsimp only
        unfold quotedStep
        split_ifs
        · exact (List.tail_sublist rest).length_le
        · exact le_rfl
        · exact le_rfl

theorem scan_eq {fuel : Nat} {chars : List Char} (hfuel : chars.length ≤ fuel)
    (scanner : SqlScanner) : scan fuel scanner chars = scan chars.length scanner chars := by
  induction fuel using Nat.strong_induction_on generalizing scanner chars with
  | _ fuel ih =>
      cases chars with
      | nil => cases fuel <;> rfl
      | cons current rest =>
          obtain ⟨left, rfl⟩ : ∃ left, fuel = left + 1 :=
            ⟨fuel - 1, by rw [List.length_cons] at hfuel; omega⟩
          have hrest := length_step scanner current rest
          rw [List.length_cons] at hfuel
          rw [scan, List.length_cons, scan, ih left (by omega) (by omega)]
          by_cases hsame : rest.length = left
          · rw [hsame, ih left (by omega) (by omega)]
          · rw [ih rest.length (by omega) hrest]

theorem pushStatement_statements (scanner : SqlScanner) :
    scanner.pushStatement.statements =
      if scanner.hasSqlToken then scanner.statements ++ [String.ofList scanner.slice.reverse]
      else scanner.statements := by
  unfold pushStatement
  split_ifs <;> rfl

theorem statementsIn_nil (scanner : SqlScanner) :
    scanner.statementsIn [] =
      if scanner.hasSqlToken then scanner.statements ++ [String.ofList scanner.slice.reverse]
      else scanner.statements :=
  scanner.pushStatement_statements

theorem statementsIn_cons (scanner : SqlScanner) (current : Char) (rest : List Char) :
    scanner.statementsIn (current :: rest) =
      (scanner.step current rest).1.statementsIn (scanner.step current rest).2 := by
  unfold statementsIn
  rw [List.length_cons, scan, scan_eq (length_step scanner current rest)]

/-! ## Between tokens -/

structure Neutral (scanner : SqlScanner) : Prop where
  line : scanner.inLineComment = false
  block : scanner.inBlockComment = false
  quote : scanner.quoteEnd = none

variable {scanner : SqlScanner}

theorem Neutral.step_eq (hneutral : scanner.Neutral) (current : Char) (rest : List Char) :
    scanner.step current rest = scanner.plainStep current rest := by
  unfold step
  simp [hneutral.line, hneutral.block, hneutral.quote]

theorem Neutral.recordWord (hneutral : scanner.Neutral) (word : List Char) :
    (scanner.recordWord word).Neutral := by
  obtain ⟨hline, hblock, hquote⟩ := hneutral
  unfold SqlScanner.recordWord
  dsimp only
  split_ifs <;> exact ⟨hline, hblock, hquote⟩

theorem Neutral.foldl (hneutral : scanner.Neutral) (words : List (List Char)) :
    (words.foldl SqlScanner.recordWord scanner).Neutral := by
  induction words generalizing scanner with
  | nil => exact hneutral
  | cons word words ih => exact ih (hneutral.recordWord word)

@[simp] theorem advance_nil (scanner : SqlScanner) : scanner.advance [] = scanner :=
  rfl

theorem advance_advance (scanner : SqlScanner) (front back : List Char) :
    (scanner.advance front).advance back = scanner.advance (front ++ back) := by
  simp [advance]

theorem Neutral.advance (hneutral : scanner.Neutral) (chars : List Char) :
    (scanner.advance chars).Neutral :=
  ⟨hneutral.line, hneutral.block, hneutral.quote⟩

def wordsIn : List Char → List (List Char)
  | [] => []
  | c :: rest =>
      if isWordStart c then
        (c :: rest.takeWhile isWordChar) :: wordsIn (rest.dropWhile isWordChar)
      else wordsIn rest
termination_by chars => chars.length
decreasing_by
  · exact Nat.lt_succ_of_le (List.dropWhile_suffix _).length_le
  · exact Nat.lt_succ_self _

theorem wordsIn_nil : wordsIn [] = [] := by
  rw [wordsIn]

theorem wordsIn_cons (c : Char) (rest : List Char) :
    wordsIn (c :: rest) =
      if isWordStart c then
        (c :: rest.takeWhile isWordChar) :: wordsIn (rest.dropWhile isWordChar)
      else wordsIn rest := by
  rw [wordsIn]

def read (scanner : SqlScanner) : Token → SqlScanner
  | .space chars => scanner.advance chars
  | .lineComment chars => scanner.advance chars
  | .blockComment chars => scanner.advance chars
  | .quoted chars => { scanner.advance chars with hasSqlToken := true }
  | .word chars =>
      (wordsIn chars).foldl recordWord
        { scanner.advance chars with
          hasSqlToken := scanner.hasSqlToken || !chars.all isJsWhitespace }
  | .semicolon =>
      if scanner.inTriggerBody then { scanner.advance [';'] with hasSqlToken := true }
      else (scanner.advance [';']).pushStatement.resetStatement
  | .symbol char =>
      { scanner.advance [char] with
        hasSqlToken := scanner.hasSqlToken || !isJsWhitespace char }

theorem read_word (scanner : SqlScanner) (chars : List Char) :
    scanner.read (.word chars) =
      (wordsIn chars).foldl recordWord
        { scanner.advance chars with
          hasSqlToken := scanner.hasSqlToken || !chars.all isJsWhitespace } :=
  rfl

theorem Neutral.read (hneutral : scanner.Neutral) (token : Token) :
    (scanner.read token).Neutral := by
  obtain ⟨hline, hblock, hquote⟩ := hneutral
  cases token with
  | word chars =>
      refine Neutral.foldl ?_ _
      exact ⟨hline, hblock, hquote⟩
  | semicolon =>
      unfold SqlScanner.read
      split_ifs
      · exact ⟨hline, hblock, hquote⟩
      · unfold pushStatement
        split_ifs <;> exact ⟨hline, hblock, hquote⟩
  | _ => exact ⟨hline, hblock, hquote⟩

/-! ## Single characters -/

def specials : List Char :=
  ['-', '/', '\x27', '"', '\x60', '[', ';']

theorem notMem_specials {p : Char → Bool} {c : Char} (hc : p c)
    (hspecials : specials.all fun special => !p special) : c ∉ specials := by
  intro hmem
  have hnot := List.all_eq_true.mp hspecials c hmem
  rw [hc] at hnot
  cases hnot

theorem plainStep_symbol {scanner : SqlScanner} {c : Char} {rest : List Char}
    (hline : ¬ (c = '-' ∧ rest.head? = some '-')) (hblock : ¬ (c = '/' ∧ rest.head? = some '*'))
    (hquote : ¬ (c = '\x27' ∨ c = '"' ∨ c = '\x60')) (hbracket : c ≠ '[') (hsemicolon : c ≠ ';')
    (hword : isWordStart c = false) :
    scanner.plainStep c rest =
      ({ scanner.advance [c] with
          hasSqlToken := scanner.hasSqlToken || !isJsWhitespace c }, rest) := by
  unfold plainStep
  dsimp only
  rw [if_neg hline, if_neg hblock, if_neg hquote, if_neg hbracket,
    if_neg fun hcut => hsemicolon hcut.1, if_neg (by simp [hword])]

theorem plainStep_ordinary {c : Char} {rest : List Char} (hc : c ∉ specials)
    (hword : isWordStart c = false) :
    scanner.plainStep c rest =
      ({ scanner.advance [c] with
          hasSqlToken := scanner.hasSqlToken || !isJsWhitespace c }, rest) := by
  simp only [specials, List.mem_cons, List.not_mem_nil, or_false, not_or] at hc
  obtain ⟨hdash, hslash, hsingle, hdouble, hback, hbracket, hsemicolon⟩ := hc
  apply plainStep_symbol
  · exact fun hline => hdash hline.1
  · exact fun hblock => hslash hblock.1
  · simp [hsingle, hdouble, hback]
  · exact hbracket
  · exact hsemicolon
  · exact hword

theorem isWordStart_eq_false {c : Char} (hwhitespace : isJsWhitespace c) :
    isWordStart c = false := by
  by_contra hword
  rw [isJsWhitespace_eq_false (by simpa using hword)] at hwhitespace
  cases hwhitespace

section Tokens

variable {scanner : SqlScanner}

variable {c : Char}

theorem statementsIn_whitespace (hneutral : scanner.Neutral) (hwhitespace : isJsWhitespace c)
    (rest : List Char) :
    scanner.statementsIn (c :: rest) = (scanner.advance [c]).statementsIn rest := by
  have hc : c ∉ specials := notMem_specials hwhitespace (by decide)
  rw [statementsIn_cons, hneutral.step_eq,
    plainStep_ordinary hc (isWordStart_eq_false hwhitespace), hwhitespace]
  simp only [Bool.not_true, Bool.or_false]
  rfl

theorem isJsWhitespace_of_isSpace (hspace : isSpace c) : isJsWhitespace c := by
  simp only [isSpace, Bool.or_eq_true, decide_eq_true_eq, Bool.and_eq_true] at hspace
  simp only [isJsWhitespace, List.mem_cons, List.not_mem_nil, or_false, Bool.or_eq_true,
    decide_eq_true_eq]
  cases hspace with
  | inl hblank =>
      subst hblank
      decide
  | inr hrange => omega

variable {chars : List Char}

theorem statementsIn_space (hneutral : scanner.Neutral) (hchars : ∀ c ∈ chars, isSpace c)
    (rest : List Char) :
    scanner.statementsIn (chars ++ rest) = (scanner.advance chars).statementsIn rest := by
  induction chars generalizing scanner with
  | nil => rfl
  | cons c chars ih =>
      have hc : isJsWhitespace c := isJsWhitespace_of_isSpace (hchars c List.mem_cons_self)
      rw [List.cons_append, statementsIn_whitespace hneutral hc,
        ih (hneutral.advance [c]) fun d hd => hchars d (List.mem_cons_of_mem _ hd),
        advance_advance]
      rfl

/-! ## Comments -/

def ReturnsAtEnd (chars : List Char) : Prop :=
  ∀ front back, chars = front ++ '\r' :: back → back = [] ∨ back = ['\n']

theorem ReturnsAtEnd.tail (hreturns : ReturnsAtEnd (c :: chars)) :
    ReturnsAtEnd chars := by
  intro front back hchars
  exact hreturns (c :: front) back (by rw [hchars, List.cons_append])

theorem lineRest_eq_nil (hrest : (lineRest chars).1 = []) : chars = [] := by
  cases chars with
  | nil => rfl
  | cons c rest =>
      unfold lineRest at hrest
      split_ifs at hrest

theorem lineRest_newline (hrest : (lineRest chars).1 = ['\n']) :
    chars = '\n' :: (lineRest chars).2 := by
  cases chars with
  | nil => cases hrest
  | cons c rest =>
      unfold lineRest at hrest ⊢
      split_ifs at hrest ⊢ with hc
      · rw [hc]
      · rw [List.cons.injEq] at hrest
        exact absurd hrest.1 hc

def inLine (scanner : SqlScanner) : SqlScanner :=
  { scanner with inLineComment := true }

theorem Neutral.inLine_false {scanner : SqlScanner} (hneutral : scanner.Neutral) :
    { scanner with inLineComment := false } = scanner := by
  rw [← hneutral.line]

theorem statementsIn_lineRest (hneutral : scanner.Neutral)
    (hreturns : ReturnsAtEnd (lineRest chars).1) :
    scanner.inLine.statementsIn chars =
      (scanner.advance (lineRest chars).1).statementsIn (lineRest chars).2 := by
  induction chars generalizing scanner with
  | nil => rw [statementsIn_nil, lineRest, statementsIn_nil]; rfl
  | cons c rest ih =>
      have hstep : scanner.inLine.step c rest =
          ({ scanner.advance [c] with inLineComment := c ≠ '\n' ∧ c ≠ '\r' }, rest) := rfl
      rw [statementsIn_cons, hstep]
      unfold lineRest at hreturns ⊢
      by_cases hnewline : c = '\n'
      · rw [if_pos hnewline]
        simp only [hnewline, ne_eq, not_true_eq_false, false_and, decide_false]
        rw [(hneutral.advance ['\n']).inLine_false]
      · rw [if_neg hnewline] at hreturns ⊢
        by_cases hreturn : c = '\r'
        · subst hreturn
          simp only [ne_eq, not_true_eq_false, and_false, decide_false]
          rw [(hneutral.advance ['\r']).inLine_false]
          -- what the scanner takes for the end of the comment is the end of it
          cases hreturns [] _ rfl with
          | inl hnil =>
              have hend : rest = [] := lineRest_eq_nil hnil
              subst hend
              rfl
          | inr hlast =>
              obtain ⟨left, rfl⟩ : ∃ left, rest = '\n' :: left := ⟨_, lineRest_newline hlast⟩
              rw [statementsIn_whitespace (hneutral.advance ['\r']) (by decide),
                advance_advance]
              rfl
        · have hline : ({ scanner.advance [c] with inLineComment := c ≠ '\n' ∧ c ≠ '\r' } :
              SqlScanner) = (scanner.advance [c]).inLine := by
            simp [hnewline, hreturn, inLine]
          rw [hline, ih (hneutral.advance [c]) hreturns.tail, advance_advance]
          rfl

def inBlock (scanner : SqlScanner) : SqlScanner :=
  { scanner with inBlockComment := true }

theorem Neutral.inBlock_false {scanner : SqlScanner} (hneutral : scanner.Neutral) :
    { scanner with inBlockComment := false } = scanner := by
  rw [← hneutral.block]

theorem inBlock_step (hneutral : scanner.Neutral) (c : Char) (rest : List Char) :
    scanner.inBlock.step c rest =
      if c = '*' ∧ rest.head? = some '/' then (scanner.advance (c :: rest.take 1), rest.tail)
      else ((scanner.advance [c]).inBlock, rest) := by
  have hline : scanner.inBlock.inLineComment = false := hneutral.line
  have hblock : scanner.inBlock.inBlockComment = true := rfl
  unfold step
  rw [hline, hblock, if_neg Bool.false_ne_true, if_pos rfl]
  split_ifs
  · rw [← (hneutral.advance (c :: rest.take 1)).inBlock_false]
    rfl
  · rfl

theorem statementsIn_blockRest (hneutral : scanner.Neutral) (chars : List Char) :
    scanner.inBlock.statementsIn chars =
      (scanner.advance (blockRest chars).1).statementsIn (blockRest chars).2 := by
  fun_induction blockRest chars generalizing scanner with
  | case1 => rw [statementsIn_nil, statementsIn_nil]; rfl
  | case2 rest =>
      rw [statementsIn_cons, inBlock_step hneutral, if_pos ⟨rfl, rfl⟩]
      rfl
  | case3 c rest hopen ih =>
      have hclose : ¬ (c = '*' ∧ rest.head? = some '/') := by
        rintro ⟨hstar, hslash⟩
        cases rest with
        | nil => cases hslash
        | cons d left =>
            cases hslash
            exact hopen left hstar rfl
      rw [statementsIn_cons, inBlock_step hneutral, if_neg hclose, ih (hneutral.advance [c]),
        advance_advance]
      rfl

/-! ## Quoted text -/

def inQuotes (scanner : SqlScanner) (quote : Char) : SqlScanner :=
  { scanner with quoteEnd := some quote }

theorem Neutral.quoteEnd_none {scanner : SqlScanner} (hneutral : scanner.Neutral) :
    { scanner with quoteEnd := none } = scanner := by
  rw [← hneutral.quote]

theorem inQuotes_step (hneutral : scanner.Neutral) (quote c : Char) (rest : List Char) :
    (scanner.inQuotes quote).step c rest =
      if c = quote then
        if rest.head? = some quote ∧ quote ≠ ']' then
          ((scanner.advance (c :: rest.take 1)).inQuotes quote, rest.tail)
        else (scanner.advance [c], rest)
      else ((scanner.advance [c]).inQuotes quote, rest) := by
  have hline : (scanner.inQuotes quote).inLineComment = false := hneutral.line
  have hblock : (scanner.inQuotes quote).inBlockComment = false := hneutral.block
  unfold step
  rw [hline, hblock, if_neg Bool.false_ne_true, if_neg Bool.false_ne_true]
  change (scanner.inQuotes quote).quotedStep quote c rest = _
  unfold quotedStep
  split_ifs
  · rfl
  · rw [← (hneutral.advance [c]).quoteEnd_none]
    rfl
  · rfl

theorem statementsIn_quotedRest (hneutral : scanner.Neutral) {quote : Char} (hquote : quote ≠ ']')
    {chars body left : List Char} (hrest : quotedRest quote chars = some (body, left)) :
    (scanner.inQuotes quote).statementsIn chars =
      (scanner.advance body).statementsIn left := by
  fun_induction quotedRest quote chars generalizing scanner body with
  | case1 => cases hrest
  | case2 =>
      cases hrest
      rw [statementsIn_cons, inQuotes_step hneutral, if_pos rfl, if_neg (by simp)]
  | case3 c hc => cases hrest
  | case4 c d rest hc ih =>
      obtain ⟨⟨body, after⟩, hbody, hsame⟩ := Option.map_eq_some_iff.mp hrest
      cases hsame
      rw [statementsIn_cons, inQuotes_step hneutral, if_neg hc, ih (hneutral.advance [c]) hbody,
        advance_advance]
      rfl
  | case5 c rest hc ih =>
      obtain ⟨⟨body, after⟩, hbody, hsame⟩ := Option.map_eq_some_iff.mp hrest
      cases hsame
      rw [statementsIn_cons, inQuotes_step hneutral, if_pos (not_not.mp hc),
        if_pos ⟨rfl, hquote⟩]
      dsimp only [List.tail_cons]
      rw [ih (hneutral.advance _) hbody, advance_advance]
      rfl
  | case6 c d rest hc hd =>
      cases hrest
      have hopen : ¬ ((d :: rest).head? = some quote ∧ quote ≠ ']') :=
        fun hdouble => hd (Option.some.inj hdouble.1)
      rw [statementsIn_cons, inQuotes_step hneutral, if_pos (not_not.mp hc), if_neg hopen]

theorem statementsIn_bracketRest (hneutral : scanner.Neutral) {body left : List Char}
    (hrest : bracketRest chars = some (body, left)) :
    (scanner.inQuotes ']').statementsIn chars = (scanner.advance body).statementsIn left := by
  induction chars generalizing scanner body with
  | nil => cases hrest
  | cons c rest ih =>
      rw [statementsIn_cons, inQuotes_step hneutral]
      unfold bracketRest at hrest
      split_ifs at hrest with hc
      · cases hrest
        rw [if_pos hc, if_neg (by simp), hc]
      · obtain ⟨⟨body, after⟩, hbody, hsame⟩ := Option.map_eq_some_iff.mp hrest
        cases hsame
        rw [if_neg hc, ih (hneutral.advance [c]) hbody, advance_advance]
        rfl

/-! ## Words -/

theorem recordWord_with (scanner : SqlScanner) (slice : List Char) (hasSqlToken : Bool)
    (word : List Char) :
    ({ scanner with slice := slice, hasSqlToken := hasSqlToken } : SqlScanner).recordWord word =
      { scanner.recordWord word with slice := slice, hasSqlToken := hasSqlToken } := by
  unfold recordWord
  dsimp only
  split_ifs <;> rfl

theorem foldl_recordWord_with (words : List (List Char)) (scanner : SqlScanner)
    (slice : List Char) (hasSqlToken : Bool) :
    words.foldl recordWord { scanner with slice := slice, hasSqlToken := hasSqlToken } =
      { words.foldl recordWord scanner with slice := slice, hasSqlToken := hasSqlToken } := by
  induction words generalizing scanner with
  | nil => rfl
  | cons word words ih => rw [List.foldl_cons, recordWord_with, ih, List.foldl_cons]

theorem plainStep_wordStart (hc : c ∉ specials) (hword : isWordStart c) (rest : List Char) :
    scanner.plainStep c rest =
      (({ scanner.advance (c :: rest.takeWhile isWordChar) with hasSqlToken := true } :
        SqlScanner).recordWord (c :: rest.takeWhile isWordChar), rest.dropWhile isWordChar) := by
  simp only [specials, List.mem_cons, List.not_mem_nil, or_false, not_or] at hc
  obtain ⟨hdash, hslash, hsingle, hdouble, hback, hbracket, hsemicolon⟩ := hc
  unfold plainStep
  dsimp only
  rw [if_neg fun hline => hdash hline.1, if_neg fun hblock => hslash hblock.1,
    if_neg (by simp [hsingle, hdouble, hback]), if_neg hbracket,
    if_neg fun hcut => hsemicolon hcut.1, if_pos hword]

theorem takeWhile_append_stop {p : Char → Bool} {tail : List Char}
    (hstop : ∀ c ∈ tail.head?, p c = false) (chars : List Char) :
    (chars ++ tail).takeWhile p = chars.takeWhile p ∧
      (chars ++ tail).dropWhile p = chars.dropWhile p ++ tail := by
  induction chars with
  | nil =>
      cases tail with
      | nil => exact ⟨rfl, rfl⟩
      | cons c tail =>
          have hc : p c = false := hstop c rfl
          simp [hc]
  | cons c chars ih =>
      cases hc : p c with
      | true => simp [hc, ih]
      | false => simp [hc]

theorem isIdChar_of_isWordChar (hc : isWordChar c) : isIdChar c := by
  simp only [isWordChar, isWordStart, isDecimalDigit, Bool.or_eq_true, Bool.and_eq_true,
    decide_eq_true_eq, Char.le_def] at hc
  simp only [isIdChar, Char.isAlphanum, Char.isAlpha, Char.isUpper, Char.isLower, Char.isDigit,
    Bool.or_eq_true, Bool.and_eq_true, decide_eq_true_eq]
  tauto

variable {rest : List Char}

theorem read_word_cons (hword : isWordStart c) :
    scanner.read (.word (c :: rest)) =
      (({ scanner.advance (c :: rest.takeWhile isWordChar) with hasSqlToken := true } :
        SqlScanner).recordWord (c :: rest.takeWhile isWordChar)).read
          (.word (rest.dropWhile isWordChar)) := by
  have hrun : (c :: rest.takeWhile isWordChar) ++ rest.dropWhile isWordChar = c :: rest := by
    rw [List.cons_append, List.takeWhile_append_dropWhile]
  have hfirst : ({ scanner.advance (c :: rest.takeWhile isWordChar) with hasSqlToken := true } :
      SqlScanner).recordWord (c :: rest.takeWhile isWordChar) =
      { scanner.recordWord (c :: rest.takeWhile isWordChar) with
        slice := (c :: rest.takeWhile isWordChar).reverse ++ scanner.slice
        hasSqlToken := true } :=
    recordWord_with scanner _ true _
  have htoken : (!(c :: rest).all isJsWhitespace) = true := by
    rw [List.all_cons, isJsWhitespace_eq_false hword, Bool.false_and, Bool.not_false]
  rw [hfirst, read_word, read_word, wordsIn_cons, if_pos hword, List.foldl_cons, htoken,
    Bool.or_true]
  congr 1
  have hwhole : ({ scanner.advance (c :: rest) with hasSqlToken := true } :
      SqlScanner).recordWord (c :: rest.takeWhile isWordChar) =
      { scanner.recordWord (c :: rest.takeWhile isWordChar) with
        slice := (c :: rest).reverse ++ scanner.slice
        hasSqlToken := true } :=
    recordWord_with scanner _ true _
  rw [hwhole, ← hrun, List.reverse_append, List.append_assoc]
  rfl

theorem read_word_other (hword : isWordStart c = false) :
    scanner.read (.word (c :: rest)) =
      ({ scanner.advance [c] with
        hasSqlToken := scanner.hasSqlToken || !isJsWhitespace c } : SqlScanner).read
          (.word rest) := by
  rw [read_word, read_word, wordsIn_cons, if_neg (by simp [hword])]
  congr 1
  simp [advance, Bool.or_assoc]

theorem statementsIn_word (hneutral : scanner.Neutral) {tail : List Char}
    (hchars : ∀ c ∈ chars, isIdChar c) (hstop : ∀ c ∈ tail.head?, isIdChar c = false) :
    scanner.statementsIn (chars ++ tail) = (scanner.read (.word chars)).statementsIn tail := by
  have hend : ∀ c ∈ tail.head?, isWordChar c = false := by
    intro c hc
    by_contra hword
    have hid : isIdChar c := isIdChar_of_isWordChar (by simpa using hword)
    rw [hstop c hc] at hid
    cases hid
  fun_induction wordsIn chars generalizing scanner with
  | case1 => simp [SqlScanner.read, wordsIn_nil]
  | case2 c rest hword ih =>
      have hc : c ∉ specials := notMem_specials (hchars c List.mem_cons_self) (by decide)
      obtain ⟨htake, hdrop⟩ := takeWhile_append_stop hend rest
      rw [List.cons_append, statementsIn_cons, hneutral.step_eq, plainStep_wordStart hc hword,
        htake, hdrop, ih, read_word_cons hword]
      · refine Neutral.recordWord ?_ _
        exact ⟨hneutral.line, hneutral.block, hneutral.quote⟩
      · intro d hd
        exact hchars d (List.mem_cons_of_mem _ ((List.dropWhile_sublist _).subset hd))
  | case3 c rest hword ih =>
      have hc : c ∉ specials := notMem_specials (hchars c List.mem_cons_self) (by decide)
      rw [List.cons_append, statementsIn_cons, hneutral.step_eq,
        plainStep_ordinary hc (by simpa using hword), ih, read_word_other (by simpa using hword)]
      · exact ⟨hneutral.line, hneutral.block, hneutral.quote⟩
      · exact fun d hd => hchars d (List.mem_cons_of_mem _ hd)

/-! ## Tokens -/

theorem statementsIn_semicolon (hneutral : scanner.Neutral) (rest : List Char) :
    scanner.statementsIn (';' :: rest) = (scanner.read .semicolon).statementsIn rest := by
  rw [statementsIn_cons, hneutral.step_eq]
  unfold plainStep SqlScanner.read
  cases hbody : scanner.inTriggerBody with
  | true => simp [show isWordStart ';' = false by decide,
      show isJsWhitespace ';' = false by decide]
  | false => simp

theorem step_lineComment (hneutral : scanner.Neutral) (rest : List Char) :
    scanner.step '-' ('-' :: rest) = ((scanner.advance ['-', '-']).inLine, rest) := by
  rw [hneutral.step_eq]
  rfl

theorem step_blockComment (hneutral : scanner.Neutral) (rest : List Char) :
    scanner.step '/' ('*' :: rest) = ((scanner.advance ['/', '*']).inBlock, rest) := by
  rw [hneutral.step_eq]
  rfl

def quoting (scanner : SqlScanner) (c : Char) : SqlScanner :=
  { scanner.advance [c] with hasSqlToken := true }

theorem Neutral.quoting (hneutral : scanner.Neutral) (c : Char) : (scanner.quoting c).Neutral :=
  ⟨hneutral.line, hneutral.block, hneutral.quote⟩

theorem read_quoted (c : Char) (body : List Char) :
    (scanner.quoting c).advance body = scanner.read (.quoted (c :: body)) := by
  simp [SqlScanner.quoting, advance, SqlScanner.read]

theorem step_quote (hneutral : scanner.Neutral) (hquote : c = '\x27' ∨ c = '"' ∨ c = '\x60')
    (rest : List Char) :
    scanner.step c rest = ((scanner.quoting c).inQuotes c, rest) := by
  rw [hneutral.step_eq]
  rcases hquote with rfl | rfl | rfl <;> rfl

theorem step_bracket (hneutral : scanner.Neutral) (rest : List Char) :
    scanner.step '[' rest = ((scanner.quoting '[').inQuotes ']', rest) := by
  rw [hneutral.step_eq]
  rfl

theorem statementsIn_nextToken (hneutral : scanner.Neutral) {left : List Char} {token : Token}
    (hnext : nextToken c rest = some (token, left))
    (hreturns : ∀ chars, token = .lineComment chars → ReturnsAtEnd chars) :
    scanner.statementsIn (c :: rest) = (scanner.read token).statementsIn left := by
  unfold nextToken at hnext
  split_ifs at hnext with hsemicolon hspace hmark hline hblock hend hquote hbracket hid
  · cases hnext
    rw [hsemicolon]
    exact statementsIn_semicolon hneutral rest
  · cases hnext
    have hrun : c :: rest = (c :: rest.takeWhile isSpace) ++ rest.dropWhile isSpace := by
      rw [List.cons_append, List.takeWhile_append_dropWhile]
    rw [hrun]
    apply statementsIn_space hneutral
    intro d hd
    cases List.mem_cons.mp hd with
    | inl hfirst =>
        rw [hfirst]
        exact hspace.1
    | inr hrest => exact List.mem_takeWhile_imp hrest
  · cases hnext
    rw [hmark]
    exact statementsIn_whitespace hneutral (by decide) rest
  · cases hnext
    obtain ⟨rfl, hdash⟩ := hline
    obtain ⟨after, rfl⟩ := List.head?_eq_some_iff.mp hdash
    have hbody : ReturnsAtEnd (lineRest after).1 := (hreturns _ rfl).tail.tail
    rw [statementsIn_cons, step_lineComment hneutral,
      statementsIn_lineRest (hneutral.advance _) hbody, advance_advance]
    rfl
  · cases hnext
    obtain ⟨rfl, hstar⟩ := hblock
    obtain ⟨after, rfl⟩ := List.head?_eq_some_iff.mp hstar
    rw [statementsIn_cons, step_blockComment hneutral,
      statementsIn_blockRest (hneutral.advance _), advance_advance]
    rfl
  · obtain ⟨⟨body, after⟩, hbody, hsame⟩ := Option.map_eq_some_iff.mp hnext
    cases hsame
    have hclose : c ≠ ']' := by
      rintro rfl
      simp at hquote
    rw [statementsIn_cons, step_quote hneutral hquote,
      statementsIn_quotedRest (hneutral.quoting c) hclose hbody, read_quoted]
  · obtain ⟨⟨body, after⟩, hbody, hsame⟩ := Option.map_eq_some_iff.mp hnext
    cases hsame
    rw [hbracket, statementsIn_cons, step_bracket hneutral,
      statementsIn_bracketRest (hneutral.quoting '[') hbody, read_quoted]
  · cases hnext
    have hrun : c :: rest = (c :: rest.takeWhile isIdChar) ++ rest.dropWhile isIdChar := by
      rw [List.cons_append, List.takeWhile_append_dropWhile]
    rw [hrun]
    apply statementsIn_word hneutral
    · intro d hd
      cases List.mem_cons.mp hd with
      | inl hfirst =>
          rw [hfirst]
          exact hid
      | inr hrest => exact List.mem_takeWhile_imp hrest
    · intro d hd
      have hstop := List.head?_dropWhile_not isIdChar rest
      rw [hd] at hstop
      exact hstop
  · cases hnext
    have hword : isWordStart c = false := by
      by_contra hstart
      apply hid
      apply isIdChar_of_isWordChar
      simp [isWordChar, Bool.not_eq_false _ ▸ hstart]
    rw [statementsIn_cons, hneutral.step_eq,
      plainStep_symbol hline hblock hquote hbracket hsemicolon hword]
    rfl

end Tokens

theorem statementsIn_tokenize {scanner : SqlScanner} (hneutral : scanner.Neutral) {fuel : Nat}
    {chars : List Char} {tokens : List Token} (htokens : tokenizeWithin fuel chars = some tokens)
    (hreturns : ∀ chars, .lineComment chars ∈ tokens → ReturnsAtEnd chars) :
    scanner.statementsIn chars = (tokens.foldl read scanner).statementsIn [] := by
  induction fuel generalizing scanner chars tokens with
  | zero =>
      cases chars with
      | nil =>
          cases htokens
          rfl
      | cons c rest => cases htokens
  | succ fuel ih =>
      cases chars with
      | nil =>
          cases htokens
          rfl
      | cons c rest =>
          simp only [tokenizeWithin, bind, Option.bind_eq_some_iff, pure, Option.some.injEq,
            Prod.exists] at htokens
          obtain ⟨token, left, hnext, later, hlater, rfl⟩ := htokens
          rw [statementsIn_nextToken hneutral hnext
            fun chars htoken => hreturns chars (by rw [htoken]; exact List.mem_cons_self)]
          exact ih (hneutral.read token) hlater
            fun chars hmem => hreturns chars (List.mem_cons_of_mem _ hmem)

end SqlScanner
end TauriPlatform
