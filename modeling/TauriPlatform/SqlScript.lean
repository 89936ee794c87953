import TauriPlatform.JsonValue

/-!
# Statements of a migration script

`splitSqlScript` cuts a script at its semicolons, but not within quoted text, comments or
the body of a trigger.  What holds no token but comments is no statement.
-/

namespace TauriPlatform

/-- Where the scan of a script stands; the current statement is kept backwards. -/
structure SqlScanner where
  statements : List String := []
  statementHead : List String := []
  slice : List Char := []
  hasSqlToken : Bool := false
  inLineComment : Bool := false
  inBlockComment : Bool := false
  quoteEnd : Option Char := none
  isTrigger : Bool := false
  inTriggerBody : Bool := false
  caseDepth : Nat := 0

namespace SqlScanner

def advance (scanner : SqlScanner) (chars : List Char) : SqlScanner :=
  { scanner with slice := chars.reverse ++ scanner.slice }

def resetStatement (scanner : SqlScanner) : SqlScanner :=
  { scanner with
    statementHead := []
    slice := []
    hasSqlToken := false
    isTrigger := false
    inTriggerBody := false
    caseDepth := 0 }

/-- `statements.push(script.slice(start, index))`, unless there is no token. -/
def pushStatement (scanner : SqlScanner) : SqlScanner :=
  if scanner.hasSqlToken then
    { scanner with
      statements := scanner.statements ++ [String.ofList scanner.slice.reverse] }
  else scanner

def isTriggerHead : List String → Bool
  | "CREATE" :: "TRIGGER" :: _ => true
  | "CREATE" :: "TEMP" :: "TRIGGER" :: _ => true
  | "CREATE" :: "TEMPORARY" :: "TRIGGER" :: _ => true
  | _ => false

def recordWord (scanner : SqlScanner) (word : List Char) : SqlScanner :=
  let normalized := String.ofList (word.map Char.toUpper)
  let scanner :=
    if ¬ scanner.inTriggerBody ∧ scanner.statementHead.length < 3 then
      let statementHead := scanner.statementHead ++ [normalized]
      { scanner with statementHead := statementHead, isTrigger := isTriggerHead statementHead }
    else scanner
  if ¬ scanner.isTrigger then scanner
  else if ¬ scanner.inTriggerBody ∧ normalized = "BEGIN" then
    { scanner with inTriggerBody := true }
  else if scanner.inTriggerBody ∧ normalized = "CASE" then
    { scanner with caseDepth := scanner.caseDepth + 1 }
  else if scanner.inTriggerBody ∧ normalized = "END" then
    if 0 < scanner.caseDepth then { scanner with caseDepth := scanner.caseDepth - 1 }
    else { scanner with inTriggerBody := false }
  else scanner

/-- The class `[A-Za-z_]`. -/
def isWordStart (c : Char) : Bool :=
  ('A' ≤ c && c ≤ 'Z') || ('a' ≤ c && c ≤ 'z') || c = '_'

/-- The class `[A-Za-z0-9_]`. -/
def isWordChar (c : Char) : Bool :=
  isWordStart c || isDecimalDigit c

def quotedStep (scanner : SqlScanner) (quoteEnd current : Char) (rest : List Char) :
    SqlScanner × List Char :=
  if current = quoteEnd then
    if rest.head? = some quoteEnd ∧ quoteEnd ≠ ']' then
      (scanner.advance (current :: rest.take 1), rest.tail)
    else ({ scanner.advance [current] with quoteEnd := none }, rest)
  else (scanner.advance [current], rest)

def plainStep (scanner : SqlScanner) (current : Char) (rest : List Char) :
    SqlScanner × List Char :=
  let one := scanner.advance [current]
  let two := scanner.advance (current :: rest.take 1)
  if current = '-' ∧ rest.head? = some '-' then ({ two with inLineComment := true }, rest.tail)
  else if current = '/' ∧ rest.head? = some '*' then
    ({ two with inBlockComment := true }, rest.tail)
  else if current = '\x27' ∨ current = '"' ∨ current = '\x60' then
    ({ one with hasSqlToken := true, quoteEnd := some current }, rest)
  else if current = '[' then
    ({ one with hasSqlToken := true, quoteEnd := some ']' }, rest)
  else if current = ';' ∧ ¬ scanner.inTriggerBody then
    (one.pushStatement.resetStatement, rest)
  else if isWordStart current then
    let word := current :: rest.takeWhile isWordChar
    (({ scanner.advance word with hasSqlToken := true }).recordWord word,
      rest.dropWhile isWordChar)
  else ({ one with hasSqlToken := scanner.hasSqlToken || !isJsWhitespace current }, rest)

def step (scanner : SqlScanner) (current : Char) (rest : List Char) :
    SqlScanner × List Char :=
  if scanner.inLineComment then
    ({ scanner.advance [current] with inLineComment := current ≠ '\n' ∧ current ≠ '\r' }, rest)
  else if scanner.inBlockComment then
    if current = '*' ∧ rest.head? = some '/' then
      ({ scanner.advance (current :: rest.take 1) with inBlockComment := false }, rest.tail)
    else (scanner.advance [current], rest)
  else match scanner.quoteEnd with
    | some quoteEnd => scanner.quotedStep quoteEnd current rest
    | none => scanner.plainStep current rest

def scan : Nat → SqlScanner → List Char → SqlScanner
  | 0, scanner, _ => scanner
  | _ + 1, scanner, [] => scanner
  | fuel + 1, scanner, current :: rest =>
      scan fuel (scanner.step current rest).1 (scanner.step current rest).2

end SqlScanner

def splitSqlScript (script : String) : List String :=
  (SqlScanner.scan script.toList.length {} script.toList).pushStatement.statements

example : splitSqlScript "-- a;\nDROP TABLE a; CREATE TRIGGER t BEGIN SELECT ';'; END;" =
    ["-- a;\nDROP TABLE a;", " CREATE TRIGGER t BEGIN SELECT ';'; END;"] := by
  decide

/-! ## Scripts with a statement -/

namespace SqlScanner

def HasStatement (scanner : SqlScanner) : Prop :=
  scanner.statements ≠ [] ∨ scanner.hasSqlToken

theorem HasStatement.recordWord {scanner : SqlScanner} (hhas : scanner.HasStatement)
    (word : List Char) : (scanner.recordWord word).HasStatement := by
  unfold SqlScanner.recordWord
  dsimp only
  split_ifs <;> exact hhas

theorem HasStatement.pushStatement {scanner : SqlScanner} (hhas : scanner.HasStatement) :
    scanner.pushStatement.statements ≠ [] := by
  unfold SqlScanner.pushStatement
  split_ifs with htoken
  · simp
  · exact hhas.resolve_right htoken

theorem HasStatement.plainStep {scanner : SqlScanner} (hhas : scanner.HasStatement)
    (current : Char) (rest : List Char) : (scanner.plainStep current rest).1.HasStatement := by
  have hone : (scanner.advance [current]).HasStatement := hhas
  unfold SqlScanner.plainStep
  dsimp only
  split_ifs
  · exact hhas
  · exact hhas
  · exact .inr rfl
  · exact .inr rfl
  · exact .inl hone.pushStatement
  · exact HasStatement.recordWord (.inr rfl) _
  · rcases hhas with hstatements | htoken
    · exact .inl hstatements
    · refine .inr ?_
      simp [htoken]

theorem HasStatement.step {scanner : SqlScanner} (hhas : scanner.HasStatement)
    (current : Char) (rest : List Char) : (scanner.step current rest).1.HasStatement := by
  unfold SqlScanner.step
  split_ifs
  · exact hhas
  · exact hhas
  · exact hhas
  · cases scanner.quoteEnd with
    | some quoteEnd =>
        dsimp only
        unfold SqlScanner.quotedStep
        split_ifs <;> exact hhas
    | none => exact hhas.plainStep current rest

theorem HasStatement.scan {scanner : SqlScanner} (hhas : scanner.HasStatement) (fuel : Nat)
    (chars : List Char) : (scan fuel scanner chars).HasStatement := by
  induction fuel generalizing scanner chars with
  | zero => exact hhas
  | succ fuel ih =>
      cases chars with
      | nil => exact hhas
      | cons current rest => exact ih (hhas.step current rest) _

def startsStatement : Bool → List Char → Bool
  | _, [] => false
  | true, current :: rest => startsStatement (current ≠ '\n' ∧ current ≠ '\r') rest
  | false, '-' :: '-' :: rest => startsStatement true rest
  | false, current :: rest =>
      isWordStart current || (isJsWhitespace current && startsStatement false rest)

theorem ne_of_startsStatement {current : Char} {rest : List Char}
    (hstarts : (isWordStart current || (isJsWhitespace current && startsStatement false rest)) =
      true) {special : Char} (hword : isWordStart special = false)
    (hwhitespace : isJsWhitespace special = false) : current ≠ special := by
  rintro rfl
  rw [hword, hwhitespace] at hstarts
  cases hstarts

theorem startsStatement_append {inLineComment : Bool} {chars : List Char}
    (hstarts : startsStatement inLineComment chars) (tail : List Char) :
    startsStatement inLineComment (chars ++ tail) := by
  fun_induction startsStatement inLineComment chars with
  | case1 => cases hstarts
  | case2 current rest ih => exact ih hstarts
  | case3 rest ih => exact ih hstarts
  | case4 current rest _ ih =>
      have hdash : current ≠ '-' := ne_of_startsStatement hstarts (by decide) (by decide)
      rw [List.cons_append, startsStatement]
      · rw [Bool.or_eq_true, Bool.and_eq_true] at hstarts ⊢
        exact hstarts.imp_right fun hand => ⟨hand.1, ih hand.2⟩
      · intro _ hcurrent
        exact absurd hcurrent hdash

theorem isJsWhitespace_eq_false {c : Char} (hword : isWordStart c) :
    isJsWhitespace c = false := by
  have hascii : 0x21 ≤ c.toNat ∧ c.toNat ≤ 0x7A := by
    unfold isWordStart at hword
    simp only [Bool.or_eq_true, Bool.and_eq_true, decide_eq_true_eq, Char.le_def,
      UInt32.le_iff_toNat_le] at hword
    change 33 ≤ c.val.toNat ∧ c.val.toNat ≤ 122
    rcases hword with (⟨hlow, hhigh⟩ | ⟨hlow, hhigh⟩) | rfl
    · change 65 ≤ _ at hlow
      change _ ≤ 90 at hhigh
      omega
    · change 97 ≤ _ at hlow
      change _ ≤ 122 at hhigh
      omega
    · decide
  simp only [isJsWhitespace, List.mem_cons, List.not_mem_nil, or_false, Bool.or_eq_false_iff,
    Bool.and_eq_false_iff, decide_eq_false_iff_not]
  omega

theorem all_isJsWhitespace_of_starts {chars : List Char} (hstarts : startsStatement false chars) :
    chars.all isJsWhitespace = false := by
  induction chars with
  | nil => cases hstarts
  | cons current rest ih =>
      rw [List.all_cons, Bool.and_eq_false_iff]
      by_cases hdash : current = '-'
      · exact .inl (hdash ▸ by decide)
      · rw [startsStatement] at hstarts
        · rw [Bool.or_eq_true, Bool.and_eq_true] at hstarts
          rcases hstarts with hword | ⟨-, hrest⟩
          · exact .inl (isJsWhitespace_eq_false hword)
          · exact .inr (ih hrest)
        · intro _ hcurrent
          exact absurd hcurrent hdash

theorem plainStep_word {scanner : SqlScanner} {current : Char} (hword : isWordStart current)
    (rest : List Char) : (scanner.plainStep current rest).1.HasStatement := by
  have hne : ∀ {special : Char}, isWordStart special = false → current ≠ special := by
    rintro special hspecial rfl
    rw [hword] at hspecial
    cases hspecial
  unfold plainStep
  dsimp only
  rw [if_neg fun hand => hne (by decide) hand.1, if_neg fun hand => hne (by decide) hand.1,
    if_neg (by simp [hne (show isWordStart '\x27' = false by decide),
      hne (show isWordStart '"' = false by decide),
      hne (show isWordStart '\x60' = false by decide)]),
    if_neg (hne (by decide)), if_neg fun hand => hne (by decide) hand.1, if_pos hword]
  exact HasStatement.recordWord (.inr rfl) _

theorem hasStatement_scan {inLineComment : Bool} {chars : List Char}
    (hstarts : startsStatement inLineComment chars) {scanner : SqlScanner}
    (hline : scanner.inLineComment = inLineComment) (hblock : scanner.inBlockComment = false)
    (hquote : scanner.quoteEnd = none) {fuel : Nat} (hfuel : chars.length ≤ fuel) :
    (scan fuel scanner chars).HasStatement := by
  fun_induction startsStatement inLineComment chars generalizing scanner fuel with
  | case1 => cases hstarts
  | case2 current rest ih =>
      obtain ⟨fuel, rfl⟩ : ∃ left, fuel = left + 1 :=
        ⟨fuel - 1, by rw [List.length_cons] at hfuel; omega⟩
      rw [scan, step, if_pos hline]
      exact @ih hstarts { scanner.advance [current] with inLineComment := _ } rfl hblock hquote _
        (Nat.le_of_succ_le_succ hfuel)
  | case3 rest ih =>
      obtain ⟨fuel, rfl⟩ : ∃ left, fuel = left + 1 :=
        ⟨fuel - 1, by rw [List.length_cons] at hfuel; omega⟩
      rw [scan, step, if_neg (by simp [hline]), if_neg (by simp [hblock]), hquote]
      dsimp only
      rw [plainStep]
      simp only [List.length_cons] at hfuel
      rw [if_pos ⟨rfl, rfl⟩]
      exact @ih hstarts { scanner.advance ['-', '-'] with inLineComment := true } rfl hblock
        hquote _ (by omega)
  | case4 current rest _ ih =>
      obtain ⟨fuel, rfl⟩ : ∃ left, fuel = left + 1 :=
        ⟨fuel - 1, by rw [List.length_cons] at hfuel; omega⟩
      rw [scan, step, if_neg (by simp [hline]), if_neg (by simp [hblock]), hquote]
      dsimp only
      by_cases hword : isWordStart current
      · exact (plainStep_word hword rest).scan _ _
      · have hne : ∀ {special : Char}, isWordStart special = false →
            isJsWhitespace special = false → current ≠ special :=
          ne_of_startsStatement hstarts
        have hrest : startsStatement false rest := by
          rw [Bool.or_eq_true, Bool.and_eq_true] at hstarts
          exact (hstarts.resolve_left hword).2
        rw [plainStep]
        dsimp only
        rw [if_neg fun hand => hne (by decide) (by decide) hand.1,
          if_neg fun hand => hne (by decide) (by decide) hand.1,
          if_neg (by simp [hne (show isWordStart '\x27' = false by decide) (by decide),
            hne (show isWordStart '"' = false by decide) (by decide),
            hne (show isWordStart '\x60' = false by decide) (by decide)]),
          if_neg (hne (by decide) (by decide)),
          if_neg fun hand => hne (by decide) (by decide) hand.1, if_neg hword]
        exact @ih hrest { scanner.advance [current] with hasSqlToken := _ } hline hblock hquote _
          (Nat.le_of_succ_le_succ hfuel)

end SqlScanner

theorem splitSqlScript_ne_nil {script : String}
    (hstarts : SqlScanner.startsStatement false script.toList) : splitSqlScript script ≠ [] :=
  (SqlScanner.hasStatement_scan hstarts rfl rfl rfl le_rfl).pushStatement

theorem isBlank_eq_false {script : String}
    (hstarts : SqlScanner.startsStatement false script.toList) : isBlank script = false :=
  SqlScanner.all_isJsWhitespace_of_starts hstarts

end TauriPlatform
