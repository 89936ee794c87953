import TauriPlatform.SqlScriptTriggers

/-!
# Splitting a script at its statements

The scanner takes a part of a name for a keyword where the name has a character besides ASCII
letters, digits and `_`, and a name `end` for the end of a body or of a `CASE`.  It ends a
comment at a carriage return, and sees no trigger behind `EXPLAIN`.  Scripts without such names
in their triggers, without such comments and such statements are split at their statements.
-/

namespace TauriPlatform

open SqliteScript

namespace SqlScanner

/-! ## Statements -/

/-- The scanner reads the statement as SQLite does: it explains no trigger, and in a trigger no
name is taken for a keyword which counts. -/
inductive Legible : List Token → Prop
  | simple {tokens : List Token} : Simple tokens → Legible tokens
  | trigger {tokens : List Token} : Trigger LegibleHead BodyClauses tokens → Legible tokens
  | explain {explain : Token} {tokens : List Token} :
      explain.keyword = "EXPLAIN" → Simple tokens → Legible (explain :: tokens)
  | explainPlan {explain query plan : Token} {tokens : List Token} :
      explain.keyword = "EXPLAIN" → query.keyword = "QUERY" → plan.keyword = "PLAN" →
      Simple tokens → Legible (explain :: query :: plan :: tokens)

theorem semicolon_notMem_cons {token : Token} {tokens : List Token}
    (hupper : IsUpper token.keyword) (htokens : .semicolon ∉ tokens) :
    .semicolon ∉ token :: tokens := by
  apply List.not_mem_cons_of_ne_of_not_mem _ htokens
  rintro rfl
  exact absurd rfl hupper.1

theorem semicolon_notMem_simple {tokens : List Token} (hsimple : Simple tokens) :
    .semicolon ∉ tokens := by
  cases hsimple with
  | command hfirst hrest =>
      exact semicolon_notMem_cons (isUpper_of_mem (by simp [hfirst])) hrest
  | @create create kind temporary rest hcreate htemporary hkind hrest =>
      have hkinds : .semicolon ∉ kind :: rest :=
        semicolon_notMem_cons (isUpper_of_mem (by simp [hkind])) hrest
      apply semicolon_notMem_cons (by rw [hcreate]; decide)
      cases htemporary with
      | absent => exact hkinds
      | temp htemp => exact semicolon_notMem_cons (by rw [htemp]; decide) hkinds
      | temporary htemp => exact semicolon_notMem_cons (by rw [htemp]; decide) hkinds

theorem passes_legible {tokens : List Token} (hlegible : Legible tokens)
    {scanner : SqlScanner} (hfresh : Heading [] scanner) :
    Passes (fun later => later.inTriggerBody = false) scanner tokens := by
  cases hlegible with
  | simple hsimple =>
      have hpasses := passes_simple hsimple hfresh
      exact ⟨hpasses.uncut, hpasses.post.closed⟩
  | trigger htrigger =>
      have hpasses := passes_trigger htrigger hfresh
      exact ⟨hpasses.uncut, hpasses.post.body⟩
  | explain hexplain hsimple =>
      have hpasses := passes_first hfresh (by rw [hexplain]; decide) (by rw [hexplain]; decide)
        (semicolon_notMem_simple hsimple)
      exact ⟨hpasses.uncut, hpasses.post.closed⟩
  | explainPlan hexplain hquery hplan hsimple =>
      have hrest := semicolon_notMem_cons (by rw [hplan]; decide)
        (semicolon_notMem_simple hsimple)
      have hpasses := passes_first hfresh (by rw [hexplain]; decide) (by rw [hexplain]; decide)
        (semicolon_notMem_cons (by rw [hquery]; decide) hrest)
      exact ⟨hpasses.uncut, hpasses.post.closed⟩

theorem exists_beginsWord {tokens : List Token} (hlegible : Legible tokens) :
    ∃ token ∈ tokens, BeginsWord token := by
  have hfirst : ∃ token rest, tokens = token :: rest ∧ IsUpper token.keyword := by
    have hsimple : ∀ {tokens : List Token}, Simple tokens →
        ∃ token rest, tokens = token :: rest ∧ IsUpper token.keyword := by
      intro tokens hsimple
      cases hsimple with
      | @command first rest hfirst _ =>
          exact ⟨first, rest, rfl, isUpper_of_mem (by simp [hfirst])⟩
      | create hcreate _ _ _ => exact ⟨_, _, rfl, by rw [hcreate]; decide⟩
    cases hlegible with
    | simple htokens => exact hsimple htokens
    | trigger htrigger =>
        cases htrigger with
        | mk hcreate => exact ⟨_, _, rfl, by rw [hcreate]; decide⟩
    | explain hexplain _ => exact ⟨_, _, rfl, by rw [hexplain]; decide⟩
    | explainPlan hexplain _ _ _ => exact ⟨_, _, rfl, by rw [hexplain]; decide⟩
  obtain ⟨token, rest, rfl, hupper⟩ := hfirst
  obtain ⟨c, chars, htoken, hchars⟩ := beginsWord_of_keyword hupper
  exact ⟨token, List.mem_cons_self, c, chars, htoken, hchars c List.mem_cons_self⟩

/-! ## Reading and following -/

section Reading

variable {scanner : SqlScanner}

theorem follow_with (slice : List Char) (hasSqlToken : Bool) (token : Token) :
    ({ scanner with slice := slice, hasSqlToken := hasSqlToken } : SqlScanner).follow token =
      { scanner.follow token with slice := slice, hasSqlToken := hasSqlToken } :=
  foldl_recordWord_with _ _ _ _

theorem uncut_with (slice : List Char) (hasSqlToken : Bool) {tokens : List Token}
    (huncut : scanner.Uncut tokens) :
    ({ scanner with slice := slice, hasSqlToken := hasSqlToken } : SqlScanner).Uncut tokens := by
  induction tokens generalizing scanner with
  | nil => trivial
  | cons token tokens ih =>
      refine ⟨huncut.1, ?_⟩
      rw [follow_with]
      exact ih huncut.2

theorem foldl_follow_with (slice : List Char) (hasSqlToken : Bool) (tokens : List Token) :
    tokens.foldl follow { scanner with slice := slice, hasSqlToken := hasSqlToken } =
      { tokens.foldl follow scanner with slice := slice, hasSqlToken := hasSqlToken } := by
  induction tokens generalizing scanner with
  | nil => rfl
  | cons token tokens ih => rw [List.foldl_cons, follow_with, ih, List.foldl_cons]

theorem read_eq_follow {token : Token}
    (huncut : token = .semicolon → scanner.inTriggerBody = true) :
    ∃ hasSqlToken, scanner.read token =
        { scanner.follow token with
          slice := token.chars.reverse ++ scanner.slice
          hasSqlToken := hasSqlToken } ∧
      (scanner.hasSqlToken = true ∨ BeginsWord token → hasSqlToken = true) := by
  cases token with
  | space chars => exact ⟨scanner.hasSqlToken, rfl, by simp [BeginsWord]⟩
  | lineComment chars => exact ⟨scanner.hasSqlToken, rfl, by simp [BeginsWord]⟩
  | blockComment chars => exact ⟨scanner.hasSqlToken, rfl, by simp [BeginsWord]⟩
  | quoted chars => exact ⟨true, rfl, fun _ => rfl⟩
  | symbol char =>
      exact ⟨scanner.hasSqlToken || !isJsWhitespace char, rfl, by simp +contextual [BeginsWord]⟩
  | semicolon =>
      refine ⟨true, ?_, fun _ => rfl⟩
      unfold read
      rw [if_pos (huncut rfl)]
      rfl
  | word chars =>
      refine ⟨scanner.hasSqlToken || !chars.all isJsWhitespace,
        foldl_recordWord_with (wordsIn chars) scanner _ _, ?_⟩
      intro htoken
      cases htoken with
      | inl hbefore => rw [hbefore, Bool.true_or]
      | inr hbegins =>
          obtain ⟨c, rest, hword, hstart⟩ := hbegins
          cases hword
          rw [List.all_cons, isJsWhitespace_eq_false hstart, Bool.false_and, Bool.not_false,
            Bool.or_true]

theorem foldl_read_eq {tokens : List Token} (huncut : scanner.Uncut tokens) :
    ∃ hasSqlToken, tokens.foldl read scanner =
        { tokens.foldl follow scanner with
          slice := (tokens.flatMap Token.chars).reverse ++ scanner.slice
          hasSqlToken := hasSqlToken } ∧
      (scanner.hasSqlToken = true ∨ (∃ token ∈ tokens, BeginsWord token) →
        hasSqlToken = true) := by
  induction tokens generalizing scanner with
  | nil => exact ⟨scanner.hasSqlToken, rfl, by simp⟩
  | cons token tokens ih =>
      obtain ⟨hasToken, hread, hbegins⟩ := read_eq_follow huncut.1
      obtain ⟨hasSqlToken, hrest, hlater⟩ :=
        ih (uncut_with (token.chars.reverse ++ scanner.slice) hasToken huncut.2)
      refine ⟨hasSqlToken, ?_, ?_⟩
      · rw [List.foldl_cons, hread, hrest, foldl_follow_with]
        simp
      · intro htoken
        apply hlater
        rcases htoken with hbefore | ⟨other, hother, hword⟩
        · exact Or.inl (hbegins (Or.inl hbefore))
        · cases List.mem_cons.mp hother with
          | inl hsame =>
              rw [hsame] at hword
              exact Or.inl (hbegins (Or.inr hword))
          | inr hmem => exact Or.inr ⟨other, hmem, hword⟩

theorem recordWord_statements (scanner : SqlScanner) (word : List Char) :
    (scanner.recordWord word).statements = scanner.statements := by
  unfold recordWord
  dsimp only
  split_ifs <;> rfl

theorem foldl_follow_keeps (tokens : List Token) :
    (tokens.foldl follow scanner).statements = scanner.statements ∧
      (scanner.Neutral → (tokens.foldl follow scanner).Neutral) := by
  induction tokens generalizing scanner with
  | nil => exact ⟨rfl, id⟩
  | cons token tokens ih =>
      obtain ⟨hstatements, hneutral⟩ := @ih (scanner.follow token)
      have hfollow : (scanner.follow token).statements = scanner.statements := by
        refine @follow_induction (fun later => later.statements = scanner.statements) token ?_
          scanner rfl
        exact fun word _ later hlater => (recordWord_statements later word).trans hlater
      exact ⟨hstatements.trans hfollow, fun h => hneutral (h.foldl _)⟩

theorem foldl_read_blank {tokens : List Token}
    (hblank : ∀ token ∈ tokens, token.significant = false) :
    tokens.foldl read scanner = scanner.advance (tokens.flatMap Token.chars) := by
  induction tokens generalizing scanner with
  | nil => rfl
  | cons token tokens ih =>
      have hread : scanner.read token = scanner.advance token.chars := by
        have htoken := hblank token List.mem_cons_self
        cases token with
        | space chars => rfl
        | lineComment chars => rfl
        | blockComment chars => rfl
        | _ => cases htoken
      have hrest : ∀ other ∈ tokens, other.significant = false :=
        fun other hother => hblank other (List.mem_cons_of_mem _ hother)
      rw [List.foldl_cons, hread, ih hrest, advance_advance]
      rfl

end Reading

/-! ## Scripts -/

def starting (statements : List String) : SqlScanner :=
  { statements := statements }

theorem heading_starting (statements : List String) : Heading [] (starting statements) :=
  ⟨rfl, rfl, rfl, rfl⟩

theorem foldl_read_statement {tokens : List Token} (statements : List String)
    (hlegible : Legible (tokens.filter Token.significant)) :
    ∃ scanner, tokens.foldl read (starting statements) = scanner ∧ scanner.Neutral ∧
      scanner.statements = statements ∧ scanner.inTriggerBody = false ∧
      scanner.hasSqlToken = true ∧ scanner.slice = (tokens.flatMap Token.chars).reverse := by
  have hpasses : Passes (fun later => later.inTriggerBody = false) (starting statements) tokens :=
    passes_significant (passes_legible hlegible (heading_starting statements))
  obtain ⟨hasSqlToken, hread, hbegins⟩ := foldl_read_eq hpasses.uncut
  obtain ⟨hstatements, hneutral⟩ := @foldl_follow_keeps (starting statements) tokens
  obtain ⟨hline, hblock, hquote⟩ := hneutral ⟨rfl, rfl, rfl⟩
  refine ⟨_, rfl, ?_⟩
  rw [hread]
  refine ⟨⟨hline, hblock, hquote⟩, hstatements, hpasses.post, ?_, by simp [starting]⟩
  apply hbegins
  obtain ⟨token, htoken, hword⟩ := exists_beginsWord hlegible
  exact Or.inr ⟨token, (List.mem_filter.mp htoken).1, hword⟩

theorem read_semicolon {scanner : SqlScanner} (hneutral : scanner.Neutral)
    (hclosed : scanner.inTriggerBody = false) (htoken : scanner.hasSqlToken = true) :
    scanner.read .semicolon =
      starting (scanner.statements ++ [String.ofList (scanner.slice.reverse ++ [';'])]) := by
  obtain ⟨hline, hblock, hquote⟩ := hneutral
  unfold read pushStatement
  simp [hclosed, htoken, advance, resetStatement, hline, hblock, hquote, starting]

theorem read_semicolon_blank {statements : List String} (chars : List Char) :
    ((starting statements).advance chars).read .semicolon = starting statements :=
  rfl

theorem statementsIn_script {tokens : List Token} {pieces : List Piece}
    (hscript : Script tokens pieces) (hlegible : ∀ piece ∈ pieces, Legible piece.tokens)
    (statements : List String) :
    (tokens.foldl read (starting statements)).statementsIn [] =
      statements ++ pieces.map Piece.text := by
  induction hscript generalizing statements with
  | blank hblank =>
      rw [foldl_read_blank hblank, statementsIn_nil]
      simp [starting, advance]
  | @last tokens _ =>
      obtain ⟨scanner, hread, -, hstatements, -, htoken, hslice⟩ :=
        foldl_read_statement statements (hlegible _ List.mem_cons_self)
      rw [hread, statementsIn_nil, if_pos htoken, hstatements, hslice, List.reverse_reverse]
      simp [Piece.text]
  | @empty tokens rest pieces hblank _ ih =>
      rw [List.foldl_append, foldl_read_blank hblank, List.foldl_cons, read_semicolon_blank]
      exact ih hlegible statements
  | @statement tokens rest pieces _ _ ih =>
      obtain ⟨scanner, hread, hneutral, hstatements, hclosed, htoken, hslice⟩ :=
        foldl_read_statement statements (hlegible _ List.mem_cons_self)
      rw [List.foldl_append, hread, List.foldl_cons, read_semicolon hneutral hclosed htoken,
        ih fun piece hpiece => hlegible piece (List.mem_cons_of_mem _ hpiece), hstatements, hslice]
      simp [Piece.text, Token.chars]

end SqlScanner

/-! ## Plain names -/

/-- The words of a name of ASCII letters, digits and `_` are the name. -/
def isPlain : Token → Bool
  | .word [] => true
  | .word (c :: rest) => SqlScanner.isWordStart c && rest.all SqlScanner.isWordChar
  | _ => true

theorem readsAs_of_isPlain {token : Token} (hplain : isPlain token) {keyword : String}
    (hreads : SqlScanner.ReadsAs keyword token) : token.keyword = keyword := by
  obtain ⟨word, hword, hkeyword⟩ := hreads
  cases token with
  | word chars =>
      cases chars with
      | nil =>
          simp only [SqlScanner.wordsOf, SqlScanner.wordsIn_nil] at hword
          exact absurd hword List.not_mem_nil
      | cons c rest =>
          obtain ⟨hstart, hrest⟩ := Bool.and_eq_true_iff.mp hplain
          simp only [SqlScanner.wordsOf,
            SqlScanner.wordsIn_eq_singleton hstart (List.all_eq_true.mp hrest),
            List.mem_singleton] at hword
          rw [← hkeyword, hword]
          rfl
  | _ => exact absurd hword List.not_mem_nil

theorem clauses_of_names {Name : Token → Prop} {tokens : List Token}
    (htokens : ∀ token ∈ tokens, token ≠ .semicolon ∧ token.keyword ≠ "CASE" ∧ Name token) :
    Clauses Name tokens := by
  induction tokens with
  | nil => exact .nil
  | cons token tokens ih =>
      obtain ⟨hsemicolon, hcase, hname⟩ := htokens token List.mem_cons_self
      exact .name hsemicolon hcase hname
        (ih fun other hother => htokens other (List.mem_cons_of_mem _ hother))

theorem anyClauses_of_names {tokens : List Token}
    (htokens : ∀ token ∈ tokens, token ≠ .semicolon ∧ token.keyword ≠ "CASE") :
    AnyClauses tokens :=
  clauses_of_names fun token htoken => ⟨(htokens token htoken).1, (htokens token htoken).2, trivial⟩

theorem bodyClauses_of_plain {tokens : List Token}
    (htokens : ∀ token ∈ tokens, isPlain token = true ∧ token ≠ .semicolon ∧
      token.keyword ≠ "CASE" ∧ token.keyword ≠ "END") : SqlScanner.BodyClauses tokens := by
  apply clauses_of_names
  intro token htoken
  obtain ⟨hplain, hsemicolon, hcase, hend⟩ := htokens token htoken
  exact ⟨hsemicolon, hcase, fun hreads => hcase (readsAs_of_isPlain hplain hreads),
    fun hreads => hend (readsAs_of_isPlain hplain hreads)⟩

theorem returnsAtEnd_newline {body : List Char} (hbody : '\r' ∉ body) :
    SqlScanner.ReturnsAtEnd (body ++ ['\r', '\n']) := by
  intro front back hchars
  induction body generalizing front with
  | nil =>
      match front, hchars with
      | [], hchars =>
          cases hchars
          exact Or.inr rfl
      | [_], hchars => simp at hchars
      | _ :: _ :: _, hchars => simp at hchars
  | cons c body ih =>
      rw [List.mem_cons, not_or] at hbody
      cases front with
      | nil =>
          rw [List.cons_append, List.nil_append, List.cons.injEq] at hchars
          exact absurd hchars.1.symm hbody.1
      | cons d front => exact ih hbody.2 front (List.cons.inj hchars).2

def named (name : String) : Token :=
  .word name.toList

def gap : Token :=
  .space [' ']

def triggerTokens (command : List Token) : List Token :=
  [named "CREATE", gap, named "TRIGGER", gap, named "t", gap, named "INSERT", gap, named "ON", gap,
    named "a", gap, named "BEGIN", gap] ++ command ++ [.semicolon, gap, named "END"]

theorem trigger_triggerTokens {Head Command : List Token → Prop} {command : List Token}
    (hhead : Head [named "t", named "INSERT", named "ON", named "a"])
    (hcommand : TriggerCommand Command (command.filter Token.significant ++ [.semicolon])) :
    Trigger Head Command ((triggerTokens command).filter Token.significant) := by
  have htokens : (triggerTokens command).filter Token.significant =
      named "CREATE" :: ([] ++ named "TRIGGER" :: (
        [named "t", named "INSERT", named "ON", named "a"] ++ named "BEGIN" :: (
          [command.filter Token.significant ++ [.semicolon]].flatten ++ [named "END"]))) := by
    rw [triggerTokens, List.filter_append, List.filter_append, List.flatten_singleton]
    simp only [List.append_assoc]
    rfl
  rw [htokens]
  refine .mk (by decide) .absent (by decide) hhead (by decide) (by simp) ?_ (by decide)
  intro other hother
  rwa [List.mem_singleton.mp hother]

/-- The column `end` is set. -/
def setEnd : List Token :=
  [named "UPDATE", gap, named "a", gap, named "SET", gap, named "end", gap, .symbol '=', gap,
    named "b"]

/-- The column `b` is set to a `CASE` with a semicolon in it. -/
def setCase : List Token :=
  [named "UPDATE", gap, named "a", gap, named "SET", gap, named "b", gap, .symbol '=', gap,
    named "CASE", gap, named "c", gap, named "WHEN", gap, named "d", gap, named "THEN", gap,
    .quoted "';'".toList, gap, named "END"]

def caseScript : String :=
  "CREATE TRIGGER t INSERT ON a BEGIN UPDATE a SET b = CASE c WHEN d THEN ';' END; END;--\r\n"

/-! ## Split scripts -/

/-- A script is split at its statements, where no carriage return is within a comment to the
end of a line, and the scanner reads each statement as SQLite does. -/
theorem splitSqlScript_exact {script : String} {tokens : List Token} {pieces : List Piece}
    (htokens : tokenize script = some tokens) (hscript : Script tokens pieces)
    (hreturns : ∀ chars, .lineComment chars ∈ tokens → SqlScanner.ReturnsAtEnd chars)
    (hlegible : ∀ piece ∈ pieces, SqlScanner.Legible piece.tokens) :
    splitSqlScript script = pieces.map Piece.text ∧
      tokens.flatMap Token.chars = script.toList := by
  refine ⟨?_, chars_tokenize htokens⟩
  change (SqlScanner.starting []).statementsIn script.toList = _
  rw [SqlScanner.statementsIn_tokenize ⟨rfl, rfl, rfl⟩ htokens hreturns,
    SqlScanner.statementsIn_script hscript hlegible, List.nil_append]

theorem trigger_whole :
    splitSqlScript caseScript = [⟨triggerTokens setCase, [.semicolon]⟩].map Piece.text ∧
      (triggerTokens setCase ++ [Token.semicolon, Token.lineComment "--\r\n".toList]).flatMap
        Token.chars = caseScript.toList := by
  have htokens : tokenize caseScript =
      some (triggerTokens setCase ++ [.semicolon, .lineComment "--\r\n".toList]) := by
    decide +kernel
  have hbody : SqlScanner.BodyClauses (setCase.filter Token.significant) := by
    have hsplit : setCase.filter Token.significant =
        [named "UPDATE", named "a", named "SET", named "b", .symbol '='] ++
          named "CASE" :: ([named "c", named "WHEN", named "d", named "THEN",
            .quoted "';'".toList] ++ named "END" :: []) := rfl
    rw [hsplit]
    exact (bodyClauses_of_plain (by decide)).append
      (.nested (by decide) (by decide) (bodyClauses_of_plain (by decide)) .nil)
  have hany : AnyClauses (setCase.filter Token.significant) := hbody.mono fun _ _ => trivial
  have hscript : Script (triggerTokens setCase ++ [.semicolon, .lineComment "--\r\n".toList])
      [⟨triggerTokens setCase, [.semicolon]⟩] := by
    apply Script.statement
    · exact .trigger (trigger_triggerTokens (anyClauses_of_names (by decide))
        (.mk (by decide) hany))
    · exact .blank fun token htoken => by rw [List.mem_singleton.mp htoken]; rfl
  have hlegible : SqlScanner.Legible (Piece.tokens ⟨triggerTokens setCase, [.semicolon]⟩) := by
    refine .trigger (trigger_triggerTokens (Or.inl ⟨anyClauses_of_names (by decide), ?_⟩)
      (.mk (by decide) hbody))
    have hnames : ∀ token ∈ [named "t", named "INSERT", named "ON", named "a"],
        isPlain token = true ∧ token.keyword ≠ "BEGIN" := by
      decide
    intro token htoken hreads
    exact (hnames token htoken).2 (readsAs_of_isPlain (hnames token htoken).1 hreads)
  apply splitSqlScript_exact htokens hscript
  · intro chars hchars
    have hcomment : chars = ['-', '-'] ++ ['\r', '\n'] := by
      simpa [triggerTokens, setCase, named, gap] using hchars
    rw [hcomment]
    exact returnsAtEnd_newline (by decide)
  · intro piece hpiece
    rw [List.mem_singleton.mp hpiece]
    exact hlegible

/-- The trigger is cut at the semicolon of its command. -/
theorem trigger_cut :
    ¬ ∀ (script : String) (tokens : List Token) (pieces : List Piece),
      tokenize script = some tokens → Script tokens pieces →
        splitSqlScript script = pieces.map Piece.text := by
  intro hexact
  have htokens : tokenize "CREATE TRIGGER t INSERT ON a BEGIN UPDATE a SET end = b; END;" =
      some (triggerTokens setEnd ++ [.semicolon]) := by
    decide +kernel
  have hcommand : TriggerCommand AnyClauses
      (setEnd.filter Token.significant ++ [.semicolon]) :=
    .mk (by decide) (anyClauses_of_names (by decide))
  have hscript : Script (triggerTokens setEnd ++ [.semicolon])
      [⟨triggerTokens setEnd, [.semicolon]⟩] :=
    .statement (.trigger (trigger_triggerTokens (anyClauses_of_names (by decide)) hcommand))
      (.blank fun _ htoken => absurd htoken List.not_mem_nil)
  have hsplit : (splitSqlScript
      "CREATE TRIGGER t INSERT ON a BEGIN UPDATE a SET end = b; END;").length = 2 := by
    decide +kernel
  rw [hexact _ _ _ htokens hscript] at hsplit
  cases hsplit

end TauriPlatform
