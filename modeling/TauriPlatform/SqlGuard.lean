import TauriPlatform.DurableDatabase
import TauriPlatform.HlcText

/-!
# The guard in front of SQL text

`validate_safe_sql` skips blanks and comments by hand and compares the word behind
them.  The lexical rules of SQLite and those of the guard are two instances of one
description, so that the texts which SQLite takes for a forbidden command can be
compared with those which the guard takes for one.
-/

namespace TauriPlatform
namespace SqlGuard

open DurableDatabase

/-! ## Lexical rules -/

structure TriviaRules where
  startsBlank : Char → Bool
  continuesBlank : Char → Bool
  endsLineComment : Char → Bool
  semicolon : Bool
  byteOrderMark : Bool

inductive Leads (rules : TriviaRules) : List Char → List Char → Prop
  | here (text) : Leads rules text text
  | blank {c more text rest} : rules.startsBlank c → (∀ d ∈ more, rules.continuesBlank d) →
      Leads rules text rest → Leads rules (c :: (more ++ text)) rest
  | semicolon {text rest} : rules.semicolon → Leads rules text rest →
      Leads rules (';' :: text) rest
  | byteOrderMark {c : Char} {text rest} : rules.byteOrderMark → c.toNat = 0xFEFF →
      Leads rules text rest → Leads rules (c :: text) rest
  | lineComment {body text rest} : (∀ c ∈ body, rules.endsLineComment c = false) →
      (∀ c ∈ text.head?, rules.endsLineComment c) →
      Leads rules text rest → Leads rules ('-' :: '-' :: (body ++ text)) rest
  | blockComment {body text rest} : ¬ ['*', '/'] <:+: body →
      Leads rules text rest → Leads rules ('/' :: '*' :: (body ++ '*' :: '/' :: text)) rest

structure SqlRules where
  leading : TriviaRules
  inner : TriviaRules
  isWordChar : Char → Bool
  /-- `VACUUM` takes a schema name in front of `INTO`. -/
  schemaName : Bool

/-- A text starts with a word of the given characters and goes on behind it. -/
structure IsWord (rules : SqlRules) (word text after : List Char) : Prop where
  split : text = word ++ after
  chars : ∀ c ∈ word, rules.isWordChar c
  maximal : ∀ c ∈ after.head?, rules.isWordChar c = false

def IsKeyword (keyword : String) (word : List Char) : Prop :=
  word.map Char.toUpper = keyword.toList

instance (keyword : String) (word : List Char) : Decidable (IsKeyword keyword word) :=
  inferInstanceAs (Decidable (_ = _))

inductive QuotedBody (quote : Char) : List Char → Prop
  | nil : QuotedBody quote []
  | plain {c body} : c ≠ quote → QuotedBody quote body → QuotedBody quote (c :: body)
  | doubled {body} : QuotedBody quote body → QuotedBody quote (quote :: quote :: body)

/-- The name of a schema: an identifier, bare or quoted, or a string. -/
inductive IsSchemaName (rules : SqlRules) : List Char → List Char → Prop
  | bare {word text after} : IsWord rules word text after →
      (∃ c ∈ word.head?, isDecimalDigit c = false ∧ c ≠ '$') → IsSchemaName rules text after
  | quoted {quote body after} : quote ∈ ['"', '\'', '`'] → QuotedBody quote body →
      quote ∉ after.head? → IsSchemaName rules (quote :: (body ++ quote :: after)) after
  | bracketed {body after} : ']' ∉ body →
      IsSchemaName rules ('[' :: (body ++ ']' :: after)) after

/-- `INTO` stands behind blanks and comments. -/
def LeadsToInto (rules : SqlRules) (text : List Char) : Prop :=
  ∃ rest word after, Leads rules.inner text rest ∧ IsWord rules word rest after ∧
    IsKeyword "INTO" word

/-- The text behind `VACUUM` has an `INTO` clause. -/
def IntoClause (rules : SqlRules) (text : List Char) : Prop :=
  LeadsToInto rules text ∨
    rules.schemaName ∧ ∃ rest after, Leads rules.inner text rest ∧
      IsSchemaName rules rest after ∧ LeadsToInto rules after

def refusedWords : List String :=
  ["PRAGMA", "ATTACH", "DETACH", "BEGIN", "COMMIT", "END", "ROLLBACK", "SAVEPOINT", "RELEASE"]

def withoutMark : List Char → List Char
  | c :: text => if c.toNat = 0xFEFF then text else c :: text
  | [] => []

def FormsRefused (rules : SqlRules) (text : List Char) : Prop :=
  ∃ rest word after, Leads rules.leading (withoutMark text) rest ∧
    IsWord rules word rest after ∧
    ((∃ keyword ∈ refusedWords, IsKeyword keyword word) ∨
      IsKeyword "VACUUM" word ∧ IntoClause rules after)

/-! ## The two instances -/

def isAsciiWhitespace (c : Char) : Bool :=
  c = ' ' || c = '\t' || c = '\n' || c.toNat = 12 || c = '\r'

/-- White space of SQLite may go on with a vertical tab, and a line comment ends at a
newline only. -/
def sqliteTrivia (semicolon : Bool) : TriviaRules where
  startsBlank := isAsciiWhitespace
  continuesBlank c := isAsciiWhitespace c || c.toNat = 11
  endsLineComment c := c = '\n'
  semicolon := semicolon
  byteOrderMark := false

def isIdChar (c : Char) : Bool :=
  isKeywordChar c || c = '$' || 128 ≤ c.toNat

def sqliteRules : SqlRules where
  leading := sqliteTrivia true
  inner := sqliteTrivia false
  isWordChar := isIdChar
  schemaName := true

def guardTrivia : TriviaRules where
  startsBlank := isAsciiWhitespace
  continuesBlank := isAsciiWhitespace
  endsLineComment c := c = '\n' || c = '\r'
  semicolon := true
  byteOrderMark := true

def guardRules : SqlRules where
  leading := guardTrivia
  inner := guardTrivia
  isWordChar := isKeywordChar
  schemaName := false

/-! ## The skipper follows the guard's rules -/

variable {rest : List Char}

theorem afterCommentEnd_of_body {body : List Char} (hbody : ¬ ['*', '/'] <:+: body) :
    afterCommentEnd (body ++ '*' :: '/' :: rest) = some rest := by
  induction body with
  | nil => rfl
  | cons c body ih =>
      have htail : ¬ ['*', '/'] <:+: body := by
        intro hwithin
        exact hbody (hwithin.trans (List.suffix_cons c body).isInfix)
      have hnoEnd : ∀ tail, c = '*' → body ++ '*' :: '/' :: rest = '/' :: tail → False := by
        intro tail hstar htext
        apply hbody
        cases body with
        | nil => simp at htext
        | cons d body =>
            have hslash : d = '/' := (List.cons.inj htext).1
            subst hstar
            subst hslash
            exact ⟨[], body, rfl⟩
      rw [List.cons_append, afterCommentEnd.eq_2 _ _ hnoEnd]
      exact ih htail

variable {text : List Char}

theorem body_of_afterCommentEnd (hend : afterCommentEnd text = some rest) :
    ∃ body, text = body ++ '*' :: '/' :: rest ∧ ¬ ['*', '/'] <:+: body := by
  induction text with
  | nil => simp [afterCommentEnd] at hend
  | cons c text ih =>
      by_cases hcloses : c = '*' ∧ text.head? = some '/'
      · obtain ⟨rfl, hhead⟩ := hcloses
        cases text with
        | nil => simp at hhead
        | cons d text =>
            have hslash : d = '/' := by simpa using hhead
            subst hslash
            simp only [afterCommentEnd, Option.some.injEq] at hend
            subst hend
            exact ⟨[], rfl, by simp⟩
      · have hnoEnd : ∀ tail, c = '*' → text = '/' :: tail → False := by
          intro tail hstar htext
          exact hcloses ⟨hstar, by simp [htext]⟩
        rw [afterCommentEnd.eq_2 _ _ hnoEnd] at hend
        obtain ⟨body, htext, hbody⟩ := ih hend
        refine ⟨c :: body, by rw [htext, List.cons_append], ?_⟩
        intro hwithin
        rw [List.infix_cons_iff] at hwithin
        cases hwithin with
        | inl hstarts =>
            obtain ⟨tail, htail⟩ := hstarts
            apply hcloses
            injection htail with hstar hslash
            refine ⟨hstar.symm, ?_⟩
            rw [htext, ← hslash]
            rfl
        | inr hinside => exact hbody hinside

variable {c : Char}

theorem isBlankOrSemicolon_iff :
    isBlankOrSemicolon c ↔ isAsciiWhitespace c ∨ c = ';' := by
  simp [isBlankOrSemicolon, isAsciiWhitespace, or_assoc]

theorem leads_of_dropWhile (hleads : Leads guardTrivia (text.dropWhile isBlankOrSemicolon) rest) :
    Leads guardTrivia text rest := by
  induction text with
  | nil => exact hleads
  | cons c text ih =>
      by_cases hblank : isBlankOrSemicolon c
      · rw [List.dropWhile_cons_of_pos hblank] at hleads
        cases isBlankOrSemicolon_iff.mp hblank with
        | inl hspace => exact @Leads.blank _ c [] _ _ hspace (by simp) (ih hleads)
        | inr hsemicolon =>
            subst hsemicolon
            exact Leads.semicolon rfl (ih hleads)
      · rwa [List.dropWhile_cons_of_neg hblank] at hleads

variable {fuel : Nat}

theorem leads_of_skipTrivia (hskip : skipTrivia fuel text = some rest) :
    Leads guardTrivia text rest := by
  induction fuel generalizing text with
  | zero =>
      rw [skipTrivia, Option.some.injEq] at hskip
      rw [hskip]
      exact Leads.here rest
  | succ fuel ih =>
      apply leads_of_dropWhile
      rw [skipTrivia] at hskip
      split at hskip
      next behind hdashes =>
        rw [hdashes, ← List.takeWhile_append_dropWhile
          (p := fun c => c ≠ '\n' && c ≠ '\r') (l := behind)]
        apply Leads.lineComment
        · intro c hc
          have hinside := List.all_eq_true.mp List.all_takeWhile c hc
          simpa [guardTrivia] using hinside
        · intro c hc
          have hends := List.head?_dropWhile_not (fun c => c ≠ '\n' && c ≠ '\r') behind
          rw [Option.mem_def.mp hc] at hends
          simp only at hends
          simpa [guardTrivia, or_iff_not_imp_left] using hends
        · exact ih hskip
      next behind hopens =>
        cases hend : afterCommentEnd behind with
        | none => simp [hend] at hskip
        | some text =>
            obtain ⟨body, hbehind, hbody⟩ := body_of_afterCommentEnd hend
            rw [hopens, hbehind]
            apply Leads.blockComment hbody
            apply ih
            simpa [hend] using hskip
      next c behind _ _ hfront =>
        rw [hfront]
        split_ifs at hskip with hmark
        · exact Leads.byteOrderMark rfl hmark (ih hskip)
        · rw [Option.some.inj hskip]
          exact Leads.here rest
      next hempty =>
        rw [hempty, Option.some.inj hskip]
        exact Leads.here rest

theorem skipTrivia_blank (hc : isBlankOrSemicolon c) :
    skipTrivia (fuel + 1) (c :: text) = skipTrivia (fuel + 1) text := by
  rw [skipTrivia, skipTrivia, List.dropWhile_cons_of_pos hc]

theorem skipTrivia_blanks {blanks : List Char} (hblanks : ∀ c ∈ blanks, isBlankOrSemicolon c) :
    skipTrivia (fuel + 1) (blanks ++ text) = skipTrivia (fuel + 1) text := by
  induction blanks with
  | nil => rfl
  | cons c blanks ih =>
      rw [List.cons_append, skipTrivia_blank (hblanks c List.mem_cons_self)]
      exact ih fun d hd => hblanks d (List.mem_cons_of_mem c hd)

theorem skipTrivia_word (hc : isKeywordChar c) :
    skipTrivia (fuel + 1) (c :: text) = some (c :: text) := by
  have hblank : ¬ isBlankOrSemicolon c := by
    intro hblank
    simp only [isBlankOrSemicolon, Bool.or_eq_true, decide_eq_true_eq] at hblank
    rcases hblank with ((((rfl | rfl) | rfl) | hfeed) | rfl) | rfl
    · exact absurd hc (by decide)
    · exact absurd hc (by decide)
    · exact absurd hc (by decide)
    · have hfeed' : c = Char.ofNat 12 := by
        rw [← hfeed, Char.ofNat_toNat]
      subst hfeed'
      exact absurd hc (by decide)
    · exact absurd hc (by decide)
    · exact absurd hc (by decide)
  have hdash : c ≠ '-' := by
    rintro rfl
    exact absurd hc (by decide)
  have hslash : c ≠ '/' := by
    rintro rfl
    exact absurd hc (by decide)
  have hmark : c.toNat ≠ 0xFEFF := by
    intro hmark
    have hmark' : c = Char.ofNat 0xFEFF := by
      rw [← hmark, Char.ofNat_toNat]
    subst hmark'
    exact absurd hc (by decide)
  rw [skipTrivia, List.dropWhile_cons_of_neg hblank]
  split
  · rename_i behind heq
    exact absurd (List.cons.inj heq).1 hdash
  · rename_i behind heq
    exact absurd (List.cons.inj heq).1 hslash
  · rename_i heq
    obtain ⟨rfl, rfl⟩ := List.cons.inj heq
    rw [if_neg hmark]
  · rename_i heq
    cases heq

theorem skipTrivia_of_leads (hleads : Leads guardTrivia text rest)
    (hword : ∃ c ∈ rest.head?, isKeywordChar c) :
    ∀ fuel, text.length < fuel → skipTrivia fuel text = some rest := by
  induction hleads with
  | here text =>
      intro fuel hfuel
      obtain ⟨c, hhead, hc⟩ := hword
      obtain ⟨fuel, rfl⟩ : ∃ smaller, fuel = smaller + 1 := ⟨fuel - 1, by omega⟩
      cases text with
      | nil => cases hhead
      | cons d text =>
          cases hhead
          exact skipTrivia_word hc
  | @blank c more text rest hc hmore _ ih =>
      intro fuel hfuel
      obtain ⟨fuel, rfl⟩ : ∃ smaller, fuel = smaller + 1 := ⟨fuel - 1, by omega⟩
      have hblank : ∀ d ∈ more, isBlankOrSemicolon d := fun d hd =>
        isBlankOrSemicolon_iff.mpr (Or.inl (hmore d hd))
      rw [skipTrivia_blank (isBlankOrSemicolon_iff.mpr (Or.inl hc)), skipTrivia_blanks hblank]
      apply ih hword
      simp only [List.length_cons, List.length_append] at hfuel
      omega
  | semicolon _ _ ih =>
      intro fuel hfuel
      obtain ⟨fuel, rfl⟩ : ∃ smaller, fuel = smaller + 1 := ⟨fuel - 1, by omega⟩
      rw [skipTrivia_blank (by decide)]
      apply ih hword
      simp only [List.length_cons] at hfuel
      omega
  | @byteOrderMark c text rest _ hc _ ih =>
      intro fuel hfuel
      obtain ⟨fuel, rfl⟩ : ∃ smaller, fuel = smaller + 1 := ⟨fuel - 1, by omega⟩
      have hmark : c = Char.ofNat 0xFEFF := by
        rw [← hc, Char.ofNat_toNat]
      subst hmark
      rw [skipTrivia, List.dropWhile_cons_of_neg (by decide)]
      simp only [List.length_cons] at hfuel
      exact ih hword fuel (by omega)
  | @lineComment body text rest hbody hend _ ih =>
      intro fuel hfuel
      obtain ⟨fuel, rfl⟩ : ∃ smaller, fuel = smaller + 1 := ⟨fuel - 1, by omega⟩
      have hdrop : (body ++ text).dropWhile (fun c => c ≠ '\n' && c ≠ '\r') = text := by
        rw [List.dropWhile_append_of_pos]
        · cases text with
          | nil => rfl
          | cons e text =>
              have he := hend e rfl
              apply List.dropWhile_cons_of_neg
              simpa [guardTrivia, or_iff_not_imp_left] using he
        · intro c hc
          simpa [guardTrivia] using hbody c hc
      rw [skipTrivia, List.dropWhile_cons_of_neg (by decide)]
      simp only [List.length_cons, List.length_append] at hfuel
      change skipTrivia fuel ((body ++ text).dropWhile fun c => c ≠ '\n' && c ≠ '\r') = some rest
      rw [hdrop]
      exact ih hword fuel (by omega)
  | @blockComment body text rest hbody _ ih =>
      intro fuel hfuel
      obtain ⟨fuel, rfl⟩ : ∃ smaller, fuel = smaller + 1 := ⟨fuel - 1, by omega⟩
      rw [skipTrivia, List.dropWhile_cons_of_neg (by decide)]
      simp only [List.length_cons, List.length_append] at hfuel
      change (afterCommentEnd (body ++ '*' :: '/' :: text)).bind (skipTrivia fuel) = some rest
      rw [afterCommentEnd_of_body hbody]
      exact ih hword fuel (by omega)

variable {word after : List Char}

theorem IsWord.head {rules : SqlRules} (hword : IsWord rules word text after)
    (hnonempty : word ≠ []) :
    ∃ c ∈ text.head?, rules.isWordChar c := by
  rw [hword.split]
  cases word with
  | nil => exact absurd rfl hnonempty
  | cons c word => exact ⟨c, rfl, hword.chars c List.mem_cons_self⟩

variable {keyword : String}

theorem nextSqlKeyword_eq_some_iff :
    nextSqlKeyword text = some (keyword, after) ↔
      ∃ rest word, Leads guardTrivia text rest ∧ IsWord guardRules word rest after ∧
        word ≠ [] ∧ keyword = String.ofList (word.map Char.toUpper) := by
  unfold nextSqlKeyword
  constructor
  · intro hnext
    cases hskip : skipTrivia (text.length + 1) text with
    | none => simp [hskip] at hnext
    | some rest =>
        simp only [hskip, Option.bind_eq_bind, Option.bind_some] at hnext
        split_ifs at hnext with hempty
        injection hnext with hpair
        injection hpair with hkeyword hafter
        refine ⟨rest, rest.takeWhile isKeywordChar, leads_of_skipTrivia hskip, ?_, hempty,
          hkeyword.symm⟩
        constructor
        · rw [← hafter, List.takeWhile_append_dropWhile]
        · intro c hc
          exact List.all_eq_true.mp List.all_takeWhile c hc
        · intro c hc
          have hstop := List.head?_dropWhile_not isKeywordChar rest
          rw [hafter, Option.mem_def.mp hc] at hstop
          simpa [guardRules] using hstop
  · rintro ⟨rest, word, hleads, hword, hnonempty, rfl⟩
    have hskip := skipTrivia_of_leads hleads (hword.head hnonempty) (text.length + 1) (by omega)
    have hchars : ∀ c ∈ word, isKeywordChar c := hword.chars
    have hstop : ∀ c ∈ after.head?, isKeywordChar c = false := hword.maximal
    have htake : rest.takeWhile isKeywordChar = word := by
      rw [hword.split, List.takeWhile_append_of_pos hchars]
      cases after with
      | nil => simp
      | cons c after => simp [hstop c rfl]
    have hdrop : rest.dropWhile isKeywordChar = after := by
      rw [hword.split, List.dropWhile_append_of_pos hchars]
      cases after with
      | nil => rfl
      | cons c after => simp [hstop c rfl]
    simp only [hskip, Option.bind_eq_bind, Option.bind_some, htake, hdrop]
    simp [hnonempty]

theorem isKeyword_iff :
    IsKeyword keyword word ↔ String.ofList (word.map Char.toUpper) = keyword := by
  unfold IsKeyword
  constructor
  · intro hword
    rw [hword, String.ofList_toList]
  · rintro rfl
    rw [String.toList_ofList]

theorem nextSqlKeyword_iff_isKeyword (hkeyword : keyword ≠ "") :
    nextSqlKeyword text = some (keyword, after) ↔
      ∃ rest word, Leads guardTrivia text rest ∧ IsWord guardRules word rest after ∧
        IsKeyword keyword word := by
  rw [nextSqlKeyword_eq_some_iff]
  constructor
  · rintro ⟨rest, word, hleads, hword, -, hequal⟩
    exact ⟨rest, word, hleads, hword, isKeyword_iff.mpr hequal.symm⟩
  · rintro ⟨rest, word, hleads, hword, hequal⟩
    refine ⟨rest, word, hleads, hword, ?_, (isKeyword_iff.mp hequal).symm⟩
    rintro rfl
    exact hkeyword (isKeyword_iff.mp hequal).symm

theorem leadsToInto_iff :
    LeadsToInto guardRules text ↔ (nextSqlKeyword text).map Prod.fst = some "INTO" := by
  constructor
  · rintro ⟨rest, word, after, hleads, hword, hinto⟩
    rw [(nextSqlKeyword_iff_isKeyword (by decide)).mpr ⟨rest, word, hleads, hword, hinto⟩]
    rfl
  · intro hnext
    cases hread : nextSqlKeyword text with
    | none => simp [hread] at hnext
    | some read =>
        obtain ⟨keyword, after⟩ := read
        rw [hread] at hnext
        have hkeyword : keyword = "INTO" := Option.some.inj hnext
        subst hkeyword
        obtain ⟨rest, word, hleads, hword, hinto⟩ :=
          (nextSqlKeyword_iff_isKeyword (by decide)).mp hread
        exact ⟨rest, word, after, hleads, hword, hinto⟩

/-! ## What the guard refuses -/

theorem validateSafeSql_error_iff {sql : String} :
    (∃ message, validateSafeSql sql = .error message) ↔
      ∃ keyword after, nextSqlKeyword sql.toList = some (keyword, after) ∧
        (keyword ∈ refusedWords ∨
          keyword = "VACUUM" ∧ (nextSqlKeyword after).map Prod.fst = some "INTO") := by
  unfold validateSafeSql
  cases hread : nextSqlKeyword sql.toList with
  | none => simp
  | some read =>
      obtain ⟨keyword, after⟩ := read
      simp only [Option.getD_some, Option.some.injEq, Prod.mk.injEq, refusedWords]
      constructor
      · rintro ⟨message, hmessage⟩
        refine ⟨keyword, after, ⟨rfl, rfl⟩, ?_⟩
        split_ifs at hmessage with hattach hdetach hvacuum hpragma htransaction
        · simp [hattach]
        · simp [hdetach]
        · exact Or.inr hvacuum
        · simp [hpragma]
        · apply Or.inl
          simp only [List.mem_cons, List.not_mem_nil, or_false] at htransaction ⊢
          tauto
      · rintro ⟨_, _, ⟨rfl, rfl⟩, hrefused⟩
        split_ifs with hattach hdetach hvacuum hpragma htransaction
        · exact ⟨_, rfl⟩
        · exact ⟨_, rfl⟩
        · exact ⟨_, rfl⟩
        · exact ⟨_, rfl⟩
        · exact ⟨_, rfl⟩
        · exfalso
          cases hrefused with
          | inl hword =>
              simp only [List.mem_cons, List.not_mem_nil, or_false] at hword htransaction
              tauto
          | inr hinto => exact hvacuum hinto

theorem leads_withoutMark_iff (hword : ∃ c ∈ rest.head?, isKeywordChar c) :
    Leads guardTrivia (withoutMark text) rest ↔ Leads guardTrivia text rest := by
  cases text with
  | nil => exact Iff.rfl
  | cons c text =>
      by_cases hmark : c.toNat = 0xFEFF
      · have hc : c = Char.ofNat 0xFEFF := by
          rw [← hmark, Char.ofNat_toNat]
        subst hc
        rw [withoutMark, if_pos hmark]
        constructor
        · exact Leads.byteOrderMark rfl hmark
        · intro hleads
          cases hleads with
          | here =>
              obtain ⟨d, hd, hdigit⟩ := hword
              cases hd
              exact absurd hdigit (by decide)
          | blank hblank => exact absurd hblank (by decide)
          | byteOrderMark _ _ hrest => exact hrest
      · rw [withoutMark, if_neg hmark]

theorem validateSafeSql_error_iff_formsRefused {sql : String} :
    (∃ message, validateSafeSql sql = .error message) ↔
      FormsRefused guardRules sql.toList := by
  rw [validateSafeSql_error_iff]
  constructor
  · rintro ⟨keyword, after, hread, hrefused⟩
    obtain ⟨rest, word, hleads, hword, hnonempty, hkeyword⟩ :=
      nextSqlKeyword_eq_some_iff.mp hread
    refine ⟨rest, word, after, (leads_withoutMark_iff (hword.head hnonempty)).mpr hleads, hword,
      ?_⟩
    cases hrefused with
    | inl hmem => exact Or.inl ⟨keyword, hmem, isKeyword_iff.mpr hkeyword.symm⟩
    | inr hvacuum =>
        obtain ⟨rfl, hinto⟩ := hvacuum
        exact Or.inr ⟨isKeyword_iff.mpr hkeyword.symm, Or.inl (leadsToInto_iff.mpr hinto)⟩
  · rintro ⟨rest, word, after, hleads, hword, hrefused⟩
    have hnonempty : word ≠ [] := by
      rintro rfl
      cases hrefused with
      | inl hstatement =>
          obtain ⟨keyword, hmem, hkeyword⟩ := hstatement
          rw [← isKeyword_iff.mp hkeyword] at hmem
          exact absurd hmem (by decide)
      | inr hvacuum => exact absurd (isKeyword_iff.mp hvacuum.1) (by decide)
    rw [show guardRules.leading = guardTrivia from rfl,
      leads_withoutMark_iff (hword.head hnonempty)] at hleads
    have hread := nextSqlKeyword_eq_some_iff.mpr ⟨rest, word, hleads, hword, hnonempty, rfl⟩
    refine ⟨_, after, hread, ?_⟩
    cases hrefused with
    | inl hstatement =>
        obtain ⟨keyword, hmem, hkeyword⟩ := hstatement
        rw [isKeyword_iff.mp hkeyword]
        exact Or.inl hmem
    | inr hvacuum =>
        apply Or.inr
        refine ⟨isKeyword_iff.mp hvacuum.1, ?_⟩
        cases hvacuum.2 with
        | inl hinto => exact leadsToInto_iff.mp hinto
        | inr hschema => exact absurd hschema.1 (by decide)

theorem isWord_of_blank {rules : SqlRules} (htext : text = word ++ ' ' :: after)
    (hword : word.all rules.isWordChar) (hblank : rules.isWordChar ' ' = false) :
    IsWord rules word text (' ' :: after) where
  split := htext
  chars := List.all_eq_true.mp hword
  maximal c hc := by
    rw [← Option.some.inj hc]
    exact hblank

structure PlainText (text : List Char) : Prop where
  noVerticalTab : ∀ c ∈ text, c.toNat ≠ 11
  lineEnds : ∀ front behind, text = front ++ '\r' :: behind → behind.head? = some '\n'

theorem PlainText.of_append (front : List Char) (hplain : PlainText (front ++ text)) :
    PlainText text := by
  constructor
  · intro c hc
    exact hplain.noVerticalTab c (List.mem_append_right front hc)
  · intro before behind htext
    apply hplain.lineEnds (front ++ before) behind
    rw [htext, List.append_assoc]

theorem PlainText.of_cons (hplain : PlainText (c :: text)) :
    PlainText text :=
  PlainText.of_append [c] hplain

theorem PlainText.comment {body : List Char} (hplain : PlainText (body ++ text))
    (hbody : '\n' ∉ body) :
    '\r' ∉ body ∨ ∃ line, body = line ++ ['\r'] ∧ '\r' ∉ line := by
  induction body with
  | nil => exact Or.inl List.not_mem_nil
  | cons c body ih =>
      by_cases hc : c = '\r'
      · subst hc
        have hnext := hplain.lineEnds [] (body ++ text) rfl
        cases body with
        | nil => exact Or.inr ⟨[], rfl, List.not_mem_nil⟩
        | cons d body =>
            have hnewline : d = '\n' := by simpa using hnext
            subst hnewline
            exact absurd (List.mem_cons_of_mem _ List.mem_cons_self) hbody
      · have hne : '\r' ≠ c := fun h => hc h.symm
        cases ih hplain.of_cons (fun h => hbody (List.mem_cons_of_mem c h)) with
        | inl hnone => exact Or.inl (by simp [hne, hnone])
        | inr hlast =>
            obtain ⟨line, rfl, hline⟩ := hlast
            exact Or.inr ⟨c :: line, rfl, by simp [hne, hline]⟩

theorem Leads.guard {semicolon : Bool} (hleads : Leads (sqliteTrivia semicolon) text rest)
    (hplain : PlainText text) :
    Leads guardTrivia text rest ∧ PlainText rest := by
  induction hleads with
  | here text => exact ⟨Leads.here text, hplain⟩
  | @blank c more text rest hc hmore _ ih =>
      obtain ⟨hrest, hplainRest⟩ := ih (hplain.of_cons.of_append _)
      refine ⟨Leads.blank hc ?_ hrest, hplainRest⟩
      intro d hd
      have hblank := hmore d hd
      have hnoTab := hplain.noVerticalTab d
        (List.mem_cons_of_mem c (List.mem_append_left text hd))
      simpa [sqliteTrivia, guardTrivia, hnoTab] using hblank
  | semicolon _ _ ih =>
      obtain ⟨hrest, hplainRest⟩ := ih hplain.of_cons
      exact ⟨Leads.semicolon rfl hrest, hplainRest⟩
  | byteOrderMark hrule => exact absurd hrule (by simp [sqliteTrivia])
  | @lineComment body text rest hbody hend _ ih =>
      have hcomment : PlainText (body ++ text) := hplain.of_cons.of_cons
      obtain ⟨hrest, hplainRest⟩ := ih (hcomment.of_append _)
      have hnewline : ∀ c ∈ body, c ≠ '\n' := by
        intro c hc
        simpa [sqliteTrivia] using hbody c hc
      refine ⟨?_, hplainRest⟩
      cases hcomment.comment (fun h => hnewline _ h rfl) with
      | inl hnone =>
          apply Leads.lineComment _ _ hrest
          · intro c hc
            have hne : c ≠ '\r' := by
              rintro rfl
              exact hnone hc
            simp [guardTrivia, hnewline c hc, hne]
          · intro c hc
            have hends := hend c hc
            simp only [sqliteTrivia, decide_eq_true_eq] at hends
            simp [guardTrivia, hends]
      | inr hlast =>
          obtain ⟨line, rfl, hline⟩ := hlast
          rw [List.append_assoc, List.singleton_append]
          apply Leads.lineComment
          · intro c hc
            have hne : c ≠ '\r' := by
              rintro rfl
              exact hline hc
            simp [guardTrivia, hnewline c (List.mem_append_left _ hc), hne]
          · intro c hc
            cases hc
            rfl
          · exact @Leads.blank _ _ [] _ _ rfl (by simp) hrest
  | @blockComment body text rest hbody _ ih =>
      have hbehind : PlainText (body ++ '*' :: '/' :: text) := hplain.of_cons.of_cons
      obtain ⟨hrest, hplainRest⟩ := ih (hbehind.of_append _).of_cons.of_cons
      exact ⟨Leads.blockComment hbody hrest, hplainRest⟩

theorem IsWord.guard (hword : IsWord sqliteRules word text after)
    (hchars : ∀ c ∈ word, isKeywordChar c) : IsWord guardRules word text after := by
  refine ⟨hword.split, hchars, ?_⟩
  intro c hc
  have hstop := hword.maximal c hc
  simp only [sqliteRules, isIdChar, Bool.or_eq_false_iff] at hstop
  exact hstop.1.1

theorem isKeywordChar_of_toUpper (hc : isKeywordChar c.toUpper) : isKeywordChar c := by
  by_cases hlower : 'a' ≤ c ∧ c ≤ 'z'
  · simp [isKeywordChar, hlower]
  · have hsame : c.toUpper = c := by
      unfold Char.toUpper
      rw [dif_neg]
      intro hrange
      exact hlower hrange
    rwa [hsame] at hc

theorem IsKeyword.chars (hkeyword : IsKeyword keyword word)
    (hletters : keyword.toList.all isKeywordChar) : ∀ c ∈ word, isKeywordChar c := by
  intro c hc
  apply isKeywordChar_of_toUpper
  apply List.all_eq_true.mp hletters
  rw [← hkeyword]
  exact List.mem_map_of_mem hc

theorem LeadsToInto.guard (hinto : LeadsToInto sqliteRules text) (hplain : PlainText text) :
    LeadsToInto guardRules text := by
  obtain ⟨rest, word, after, hleads, hword, hkeyword⟩ := hinto
  exact ⟨rest, word, after, (Leads.guard hleads hplain).1,
    hword.guard (hkeyword.chars (by decide)), hkeyword⟩

theorem validateSafeSql_of_plain {sql : String} (hplain : PlainText (withoutMark sql.toList))
    (hforms : FormsRefused { sqliteRules with schemaName := false } sql.toList) :
    ∃ message, validateSafeSql sql = .error message := by
  rw [validateSafeSql_error_iff_formsRefused]
  obtain ⟨rest, word, after, hleads, hword, hrefused⟩ := hforms
  have hguard := Leads.guard hleads hplain
  have hword : IsWord sqliteRules word rest after := ⟨hword.split, hword.chars, hword.maximal⟩
  refine ⟨rest, word, after, hguard.1, ?_, ?_⟩
  · apply hword.guard
    cases hrefused with
    | inl hstatement =>
        obtain ⟨keyword, hmem, hkeyword⟩ := hstatement
        have hletters : ∀ keyword ∈ refusedWords, keyword.toList.all isKeywordChar := by
          decide
        exact hkeyword.chars (hletters keyword hmem)
    | inr hvacuum => exact hvacuum.1.chars (by decide)
  · cases hrefused with
    | inl hstatement => exact Or.inl hstatement
    | inr hvacuum =>
        apply Or.inr
        refine ⟨hvacuum.1, Or.inl ?_⟩
        have hplainAfter : PlainText after := by
          have hrest := hguard.2
          rw [hword.split] at hrest
          exact hrest.of_append _
        cases hvacuum.2 with
        | inl hinto =>
            obtain ⟨behind, into, last, hinner, hintoWord, hkeyword⟩ := hinto
            exact LeadsToInto.guard ⟨behind, into, last, hinner,
              ⟨hintoWord.split, hintoWord.chars, hintoWord.maximal⟩, hkeyword⟩ hplainAfter
        | inr hschema => exact absurd hschema.1 (by decide)

end SqlGuard
end TauriPlatform
