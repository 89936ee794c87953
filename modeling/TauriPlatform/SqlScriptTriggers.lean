import TauriPlatform.SqlScriptTokens

/-!
# Triggers in a script

What the scanner keeps of the words of a statement: whether it is a trigger, whether its body is
open, and how many `CASE`s are.  A name of the body which is taken for `END` closes it.
-/

namespace TauriPlatform

open SqliteScript

namespace SqlScanner

/-! ## The words of a token -/

def keywordOf (word : List Char) : String :=
  String.ofList (word.map Char.toUpper)

def wordsOf : Token → List (List Char)
  | .word chars => wordsIn chars
  | _ => []

def follow (scanner : SqlScanner) (token : Token) : SqlScanner :=
  (wordsOf token).foldl recordWord scanner

def ReadsAs (keyword : String) (token : Token) : Prop :=
  ∃ word ∈ wordsOf token, keywordOf word = keyword

/-- The token begins with a letter or `_`. -/
def BeginsWord (token : Token) : Prop :=
  ∃ c rest, token = .word (c :: rest) ∧ isWordStart c

def IsUpper (keyword : String) : Prop :=
  keyword.toList ≠ [] ∧ ∀ c ∈ keyword.toList, 'A' ≤ c ∧ c ≤ 'Z'

instance (keyword : String) : Decidable (IsUpper keyword) :=
  @instDecidableAnd _ _ inferInstance (List.decidableBAll _ _)

theorem isWordStart_of_toUpper {c : Char} (hc : 'A' ≤ c.toUpper ∧ c.toUpper ≤ 'Z') :
    isWordStart c := by
  unfold isWordStart
  by_cases hlower : 'a' ≤ c ∧ c ≤ 'z'
  · simp [hlower]
  · have hsame : c.toUpper = c := by
      unfold Char.toUpper
      exact dif_neg hlower
    rw [hsame] at hc
    simp [hc]

theorem wordsIn_eq_singleton {c : Char} {rest : List Char} (hstart : isWordStart c)
    (hrest : ∀ d ∈ rest, isWordChar d) : wordsIn (c :: rest) = [c :: rest] := by
  rw [wordsIn_cons, if_pos hstart, List.takeWhile_eq_self_iff.mpr hrest,
    List.dropWhile_eq_nil_iff.mpr hrest, wordsIn_nil]

theorem beginsWord_of_keyword {token : Token} (hupper : IsUpper token.keyword) :
    ∃ c rest, token = .word (c :: rest) ∧ ∀ d ∈ c :: rest, isWordStart d := by
  obtain ⟨hne, hall⟩ := hupper
  cases token with
  | word chars =>
      have hchars : ∀ c ∈ chars, isWordStart c := by
        intro c hc
        apply isWordStart_of_toUpper
        apply hall
        simp only [Token.keyword, String.toList_ofList]
        exact List.mem_map_of_mem hc
      cases chars with
      | nil => exact absurd rfl hne
      | cons c rest => exact ⟨c, rest, rfl, hchars⟩
  | _ => exact absurd rfl hne

theorem words_of_keyword {token : Token} (hupper : IsUpper token.keyword) :
    ∃ chars, token = .word chars ∧ wordsIn chars = [chars] := by
  obtain ⟨c, rest, rfl, hchars⟩ := beginsWord_of_keyword hupper
  refine ⟨c :: rest, rfl, ?_⟩
  apply wordsIn_eq_singleton (hchars c List.mem_cons_self)
  intro d hd
  unfold isWordChar
  rw [hchars d (List.mem_cons_of_mem _ hd), Bool.true_or]

theorem follow_keyword {token : Token} (hupper : IsUpper token.keyword) :
    ∃ word, keywordOf word = token.keyword ∧
      ∀ scanner, follow scanner token = scanner.recordWord word := by
  obtain ⟨chars, rfl, hwords⟩ := words_of_keyword hupper
  refine ⟨chars, rfl, ?_⟩
  intro scanner
  unfold follow wordsOf
  dsimp only
  rw [hwords]
  rfl

/-! ## Stretches without a cut -/

def Uncut (scanner : SqlScanner) : List Token → Prop
  | [] => True
  | token :: rest =>
      (token = .semicolon → scanner.inTriggerBody = true) ∧ Uncut (scanner.follow token) rest

/-- The tokens take the scanner to where `Post` holds, without a cut. -/
structure Passes (Post : SqlScanner → Prop) (scanner : SqlScanner) (tokens : List Token) :
    Prop where
  uncut : scanner.Uncut tokens
  post : Post (tokens.foldl follow scanner)

section Passes

variable {Post Mid : SqlScanner → Prop} {scanner : SqlScanner} {token : Token}
  {front back rest : List Token}

theorem Passes.nil (hpost : Post scanner) : Passes Post scanner [] :=
  ⟨trivial, hpost⟩

theorem Passes.cons (huncut : token = .semicolon → scanner.inTriggerBody = true)
    (hrest : Passes Post (scanner.follow token) rest) : Passes Post scanner (token :: rest) :=
  ⟨⟨huncut, hrest.uncut⟩, hrest.post⟩

theorem Passes.append (hfront : Passes Mid scanner front)
    (hback : ∀ later, Mid later → Passes Post later back) :
    Passes Post scanner (front ++ back) := by
  induction front generalizing scanner with
  | nil => exact hback scanner hfront.post
  | cons token front ih => exact .cons hfront.uncut.1 (ih ⟨hfront.uncut.2, hfront.post⟩)

theorem Passes.keyword (hupper : IsUpper token.keyword)
    (hrest : ∀ word, keywordOf word = token.keyword →
      Passes Post (scanner.recordWord word) rest) :
    Passes Post scanner (token :: rest) := by
  obtain ⟨word, hword, hfollow⟩ := follow_keyword hupper
  apply Passes.cons
  · rintro rfl
    exact absurd rfl hupper.1
  · rw [hfollow]
    exact hrest word hword

theorem passes_significant {tokens : List Token}
    (hpasses : Passes Post scanner (tokens.filter Token.significant)) :
    Passes Post scanner tokens := by
  induction tokens generalizing scanner with
  | nil => exact hpasses
  | cons token tokens ih =>
      rw [List.filter_cons] at hpasses
      split_ifs at hpasses with hsignificant
      · exact .cons hpasses.uncut.1 (ih ⟨hpasses.uncut.2, hpasses.post⟩)
      · have hfollow : scanner.follow token = scanner := by
          cases token with
          | space chars => rfl
          | lineComment chars => rfl
          | blockComment chars => rfl
          | _ => exact absurd rfl hsignificant
        apply Passes.cons
        · rintro rfl
          exact absurd rfl hsignificant
        · rw [hfollow]
          exact ih hpasses

end Passes

/-! ## The two halves of recording a word -/

def recordHead (scanner : SqlScanner) (keyword : String) : SqlScanner :=
  if ¬ scanner.inTriggerBody ∧ scanner.statementHead.length < 3 then
    { scanner with
      statementHead := scanner.statementHead ++ [keyword]
      isTrigger := isTriggerHead (scanner.statementHead ++ [keyword]) }
  else scanner

def countWord (scanner : SqlScanner) (keyword : String) : SqlScanner :=
  if ¬ scanner.isTrigger then scanner
  else if ¬ scanner.inTriggerBody ∧ keyword = "BEGIN" then
    { scanner with inTriggerBody := true }
  else if scanner.inTriggerBody ∧ keyword = "CASE" then
    { scanner with caseDepth := scanner.caseDepth + 1 }
  else if scanner.inTriggerBody ∧ keyword = "END" then
    if 0 < scanner.caseDepth then { scanner with caseDepth := scanner.caseDepth - 1 }
    else { scanner with inTriggerBody := false }
  else scanner

theorem recordWord_eq (scanner : SqlScanner) (word : List Char) :
    scanner.recordWord word =
      (scanner.recordHead (keywordOf word)).countWord (keywordOf word) :=
  rfl

/-! ## Statements which are no triggers -/

structure Settled (scanner : SqlScanner) : Prop where
  closed : scanner.inTriggerBody = false
  trigger : scanner.isTrigger = false
  head : ∀ more, isTriggerHead (scanner.statementHead ++ more) = false

theorem countWord_eq_self {scanner : SqlScanner} (htrigger : scanner.isTrigger = false)
    (keyword : String) : scanner.countWord keyword = scanner := by
  unfold countWord
  rw [if_pos (by simp [htrigger])]

theorem Settled.recordHead {scanner : SqlScanner} (hsettled : scanner.Settled)
    (keyword : String) : (scanner.recordHead keyword).Settled := by
  unfold SqlScanner.recordHead
  split_ifs
  · refine ⟨hsettled.closed, hsettled.head _, ?_⟩
    intro more
    rw [List.append_assoc]
    exact hsettled.head _
  · exact hsettled

theorem Settled.recordWord {scanner : SqlScanner} (hsettled : scanner.Settled)
    (word : List Char) : (scanner.recordWord word).Settled := by
  have hhead := hsettled.recordHead (keywordOf word)
  rw [recordWord_eq, countWord_eq_self hhead.trigger]
  exact hhead

theorem Settled.follow {scanner : SqlScanner} (hsettled : scanner.Settled) (token : Token) :
    (scanner.follow token).Settled := by
  unfold SqlScanner.follow
  induction wordsOf token generalizing scanner with
  | nil => exact hsettled
  | cons word words ih => exact ih (hsettled.recordWord word)

theorem Settled.passes {scanner : SqlScanner} (hsettled : scanner.Settled) {tokens : List Token}
    (htokens : .semicolon ∉ tokens) : Passes Settled scanner tokens := by
  induction tokens generalizing scanner with
  | nil => exact .nil hsettled
  | cons token tokens ih =>
      rw [List.mem_cons, not_or] at htokens
      exact .cons (fun hsemicolon => absurd hsemicolon.symm htokens.1)
        (ih (hsettled.follow token) htokens.2)

structure Heading (head : List String) (scanner : SqlScanner) : Prop where
  closed : scanner.inTriggerBody = false
  words : scanner.statementHead = head
  depth : scanner.caseDepth = 0
  trigger : scanner.isTrigger = isTriggerHead head

theorem countWord_closed {scanner : SqlScanner} (hclosed : scanner.inTriggerBody = false)
    {keyword : String} (hkeyword : keyword ≠ "BEGIN") :
    scanner.countWord keyword = scanner := by
  unfold countWord
  simp [hclosed, hkeyword]

theorem Heading.recordWord {head : List String} {scanner : SqlScanner}
    (hheading : Heading head scanner) (hshort : head.length < 3) {word : List Char}
    (hword : keywordOf word = "BEGIN" → isTriggerHead (head ++ [keywordOf word]) = false) :
    Heading (head ++ [keywordOf word]) (scanner.recordWord word) := by
  obtain ⟨hclosed, rfl, hdepth, htrigger⟩ := hheading
  have hhead : Heading (scanner.statementHead ++ [keywordOf word])
      (scanner.recordHead (keywordOf word)) := by
    unfold recordHead
    rw [if_pos ⟨by simp [hclosed], hshort⟩]
    exact ⟨hclosed, rfl, hdepth, rfl⟩
  have hcount : (scanner.recordHead (keywordOf word)).countWord (keywordOf word) =
      scanner.recordHead (keywordOf word) := by
    by_cases hbegin : keywordOf word = "BEGIN"
    · exact countWord_eq_self (hhead.trigger.trans (hword hbegin)) _
    · exact countWord_closed hhead.closed hbegin
  rw [recordWord_eq, hcount]
  exact hhead

theorem Heading.settled {head : List String} {scanner : SqlScanner}
    (hheading : Heading head scanner) (hhead : ∀ more, isTriggerHead (head ++ more) = false) :
    Settled scanner where
  closed := hheading.closed
  trigger := by
    have hempty := hhead []
    rwa [List.append_nil, ← hheading.trigger] at hempty
  head := by
    rw [hheading.words]
    exact hhead

theorem isTriggerHead_of_ne {first : String} (hfirst : first ≠ "CREATE") (more : List String) :
    isTriggerHead (first :: more) = false := by
  unfold isTriggerHead
  split <;> simp_all

theorem isTriggerHead_created {kind : String} (hkind : kind ∈ createdKeywords)
    (more : List String) :
    isTriggerHead ("CREATE" :: kind :: more) = false ∧
      isTriggerHead ("CREATE" :: "TEMP" :: kind :: more) = false ∧
      isTriggerHead ("CREATE" :: "TEMPORARY" :: kind :: more) = false := by
  simp only [createdKeywords, List.mem_cons, List.not_mem_nil, or_false] at hkind
  rcases hkind with rfl | rfl | rfl | rfl | rfl <;> simp [isTriggerHead]

theorem isUpper_of_mem {keyword : String}
    (hkeyword : keyword ∈ commandKeywords ++ createdKeywords ++ triggerKeywords) :
    IsUpper keyword := by
  revert keyword
  decide

section Heads

variable {Post : SqlScanner → Prop} {scanner : SqlScanner} {token : Token} {rest : List Token}
  {head : List String}

theorem Heading.passes (hheading : Heading head scanner) (hshort : head.length < 3)
    (hupper : IsUpper token.keyword)
    (hbegin : token.keyword = "BEGIN" → isTriggerHead (head ++ [token.keyword]) = false)
    (hrest : ∀ later, Heading (head ++ [token.keyword]) later → Passes Post later rest) :
    Passes Post scanner (token :: rest) := by
  apply Passes.keyword hupper
  intro word hword
  apply hrest
  rw [← hword]
  apply hheading.recordWord hshort
  rwa [hword]

/-- The first keyword of a statement which is no `CREATE`. -/
theorem passes_first (hfresh : Heading [] scanner) (hupper : IsUpper token.keyword)
    (htoken : token.keyword ≠ "CREATE") (hrest : .semicolon ∉ rest) :
    Passes Settled scanner (token :: rest) := by
  apply hfresh.passes (by decide) hupper fun _ => isTriggerHead_of_ne htoken []
  intro later hlater
  exact (hlater.settled (isTriggerHead_of_ne htoken)).passes hrest

/-- `CREATE`, and `TEMP` if it is there. -/
theorem passes_create {create : Token} {temporary : List Token} (hfresh : Heading [] scanner)
    (hcreate : create.keyword = "CREATE") (htemporary : Temporary temporary)
    (hrest : ∀ head later, head ∈ [["CREATE"], ["CREATE", "TEMP"], ["CREATE", "TEMPORARY"]] →
      Heading head later → Passes Post later rest) :
    Passes Post scanner (create :: (temporary ++ rest)) := by
  apply hfresh.passes (by decide)
  · rw [hcreate]
    decide
  · rw [hcreate]
    decide
  · rw [hcreate]
    intro later hlater
    cases htemporary with
    | absent => exact hrest _ later (by simp) hlater
    | temp htemp =>
        apply hlater.passes (by decide)
        · rw [htemp]
          decide
        · rw [htemp]
          decide
        · rw [htemp]
          exact fun last hlast => hrest _ last (by simp) hlast
    | temporary htemp =>
        apply hlater.passes (by decide)
        · rw [htemp]
          decide
        · rw [htemp]
          decide
        · rw [htemp]
          exact fun last hlast => hrest _ last (by simp) hlast

end Heads

theorem passes_simple {tokens : List Token} (hsimple : Simple tokens) {scanner : SqlScanner}
    (hfresh : Heading [] scanner) : Passes Settled scanner tokens := by
  cases hsimple with
  | @command first rest hfirst hrest =>
      have hcreate : first.keyword ≠ "CREATE" := by
        intro hcreate
        rw [hcreate] at hfirst
        exact absurd hfirst (by decide)
      exact passes_first hfresh (isUpper_of_mem (by simp [hfirst])) hcreate hrest
  | @create create kind temporary rest hcreate htemporary hkind hrest =>
      apply passes_create hfresh hcreate htemporary
      intro head later hhead hheading
      have hcreated : ∀ more, isTriggerHead (head ++ [kind.keyword] ++ more) = false := by
        intro more
        obtain ⟨hplain, htemp, htemporary⟩ := isTriggerHead_created hkind more
        simp only [List.mem_cons, List.not_mem_nil, or_false] at hhead
        rcases hhead with rfl | rfl | rfl
        · exact hplain
        · exact htemp
        · exact htemporary
      have hshort : head.length < 3 := by
        simp only [List.mem_cons, List.not_mem_nil, or_false] at hhead
        rcases hhead with rfl | rfl | rfl <;> decide
      apply hheading.passes hshort (isUpper_of_mem (by simp [hkind]))
      · intro _
        have hempty := hcreated []
        rwa [List.append_nil] at hempty
      · exact fun last hlast => (hlast.settled hcreated).passes hrest

/-! ## Triggers -/

/-- Whether the body of the trigger is open, and how many `CASE`s are. -/
structure Counting (isOpen : Bool) (depth : Nat) (scanner : SqlScanner) : Prop where
  trigger : scanner.isTrigger = true
  head : ∀ more, isTriggerHead (scanner.statementHead ++ more) = true
  body : scanner.inTriggerBody = isOpen
  depth : scanner.caseDepth = depth

section Counting

variable {isOpen : Bool} {depth : Nat} {scanner : SqlScanner}

theorem Counting.recordHead (hcounting : Counting isOpen depth scanner) (keyword : String) :
    Counting isOpen depth (scanner.recordHead keyword) := by
  unfold SqlScanner.recordHead
  split_ifs
  · refine ⟨hcounting.head _, ?_, hcounting.body, hcounting.depth⟩
    intro more
    rw [List.append_assoc]
    exact hcounting.head _
  · exact hcounting

theorem Counting.other (hcounting : Counting isOpen depth scanner) {word : List Char}
    (hbegin : isOpen = true ∨ keywordOf word ≠ "BEGIN")
    (hcase : isOpen = false ∨ keywordOf word ≠ "CASE")
    (hend : isOpen = false ∨ keywordOf word ≠ "END") :
    Counting isOpen depth (scanner.recordWord word) := by
  have hhead := hcounting.recordHead (keywordOf word)
  have hcount : (scanner.recordHead (keywordOf word)).countWord (keywordOf word) =
      scanner.recordHead (keywordOf word) := by
    unfold countWord
    rw [hhead.trigger, hhead.body]
    cases isOpen <;> simp_all
  rw [recordWord_eq, hcount]
  exact hhead

theorem countWord_begin (htrigger : scanner.isTrigger = true)
    (hbody : scanner.inTriggerBody = false) :
    scanner.countWord "BEGIN" = { scanner with inTriggerBody := true } := by
  unfold countWord
  simp [htrigger, hbody]

theorem countWord_case (htrigger : scanner.isTrigger = true)
    (hbody : scanner.inTriggerBody = true) :
    scanner.countWord "CASE" = { scanner with caseDepth := scanner.caseDepth + 1 } := by
  unfold countWord
  simp [htrigger, hbody]

theorem countWord_end (htrigger : scanner.isTrigger = true)
    (hbody : scanner.inTriggerBody = true) :
    scanner.countWord "END" =
      if 0 < scanner.caseDepth then { scanner with caseDepth := scanner.caseDepth - 1 }
      else { scanner with inTriggerBody := false } := by
  unfold countWord
  simp [htrigger, hbody]

theorem Counting.begins (hcounting : Counting isOpen depth scanner) {word : List Char}
    (hword : keywordOf word = "BEGIN") : Counting true depth (scanner.recordWord word) := by
  cases isOpen with
  | true => exact hcounting.other (Or.inl rfl) (Or.inr (by simp [hword])) (Or.inr (by simp [hword]))
  | false =>
      have hhead := hcounting.recordHead "BEGIN"
      rw [recordWord_eq, hword, countWord_begin hhead.trigger hhead.body]
      exact ⟨hhead.trigger, hhead.head, rfl, hhead.depth⟩

theorem Counting.opens (hcounting : Counting true depth scanner) {word : List Char}
    (hword : keywordOf word = "CASE") : Counting true (depth + 1) (scanner.recordWord word) := by
  have hhead := hcounting.recordHead "CASE"
  rw [recordWord_eq, hword, countWord_case hhead.trigger hhead.body]
  exact ⟨hhead.trigger, hhead.head, hhead.body, congrArg (· + 1) hhead.depth⟩

theorem Counting.closes (hcounting : Counting true depth scanner) {word : List Char}
    (hword : keywordOf word = "END") :
    Counting (0 < depth) (depth - 1) (scanner.recordWord word) := by
  have hhead := hcounting.recordHead "END"
  rw [recordWord_eq, hword, countWord_end hhead.trigger hhead.body, hhead.depth]
  cases depth with
  | zero =>
      rw [if_neg (Nat.lt_irrefl 0)]
      exact ⟨hhead.trigger, hhead.head, rfl, rfl⟩
  | succ depth =>
      rw [if_pos (Nat.succ_pos depth)]
      exact ⟨hhead.trigger, hhead.head, hhead.body, rfl⟩

end Counting

theorem follow_induction {Keeps : SqlScanner → Prop} {token : Token}
    (hword : ∀ word ∈ wordsOf token, ∀ scanner, Keeps scanner → Keeps (scanner.recordWord word))
    {scanner : SqlScanner} (hkeeps : Keeps scanner) : Keeps (scanner.follow token) := by
  unfold follow
  generalize wordsOf token = words at hword
  induction words generalizing scanner with
  | nil => exact hkeeps
  | cons word words ih =>
      apply ih
      · exact hword word List.mem_cons_self scanner hkeeps
      · exact fun word hmem => hword word (List.mem_cons_of_mem _ hmem)

/-- No name of a body is taken for `CASE` or `END`. -/
abbrev BodyClauses : List Token → Prop :=
  Clauses fun token => ¬ ReadsAs "CASE" token ∧ ¬ ReadsAs "END" token

theorem passes_body {tokens : List Token} (hbody : BodyClauses tokens) {depth : Nat}
    {scanner : SqlScanner} (hcounting : Counting true depth scanner) :
    Passes (Counting true depth) scanner tokens := by
  induction hbody generalizing depth scanner with
  | nil => exact .nil hcounting
  | @name token rest hsemicolon _ hname _ ih =>
      apply Passes.cons fun htoken => absurd htoken hsemicolon
      apply ih
      refine follow_induction ?_ hcounting
      intro word hword later hlater
      refine hlater.other (Or.inl rfl) (Or.inr ?_) (Or.inr ?_)
      · exact fun hcase => hname.1 ⟨word, hword, hcase⟩
      · exact fun hend => hname.2 ⟨word, hword, hend⟩
  | @nested first last inner rest hfirst hlast _ _ ihinner ihrest =>
      apply Passes.keyword (by rw [hfirst]; decide)
      intro word hword
      apply Passes.append (ihinner (hcounting.opens (hword.trans hfirst)))
      intro later hlater
      apply Passes.keyword (by rw [hlast]; decide)
      intro word' hword'
      have hcloses := hlater.closes (hword'.trans hlast)
      rw [decide_eq_true (Nat.succ_pos depth), Nat.add_sub_cancel] at hcloses
      exact ihrest hcloses

/-- At most so many `CASE`s are open, and none outside of a body. -/
def Within (depth : Nat) (scanner : SqlScanner) : Prop :=
  ∃ isOpen count, Counting isOpen count scanner ∧ count ≤ depth ∧ (isOpen = false → count = 0)

theorem Within.recordWord {depth : Nat} {scanner : SqlScanner} (hwithin : Within depth scanner)
    {word : List Char} (hword : keywordOf word ≠ "CASE") :
    Within depth (scanner.recordWord word) := by
  obtain ⟨isOpen, count, hcounting, hcount, hclosed⟩ := hwithin
  by_cases hbegin : keywordOf word = "BEGIN"
  · exact ⟨true, count, hcounting.begins hbegin, hcount, nofun⟩
  · cases isOpen with
    | false =>
        have hother := hcounting.other (Or.inr hbegin) (Or.inl rfl) (Or.inl rfl)
        exact ⟨false, count, hother, hcount, hclosed⟩
    | true =>
        by_cases hend : keywordOf word = "END"
        · refine ⟨_, count - 1, hcounting.closes hend, by omega, ?_⟩
          intro hzero
          have hnone : ¬ 0 < count := of_decide_eq_false hzero
          omega
        · have hother := hcounting.other (Or.inl rfl) (Or.inr hword) (Or.inr hend)
          exact ⟨true, count, hother, hcount, nofun⟩

theorem Within.opens {depth : Nat} {scanner : SqlScanner} (hwithin : Within depth scanner)
    {word : List Char} (hword : keywordOf word = "CASE") :
    Within (depth + 1) (scanner.recordWord word) := by
  obtain ⟨isOpen, count, hcounting, hcount, hclosed⟩ := hwithin
  cases isOpen with
  | true => exact ⟨true, count + 1, hcounting.opens hword, by omega, nofun⟩
  | false =>
      have hother : Counting false count (scanner.recordWord word) :=
        hcounting.other (Or.inr (by simp [hword])) (Or.inl rfl) (Or.inl rfl)
      exact ⟨false, count, hother, by omega, hclosed⟩

theorem Within.closes {depth : Nat} {scanner : SqlScanner} (hwithin : Within (depth + 1) scanner)
    {word : List Char} (hword : keywordOf word = "END") :
    Within depth (scanner.recordWord word) := by
  obtain ⟨isOpen, count, hcounting, hcount, hclosed⟩ := hwithin
  cases isOpen with
  | true =>
      refine ⟨_, count - 1, hcounting.closes hword, by omega, ?_⟩
      intro hzero
      have hnone : ¬ 0 < count := of_decide_eq_false hzero
      omega
  | false =>
      have hother : Counting false count (scanner.recordWord word) :=
        hcounting.other (Or.inr (by simp [hword])) (Or.inl rfl) (Or.inl rfl)
      have hzero := hclosed rfl
      exact ⟨false, count, hother, by omega, hclosed⟩

/-- No name before a body is taken for `CASE`. -/
abbrev HeadClauses : List Token → Prop :=
  Clauses fun token => ¬ ReadsAs "CASE" token

theorem passes_head {tokens : List Token} (hhead : HeadClauses tokens) {depth : Nat}
    {scanner : SqlScanner} (hwithin : Within depth scanner) :
    Passes (Within depth) scanner tokens := by
  induction hhead generalizing depth scanner with
  | nil => exact .nil hwithin
  | @name token rest hsemicolon _ hname _ ih =>
      apply Passes.cons fun htoken => absurd htoken hsemicolon
      apply ih
      refine follow_induction ?_ hwithin
      intro word hword later hlater
      exact hlater.recordWord fun hcase => hname ⟨word, hword, hcase⟩
  | @nested first last inner rest hfirst hlast _ _ ihinner ihrest =>
      apply Passes.keyword (by rw [hfirst]; decide)
      intro word hword
      apply Passes.append (ihinner (hwithin.opens (hword.trans hfirst)))
      intro later hlater
      apply Passes.keyword (by rw [hlast]; decide)
      intro word' hword'
      exact ihrest (hlater.closes (hword'.trans hlast))

theorem semicolon_notMem_clauses {Name : Token → Prop} {tokens : List Token}
    (hclauses : Clauses Name tokens) : .semicolon ∉ tokens := by
  induction hclauses with
  | nil => exact List.not_mem_nil
  | name hsemicolon _ _ _ ih => exact List.not_mem_cons_of_ne_of_not_mem hsemicolon.symm ih
  | @nested first last inner rest hfirst hlast _ _ ihinner ihrest =>
      simp only [List.mem_cons, List.mem_append, not_or]
      refine ⟨?_, ihinner, ?_, ihrest⟩
      · rintro rfl
        exact absurd hfirst (by decide)
      · rintro rfl
        exact absurd hlast (by decide)

/-- Before a body nothing is counted unless a `BEGIN` is read. -/
theorem passes_closed {tokens : List Token} (htokens : .semicolon ∉ tokens)
    (hbegin : ∀ token ∈ tokens, ¬ ReadsAs "BEGIN" token) {scanner : SqlScanner}
    (hcounting : Counting false 0 scanner) : Passes (Counting false 0) scanner tokens := by
  induction tokens generalizing scanner with
  | nil => exact .nil hcounting
  | cons token tokens ih =>
      rw [List.mem_cons, not_or] at htokens
      apply Passes.cons fun hsemicolon => absurd hsemicolon.symm htokens.1
      apply ih htokens.2 fun other hother => hbegin other (List.mem_cons_of_mem _ hother)
      refine follow_induction ?_ hcounting
      intro word hword later hlater
      refine hlater.other (Or.inr ?_) (Or.inl rfl) (Or.inl rfl)
      exact fun hread => hbegin token List.mem_cons_self ⟨word, hword, hread⟩

/-- No `BEGIN` is read before the body, or no name is taken for `CASE`. -/
def LegibleHead (head : List Token) : Prop :=
  (AnyClauses head ∧ ∀ token ∈ head, ¬ ReadsAs "BEGIN" token) ∨ HeadClauses head

theorem passes_legibleHead {head : List Token} (hhead : LegibleHead head)
    {scanner : SqlScanner} (hcounting : Counting false 0 scanner) :
    Passes (Within 0) scanner head := by
  have hwithin : ∀ later, Counting false 0 later → Within 0 later :=
    fun later hlater => ⟨false, 0, hlater, le_rfl, fun _ => rfl⟩
  cases hhead with
  | inl hclosed =>
      obtain ⟨hclauses, hbegin⟩ := hclosed
      have hpasses := passes_closed (semicolon_notMem_clauses hclauses) hbegin hcounting
      exact ⟨hpasses.uncut, hwithin _ hpasses.post⟩
  | inr hclauses => exact passes_head hclauses (hwithin scanner hcounting)

theorem passes_commands {commands : List (List Token)}
    (hcommands : ∀ command ∈ commands, TriggerCommand BodyClauses command)
    {scanner : SqlScanner} (hcounting : Counting true 0 scanner) :
    Passes (Counting true 0) scanner commands.flatten := by
  induction commands generalizing scanner with
  | nil => exact .nil hcounting
  | cons command commands ih =>
      have hcommand : Passes (Counting true 0) scanner command := by
        cases hcommands command List.mem_cons_self with
        | mk _ hbody =>
            apply Passes.append (passes_body hbody hcounting)
            intro later hlater
            exact .cons (fun _ => hlater.body) (.nil hlater)
      rw [List.flatten_cons]
      apply Passes.append hcommand
      intro later hlater
      exact ih (fun other hother => hcommands other (List.mem_cons_of_mem _ hother)) hlater

theorem passes_trigger {tokens : List Token} (htrigger : Trigger LegibleHead BodyClauses tokens)
    {scanner : SqlScanner} (hfresh : Heading [] scanner) :
    Passes (Counting false 0) scanner tokens := by
  cases htrigger with
  | @mk create trigger first last temporary head commands hcreate htemporary htrigger hhead hfirst
      _ hcommands hlast =>
      apply passes_create hfresh hcreate htemporary
      intro words later hwords hheading
      have hstarts : ∀ more, isTriggerHead (words ++ ["TRIGGER"] ++ more) = true := by
        intro more
        simp only [List.mem_cons, List.not_mem_nil, or_false] at hwords
        rcases hwords with rfl | rfl | rfl <;> rfl
      have hshort : words.length < 3 := by
        simp only [List.mem_cons, List.not_mem_nil, or_false] at hwords
        rcases hwords with rfl | rfl | rfl <;> decide
      apply hheading.passes hshort
      · rw [htrigger]
        decide
      · rw [htrigger]
        exact fun hbegin => absurd hbegin (by decide)
      · rw [htrigger]
        intro started hstarted
        have hcounting : Counting false 0 started := by
          refine ⟨?_, ?_, hstarted.closed, hstarted.depth⟩
          · have hempty := hstarts []
            rwa [List.append_nil, ← hstarted.trigger] at hempty
          · rw [hstarted.words]
            exact hstarts
        apply Passes.append (passes_legibleHead hhead hcounting)
        intro headed hheaded
        obtain ⟨isOpen, count, hcount, hzero, -⟩ := hheaded
        obtain rfl : count = 0 := Nat.le_zero.mp hzero
        apply Passes.keyword (by rw [hfirst]; decide)
        intro word hword
        apply Passes.append (passes_commands hcommands (hcount.begins (hword.trans hfirst)))
        intro bodied hbodied
        apply Passes.keyword (by rw [hlast]; decide)
        intro word' hword'
        exact .nil (hbodied.closes (hword'.trans hlast))

end SqlScanner
end TauriPlatform
