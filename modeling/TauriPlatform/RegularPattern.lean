import Mathlib.Data.List.Basic

/-!
# Regular patterns

The texts which a regular expression matches from their first to their last character, and a
matcher which takes a text apart character by character.  The module names nothing of a
particular program.
-/

namespace Regular

inductive Pattern where
  | never
  | epsilon
  | set (accepts : Char → Bool)
  | seq (first second : Pattern)
  | either (left right : Pattern)
  | star (inner : Pattern)

inductive Matches : Pattern → List Char → Prop
  | epsilon : Matches .epsilon []
  | set {accepts : Char → Bool} {c : Char} (hc : accepts c) : Matches (.set accepts) [c]
  | seq {first second : Pattern} {left right : List Char} (hfirst : Matches first left)
      (hsecond : Matches second right) : Matches (.seq first second) (left ++ right)
  | left {left right : Pattern} {chars : List Char} (hleft : Matches left chars) :
      Matches (.either left right) chars
  | right {left right : Pattern} {chars : List Char} (hright : Matches right chars) :
      Matches (.either left right) chars
  | starNil {inner : Pattern} : Matches (.star inner) []
  | starCons {inner : Pattern} {first rest : List Char} (hfirst : Matches inner first)
      (hrest : Matches (.star inner) rest) : Matches (.star inner) (first ++ rest)

namespace Pattern

def plus (inner : Pattern) : Pattern :=
  .seq inner (.star inner)

def optional (inner : Pattern) : Pattern :=
  .either inner .epsilon

def char (c : Char) : Pattern :=
  .set (· == c)

def letter (c : Char) : Pattern :=
  .set fun d => d == c.toUpper || d == c.toLower

def text (chars : List Char) : Pattern :=
  chars.foldr (fun c rest => .seq (char c) rest) .epsilon

def textIgnoringCase (chars : List Char) : Pattern :=
  chars.foldr (fun c rest => .seq (letter c) rest) .epsilon

def anyOf (patterns : List Pattern) : Pattern :=
  patterns.foldr .either .never

/-! ## Matching -/

def nullable : Pattern → Bool
  | never => false
  | epsilon => true
  | set _ => false
  | seq first second => first.nullable && second.nullable
  | either left right => left.nullable || right.nullable
  | star _ => true

/-- `seq`, where a first part which matches nothing is dropped at once. -/
def andThen : Pattern → Pattern → Pattern
  | never, _ => never
  | first, second => seq first second

/-- `either`, where a part which matches nothing is dropped at once. -/
def orElse : Pattern → Pattern → Pattern
  | never, right => right
  | left, never => left
  | left, right => either left right

def derivative (c : Char) : Pattern → Pattern
  | never => never
  | epsilon => never
  | set accepts => if accepts c then epsilon else never
  | seq first second =>
      let later := andThen (derivative c first) second
      if first.nullable then orElse later (derivative c second) else later
  | either left right => orElse (derivative c left) (derivative c right)
  | star inner => andThen (derivative c inner) (star inner)

def accepts (pattern : Pattern) (chars : List Char) : Bool :=
  (chars.foldl (fun pattern c => pattern.derivative c) pattern).nullable

end Pattern

open Pattern

/-! ## What matches -/

section Matching

variable {pattern left right inner : Pattern} {chars : List Char} {c : Char}

@[simp] theorem not_matches_never : ¬ Matches .never chars := by
  intro hmatches
  cases hmatches

@[simp] theorem matches_epsilon : Matches .epsilon chars ↔ chars = [] := by
  constructor
  · intro hmatches
    cases hmatches
    rfl
  · rintro rfl
    exact .epsilon

variable {accepts : Char → Bool}

@[simp] theorem matches_set :
    Matches (.set accepts) chars ↔ ∃ c, accepts c ∧ chars = [c] := by
  constructor
  · intro hmatches
    cases hmatches with
    | set hc => exact ⟨_, hc, rfl⟩
  · rintro ⟨c, hc, rfl⟩
    exact .set hc

theorem matches_seq : Matches (.seq left right) chars ↔
    ∃ first second, Matches left first ∧ Matches right second ∧ chars = first ++ second := by
  constructor
  · intro hmatches
    cases hmatches with
    | seq hfirst hsecond => exact ⟨_, _, hfirst, hsecond, rfl⟩
  · rintro ⟨first, second, hfirst, hsecond, rfl⟩
    exact .seq hfirst hsecond

@[simp] theorem matches_either :
    Matches (.either left right) chars ↔ Matches left chars ∨ Matches right chars := by
  constructor
  · intro hmatches
    cases hmatches with
    | left hleft => exact .inl hleft
    | right hright => exact .inr hright
  · rintro (hleft | hright)
    · exact .left hleft
    · exact .right hright

@[simp] theorem matches_optional :
    Matches inner.optional chars ↔ Matches inner chars ∨ chars = [] := by
  simp [Pattern.optional]

@[simp] theorem matches_star_set :
    Matches (.star (.set accepts)) chars ↔ ∀ c ∈ chars, accepts c := by
  constructor
  · intro hmatches
    generalize hpattern : Pattern.star (.set accepts) = pattern at hmatches
    induction hmatches with
    | starNil => simp
    | starCons hfirst hrest ihfirst ihrest =>
        cases hpattern
        obtain ⟨c, hc, rfl⟩ := matches_set.mp hfirst
        rw [List.singleton_append, List.forall_mem_cons]
        exact ⟨hc, ihrest rfl⟩
    | epsilon => cases hpattern
    | set => cases hpattern
    | seq => cases hpattern
    | left => cases hpattern
    | right => cases hpattern
  · intro hall
    induction chars with
    | nil => exact .starNil
    | cons c rest ih =>
        obtain ⟨hc, hrest⟩ := List.forall_mem_cons.mp hall
        exact .starCons (.set hc) (ih hrest)

@[simp] theorem matches_plus_set :
    Matches (plus (.set accepts)) chars ↔ chars ≠ [] ∧ ∀ c ∈ chars, accepts c := by
  rw [plus, matches_seq]
  constructor
  · rintro ⟨first, second, hfirst, hsecond, rfl⟩
    obtain ⟨c, hc, rfl⟩ := matches_set.mp hfirst
    rw [List.singleton_append, List.forall_mem_cons]
    exact ⟨List.cons_ne_nil _ _, hc, matches_star_set.mp hsecond⟩
  · rintro ⟨hne, hall⟩
    cases chars with
    | nil => exact absurd rfl hne
    | cons c rest =>
        obtain ⟨hc, hrest⟩ := List.forall_mem_cons.mp hall
        exact ⟨[c], rest, .set hc, matches_star_set.mpr hrest, rfl⟩

@[simp] theorem matches_char : Matches (.char c) chars ↔ chars = [c] := by
  simp [char]

@[simp] theorem matches_text {expected : List Char} :
    Matches (text expected) chars ↔ chars = expected := by
  induction expected generalizing chars with
  | nil => simp [text]
  | cons c rest ih =>
      have hcons : text (c :: rest) = .seq (char c) (text rest) := rfl
      rw [hcons, matches_seq]
      constructor
      · rintro ⟨first, second, hfirst, hsecond, rfl⟩
        rw [matches_char.mp hfirst, ih.mp hsecond]
        rfl
      · rintro rfl
        exact ⟨[c], rest, matches_char.mpr rfl, ih.mpr rfl, rfl⟩

def hasCases (c : Char) : Bool :=
  c.toUpper = c && c.toLower.toUpper = c

theorem map_toUpper_of_matches {expected : List Char} (hcases : expected.all hasCases)
    (hmatches : Matches (textIgnoringCase expected) chars) :
    chars.map Char.toUpper = expected := by
  induction expected generalizing chars with
  | nil =>
      rw [matches_epsilon.mp hmatches]
      rfl
  | cons c rest ih =>
      rw [List.all_cons, Bool.and_eq_true] at hcases
      obtain ⟨first, second, hfirst, hsecond, rfl⟩ := matches_seq.mp hmatches
      obtain ⟨d, hd, rfl⟩ := matches_set.mp hfirst
      have hletter := hcases.1
      simp only [hasCases, Bool.and_eq_true, decide_eq_true_eq] at hletter
      have hupper : d.toUpper = c := by
        simp only [Bool.or_eq_true, beq_iff_eq] at hd
        rcases hd with rfl | rfl
        · rw [hletter.1, hletter.1]
        · exact hletter.2
      rw [List.singleton_append, List.map_cons, hupper, ih hcases.2 hsecond]

theorem matches_anyOf {patterns : List Pattern} :
    Matches (anyOf patterns) chars ↔ ∃ pattern ∈ patterns, Matches pattern chars := by
  induction patterns with
  | nil => simp [anyOf]
  | cons first rest ih =>
      have hcons : anyOf (first :: rest) = .either first (anyOf rest) := rfl
      rw [hcons, matches_either, ih]
      simp

end Matching

/-! ## The matcher -/

section Matcher

variable {pattern left right : Pattern} {chars : List Char} {c : Char}

theorem nullable_iff : pattern.nullable ↔ Matches pattern [] := by
  induction pattern with
  | never => simp [nullable]
  | epsilon => simp [nullable]
  | set accepts => simp [nullable]
  | seq first second ihfirst ihsecond =>
      rw [nullable, Bool.and_eq_true, ihfirst, ihsecond, matches_seq]
      constructor
      · rintro ⟨hfirst, hsecond⟩
        exact ⟨[], [], hfirst, hsecond, rfl⟩
      · rintro ⟨left, right, hfirst, hsecond, hnil⟩
        obtain ⟨rfl, rfl⟩ := List.append_eq_nil_iff.mp hnil.symm
        exact ⟨hfirst, hsecond⟩
  | either left right ihleft ihright =>
      rw [nullable, Bool.or_eq_true, ihleft, ihright, matches_either]
  | star inner ih => exact iff_of_true rfl .starNil

theorem matches_andThen : Matches (andThen left right) chars ↔ Matches (.seq left right) chars := by
  cases left with
  | never => simp [andThen, matches_seq]
  | _ => rfl

theorem matches_orElse :
    Matches (orElse left right) chars ↔ Matches left chars ∨ Matches right chars := by
  unfold orElse
  split
  · simp
  · simp
  · exact matches_either

theorem matches_star_cons {inner : Pattern} :
    Matches (.star inner) (c :: chars) ↔
      ∃ first rest, Matches inner (c :: first) ∧ Matches (.star inner) rest ∧
        chars = first ++ rest := by
  constructor
  · intro hmatches
    generalize hpattern : Pattern.star inner = pattern at hmatches
    generalize hchars : c :: chars = all at hmatches
    induction hmatches with
    | starNil => cases hchars
    | @starCons _ first rest hfirst hrest ihfirst ihrest =>
        cases hpattern
        cases first with
        | nil => exact ihrest rfl hchars
        | cons d first =>
            rw [List.cons_append, List.cons.injEq] at hchars
            obtain ⟨rfl, rfl⟩ := hchars
            exact ⟨first, rest, hfirst, hrest, rfl⟩
    | epsilon => cases hpattern
    | set => cases hpattern
    | seq => cases hpattern
    | left => cases hpattern
    | right => cases hpattern
  · rintro ⟨first, rest, hfirst, hrest, rfl⟩
    exact .starCons hfirst hrest

theorem matches_derivative :
    Matches (pattern.derivative c) chars ↔ Matches pattern (c :: chars) := by
  induction pattern generalizing chars with
  | never => simp [derivative]
  | epsilon => simp [derivative]
  | set accepts =>
      unfold derivative
      split_ifs with hc
      · rw [matches_epsilon, matches_set]
        constructor
        · rintro rfl
          exact ⟨c, hc, rfl⟩
        · rintro ⟨d, -, hsame⟩
          exact (List.cons.inj hsame).2
      · rw [matches_set]
        refine iff_of_false not_matches_never ?_
        rintro ⟨d, hd, hsame⟩
        rw [(List.cons.inj hsame).1] at hc
        exact hc hd
  | seq first second ihfirst ihsecond =>
      have hlater : Matches (andThen (first.derivative c) second) chars ↔
          ∃ left right, Matches first (c :: left) ∧ Matches second right ∧
            chars = left ++ right := by
        simp only [matches_andThen, matches_seq, ihfirst]
      have hsplit : Matches (.seq first second) (c :: chars) ↔
          (∃ left right, Matches first (c :: left) ∧ Matches second right ∧
            chars = left ++ right) ∨ Matches first [] ∧ Matches second (c :: chars) := by
        rw [matches_seq]
        constructor
        · rintro ⟨left, right, hleft, hright, hchars⟩
          cases left with
          | nil =>
              rw [List.nil_append] at hchars
              exact .inr ⟨hleft, hchars ▸ hright⟩
          | cons d left =>
              rw [List.cons_append, List.cons.injEq] at hchars
              obtain ⟨rfl, hchars⟩ := hchars
              exact .inl ⟨left, right, hleft, hright, hchars⟩
        · rintro (⟨left, right, hleft, hright, rfl⟩ | ⟨hnil, hsecond⟩)
          · exact ⟨c :: left, right, hleft, hright, rfl⟩
          · exact ⟨[], c :: chars, hnil, hsecond, rfl⟩
      unfold derivative
      split_ifs with hnullable
      · rw [matches_orElse, hlater, ihsecond, hsplit]
        simp only [nullable_iff.mp hnullable, true_and]
      · rw [hlater, hsplit]
        simp only [mt nullable_iff.mpr hnullable, false_and, or_false]
  | either left right ihleft ihright =>
      rw [derivative, matches_orElse, ihleft, ihright, matches_either]
  | star inner ih =>
      rw [derivative, matches_andThen, matches_seq, matches_star_cons]
      simp only [ih]

theorem accepts_iff : pattern.accepts chars ↔ Matches pattern chars := by
  induction chars generalizing pattern with
  | nil => exact nullable_iff
  | cons c rest ih =>
      have hstep : pattern.accepts (c :: rest) = (pattern.derivative c).accepts rest := rfl
      rw [hstep, ih, matches_derivative]

end Matcher

end Regular
