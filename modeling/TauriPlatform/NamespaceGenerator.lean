import TauriPlatform.JsonValue
import TauriPlatform.PlatformError

/-!
# Sync namespaces and their patterns

A namespace has five segments: application, organisation, sync group, feature and entity.  A
pattern is compared segment by segment, and the comparison ends at the first wildcard.  So a
wildcard which is not the last segment lets everything behind it through.
-/

namespace TauriPlatform

structure NamespaceComponents where
  applicationId : String
  organisationId : String
  syncGroupId : String
  featureId : String
  entityType : String

abbrev Segment := List Char

def wildcard : Segment := ['*']

namespace NamespaceGenerator

/-- The class `[a-z0-9_-]`. -/
def isSegmentChar (c : Char) : Bool :=
  ('a' ≤ c && c ≤ 'z') || isDecimalDigit c || c = '_' || c = '-'

/-- `SEGMENT_REGEX`. -/
def isSegment (value : Segment) : Bool :=
  value ≠ [] && value.all isSegmentChar

def entries (components : NamespaceComponents) : List (String × String) :=
  [("applicationId", components.applicationId),
    ("organisationId", components.organisationId),
    ("syncGroupId", components.syncGroupId),
    ("featureId", components.featureId),
    ("entityType", components.entityType)]

def joined (components : NamespaceComponents) : String :=
  components.applicationId ++ "/" ++ components.organisationId ++ "/" ++
    components.syncGroupId ++ "/" ++ components.featureId ++ "/" ++ components.entityType

def generate (components : NamespaceComponents) : Except Thrown String :=
  match (entries components).find? fun entry => !isSegment entry.2.toList with
  | some (key, value) =>
      .error (validationError
        (s!"Invalid segment '{value}' for namespace key '{key}'. Segments must only " ++
          "contain lowercase alphanumeric characters, underscores, or hyphens.")
        "Invalid sync namespace segment" s!"ns_val_{key}")
  | none => .ok (joined components)

/-- `text.split("/")`. -/
def segments (text : String) : List Segment :=
  text.toList.splitOn '/'

/-- The loop over the segments of a pattern, with the comparison of the lengths at its end. -/
def matchesSegments : List Segment → List Segment → Bool
  | [], nsSegments => nsSegments.isEmpty
  | p :: patternSegments, nsSegments =>
      if p = wildcard then true
      else
        match nsSegments with
        | [] => false
        | first :: nsSegments =>
            if p ≠ first then false else matchesSegments patternSegments nsSegments

def «matches» (pattern target : String) : Bool :=
  if pattern = "*" ∨ pattern = target then true
  else if (segments target).length < (segments pattern).length then false
  else matchesSegments (segments pattern) (segments target)

/-! ## Agreement -/

def SegmentAgrees (p segment : Segment) : Prop :=
  p = wildcard ∨ p = segment

instance (p segment : Segment) : Decidable (SegmentAgrees p segment) :=
  inferInstanceAs (Decidable (_ ∨ _))

/-- The segments of a pattern agree with the first ones of a namespace, and only a wildcard at
the end of the pattern covers more than one. -/
def Agrees (patternSegments nsSegments : List Segment) : Prop :=
  List.Forall₂ SegmentAgrees patternSegments (nsSegments.take patternSegments.length) ∧
    (patternSegments.length = nsSegments.length ∨ patternSegments.getLast? = some wildcard)

def literalHead (patternSegments : List Segment) : List Segment :=
  patternSegments.takeWhile (· ≠ wildcard)

def wildcardTail (patternSegments : List Segment) : List Segment :=
  patternSegments.dropWhile (· ≠ wildcard)

/-- Behind the first wildcard there are only wildcards, unless the pattern matches nothing. -/
def StaysWithin (patternSegments : List Segment) : Prop :=
  5 < patternSegments.length ∨ (∃ p ∈ literalHead patternSegments, ¬ isSegment p) ∨
    ∀ p ∈ wildcardTail patternSegments, p = wildcard

/-! ## What is generated -/

theorem not_slash_of_isSegment {segment : Segment} (hsegment : isSegment segment) :
    '/' ∉ segment := by
  intro hmem
  simp only [isSegment, Bool.and_eq_true, List.all_eq_true] at hsegment
  exact absurd (hsegment.2 _ hmem) (by decide)

theorem generate_eq_ok_iff {components : NamespaceComponents} {target : String} :
    generate components = .ok target ↔
      (∀ entry ∈ entries components, isSegment entry.2.toList) ∧ joined components = target := by
  have hfind : (entries components).find? (fun entry => !isSegment entry.2.toList) = none ↔
      ∀ entry ∈ entries components, isSegment entry.2.toList := by
    simp [List.find?_eq_none]
  unfold generate
  cases hfound : (entries components).find? fun entry => !isSegment entry.2.toList with
  | none =>
      simp only [Except.ok.injEq, iff_and_self]
      exact fun _ => hfind.mp hfound
  | some entry =>
      simp only [reduceCtorEq, false_iff, not_and]
      intro hall
      rw [hfind.mpr hall] at hfound
      cases hfound

theorem segments_joined {components : NamespaceComponents}
    (hsegments : ∀ entry ∈ entries components, isSegment entry.2.toList) :
    segments (joined components) = (entries components).map fun entry => entry.2.toList := by
  have hparts : ∀ segment ∈ (entries components).map (fun entry => entry.2.toList),
      '/' ∉ segment := by
    intro segment hmem
    rw [List.mem_map] at hmem
    obtain ⟨entry, hentry, rfl⟩ := hmem
    exact not_slash_of_isSegment (hsegments entry hentry)
  have hjoined : (joined components).toList =
      ['/'].intercalate ((entries components).map fun entry => entry.2.toList) := by
    simp [joined, entries, List.intercalate, List.intersperse]
  rw [segments, hjoined]
  exact List.splitOn_intercalate _ hparts (by simp [entries])

theorem exists_generate {parts : List Segment} (hlength : parts.length = 5)
    (hparts : ∀ part ∈ parts, isSegment part) :
    ∃ components target, generate components = .ok target ∧ segments target = parts := by
  match parts, hlength with
  | [first, second, third, fourth, fifth], _ =>
      let components : NamespaceComponents := {
        applicationId := String.ofList first
        organisationId := String.ofList second
        syncGroupId := String.ofList third
        featureId := String.ofList fourth
        entityType := String.ofList fifth }
      have hall : ∀ entry ∈ entries components, isSegment entry.2.toList := by
        simpa [entries, components] using hparts
      refine ⟨components, joined components, generate_eq_ok_iff.mpr ⟨hall, rfl⟩, ?_⟩
      rw [segments_joined hall]
      simp [entries, components]

/-! ## The loop -/

theorem matchesSegments_eq_true_iff (patternSegments nsSegments : List Segment) :
    matchesSegments patternSegments nsSegments = true ↔
      if wildcardTail patternSegments = [] then patternSegments = nsSegments
      else literalHead patternSegments <+: nsSegments := by
  induction patternSegments generalizing nsSegments with
  | nil =>
      cases nsSegments with
      | nil => simp [matchesSegments, wildcardTail]
      | cons first nsSegments => simp [matchesSegments, wildcardTail]
  | cons p patternSegments ih =>
      by_cases hwildcard : p = wildcard
      · simp [matchesSegments, wildcardTail, literalHead, hwildcard]
      · cases nsSegments with
        | nil => simp [matchesSegments, wildcardTail, literalHead, hwildcard]
        | cons first nsSegments =>
            by_cases hsame : p = first
            · have hrest := ih nsSegments
              simp only [wildcardTail, literalHead] at hrest
              simp [matchesSegments, wildcardTail, literalHead, hsame ▸ hwildcard, hsame, hrest]
            · simp [matchesSegments, wildcardTail, literalHead, hwildcard, hsame]

theorem literalHead_append_wildcardTail (patternSegments : List Segment) :
    literalHead patternSegments ++ wildcardTail patternSegments = patternSegments :=
  List.takeWhile_append_dropWhile

variable {patternSegments : List Segment}

theorem ne_wildcard_of_mem_literalHead {p : Segment} (hmem : p ∈ literalHead patternSegments) :
    p ≠ wildcard := by
  have hall := List.all_takeWhile (p := (· ≠ wildcard)) (l := patternSegments)
  simpa using List.all_eq_true.mp hall p hmem

theorem mem_of_mem_literalHead {p : Segment} (hmem : p ∈ literalHead patternSegments) :
    p ∈ patternSegments :=
  (List.takeWhile_prefix _).subset hmem

theorem forall₂_wildcards_iff {tail nsSegments : List Segment}
    (hwildcards : ∀ p ∈ tail, p = wildcard) :
    List.Forall₂ SegmentAgrees tail nsSegments ↔ tail.length = nsSegments.length := by
  constructor
  · exact List.Forall₂.length_eq
  · intro hlength
    rw [List.forall₂_iff_get]
    exact ⟨hlength, fun index hindex _ => .inl (hwildcards _ (List.get_mem _ _))⟩

theorem forall₂_take_iff {head tail : List Segment} (hhead : ∀ p ∈ head, p ≠ wildcard)
    (htail : ∀ p ∈ tail, p = wildcard) (nsSegments : List Segment) :
    List.Forall₂ SegmentAgrees (head ++ tail) (nsSegments.take (head ++ tail).length) ↔
      (head ++ tail).length ≤ nsSegments.length ∧ head <+: nsSegments := by
  induction head generalizing nsSegments with
  | nil =>
      rw [List.nil_append, forall₂_wildcards_iff htail, List.length_take]
      simp
  | cons p head ih =>
      have hrest := ih fun other hother => hhead other (List.mem_cons_of_mem _ hother)
      cases nsSegments with
      | nil => simp
      | cons first nsSegments =>
          have hliteral : SegmentAgrees p first ↔ p = first :=
            or_iff_right (hhead p List.mem_cons_self)
          simp only [List.cons_append, List.length_cons, List.take_succ_cons,
            List.forall₂_cons, hliteral, hrest nsSegments, List.cons_prefix_cons,
            Nat.add_le_add_iff_right]
          exact and_left_comm

theorem agrees_iff_of_wildcards {nsSegments : List Segment}
    (hwildcards : ∀ p ∈ wildcardTail patternSegments, p = wildcard) :
    Agrees patternSegments nsSegments ↔ patternSegments.length ≤ nsSegments.length ∧
      matchesSegments patternSegments nsSegments = true := by
  have hliteral : ∀ p ∈ literalHead patternSegments, p ≠ wildcard :=
    fun _ hmem => ne_wildcard_of_mem_literalHead hmem
  have hforall := forall₂_take_iff hliteral hwildcards nsSegments
  rw [literalHead_append_wildcardTail] at hforall
  rw [Agrees, hforall, matchesSegments_eq_true_iff]
  have hsplit := literalHead_append_wildcardTail patternSegments
  by_cases htail : wildcardTail patternSegments = []
  · rw [htail, List.append_nil] at hsplit
    have hlast : patternSegments.getLast? ≠ some wildcard := by
      intro hlast
      rw [← hsplit] at hlast
      exact ne_wildcard_of_mem_literalHead (List.mem_of_getLast? hlast) rfl
    rw [if_pos htail, hsplit]
    constructor
    · intro hagrees
      exact ⟨hagrees.1.1, hagrees.1.2.eq_of_length (hagrees.2.resolve_right hlast)⟩
    · intro hloop
      rw [hloop.2]
      exact ⟨⟨le_rfl, List.prefix_rfl⟩, .inl rfl⟩
  · have hlast : patternSegments.getLast? = some wildcard := by
      rw [← hsplit, List.getLast?_append_of_ne_nil _ htail, List.getLast?_eq_some_getLast htail]
      exact congrArg some (hwildcards _ (List.getLast_mem htail))
    rw [if_neg htail]
    simp [hlast]

/-! ## Patterns against generated namespaces -/

section Generated

variable {pattern target : String} {components : NamespaceComponents}

theorem matches_eq_true_iff (hpattern : pattern ≠ "*") :
    «matches» pattern target = true ↔
      (segments pattern).length ≤ (segments target).length ∧
        matchesSegments (segments pattern) (segments target) = true := by
  by_cases hsame : pattern = target
  · have hloop : matchesSegments (segments target) (segments target) = true := by
      rw [matchesSegments_eq_true_iff]
      split_ifs
      · rfl
      · exact List.takeWhile_prefix _
    simp [«matches», hsame, hloop]
  · simp [«matches», hsame, hpattern]

theorem length_segments (hgenerate : generate components = .ok target) :
    (segments target).length = 5 := by
  have hvalid := generate_eq_ok_iff.mp hgenerate
  rw [← hvalid.2, segments_joined hvalid.1]
  rfl

theorem isSegment_of_mem (hgenerate : generate components = .ok target) {segment : Segment}
    (hmem : segment ∈ segments target) : isSegment segment := by
  have hvalid := generate_eq_ok_iff.mp hgenerate
  rw [← hvalid.2, segments_joined hvalid.1, List.mem_map] at hmem
  obtain ⟨entry, hentry, rfl⟩ := hmem
  exact hvalid.1 entry hentry

variable {patternSegments : List Segment}

theorem exists_agreeing {nsSegments : List Segment}
    (hforall : List.Forall₂ SegmentAgrees patternSegments nsSegments) {p : Segment}
    (hmem : p ∈ patternSegments) : ∃ segment ∈ nsSegments, SegmentAgrees p segment := by
  induction hforall with
  | nil => cases hmem
  | cons hfirst _ ih =>
      cases List.mem_cons.mp hmem with
      | inl hsame => exact ⟨_, List.mem_cons_self, hsame ▸ hfirst⟩
      | inr hrest =>
          obtain ⟨segment, hsegment, hagrees⟩ := ih hrest
          exact ⟨segment, List.mem_cons_of_mem _ hsegment, hagrees⟩

theorem not_agrees_of_literal (hgenerate : generate components = .ok target) {p : Segment}
    (hmem : p ∈ literalHead patternSegments) (hinvalid : ¬ isSegment p) :
    ¬ Agrees patternSegments (segments target) := by
  intro hagrees
  have hpattern : p ∈ patternSegments := mem_of_mem_literalHead hmem
  obtain ⟨segment, hsegment, hsame⟩ := exists_agreeing hagrees.1 hpattern
  have hvalid := isSegment_of_mem hgenerate (List.mem_of_mem_take hsegment)
  rw [← hsame.resolve_left (ne_wildcard_of_mem_literalHead hmem)] at hvalid
  exact hinvalid hvalid

theorem not_matches_of_literal (hgenerate : generate components = .ok target) {p : Segment}
    (hmem : p ∈ literalHead patternSegments) (hinvalid : ¬ isSegment p) :
    ¬ matchesSegments patternSegments (segments target) = true := by
  intro hmatches
  rw [matchesSegments_eq_true_iff] at hmatches
  split_ifs at hmatches
  · rw [hmatches] at hmem
    exact hinvalid (isSegment_of_mem hgenerate (mem_of_mem_literalHead hmem))
  · exact hinvalid (isSegment_of_mem hgenerate (hmatches.subset hmem))

theorem exists_escape (hescapes : ¬ StaysWithin (segments pattern)) :
    ∃ components target, generate components = .ok target ∧
      matchesSegments (segments pattern) (segments target) = true ∧
      ¬ Agrees (segments pattern) (segments target) := by
  simp only [StaysWithin, not_or, not_lt, not_exists, not_and, not_not, not_forall] at hescapes
  obtain ⟨hlength, hhead, p, hp, hliteral⟩ := hescapes
  have hsplit := literalHead_append_wildcardTail (segments pattern)
  have hlengths := congrArg List.length hsplit
  have htail : wildcardTail (segments pattern) ≠ [] := List.ne_nil_of_mem hp
  have hpositive := List.length_pos_of_ne_nil htail
  rw [List.length_append] at hlengths
  -- the segments behind the literal ones are filled with one which differs from `p`
  obtain ⟨filler, hfiller, hdiffers⟩ : ∃ filler, isSegment filler ∧ p ≠ filler := by
    by_cases hsame : p = ['a']
    · exact ⟨['b'], by decide, hsame ▸ by decide⟩
    · exact ⟨['a'], by decide, hsame⟩
  let head := literalHead (segments pattern)
  let parts := head ++ List.replicate (5 - head.length) filler
  have hparts : ∀ part ∈ parts, isSegment part := by
    intro part hpart
    cases List.mem_append.mp hpart with
    | inl hliterals => exact hhead part hliterals
    | inr hfill => rwa [List.eq_of_mem_replicate hfill]
  have hfive : parts.length = 5 := by
    simp only [parts, List.length_append, List.length_replicate, head]
    omega
  obtain ⟨components, target, hgenerate, hsegments⟩ := exists_generate hfive hparts
  refine ⟨components, target, hgenerate, ?_, ?_⟩
  · rw [matchesSegments_eq_true_iff, if_neg htail, hsegments]
    exact List.prefix_append _ _
  · intro hagrees
    have hdrop := List.forall₂_drop head.length hagrees.1
    have hbehind : (segments pattern).drop head.length = wildcardTail (segments pattern) :=
      (congrArg (List.drop head.length) hsplit.symm).trans List.drop_left
    rw [hbehind, hsegments, List.drop_take, List.drop_left] at hdrop
    obtain ⟨segment, hsegment, hsame⟩ := exists_agreeing hdrop hp
    have hfilled := List.eq_of_mem_replicate (List.mem_of_mem_take hsegment)
    exact hsame.elim hliteral fun hequal => hdiffers (hequal.trans hfilled)

/-- A pattern agrees with what it matches, for all namespaces, exactly if it stays within. -/
theorem matches_bounded_iff (hpattern : pattern ≠ "*") :
    (∀ components target, generate components = .ok target →
      («matches» pattern target = true ↔ Agrees (segments pattern) (segments target))) ↔
      StaysWithin (segments pattern) := by
  constructor
  · intro hbounded
    by_contra hescapes
    obtain ⟨components, target, hgenerate, hloop, hagrees⟩ := exists_escape hescapes
    have hlength : (segments pattern).length ≤ (segments target).length := by
      rw [length_segments hgenerate]
      exact not_lt.mp fun hlong => hescapes (.inl hlong)
    exact hagrees ((hbounded components target hgenerate).mp
      ((matches_eq_true_iff hpattern).mpr ⟨hlength, hloop⟩))
  · intro hstays components target hgenerate
    rw [matches_eq_true_iff hpattern]
    rcases hstays with hlong | ⟨p, hmem, hinvalid⟩ | hwildcards
    · have hshort := length_segments hgenerate
      have hagrees : ¬ Agrees (segments pattern) (segments target) := by
        intro hagrees
        have hlengths := hagrees.1.length_eq
        rw [List.length_take] at hlengths
        omega
      simp only [hagrees, iff_false, not_and]
      intro hlength
      omega
    · simp [not_agrees_of_literal hgenerate hmem hinvalid,
        not_matches_of_literal hgenerate hmem hinvalid]
    · exact (agrees_iff_of_wildcards hwildcards).symm

end Generated

def coventry : NamespaceComponents where
  applicationId := "wms"
  organisationId := "acme"
  syncGroupId := "coventry"
  featureId := "inventory"
  entityType := "items"

/-- A pattern for all organisations and one sync group matches another sync group. -/
theorem group_pattern_escapes :
    ¬ ∀ pattern, pattern ≠ "*" → ∀ components target, generate components = .ok target →
      («matches» pattern target = true ↔ Agrees (segments pattern) (segments target)) := by
  intro hbounded
  have hmatches : «matches» "wms/*/birmingham/*" "wms/acme/coventry/inventory/items" = true := by
    decide
  have hagrees := (hbounded "wms/*/birmingham/*" (by decide) coventry
    "wms/acme/coventry/inventory/items" (by rfl)).mp hmatches
  have hgroup := List.Forall₂.get hagrees.1 (i := 2) (by decide) (by decide)
  exact absurd hgroup (by decide)

theorem last_wildcard_bounded :
    «matches» "wms/acme/coventry/*" "wms/acme/coventry/inventory/items" = true ↔
      Agrees (segments "wms/acme/coventry/*") (segments "wms/acme/coventry/inventory/items") :=
  (matches_bounded_iff (by decide)).mpr (.inr (.inr (by decide))) coventry _ (by rfl)

end NamespaceGenerator
end TauriPlatform
