import TauriPlatform.HandshakeProtocol
import TauriPlatform.ReadingRange
import Mathlib.Data.List.Perm.Basic

/-!
# Handshakes which share their nonces

A nonce is looked up before the signature is verified and recorded after it.  Calls for
one nonce whose verifications overlap are all accepted.
-/

namespace TauriPlatform
namespace HandshakeValidator

open Async

/-! ## Calls in flight -/

/-- A call of `requireValid` with the clock reading it makes. -/
structure HandshakeAttempt where
  now : ClockReading
  message : Option HandshakeMessage
  options : HandshakeValidationOptions
  correlationId : String

namespace HandshakeAttempt

def program (dateParse : DateParse) (attempt : HandshakeAttempt) :
    Program HandshakeCall Thrown Unit :=
  requireValid dateParse attempt.now attempt.message attempt.options attempt.correlationId

def nonce? (attempt : HandshakeAttempt) : Option String :=
  attempt.message.map HandshakeMessage.nonce

end HandshakeAttempt

def sharedNonces : Immediate HandshakeCall Thrown (Finset String)
  | _, .seen nonce, seenNonces => some (.ok (nonce ∈ seenNonces), seenNonces)
  | _, .record nonce, seenNonces => some (.ok (), insert nonce seenNonces)
  | _, .verifyFn _ _ _, _ => none

abbrev HandshakeSystem := Segments HandshakeAttempt HandshakeCall Thrown Unit (Finset String)

def acceptedNonces (settled : List (HandshakeAttempt × Except Thrown Unit)) : List String :=
  settled.filterMap fun entry => if entry.2.isOk then entry.1.nonce? else none

/-- A run of calls which share one set; a verification may be answered with anything. -/
abbrev HandshakesReach (dateParse : DateParse)
    (Allowed : HandshakeAttempt → HandshakeSystem → Prop) (seenNonces : Finset String)
    (system : HandshakeSystem) : Prop :=
  Segments.Reaches sharedNonces (HandshakeAttempt.program dateParse)
    (fun attempt system => attempt.options.seenNonces ∧ Allowed attempt system)
    (fun _ _ _ => True) seenNonces system

def PassesChecks (dateParse : DateParse) (attempt : HandshakeAttempt)
    (seenNonces : Finset String) (message : HandshakeMessage) : Prop :=
  attempt.message = some message ∧
    validateIdentity dateParse attempt.now message attempt.options = .ok () ∧
    message.nonce ∉ seenNonces ∧ validateFormats message = .ok ()

/-- No call with the nonce awaits its verification while another one passes the checks. -/
def NoneOverlapping (dateParse : DateParse) (attempt : HandshakeAttempt)
    (system : HandshakeSystem) : Prop :=
  ∀ message, PassesChecks dateParse attempt system.state message →
    ∀ other ∈ system.waiting, other.label.nonce? ≠ some message.nonce

/-! ## One call -/

def afterVerification (message : HandshakeMessage) (options : HandshakeValidationOptions)
    (correlationId : String) (answer : Except Thrown Bool) :
    Program HandshakeCall Thrown Unit := do
  let sigValid ← Program.ofExcept answer
  Program.ofExcept (requireSignature message correlationId sigValid)
  recordNonce message options

variable {dateParse : DateParse} {attempt : HandshakeAttempt} {seenNonces : Finset String}
  {message : HandshakeMessage}

theorem validateFresh_eq_ok_iff {message validated : HandshakeMessage} {replayed : Bool} :
    validateFresh message replayed = .ok validated ↔
      replayed = false ∧ validateFormats message = .ok () ∧ message = validated := by
  unfold validateFresh
  cases replayed with
  | true => simp
  | false =>
      cases hformats : validateFormats message with
      | error rejection => simp [Except.map]
      | ok passed => simp [Except.map]

theorem validate_toAwait (dateParse : DateParse) (attempt : HandshakeAttempt)
    (seenNonces : Finset String) (hshared : attempt.options.seenNonces) :
    ∃ outcome, (validate dateParse attempt.now attempt.message attempt.options).toAwait
        sharedNonces seenNonces = (.done (.ok outcome), seenNonces) ∧
      ∀ message, outcome = .ok message ↔ PassesChecks dateParse attempt seenNonces message := by
  unfold PassesChecks
  cases attempt.message with
  | none => exact ⟨_, rfl, by simp⟩
  | some message =>
      cases hidentity : validateIdentity dateParse attempt.now message attempt.options with
      | error rejection =>
          refine ⟨.error rejection, ?_, ?_⟩
          · simp only [validate, hidentity]
            rfl
          · intro other
            constructor
            · intro h
              cases h
            · rintro ⟨hmessage, hpassed, -⟩
              cases hmessage
              cases hidentity.symm.trans hpassed
      | ok passed =>
          refine ⟨validateFresh message (message.nonce ∈ seenNonces), ?_, ?_⟩
          · simp only [validate, hidentity, hshared, if_true]
            rfl
          · intro other
            rw [validateFresh_eq_ok_iff, decide_eq_false_iff_not]
            constructor
            · rintro ⟨hunseen, hformats, rfl⟩
              exact ⟨rfl, hidentity, hunseen, hformats⟩
            · rintro ⟨hmessage, -, hunseen, hformats⟩
              cases hmessage
              exact ⟨hunseen, hformats, rfl⟩

theorem requireValid_toAwait (dateParse : DateParse) (attempt : HandshakeAttempt)
    (seenNonces : Finset String) (hshared : attempt.options.seenNonces) :
    (∃ thrown, (attempt.program dateParse).toAwait sharedNonces seenNonces =
        (.done (.error thrown), seenNonces) ∧
        ∀ message, ¬ PassesChecks dateParse attempt seenNonces message) ∨
      ∃ message, PassesChecks dateParse attempt seenNonces message ∧
        (attempt.program dateParse).toAwait sharedNonces seenNonces =
          if attempt.options.verifyFn then
            (.call (.verifyFn message.signerPublicKey (canonicalizeHandshake message)
              message.signature)
              (afterVerification message attempt.options attempt.correlationId), seenNonces)
          else (.done (.ok ()), insert message.nonce seenNonces) := by
  obtain ⟨outcome, hvalidate, hpasses⟩ :=
    validate_toAwait dateParse attempt seenNonces hshared
  rw [HandshakeAttempt.program, requireValid, Program.toAwait_bind_ok hvalidate]
  cases outcome with
  | error rejection =>
      apply Or.inl
      refine ⟨_, rfl, ?_⟩
      intro message hpassed
      cases (hpasses message).mpr hpassed
  | ok message =>
      apply Or.inr
      refine ⟨message, (hpasses message).mp rfl, ?_⟩
      by_cases hverify : attempt.options.verifyFn
      · simp only [hverify, if_true]
        rfl
      · simp only [hverify, recordNonce, hshared, if_true]
        rfl

theorem afterVerification_toAwait (message : HandshakeMessage)
    {options : HandshakeValidationOptions} (correlationId : String)
    (answer : Except Thrown Bool) (seenNonces : Finset String) (hshared : options.seenNonces) :
    (∃ thrown, (afterVerification message options correlationId answer).toAwait sharedNonces
        seenNonces = (.done (.error thrown), seenNonces)) ∨
      (afterVerification message options correlationId answer).toAwait sharedNonces
        seenNonces = (.done (.ok ()), insert message.nonce seenNonces) := by
  cases answer with
  | error thrown => exact Or.inl ⟨thrown, rfl⟩
  | ok sigValid =>
      cases sigValid with
      | false => exact Or.inl ⟨_, rfl⟩
      | true =>
          apply Or.inr
          simp only [afterVerification, recordNonce, hshared, if_true]
          rfl

/-! ## Every run -/

/-- The nonces of the calls which wait differ from each other, and from the recorded ones. -/
structure NoncesApart (system : HandshakeSystem) : Prop where
  accepted : (acceptedNonces system.settled).Nodup
  recorded : ∀ nonce ∈ acceptedNonces system.settled, nonce ∈ system.state
  waits : ∀ thread ∈ system.waiting, thread.label.options.seenNonces ∧
    ∃ message, thread.label.nonce? = some message.nonce ∧ message.nonce ∉ system.state ∧
      thread.program = .call (.verifyFn message.signerPublicKey
        (canonicalizeHandshake message) message.signature)
        (afterVerification message thread.label.options thread.label.correlationId)
  apart : system.waiting.Pairwise fun first second => first.label.nonce? ≠ second.label.nonce?

theorem acceptedNonces_append (settled : List (HandshakeAttempt × Except Thrown Unit))
    (attempt : HandshakeAttempt) (outcome : Except Thrown Unit) :
    acceptedNonces (settled ++ [(attempt, outcome)]) =
      acceptedNonces settled ++ if outcome.isOk then attempt.nonce?.toList else [] := by
  unfold acceptedNonces
  rw [List.filterMap_append]
  cases outcome with
  | error thrown => simp [Except.isOk, Except.toBool]
  | ok _ =>
      cases hnonce : attempt.nonce? with
      | none => simp [Except.isOk, Except.toBool, hnonce]
      | some nonce => simp [Except.isOk, Except.toBool, hnonce]

variable {state : Finset String} {waiting : List (Thread HandshakeAttempt HandshakeCall Thrown Unit)}
  {settled : List (HandshakeAttempt × Except Thrown Unit)} {attempt : HandshakeAttempt}

theorem NoncesApart.fail (hapart : NoncesApart ⟨state, waiting, settled⟩) (thrown : Thrown) :
    NoncesApart ⟨state, waiting, settled ++ [(attempt, .error thrown)]⟩ where
  accepted := by
    simpa [acceptedNonces_append, Except.isOk, Except.toBool] using hapart.accepted
  recorded := by
    simpa [acceptedNonces_append, Except.isOk, Except.toBool] using hapart.recorded
  waits := hapart.waits
  apart := hapart.apart

theorem NoncesApart.accept (hapart : NoncesApart ⟨state, waiting, settled⟩) {nonce : String}
    (hnonce : attempt.nonce? = some nonce) (hunseen : nonce ∉ state)
    (hothers : ∀ other ∈ waiting, other.label.nonce? ≠ some nonce) :
    NoncesApart ⟨insert nonce state, waiting, settled ++ [(attempt, .ok ())]⟩ := by
  have hlist : acceptedNonces (settled ++ [(attempt, .ok ())]) =
      acceptedNonces settled ++ [nonce] := by
    simp [acceptedNonces_append, Except.isOk, Except.toBool, hnonce]
  constructor
  · change (acceptedNonces (settled ++ [(attempt, .ok ())])).Nodup
    rw [hlist]
    apply List.nodup_append'.mpr
    refine ⟨hapart.accepted, List.nodup_singleton nonce, ?_⟩
    intro other hother hsame
    rw [List.mem_singleton.mp hsame] at hother
    exact hunseen (hapart.recorded nonce hother)
  · intro other hother
    change other ∈ acceptedNonces (settled ++ [(attempt, .ok ())]) at hother
    rw [hlist, List.mem_append, List.mem_singleton] at hother
    cases hother with
    | inl hold => exact Finset.mem_insert_of_mem (hapart.recorded other hold)
    | inr hnew => exact hnew ▸ Finset.mem_insert_self nonce state
  · intro thread hthread
    obtain ⟨hshared, message, hlabel, hfresh, hprogram⟩ := hapart.waits thread hthread
    refine ⟨hshared, message, hlabel, ?_, hprogram⟩
    intro hmem
    cases Finset.mem_insert.mp hmem with
    | inl hsame => exact hothers thread hthread (hsame ▸ hlabel)
    | inr hold => exact hfresh hold
  · exact hapart.apart

theorem NoncesApart.start (hapart : NoncesApart ⟨state, waiting, settled⟩)
    (hshared : attempt.options.seenNonces)
    (hnone : NoneOverlapping dateParse attempt ⟨state, waiting, settled⟩) :
    NoncesApart (Segments.proceed sharedNonces attempt (attempt.program dateParse)
      ⟨state, waiting, settled⟩) := by
  cases requireValid_toAwait dateParse attempt state hshared with
  | inl hrejected =>
      obtain ⟨thrown, hrun, -⟩ := hrejected
      rw [Segments.proceed_of_done hrun]
      exact hapart.fail thrown
  | inr hpassed =>
      obtain ⟨message, hpasses, hrun⟩ := hpassed
      have hnonce : attempt.nonce? = some message.nonce := by
        rw [HandshakeAttempt.nonce?, hpasses.1]
        rfl
      have hothers := hnone message hpasses
      by_cases hverify : attempt.options.verifyFn
      · rw [if_pos hverify] at hrun
        rw [Segments.proceed_of_await hrun]
        refine ⟨hapart.accepted, hapart.recorded, ?_, ?_⟩
        · intro thread hthread
          cases List.mem_cons.mp hthread with
          | inl hnew =>
              rw [hnew]
              exact ⟨hshared, message, hnonce, hpasses.2.2.1, rfl⟩
          | inr hold => exact hapart.waits thread hold
        · refine List.Pairwise.cons ?_ hapart.apart
          intro other hother hsame
          exact hothers other hother (hsame.symm.trans hnonce)
      · rw [if_neg hverify] at hrun
        rw [Segments.proceed_of_done hrun]
        exact hapart.accept hnonce hpasses.2.2.1 hothers

theorem NoncesApart.resume {β : Type} {request : HandshakeCall β}
    {rest : Except Thrown β → Program HandshakeCall Thrown Unit}
    {before after : List (Thread HandshakeAttempt HandshakeCall Thrown Unit)}
    (hapart : NoncesApart ⟨state, before ++ ⟨attempt, .call request rest⟩ :: after, settled⟩)
    (answer : Except Thrown β) :
    NoncesApart (Segments.proceed sharedNonces attempt (rest answer)
      ⟨state, before ++ after, settled⟩) := by
  have hpairs := List.pairwise_append.mp hapart.apart
  have hself : ∀ other ∈ before ++ after, other.label.nonce? ≠ attempt.nonce? := by
    intro other hother
    cases List.mem_append.mp hother with
    | inl hbefore => exact hpairs.2.2 other hbefore _ List.mem_cons_self
    | inr hafter => exact ((List.pairwise_cons.mp hpairs.2.1).1 other hafter).symm
  have hothers : NoncesApart ⟨state, before ++ after, settled⟩ := by
    refine ⟨hapart.accepted, hapart.recorded, ?_, ?_⟩
    · intro thread hthread
      apply hapart.waits thread
      cases List.mem_append.mp hthread with
      | inl hbefore => exact List.mem_append_left _ hbefore
      | inr hafter => exact List.mem_append_right _ (List.mem_cons_of_mem _ hafter)
    · apply List.Pairwise.sublist _ hapart.apart
      exact List.Sublist.append_left (List.sublist_cons_self _ _) before
  obtain ⟨hshared, message, hnonce, hunseen, hprogram⟩ :=
    hapart.waits ⟨attempt, .call request rest⟩ (by simp)
  dsimp only at hshared hnonce hprogram
  cases hprogram
  cases afterVerification_toAwait message attempt.correlationId answer state hshared with
  | inl hfailed =>
      obtain ⟨thrown, hrun⟩ := hfailed
      rw [Segments.proceed_of_done hrun]
      exact hothers.fail thrown
  | inr haccepted =>
      rw [Segments.proceed_of_done haccepted]
      exact hothers.accept hnonce hunseen fun other hother => hnonce ▸ hself other hother

theorem NoncesApart.idle (seenNonces : Finset String) : NoncesApart (.idle seenNonces) where
  accepted := List.nodup_nil
  recorded _ hnonce := absurd hnonce List.not_mem_nil
  waits _ hthread := absurd hthread List.not_mem_nil
  apart := List.Pairwise.nil

/-- Where calls for one nonce do not overlap, a nonce is accepted at most once. -/
theorem nonce_accepted_once {seenNonces : Finset String} {system : HandshakeSystem}
    (hreaches : HandshakesReach dateParse (NoneOverlapping dateParse) seenNonces system) :
    (acceptedNonces system.settled).Nodup := by
  have hapart : NoncesApart system := by
    apply Segments.Reaches.invariant NoncesApart (.idle seenNonces) _ _ hreaches
    · intro label system hsystem hallowed
      exact hsystem.start hallowed.1 hallowed.2
    · intro β request rest label answer state before after settled hsystem _
      exact hsystem.resume answer
  exact hapart.accepted

/-! ## Overlapping calls -/

theorem afterVerification_true_toAwait (message : HandshakeMessage)
    {options : HandshakeValidationOptions} (correlationId : String)
    (seenNonces : Finset String) (hshared : options.seenNonces) :
    (afterVerification message options correlationId (.ok true)).toAwait sharedNonces
      seenNonces = (.done (.ok ()), insert message.nonce seenNonces) := by
  simp only [afterVerification, recordNonce, hshared, if_true]
  rfl

abbrev SharedStep (dateParse : DateParse)
    (Allowed : HandshakeAttempt → HandshakeSystem → Prop) (system later : HandshakeSystem) :
    Prop :=
  Segments.Step sharedNonces (HandshakeAttempt.program dateParse)
    (fun attempt system => attempt.options.seenNonces ∧ Allowed attempt system)
    (fun _ _ _ => True) system later

variable {Allowed : HandshakeAttempt → HandshakeSystem → Prop}

theorem SharedStep.accept (state : Finset String)
    (before after : List (Thread HandshakeAttempt HandshakeCall Thrown Unit))
    (settled : List (HandshakeAttempt × Except Thrown Unit)) {label : HandshakeAttempt}
    (message : HandshakeMessage) (hshared : label.options.seenNonces) :
    SharedStep dateParse Allowed
      ⟨state, before ++ ⟨label, .call (.verifyFn message.signerPublicKey
        (canonicalizeHandshake message) message.signature)
        (afterVerification message label.options label.correlationId)⟩ :: after, settled⟩
      ⟨insert message.nonce state, before ++ after, settled ++ [(label, .ok ())]⟩ := by
  have hstep : SharedStep dateParse Allowed _ _ := Segments.Step.resume
    (.verifyFn message.signerPublicKey (canonicalizeHandshake message) message.signature)
    (afterVerification message label.options label.correlationId) label (.ok true) state before
    after settled trivial
  have haccepted := afterVerification_true_toAwait message label.correlationId state hshared
  rwa [Segments.proceed_of_done haccepted] at hstep

theorem accepted_beside_others
    (hallowed : Allowed attempt ⟨state, waiting, settled⟩) {message : HandshakeMessage}
    (hshared : attempt.options.seenNonces)
    (hpasses : PassesChecks dateParse attempt state message) :
    Relation.ReflTransGen (SharedStep dateParse Allowed) ⟨state, waiting, settled⟩
      ⟨insert message.nonce state, waiting, settled ++ [(attempt, .ok ())]⟩ := by
  have hstart : SharedStep dateParse Allowed ⟨state, waiting, settled⟩
      (Segments.proceed sharedNonces attempt (attempt.program dateParse)
        ⟨state, waiting, settled⟩) :=
    Segments.Step.start attempt ⟨state, waiting, settled⟩ ⟨hshared, hallowed⟩
  cases requireValid_toAwait dateParse attempt state hshared with
  | inl hrejected =>
      obtain ⟨thrown, -, hnone⟩ := hrejected
      exact absurd hpasses (hnone message)
  | inr hpassed =>
      obtain ⟨other, hother, hrun⟩ := hpassed
      have hsame : other = message := Option.some.inj (hother.1.symm.trans hpasses.1)
      subst hsame
      by_cases hverify : attempt.options.verifyFn
      · rw [if_pos hverify] at hrun
        rw [Segments.proceed_of_await hrun] at hstart
        have haccept : SharedStep dateParse Allowed _ _ :=
          SharedStep.accept state [] waiting settled other hshared
        exact (Relation.ReflTransGen.single hstart).tail haccept
      · rw [if_neg hverify] at hrun
        rw [Segments.proceed_of_done hrun] at hstart
        exact Relation.ReflTransGen.single hstart

/-- A call which passes the checks while another one waits with its nonce may lead to both
being accepted. -/
theorem accepted_twice_of_overlap {system : HandshakeSystem} {message : HandshakeMessage}
    {other : Thread HandshakeAttempt HandshakeCall Thrown Unit} (hapart : NoncesApart system)
    (hshared : attempt.options.seenNonces)
    (hpasses : PassesChecks dateParse attempt system.state message)
    (hother : other ∈ system.waiting) (hnonce : other.label.nonce? = some message.nonce) :
    ∃ later, Relation.ReflTransGen (SharedStep dateParse fun _ _ => True) system later ∧
      ¬ (acceptedNonces later.settled).Nodup := by
  obtain ⟨before, after, hwaiting⟩ := List.append_of_mem hother
  obtain ⟨hsharedOther, message', hnonce', -, hprogram⟩ := hapart.waits other hother
  have hfirst : Relation.ReflTransGen (SharedStep dateParse fun _ _ => True) system
      ⟨insert message.nonce system.state, system.waiting,
        system.settled ++ [(attempt, .ok ())]⟩ :=
    accepted_beside_others trivial hshared hpasses
  have hsecond : SharedStep dateParse (fun _ _ => True)
      ⟨insert message.nonce system.state, system.waiting,
        system.settled ++ [(attempt, .ok ())]⟩
      ⟨insert message'.nonce (insert message.nonce system.state), before ++ after,
        system.settled ++ [(attempt, .ok ())] ++ [(other.label, .ok ())]⟩ := by
    have haccept : SharedStep dateParse (fun _ _ => True) _ _ := SharedStep.accept
      (insert message.nonce system.state) before after (system.settled ++ [(attempt, .ok ())])
      message' hsharedOther
    rwa [← hprogram, ← hwaiting] at haccept
  refine ⟨_, hfirst.tail hsecond, ?_⟩
  have hattempt : attempt.nonce? = some message.nonce := by
    rw [HandshakeAttempt.nonce?, hpasses.1]
    rfl
  intro hnodup
  rw [acceptedNonces_append, acceptedNonces_append, hattempt, hnonce] at hnodup
  simp [Except.isOk, Except.toBool, List.nodup_append] at hnodup

def peerHandshake : HandshakeAttempt where
  now := ⟨0, ClockReading.inRange_epoch⟩
  message := some {
    applicationId := "app"
    applicationVersion := "1.0.0"
    protocolVersion := .finite (.integer 1)
    deviceId := "peer"
    organisationId := "org"
    platform := "linux"
    supportedFeatures := []
    supportedEntityVersions := []
    timestamp := "1970-01-01T00:00:00.000Z"
    nonce := String.ofList (List.replicate 32 'a')
    signerPublicKey := "ed25519_pk_" ++ String.ofList (List.replicate 64 'b')
    signature := String.ofList (List.replicate 128 'c') }
  options := {
    expectedApplicationId := "app"
    expectedOrganisationId := "org"
    minimumProtocolVersion := .finite (.integer 1)
    seenNonces := true
    verifyFn := true }
  correlationId := "c"

theorem peerHandshake_passes :
    ∃ message, PassesChecks isoInstant? peerHandshake ∅ message := by
  refine ⟨_, rfl, ?_, Finset.notMem_empty _, ?_⟩
  · decide +kernel
  · decide +kernel

theorem handshake_accepted_once :
    ∃ system, HandshakesReach isoInstant? (NoneOverlapping isoInstant?) ∅ system ∧
      (acceptedNonces system.settled).length = 1 ∧ (acceptedNonces system.settled).Nodup := by
  obtain ⟨message, hpasses⟩ := peerHandshake_passes
  have hallowed : NoneOverlapping isoInstant? peerHandshake (.idle ∅) := by
    intro message _ other hother
    exact absurd hother List.not_mem_nil
  have hreaches : HandshakesReach isoInstant? (NoneOverlapping isoInstant?) ∅ _ :=
    accepted_beside_others hallowed rfl hpasses
  exact ⟨_, hreaches, rfl, nonce_accepted_once hreaches⟩

/-- The second of two calls with one message begins while the first one is verified. -/
theorem overlapping_handshakes_accepted :
    ¬ ∀ (dateParse : DateParse) (seenNonces : Finset String) (system : HandshakeSystem),
      HandshakesReach dateParse (fun _ _ => True) seenNonces system →
        (acceptedNonces system.settled).Nodup := by
  intro honce
  obtain ⟨message, hpasses⟩ := peerHandshake_passes
  cases requireValid_toAwait isoInstant? peerHandshake ∅ rfl with
  | inl hrejected =>
      obtain ⟨thrown, -, hnone⟩ := hrejected
      exact hnone message hpasses
  | inr hpassed =>
      obtain ⟨other, hother, hrun⟩ := hpassed
      have hsame : other = message := Option.some.inj (hother.1.symm.trans hpasses.1)
      have hverify : peerHandshake.options.verifyFn = true := rfl
      rw [hsame, if_pos hverify] at hrun
      have hfirst : SharedStep isoInstant? (fun _ _ => True) (.idle ∅) _ :=
        Segments.Step.start peerHandshake (.idle ∅) ⟨rfl, trivial⟩
      have hapart : NoncesApart (Segments.proceed sharedNonces peerHandshake
          (peerHandshake.program isoInstant?) (.idle ∅)) := by
        apply (NoncesApart.idle ∅).start rfl
        intro message _ other hother
        exact absurd hother List.not_mem_nil
      rw [Segments.proceed_of_await hrun] at hfirst hapart
      have hnonce : peerHandshake.nonce? = some message.nonce := by
        rw [HandshakeAttempt.nonce?, hpasses.1]
        rfl
      obtain ⟨later, hlater, htwice⟩ :=
        accepted_twice_of_overlap hapart rfl hpasses List.mem_cons_self hnonce
      exact htwice (honce isoInstant? ∅ later ((Relation.ReflTransGen.single hfirst).trans hlater))

end HandshakeValidator
end TauriPlatform
