import TauriPlatform.ConflictRegistry

/-!
# Absolute fields in a registry

A registry is filled by calls in any order.  Only the registration of a field policy asks
whether the field is absolute: a policy which was there before, a policy of the whole
entity type, and names which contain a dot get around it.
-/

namespace TauriPlatform

inductive RegistryCall where
  | registerAbsoluteLwwField (entityType field : String)
  | registerFieldPolicy (entityType field : String) (policy : ConflictPolicy)
  | registerEntityPolicy (entityType : String) (policy : ConflictPolicy)

structure Registrations where
  registry : ConflictRegistry
  absolute : List (String × String)

namespace ConflictRegistry

def ownPolicy? (registry : ConflictRegistry) (entityType field : String) :
    Option ConflictPolicy :=
  (givenField (some field)).bind fun name =>
    registry.fieldPolicies.lookup (fieldKey entityType name)

theorem getPolicy_eq (registry : ConflictRegistry) (entityType field : String) :
    registry.getPolicy entityType (some field) =
      ((registry.ownPolicy? entityType field).or
        (registry.entityPolicies.lookup entityType)).getD { strategy := .lww } := by
  simp only [getPolicy, ownPolicy?]
  cases (givenField (some field)).bind fun name =>
      registry.fieldPolicies.lookup (fieldKey entityType name) with
  | some policy => rfl
  | none =>
      cases registry.entityPolicies.lookup entityType with
      | some policy => rfl
      | none => rfl

theorem ownPolicy?_insert (registry : ConflictRegistry) (key : String)
    (policy : ConflictPolicy) (entityType field : String) :
    ownPolicy? { registry with fieldPolicies := registry.fieldPolicies.insert key policy }
        entityType field =
      if field ≠ "" ∧ fieldKey entityType field = key then some policy
      else registry.ownPolicy? entityType field := by
  by_cases hnamed : field = ""
  · have hgiven : givenField (some "") = none := by decide
    simp [ownPolicy?, hgiven, hnamed]
  · have hgiven : givenField (some field) = some field := by
      simp [givenField, Option.filter, hnamed]
    simp only [ownPolicy?, hgiven, Option.bind_some]
    by_cases hkey : fieldKey entityType field = key
    · rw [if_pos ⟨hnamed, hkey⟩, hkey, AList.lookup_insert]
    · rw [if_neg (fun h => hkey h.2), AList.lookup_insert_ne hkey]

end ConflictRegistry

namespace Registrations

open ConflictRegistry

def initial : Registrations where
  registry := .empty
  absolute := []

/-- Absolute fields are not additive, and no other field is reported as absolute. -/
structure AbsoluteSafe (state : Registrations) : Prop where
  neverAdditive : ∀ entityType field, (entityType, field) ∈ state.absolute →
    (state.registry.getPolicy entityType (some field)).strategy ≠ .additive
  onlyDeclared : ∀ entityType field, state.registry.isAbsoluteLwwField entityType field →
    (entityType, field) ∈ state.absolute

def WithoutDot (name : String) : Prop :=
  '.' ∉ name.toList

end Registrations

namespace RegistryCall

open ConflictRegistry Registrations

def apply (state : Registrations) : RegistryCall → Except String Registrations
  | .registerAbsoluteLwwField entityType field =>
      .ok {
        registry := state.registry.registerAbsoluteLwwField entityType field
        absolute := (entityType, field) :: state.absolute }
  | .registerFieldPolicy entityType field policy => do
      let registry ← state.registry.registerFieldPolicy entityType field policy
      return { state with registry := registry }
  | .registerEntityPolicy entityType policy => do
      let registry ← state.registry.registerEntityPolicy entityType policy
      return { state with registry := registry }

def Separates (state : Registrations) : RegistryCall → Prop
  | .registerAbsoluteLwwField entityType field =>
      WithoutDot entityType ∧ WithoutDot field ∧
        match state.registry.ownPolicy? entityType field with
        | some policy => policy.strategy ≠ .additive
        | none => ∀ policy ∈ state.registry.entityPolicies.lookup entityType,
            policy.strategy ≠ .additive
  | .registerFieldPolicy _ _ _ => True
  | .registerEntityPolicy entityType policy =>
      policy.strategy = .additive → ∀ field, (entityType, field) ∈ state.absolute →
        (state.registry.ownPolicy? entityType field).isSome

/-- `Good` holds of the state and of every state which successful calls lead to. -/
def Throughout (Good : Registrations → Prop) : List RegistryCall → Registrations → Prop
  | [], state => Good state
  | call :: rest, state =>
      Good state ∧ ∀ next, call.apply state = .ok next → Throughout Good rest next

def AllSeparate : List RegistryCall → Registrations → Prop
  | [], _ => True
  | call :: rest, state =>
      ∀ next, call.apply state = .ok next → call.Separates state ∧ AllSeparate rest next

end RegistryCall

namespace Registrations

open ConflictRegistry

/-! ## Keys -/

theorem fieldKey_toList (entityType field : String) :
    (fieldKey entityType field).toList = entityType.toList ++ '.' :: field.toList := by
  simp [fieldKey, String.toList_append]

variable {entityType field : String}

theorem fieldKey_eq_of_withoutDot {otherType otherField : String} (htype : WithoutDot entityType)
    (hfield : WithoutDot field) (hkey : fieldKey otherType otherField = fieldKey entityType field) :
    otherType = entityType ∧ otherField = field := by
  have hlists := congrArg String.toList hkey
  rw [fieldKey_toList, fieldKey_toList] at hlists
  have hparts := (List.append_cons_inj_of_notMem htype hfield).mp hlists.symm
  exact ⟨String.toList_inj.mp hparts.1.symm, String.toList_inj.mp hparts.2.2.symm⟩

theorem exists_pair_of_dot (hdot : ¬ (WithoutDot entityType ∧ WithoutDot field)) :
    ∃ otherType otherField, fieldKey otherType otherField = fieldKey entityType field ∧
      (otherType, otherField) ≠ (entityType, field) ∧
      ¬ (WithoutDot otherType ∧ WithoutDot otherField) := by
  by_cases htype : WithoutDot entityType
  · have hfield : '.' ∈ field.toList := by
      by_contra hfield
      exact hdot ⟨htype, hfield⟩
    obtain ⟨before, after, hsplit⟩ := List.append_of_mem hfield
    refine ⟨String.ofList (entityType.toList ++ '.' :: before), String.ofList after, ?_, ?_, ?_⟩
    · apply String.toList_inj.mp
      rw [fieldKey_toList, fieldKey_toList, String.toList_ofList, String.toList_ofList, hsplit,
        List.append_assoc, List.cons_append]
    · intro hsame
      have hlength := congrArg (fun pair => pair.1.toList.length) hsame
      simp at hlength
    · intro hboth
      apply hboth.1
      rw [String.toList_ofList]
      exact List.mem_append_right _ List.mem_cons_self
  · obtain ⟨before, after, hsplit⟩ := List.append_of_mem (not_not.mp htype)
    refine ⟨String.ofList before, String.ofList (after ++ '.' :: field.toList), ?_, ?_, ?_⟩
    · apply String.toList_inj.mp
      rw [fieldKey_toList, fieldKey_toList, String.toList_ofList, String.toList_ofList, hsplit,
        List.append_assoc, List.cons_append]
    · intro hsame
      have hlength := congrArg (fun pair => pair.1.toList.length) hsame
      simp only [String.toList_ofList, hsplit, List.length_append, List.length_cons] at hlength
      omega
    · intro hboth
      apply hboth.2
      rw [String.toList_ofList]
      exact List.mem_append_right _ List.mem_cons_self

/-! ## One registration -/

structure Keyed (state : Registrations) : Prop where
  key : ∀ text, text ∈ state.registry.absoluteLwwFields ↔
    ∃ pair ∈ state.absolute, fieldKey pair.1 pair.2 = text
  withoutDot : ∀ pair ∈ state.absolute, WithoutDot pair.1 ∧ WithoutDot pair.2

variable {state next : Registrations}

theorem Keyed.initial : Keyed .initial where
  key text := by simp [Registrations.initial, ConflictRegistry.empty]
  withoutDot pair hpair := absurd hpair List.not_mem_nil

theorem AbsoluteSafe.initial : AbsoluteSafe .initial where
  neverAdditive entityType field hdeclared := absurd hdeclared List.not_mem_nil
  onlyDeclared entityType field hreported := by
    simp [isAbsoluteLwwField, Registrations.initial, ConflictRegistry.empty] at hreported

theorem Keyed.onlyDeclared (hkeyed : Keyed state) (entityType field : String)
    (hreported : state.registry.isAbsoluteLwwField entityType field) :
    (entityType, field) ∈ state.absolute := by
  have hmem := of_decide_eq_true hreported
  obtain ⟨pair, hpair, hkey⟩ := (hkeyed.key _).mp hmem
  have hnames := hkeyed.withoutDot pair hpair
  have hsame := fieldKey_eq_of_withoutDot hnames.1 hnames.2 hkey.symm
  rw [hsame.1, hsame.2]
  exact hpair

theorem getPolicy_strategy_ne (registry : ConflictRegistry) (entityType field : String) :
    (registry.getPolicy entityType (some field)).strategy ≠ .additive ↔
      match registry.ownPolicy? entityType field with
      | some policy => policy.strategy ≠ .additive
      | none => ∀ policy ∈ registry.entityPolicies.lookup entityType,
          policy.strategy ≠ .additive := by
  rw [getPolicy_eq]
  cases registry.ownPolicy? entityType field with
  | some policy => rfl
  | none =>
      cases registry.entityPolicies.lookup entityType with
      | some policy => simp
      | none => simp

theorem Keyed.declare (hkeyed : Keyed state) (htype : WithoutDot entityType)
    (hfield : WithoutDot field) :
    Keyed {
      registry := state.registry.registerAbsoluteLwwField entityType field
      absolute := (entityType, field) :: state.absolute } where
  key text := by
    simp only [registerAbsoluteLwwField, Finset.mem_insert, hkeyed.key, List.exists_mem_cons_iff]
    exact or_congr_left eq_comm
  withoutDot pair hpair := by
    cases List.mem_cons.mp hpair with
    | inl hnew =>
        rw [hnew]
        exact ⟨htype, hfield⟩
    | inr hold => exact hkeyed.withoutDot pair hold

theorem declare_safe_iff (hkeyed : Keyed state) (hsafe : AbsoluteSafe state)
    (entityType field : String) :
    AbsoluteSafe {
        registry := state.registry.registerAbsoluteLwwField entityType field
        absolute := (entityType, field) :: state.absolute } ↔
      (RegistryCall.registerAbsoluteLwwField entityType field).Separates state := by
  constructor
  · intro hnext
    have hnames : WithoutDot entityType ∧ WithoutDot field := by
      by_contra hdot
      obtain ⟨otherType, otherField, hkey, hother, hdot'⟩ := exists_pair_of_dot hdot
      have hreported : (state.registry.registerAbsoluteLwwField entityType
          field).isAbsoluteLwwField otherType otherField := by
        simp [isAbsoluteLwwField, registerAbsoluteLwwField, hkey]
      cases List.mem_cons.mp (hnext.onlyDeclared otherType otherField hreported) with
      | inl hsame => exact hother hsame
      | inr hold => exact hdot' (hkeyed.withoutDot _ hold)
    have hpolicy := hnext.neverAdditive entityType field List.mem_cons_self
    exact ⟨hnames.1, hnames.2, (getPolicy_strategy_ne _ _ _).mp hpolicy⟩
  · intro hseparates
    have hlater := hkeyed.declare hseparates.1 hseparates.2.1
    constructor
    · intro otherType otherField hdeclared
      cases List.mem_cons.mp hdeclared with
      | inl hnew =>
          cases hnew
          exact (getPolicy_strategy_ne _ _ _).mpr hseparates.2.2
      | inr hold => exact hsafe.neverAdditive otherType otherField hold
    · exact hlater.onlyDeclared

theorem registerFieldPolicy_safe (hkeyed : Keyed state) (hsafe : AbsoluteSafe state)
    {policy : ConflictPolicy} {registry : ConflictRegistry}
    (hok : state.registry.registerFieldPolicy entityType field policy = .ok registry) :
    registry.absoluteLwwFields = state.registry.absoluteLwwFields ∧
      AbsoluteSafe { state with registry := registry } := by
  unfold registerFieldPolicy at hok
  dsimp only at hok
  split_ifs at hok with hrefused
  cases hok
  refine ⟨rfl, ?_, hsafe.onlyDeclared⟩
  intro otherType otherField hdeclared
  have hbefore := hsafe.neverAdditive otherType otherField hdeclared
  have habsolute : fieldKey otherType otherField ∈ state.registry.absoluteLwwFields :=
    (hkeyed.key _).mpr ⟨_, hdeclared, rfl⟩
  rw [getPolicy_strategy_ne] at hbefore ⊢
  rw [ownPolicy?_insert]
  by_cases hsame : otherField ≠ "" ∧ fieldKey otherType otherField = fieldKey entityType field
  · rw [if_pos hsame]
    intro hadditive
    exact hrefused ⟨hadditive, hsame.2 ▸ habsolute⟩
  · rw [if_neg hsame]
    exact hbefore

theorem registerEntityPolicy_safe_iff (hsafe : AbsoluteSafe state) {policy : ConflictPolicy}
    {registry : ConflictRegistry}
    (hok : state.registry.registerEntityPolicy entityType policy = .ok registry) :
    registry.absoluteLwwFields = state.registry.absoluteLwwFields ∧
      (AbsoluteSafe { state with registry := registry } ↔
        (RegistryCall.registerEntityPolicy entityType policy).Separates state) := by
  unfold registerEntityPolicy at hok
  split_ifs at hok
  cases hok
  refine ⟨rfl, ?_⟩
  constructor
  · intro hnext hadditive field hdeclared
    by_contra hnone
    have hown : state.registry.ownPolicy? entityType field = none := by
      simpa using hnone
    have hpolicy := (getPolicy_strategy_ne _ _ _).mp
      (hnext.neverAdditive entityType field hdeclared)
    have hown' : ownPolicy? { state.registry with
        entityPolicies := state.registry.entityPolicies.insert entityType policy }
        entityType field = none := hown
    rw [hown'] at hpolicy
    exact hpolicy policy (AList.lookup_insert _) hadditive
  · intro hseparates
    refine ⟨?_, hsafe.onlyDeclared⟩
    intro otherType field hdeclared
    have hbefore := (getPolicy_strategy_ne _ _ _).mp
      (hsafe.neverAdditive otherType field hdeclared)
    rw [getPolicy_strategy_ne]
    have hown : ownPolicy? { state.registry with
        entityPolicies := state.registry.entityPolicies.insert entityType policy }
        otherType field = state.registry.ownPolicy? otherType field := rfl
    rw [hown]
    cases hcase : state.registry.ownPolicy? otherType field with
    | some own =>
        rw [hcase] at hbefore
        exact hbefore
    | none =>
        rw [hcase] at hbefore
        intro other hother
        by_cases htype : otherType = entityType
        · subst htype
          rw [AList.lookup_insert, Option.mem_some_iff] at hother
          subst hother
          intro hadditive
          have hsome := hseparates hadditive field hdeclared
          rw [hcase] at hsome
          cases hsome
        · rw [AList.lookup_insert_ne htype] at hother
          exact hbefore other hother

theorem apply_safe_iff (hkeyed : Keyed state) (hsafe : AbsoluteSafe state) {call : RegistryCall}
    (hok : call.apply state = .ok next) :
    (AbsoluteSafe next ↔ call.Separates state) ∧ (AbsoluteSafe next → Keyed next) := by
  cases call with
  | registerAbsoluteLwwField entityType field =>
      cases hok
      have hiff := declare_safe_iff hkeyed hsafe entityType field
      refine ⟨hiff, ?_⟩
      intro hnext
      have hseparates := hiff.mp hnext
      exact hkeyed.declare hseparates.1 hseparates.2.1
  | registerFieldPolicy entityType field policy =>
      cases hregister : state.registry.registerFieldPolicy entityType field policy with
      | error message =>
          rw [RegistryCall.apply, hregister] at hok
          cases hok
      | ok registry =>
          rw [RegistryCall.apply, hregister] at hok
          cases hok
          obtain ⟨hfields, hnext⟩ := registerFieldPolicy_safe hkeyed hsafe hregister
          refine ⟨iff_of_true hnext trivial, fun _ => ⟨?_, hkeyed.withoutDot⟩⟩
          intro text
          rw [hfields]
          exact hkeyed.key text
  | registerEntityPolicy entityType policy =>
      cases hregister : state.registry.registerEntityPolicy entityType policy with
      | error message =>
          rw [RegistryCall.apply, hregister] at hok
          cases hok
      | ok registry =>
          rw [RegistryCall.apply, hregister] at hok
          cases hok
          obtain ⟨hfields, hiff⟩ := registerEntityPolicy_safe_iff hsafe hregister
          refine ⟨hiff, fun _ => ⟨?_, hkeyed.withoutDot⟩⟩
          intro text
          rw [hfields]
          exact hkeyed.key text

/-! ## Every run -/

theorem throughout_iff_from (calls : List RegistryCall) (hkeyed : Keyed state)
    (hsafe : AbsoluteSafe state) :
    RegistryCall.Throughout AbsoluteSafe calls state ↔ RegistryCall.AllSeparate calls state := by
  induction calls generalizing state with
  | nil => exact iff_of_true hsafe trivial
  | cons call rest ih =>
      simp only [RegistryCall.Throughout, RegistryCall.AllSeparate]
      constructor
      · intro hthroughout next hok
        have hrest := hthroughout.2 next hok
        have hnext : AbsoluteSafe next := by
          cases rest with
          | nil => exact hrest
          | cons _ _ => exact hrest.1
        obtain ⟨hiff, hkeeps⟩ := apply_safe_iff hkeyed hsafe hok
        exact ⟨hiff.mp hnext, (ih (hkeeps hnext) hnext).mp hrest⟩
      · intro hall
        refine ⟨hsafe, ?_⟩
        intro next hok
        obtain ⟨hseparates, hrest⟩ := hall next hok
        obtain ⟨hiff, hkeeps⟩ := apply_safe_iff hkeyed hsafe hok
        have hnext := hiff.mpr hseparates
        exact (ih (hkeeps hnext) hnext).mpr hrest

/-- Absolute fields stay safe in every state of a run exactly when each call separates. -/
theorem absolute_fields_safe_iff (calls : List RegistryCall) :
    RegistryCall.Throughout AbsoluteSafe calls .initial ↔
      RegistryCall.AllSeparate calls .initial :=
  throughout_iff_from calls .initial .initial

/-- An additive policy which is registered before its field is declared absolute. -/
theorem additive_before_absolute :
    ¬ ∀ calls : List RegistryCall, RegistryCall.Throughout AbsoluteSafe calls .initial := by
  intro hsafe
  have hrun := hsafe [.registerFieldPolicy "item" "stock" { strategy := .additive },
    .registerAbsoluteLwwField "item" "stock"]
  have hlast := (hrun.2 _ rfl).2 _ rfl
  exact hlast.neverAdditive "item" "stock" List.mem_cons_self (by decide)

end Registrations
end TauriPlatform
