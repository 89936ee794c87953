import TauriPlatform.MigrationEngine

/-!
# What the checks of the migration engine promise

The identities of the supplied migrations are distinct, and the versions of each owner are
`1, 2, …` without gaps.
-/

namespace TauriPlatform

namespace MigrationEngine

/-! ## Identities -/

theorem append_colon_inj {left right digits digits' : List Char} (hdigits : ':' ∉ digits)
    (hdigits' : ':' ∉ digits') (hsame : left ++ ':' :: digits = right ++ ':' :: digits') :
    left = right ∧ digits = digits' := by
  rcases List.append_eq_append_iff.mp hsame with ⟨middle, hright, hrest⟩ | ⟨middle, hleft, hrest⟩
  · cases middle with
    | nil =>
        rw [List.append_nil] at hright
        exact ⟨hright.symm, (List.cons.inj hrest).2⟩
    | cons c middle =>
        have hmem : ':' ∈ digits := by
          rw [(List.cons.inj hrest).2]
          simp
        exact absurd hmem hdigits
  · cases middle with
    | nil =>
        rw [List.append_nil] at hleft
        exact ⟨hleft, (List.cons.inj hrest).2.symm⟩
    | cons c middle =>
        have hmem : ':' ∈ digits' := by
          rw [(List.cons.inj hrest).2]
          simp
        exact absurd hmem hdigits'

theorem repr_toList (value : Nat) : (Nat.repr value).toList = Nat.toDigits 10 value := by
  rw [Nat.repr, String.toList_ofList]

theorem not_mem_repr {c : Char} (hc : ¬ c.isDigit) (value : Nat) :
    c ∉ (Nat.repr value).toList := by
  rw [repr_toList]
  intro hmem
  exact hc (Nat.isDigit_of_mem_toDigits (by decide) (by decide) hmem)

theorem colon_not_mem (version : Int) : ':' ∉ (toString version).toList := by
  change ':' ∉ (Int.repr version).toList
  cases version with
  | ofNat value => exact not_mem_repr (by decide) value
  | negSucc value =>
      rw [Int.repr, String.toList_append, List.mem_append, not_or]
      exact ⟨by decide, not_mem_repr (by decide) _⟩

theorem nat_repr_injective {left right : Nat} (hsame : Nat.repr left = Nat.repr right) :
    left = right := by
  have htoDigits := congrArg (fun text : String => Nat.ofDigitChars 10 text.toList 0) hsame
  simpa only [repr_toList, Nat.ofDigitChars_ten_toDigits] using htoDigits

theorem int_toString_injective {left right : Int} (hsame : toString left = toString right) :
    left = right := by
  have hsign : ∀ value, (Int.repr (Int.negSucc value)).toList =
      '-' :: (Nat.repr (value + 1)).toList := by
    intro value
    rw [Int.repr, String.toList_append]
    rfl
  have hminus : ∀ value other, Int.repr (Int.ofNat value) ≠ Int.repr (Int.negSucc other) := by
    intro value other hmixed
    have htoList := congrArg String.toList hmixed
    rw [hsign] at htoList
    refine not_mem_repr (c := '-') (by decide) value ?_
    change '-' ∈ (Int.repr (Int.ofNat value)).toList
    rw [htoList]
    exact List.mem_cons_self
  change Int.repr left = Int.repr right at hsame
  cases left with
  | ofNat value =>
      cases right with
      | ofNat other => rw [nat_repr_injective hsame]
      | negSucc other => exact absurd hsame (hminus value other)
  | negSucc value =>
      cases right with
      | ofNat other => exact absurd hsame.symm (hminus other value)
      | negSucc other =>
          have htoList := congrArg String.toList hsame
          rw [hsign, hsign] at htoList
          have hvalue := nat_repr_injective (String.toList_injective (List.cons.inj htoList).2)
          rw [Nat.succ.inj hvalue]

theorem identity_toList (owner : String) (version : Int) :
    (identity owner version).toList = owner.toList ++ ':' :: (toString version).toList := by
  change (owner ++ ":" ++ toString version).toList = _
  rw [String.toList_append, String.toList_append, List.append_assoc]
  rfl

theorem identity_inj {owner owner' : String} {version version' : Int} :
    identity owner version = identity owner' version' ↔ owner = owner' ∧ version = version' := by
  constructor
  · intro hsame
    have htoList := congrArg String.toList hsame
    rw [identity_toList, identity_toList] at htoList
    obtain ⟨howner, hversion⟩ := append_colon_inj (colon_not_mem version)
      (colon_not_mem version') htoList
    exact ⟨String.toList_injective howner,
      int_toString_injective (String.toList_injective hversion)⟩
  · rintro ⟨rfl, rfl⟩
    rfl

/-! ## Versions without gaps -/

/-- The versions are `1, 2, …` in this order. -/
def Consecutive (versions : List Int) : Prop :=
  ∃ count : Nat, versions = (List.range count).map fun index : Nat => (index : Int) + 1

namespace Consecutive

variable {versions : List Int}

theorem mem_iff {count : Nat} {version : Int} :
    version ∈ (List.range count).map (fun index : Nat => (index : Int) + 1) ↔
      0 < version ∧ version ≤ count := by
  rw [List.mem_map]
  constructor
  · rintro ⟨index, hindex, rfl⟩
    rw [List.mem_range] at hindex
    omega
  · rintro ⟨hpositive, hle⟩
    refine ⟨(version - 1).toNat, ?_, by omega⟩
    rw [List.mem_range]
    omega

theorem pred_mem (hversions : Consecutive versions) {version : Int} (hmem : version ∈ versions)
    (hlater : 1 < version) : version - 1 ∈ versions := by
  obtain ⟨count, rfl⟩ := hversions
  rw [mem_iff] at hmem ⊢
  omega

theorem snoc (hversions : Consecutive versions) {version : Int} (hpositive : 0 < version)
    (hpred : 1 < version → version - 1 ∈ versions) (hnew : version ∉ versions) :
    Consecutive (versions ++ [version]) := by
  obtain ⟨count, rfl⟩ := hversions
  rw [mem_iff] at hpred hnew
  have hnext : version = (count : Int) + 1 := by
    by_cases hlater : 1 < version
    · have hbound := (hpred hlater).2
      omega
    · omega
  refine ⟨count + 1, ?_⟩
  rw [List.range_succ, List.map_append, hnext]
  rfl

end Consecutive

theorem firstMissing_eq_none {versions : List Int} {first : Int}
    (hnone : firstMissing first versions = none) :
    versions = (List.range versions.length).map fun index : Nat => first + (index : Int) := by
  induction versions generalizing first with
  | nil => rfl
  | cons version rest ih =>
      rw [firstMissing] at hnone
      split_ifs at hnone with hversion
      rw [List.length_cons, List.range_succ_eq_map, List.map_cons, List.map_map, hversion]
      congr 1
      · simp
      · refine (ih hnone).trans ?_
        apply List.map_congr_left
        intro index _
        simp only [Function.comp_apply]
        push_cast
        omega

/-! ## What the checks promise -/

structure ChecksTo (script : MigrationScript) (checked : CheckedMigration) : Prop where
  owner : checked.owner = ownerOf script
  version : script.version.safeInteger? = some checked.version
  name : checked.name = script.name
  sql : checked.sql = script.sql
  checksum : checked.checksum = script.checksum
  positive : 0 < checked.version

variable {identities : List String}

theorem checkDefinition_eq_ok {script : MigrationScript} {checked : CheckedMigration}
    (hok : checkDefinition script identities = .ok checked) :
    ChecksTo script checked ∧ checked.identity ∉ identities := by
  unfold checkDefinition at hok
  cases hversion : script.version.safeInteger? with
  | none =>
      rw [hversion] at hok
      cases hok
  | some version =>
      rw [hversion] at hok
      dsimp only at hok
      split_ifs at hok with hblank hduplicate hstatements
      cases hok
      have hpositive : 0 < version := by
        rw [not_or] at hblank
        omega
      exact ⟨⟨rfl, hversion, rfl, rfl, rfl, hpositive⟩, hduplicate⟩

variable {scripts : List MigrationScript} {checked : List CheckedMigration}

theorem checkDefinitions_eq_ok (hok : checkDefinitions scripts identities = .ok checked) :
    List.Forall₂ ChecksTo scripts checked ∧
      (checked.map CheckedMigration.identity).Nodup ∧
        ∀ migration ∈ checked, migration.identity ∉ identities := by
  induction scripts generalizing identities checked with
  | nil =>
      cases hok
      exact ⟨.nil, List.nodup_nil, fun _ hmem => nomatch hmem⟩
  | cons script rest ih =>
      rw [checkDefinitions] at hok
      cases hfirst : checkDefinition script identities with
      | error error =>
          rw [hfirst] at hok
          cases hok
      | ok first =>
          rw [hfirst] at hok
          dsimp only at hok
          cases hrest : checkDefinitions rest (first.identity :: identities) with
          | error error =>
              rw [hrest] at hok
              cases hok
          | ok others =>
              rw [hrest] at hok
              cases hok
              obtain ⟨hchecks, hnew⟩ := checkDefinition_eq_ok hfirst
              obtain ⟨hall, hnodup, hothers⟩ := ih hrest
              refine ⟨.cons hchecks hall, ?_, ?_⟩
              · refine List.nodup_cons.mpr ⟨?_, hnodup⟩
                intro hmem
                obtain ⟨other, hother, hsame⟩ := List.mem_map.mp hmem
                exact hothers other hother (hsame ▸ List.mem_cons_self)
              · refine List.forall_mem_cons.mpr ⟨hnew, ?_⟩
                intro migration hmigration hmem
                exact hothers migration hmigration (List.mem_cons_of_mem _ hmem)

theorem forM_eq_ok {α ε : Type} {check : α → Except ε Unit} {items : List α}
    (hok : items.forM check = .ok ()) : ∀ item ∈ items, check item = .ok () := by
  induction items with
  | nil => exact fun _ hmem => nomatch hmem
  | cons first rest ih =>
      change (check first >>= fun _ => rest.forM check) = _ at hok
      cases hfirst : check first with
      | error error =>
          rw [hfirst] at hok
          cases hok
      | ok _ =>
          rw [hfirst] at hok
          exact List.forall_mem_cons.mpr ⟨hfirst, ih hok⟩

theorem checkSequence_eq_ok {owner : String} {versions : List Int}
    (hok : checkSequence owner versions = .ok ()) :
    Consecutive (versions.insertionSort (· ≤ ·)) := by
  unfold checkSequence at hok
  cases hmissing : firstMissing 1 (versions.insertionSort (· ≤ ·)) with
  | some expectedVersion =>
      rw [hmissing] at hok
      cases hok
  | none =>
      have hversions := firstMissing_eq_none hmissing
      simp only [add_comm (1 : Int)] at hversions
      exact ⟨_, hversions⟩

structure Preflighted (scripts : List MigrationScript) (checked : List CheckedMigration) :
    Prop where
  checks : List.Forall₂ ChecksTo scripts checked
  nodup : (checked.map CheckedMigration.identity).Nodup
  sequences : ∀ owner,
    Consecutive ((versionsOf owner checked).insertionSort (· ≤ ·))

theorem preflight_eq_ok (hok : preflight scripts = .ok checked) : Preflighted scripts checked := by
  unfold preflight at hok
  cases hchecked : checkDefinitions scripts [] with
  | error error =>
      rw [hchecked] at hok
      cases hok
  | ok found =>
      rw [hchecked] at hok
      cases hsequences : (found.map (·.owner)).eraseDups.forM
          fun owner => checkSequence owner (versionsOf owner found) with
      | error error =>
          simp only [bind, Except.bind, hsequences] at hok
          cases hok
      | ok _ =>
          simp only [bind, Except.bind, hsequences] at hok
          cases hok
          obtain ⟨hall, hnodup, -⟩ := checkDefinitions_eq_ok hchecked
          refine ⟨hall, hnodup, ?_⟩
          intro owner
          by_cases howner : owner ∈ checked.map (·.owner)
          · exact checkSequence_eq_ok (forM_eq_ok hsequences owner (List.mem_eraseDups.mpr howner))
          · have hnone : versionsOf owner checked = [] := by
              rw [versionsOf, List.map_eq_nil_iff, List.filter_eq_nil_iff]
              intro migration hmigration hsame
              exact howner (List.mem_map.mpr ⟨migration, hmigration, of_decide_eq_true hsame⟩)
            rw [hnone, List.insertionSort_nil]
            exact ⟨0, rfl⟩

theorem exists_of_mem_right {α β : Type} {r : α → β → Prop} {left : List α} {right : List β}
    (hall : List.Forall₂ r left right) {b : β} (hmem : b ∈ right) : ∃ a ∈ left, r a b := by
  induction hall with
  | nil => cases hmem
  | @cons a b' _ _ hfirst _ ih =>
      rcases List.mem_cons.mp hmem with rfl | hrest
      · exact ⟨a, List.mem_cons_self, hfirst⟩
      · obtain ⟨partner, hpartner, hrelated⟩ := ih hrest
        exact ⟨partner, List.mem_cons_of_mem _ hpartner, hrelated⟩

/-! ## Definitions which pass -/

structure CheckedMigration.Executable (migration : CheckedMigration) : Prop where
  owner : isBlank migration.owner = false
  name : isBlank migration.name = false
  checksum : isBlank migration.checksum = false
  sql : isBlank migration.sql = false
  statements : migration.statements ≠ []

theorem checkDefinition_of_executable {script : MigrationScript} {checked : CheckedMigration}
    (hchecks : ChecksTo script checked) (hexecutable : checked.Executable)
    (hnew : checked.identity ∉ identities) :
    checkDefinition script identities = .ok checked := by
  have hstatements := hexecutable.statements
  rw [CheckedMigration.statements] at hstatements
  rw [CheckedMigration.identity] at hnew
  obtain ⟨owner, version, name, sql, checksum⟩ := checked
  obtain ⟨howner, hversion, hname, hsql, hchecksum, hpositive⟩ := hchecks
  dsimp only at howner hname hsql hchecksum hnew hstatements
  subst howner hname hsql hchecksum
  have hvalid : ¬ (version ≤ 0 ∨ isBlank (ownerOf script) ∨ isBlank script.name ∨
      isBlank script.checksum ∨ isBlank script.sql) := by
    simp [hexecutable.owner, hexecutable.name, hexecutable.checksum, hexecutable.sql, hpositive]
  unfold checkDefinition
  rw [hversion]
  dsimp only
  rw [if_neg hvalid, if_neg hnew, if_neg hstatements]

theorem checkDefinitions_of_executable (hchecks : List.Forall₂ ChecksTo scripts checked)
    (hexecutable : ∀ migration ∈ checked, migration.Executable)
    (hnodup : (checked.map CheckedMigration.identity).Nodup)
    (hnew : ∀ migration ∈ checked, migration.identity ∉ identities) :
    checkDefinitions scripts identities = .ok checked := by
  induction hchecks generalizing identities with
  | nil => rfl
  | @cons script first scripts rest hfirst _ ih =>
      obtain ⟨hfirstExecutable, hrestExecutable⟩ := List.forall_mem_cons.mp hexecutable
      obtain ⟨hfirstNew, hrestNew⟩ := List.forall_mem_cons.mp hnew
      obtain ⟨hdistinct, hrestNodup⟩ := List.nodup_cons.mp hnodup
      rw [checkDefinitions, checkDefinition_of_executable hfirst hfirstExecutable hfirstNew]
      dsimp only
      rw [ih hrestExecutable hrestNodup]
      · rfl
      · intro migration hmem
        rw [List.mem_cons, not_or]
        refine ⟨?_, hrestNew migration hmem⟩
        intro hsame
        exact hdistinct (hsame ▸ List.mem_map_of_mem hmem)

theorem forM_of_forall {α ε : Type} {check : α → Except ε Unit} {items : List α}
    (hall : ∀ item ∈ items, check item = .ok ()) : items.forM check = .ok () := by
  induction items with
  | nil => rfl
  | cons first rest ih =>
      obtain ⟨hfirst, hrest⟩ := List.forall_mem_cons.mp hall
      change (check first >>= fun _ => rest.forM check) = _
      rw [hfirst]
      exact ih hrest

theorem preflight_of_executable (hchecks : List.Forall₂ ChecksTo scripts checked)
    (hexecutable : ∀ migration ∈ checked, migration.Executable)
    (hnodup : (checked.map CheckedMigration.identity).Nodup) (hsequences : ∀ migration ∈ checked,
      checkSequence migration.owner (versionsOf migration.owner checked) = .ok ()) :
    preflight scripts = .ok checked := by
  have hdefinitions := checkDefinitions_of_executable hchecks hexecutable hnodup
    (fun migration _ => List.not_mem_nil (a := migration.identity))
  have hall : (checked.map (·.owner)).eraseDups.forM
      (fun owner => checkSequence owner (versionsOf owner checked)) = .ok () := by
    refine forM_of_forall fun owner howner => ?_
    obtain ⟨migration, hmigration, rfl⟩ := List.mem_map.mp (List.mem_eraseDups.mp howner)
    exact hsequences migration hmigration
  unfold preflight
  simp only [bind, Except.bind, hdefinitions, hall]
  rfl

end MigrationEngine
end TauriPlatform
