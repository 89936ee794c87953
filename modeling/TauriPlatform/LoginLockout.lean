import TauriPlatform.NativeAuthentication
import TauriPlatform.JsonRoundTrip
import TauriPlatform.SpacedTimes
import Mathlib.Algebra.Order.Archimedean.Real.Basic

/-!
# Guessing a password

A password which does not fit is counted in the row of the user, and from
`MAX_AUTHENTICATION_FAILURES` on the row is locked for `LOCKOUT_SECONDS`.  The count is only
reset by a login or with the credential, so from then on every further guess locks the row
again.
-/

namespace TauriPlatform.DurableDatabase

open Relational Timing

variable {verify : String → String → Bool} {userId deviceId password : String}
  {now : Nat} {database later : AuthorizationDatabase} {user : UserRow}

/-! ## The lock as text -/

theorem parseU64_toString {value : Nat} (hvalue : value < 2 ^ 64) :
    parseU64 (toString value) = some value := by
  have hchars : (toString value).toList = Nat.toDigits 10 value := by
    rw [Nat.toString_eq_repr, Nat.toList_repr]
  have hdigits := all_isDecimalDigit_toDigits value
  have hread : (Nat.toDigits 10 value).foldl
      (fun value c => value * 10 + (c.toNat - '0'.toNat)) 0 = value := by
    calc
      _ = parseDigits 10 (Nat.toDigits 10 value) := by
        apply List.foldl_ext
        intro value c hc
        rw [digitValue, if_pos (hdigits c hc)]
      _ = value := parseDigits_toDigits value
  unfold parseU64
  rw [hchars]
  dsimp only
  split
  · rename_i rest hsign
    have hplus := hdigits '+' (by rw [hsign]; exact List.mem_cons_self)
    exact absurd hplus (by decide)
  · rw [if_pos ⟨Nat.toDigits_ne_nil, List.all_eq_true.mpr hdigits⟩, hread, if_pos hvalue]

/-! ## One attempt -/

def activeUser? (userId : String) (database : AuthorizationDatabase) : Option UserRow :=
  (database.users.select fun row => row.id = userId).head?.filter fun user =>
    user.status = "ACTIVE"

def usableDevices (deviceId userId : String) (database : AuthorizationDatabase) : Nat :=
  (database.devices.select fun row =>
    row.deviceId = deviceId && (row.status = "APPROVED" || row.status = "ACTIVE") &&
      (row.userId = none || row.userId = some userId)).length

theorem findCredentials_run :
    runStatement "auth_user_lookup" (findCredentials userId) database =
      .ok (database.users.select fun row => row.id = userId, database) :=
  rfl

theorem countUsableDevices_run :
    runStatement "auth_device_lookup" (countUsableDevices deviceId userId) database =
      .ok ([usableDevices deviceId userId database], database) :=
  rfl

/-- The user whose password `authenticate_user` gets to check. -/
def checkedUser? (now : Nat) (userId deviceId : String) (database : AuthorizationDatabase) :
    Option UserRow :=
  (activeUser? userId database).filter fun user =>
    usableDevices deviceId userId database = 1 && !isLocked user now

def verifiesPassword (now : Nat) (userId deviceId : String)
    (database : AuthorizationDatabase) : Bool :=
  (checkedUser? now userId deviceId database).any fun user => user.credentialVerifier.isSome

theorem authenticateUser_unchecked
    (hunchecked : checkedUser? now userId deviceId database = none) :
    ∃ error, ∀ verify password,
      authenticateUser verify now userId deviceId password database =
        (.error error, database) := by
  cases huser : activeUser? userId database with
  | none =>
      refine ⟨authenticationErrorMessage "auth_failed" "Authentication failed", ?_⟩
      intro verify password
      apply transact_error
      rw [bind_ok _ findCredentials_run]
      unfold activeUser? at huser
      rw [huser]
      rfl
  | some user =>
      have hdenied :
          (usableDevices deviceId userId database = 1 && !isLocked user now) = false := by
        rw [checkedUser?, huser] at hunchecked
        simpa [Option.filter_some] using hunchecked
      unfold activeUser? at huser
      by_cases hdevices : usableDevices deviceId userId database = 1
      · refine ⟨authenticationErrorMessage "auth_locked" "Authentication failed", ?_⟩
        intro verify password
        have hlocked : isLocked user now := by simpa [hdevices] using hdenied
        apply transact_error
        rw [bind_ok _ findCredentials_run, huser]
        dsimp only
        rw [bind_ok _ countUsableDevices_run, hdevices,
          if_neg (by simp), if_pos hlocked]
        rfl
      · refine ⟨authenticationErrorMessage "auth_failed" "Authentication failed", ?_⟩
        intro verify password
        apply transact_error
        rw [bind_ok _ findCredentials_run, huser]
        dsimp only
        rw [bind_ok _ countUsableDevices_run,
          if_pos (by simpa using hdevices)]
        rfl

theorem checkedUser?_eq_some (hchecked : checkedUser? now userId deviceId database = some user) :
    activeUser? userId database = some user ∧ usableDevices deviceId userId database = 1 ∧
      isLocked user now = false := by
  rw [checkedUser?, Option.filter_eq_some_iff] at hchecked
  simpa using hchecked

theorem mem_of_activeUser? (huser : activeUser? userId database = some user) :
    user ∈ database.users.rows ∧ user.id = userId := by
  rw [activeUser?, Option.filter_eq_some_iff] at huser
  have hmem := List.mem_of_mem_head? huser.1
  simpa [Table.select] using hmem

theorem updateUser_run (userId : String) (set : UserRow → UserRow)
    (hid : ∀ row, (set row).id = row.id) (code sql : String) (params : List JsonValue)
    (database : AuthorizationDatabase) :
    ∃ result later,
      runStatement code (userTable.update sql params (fun row => row.id = userId) set) database =
        .ok (result, later) ∧
      later.users.rows =
        database.users.rows.map (Table.updateRow (fun row => row.id = userId) set) := by
  obtain ⟨updated, hrun⟩ : ∃ updated,
      (userTable.update sql params (fun row => row.id = userId) set).run database = .ok updated :=
    TableOf.update_run (by simpa [idIndex] using hid) database
  obtain ⟨accounts, hrows, hlater⟩ := TableOf.update_eq_ok hrun
  refine ⟨updated.rows, updated.database, ?_, ?_⟩
  · unfold runStatement
    rw [hrun]
  · rw [hlater]
    exact hrows

theorem authenticateUser_fits (hchecked : checkedUser? now userId deviceId database = some user)
    (hfits : user.credentialVerifier.any (verify password)) :
    ∃ principal later,
      authenticateUser verify now userId deviceId password database = (.ok principal, later) ∧
      later.users.rows = database.users.rows.map (Table.updateRow (fun row => row.id = userId)
        fun row => { row with failedAuthenticationAttempts := 0, lockedUntil := none }) := by
  obtain ⟨huser, hdevices, hunlocked⟩ := checkedUser?_eq_some hchecked
  obtain ⟨result, later, hrun, hrows⟩ := updateUser_run userId
    (fun row => { row with failedAuthenticationAttempts := 0, lockedUntil := none })
    (fun row => rfl) "auth_success_update" (resetFailures userId).sql
    (resetFailures userId).params database
  have hreset : runStatement "auth_success_update" (resetFailures userId) database =
      .ok (result, later) := hrun
  unfold activeUser? at huser
  let permissions := Table.orderBy (· ≤ ·) ((effectiveRows database userId
    user.organisationId).map AuthorizationRepository.EffectivePermissionRow.permissionName)
  have hpermissions : runStatement "auth_permissions_query"
      (findPermissionNames userId user.organisationId) database = .ok (permissions, database) :=
    rfl
  refine ⟨⟨userId, deviceId, user.organisationId, permissions⟩, later, transact_ok ?_,
    hrows⟩
  rw [bind_ok _ findCredentials_run, huser]
  dsimp only
  rw [bind_ok _ countUsableDevices_run, hdevices,
    if_neg (by simp), if_neg (by simp [hunlocked]), if_pos hfits,
    bind_ok _ hpermissions, bind_ok _ hreset]
  rfl

theorem authenticateUser_misses
    (hchecked : checkedUser? now userId deviceId database = some user)
    (hmisses : ¬ user.credentialVerifier.any (verify password)) :
    ∃ error later,
      authenticateUser verify now userId deviceId password database = (.error error, later) ∧
      later.users.rows = database.users.rows.map (Table.updateRow (fun row => row.id = userId)
        fun row => { row with
          failedAuthenticationAttempts := saturatingSucc user.failedAuthenticationAttempts
          lockedUntil := nextLock (saturatingSucc user.failedAuthenticationAttempts) now }) := by
  obtain ⟨huser, hdevices, hunlocked⟩ := checkedUser?_eq_some hchecked
  let failures := saturatingSucc user.failedAuthenticationAttempts
  let record := recordFailures failures (nextLock failures now) userId
  obtain ⟨result, later, hrun, hrows⟩ := updateUser_run userId
    (fun row => { row with
      failedAuthenticationAttempts := failures, lockedUntil := nextLock failures now })
    (fun row => rfl) "auth_failure_update" record.sql record.params database
  have hrecord : runStatement "auth_failure_update" record database = .ok (result, later) := hrun
  unfold activeUser? at huser
  refine ⟨authenticationErrorMessage "auth_failed" "Authentication failed", later,
    transact_ok ?_, hrows⟩
  rw [bind_ok _ findCredentials_run, huser]
  dsimp only
  rw [bind_ok _ countUsableDevices_run, hdevices,
    if_neg (by simp), if_neg (by simp [hunlocked]), if_neg hmisses, bind_ok _ hrecord]
  rfl

/-! ## Runs of attempts -/

/-- A reading of `current_epoch_seconds`, which the clock of the system keeps within `i64`. -/
structure EpochSeconds where
  seconds : Nat
  bounded : seconds < 2 ^ 63

def KeepsLockout (userId : String) (database later : AuthorizationDatabase) : Prop :=
  ∀ row ∈ later.users.rows, row.id = userId → ∃ earlier ∈ database.users.rows,
    earlier.id = userId ∧
      earlier.failedAuthenticationAttempts = row.failedAuthenticationAttempts ∧
      earlier.lockedUntil = row.lockedUntil

/-- Attempts on one user none of which logs in, up to a reading of the clock, with the times
at which the password was verified.  Between them anything else may happen which does not
reset the count. -/
inductive Guesses (verify : String → String → Bool) (userId : String) :
    AuthorizationDatabase → Nat → List Nat → Prop
  | start {database : AuthorizationDatabase} {clock : Nat}
      (hcounts : ∀ row ∈ database.users.rows, row.id = userId →
        0 ≤ row.failedAuthenticationAttempts) :
      Guesses verify userId database clock []
  | attempt {database later : AuthorizationDatabase} {clock : Nat} {times : List Nat}
      (run : Guesses verify userId database clock times) (now : EpochSeconds)
      (hclock : clock ≤ now.seconds) (deviceId password : String) (error : NativeError)
      (hattempt : authenticateUser verify now.seconds userId deviceId password database =
        (.error error, later)) :
      Guesses verify userId later now.seconds
        (times ++ if verifiesPassword now.seconds userId deviceId database then [now.seconds]
          else [])
  | elsewhere {database later : AuthorizationDatabase} {clock : Nat} {times : List Nat}
      (run : Guesses verify userId database clock times)
      (hkeeps : KeepsLockout userId database later) :
      Guesses verify userId later clock times

structure Counted (times : List Nat) (row : UserRow) : Prop where
  counts : min (times.length : Int) maxAuthenticationFailures ≤ row.failedAuthenticationAttempts
  locks : maxAuthenticationFailures ≤ times.length →
    ∃ until_, row.lockedUntil.bind parseU64 = some until_ ∧
      ∀ time ∈ times, time + lockoutSeconds ≤ until_

structure LockoutInvariant (userId : String) (database : AuthorizationDatabase) (clock : Nat)
    (times : List Nat) : Prop where
  counted : ∀ row ∈ database.users.rows, row.id = userId → Counted times row
  past : ∀ time ∈ times, time ≤ clock
  spaced : Spaced lockoutSeconds (times.drop 4)

theorem saturatingSucc_le {value bound : Int} (hbound : bound ≤ 2 ^ 63 - 1)
    (hvalue : bound ≤ value + 1) : bound ≤ saturatingSucc value :=
  le_min hvalue hbound

variable {times : List Nat}

theorem Counted.misses {row : UserRow} (hcounted : Counted times row) (hnow : now < 2 ^ 63)
    (hpast : ∀ time ∈ times, time ≤ now) (verified : Bool) :
    Counted (times ++ if verified then [now] else [])
      { row with
        failedAuthenticationAttempts := saturatingSucc row.failedAuthenticationAttempts
        lockedUntil := nextLock (saturatingSucc row.failedAuthenticationAttempts) now } := by
  have hlength : (times ++ if verified then [now] else []).length ≤ times.length + 1 := by
    cases verified <;> simp
  have hcounts : min ((times ++ if verified then [now] else []).length : Int)
      maxAuthenticationFailures ≤ saturatingSucc row.failedAuthenticationAttempts := by
    have hbefore := hcounted.counts
    unfold maxAuthenticationFailures at *
    apply saturatingSucc_le <;> omega
  refine ⟨hcounts, ?_⟩
  intro hmany
  rw [min_eq_right hmany] at hcounts
  refine ⟨now + lockoutSeconds, ?_, ?_⟩
  · rw [nextLock, if_pos hcounts, Option.bind_some]
    apply parseU64_toString
    unfold lockoutSeconds
    omega
  · intro time hmem
    have hle : time ≤ now := by
      cases List.mem_append.mp hmem with
      | inl hearlier => exact hpast time hearlier
      | inr hnew =>
          cases verified <;> simp_all
    omega

theorem Counted.spaced {row : UserRow} (hcounted : Counted times row)
    (hunlocked : isLocked row now = false) (hmany : maxAuthenticationFailures ≤ times.length) :
    ∀ time ∈ times, time + lockoutSeconds ≤ now := by
  obtain ⟨until_, hlock, hafter⟩ := hcounted.locks hmany
  have hpassed : until_ ≤ now := by
    rw [isLocked, hlock] at hunlocked
    simpa using hunlocked
  intro time hmem
  exact (hafter time hmem).trans hpassed

theorem LockoutInvariant.attempt {clock : Nat} {error : NativeError}
    (hinvariant : LockoutInvariant userId database clock times) (hclock : clock ≤ now)
    (hnow : now < 2 ^ 63)
    (hattempt : authenticateUser verify now userId deviceId password database =
      (.error error, later)) :
    LockoutInvariant userId later now
      (times ++ if verifiesPassword now userId deviceId database then [now] else []) := by
  have hpast : ∀ time ∈ times, time ≤ now := fun time hmem =>
    (hinvariant.past time hmem).trans hclock
  cases hchecked : checkedUser? now userId deviceId database with
  | none =>
      obtain ⟨refusal, hrefused⟩ := authenticateUser_unchecked hchecked
      rw [hrefused] at hattempt
      cases hattempt
      rw [verifiesPassword, hchecked]
      simpa using { hinvariant with past := hpast }
  | some user =>
      obtain ⟨huser, -, hunlocked⟩ := checkedUser?_eq_some hchecked
      obtain ⟨hmem, hid⟩ := mem_of_activeUser? huser
      have hcounted := hinvariant.counted user hmem hid
      by_cases hfits : user.credentialVerifier.any (verify password)
      · obtain ⟨principal, reset, hlogin, -⟩ := authenticateUser_fits hchecked hfits
        rw [hlogin] at hattempt
        cases hattempt
      · obtain ⟨miss, recorded, hmiss, hrows⟩ := authenticateUser_misses hchecked hfits
        rw [hmiss] at hattempt
        cases hattempt
        let verified := verifiesPassword now userId deviceId database
        have hnext := hcounted.misses hnow hpast verified
        refine ⟨?_, ?_, ?_⟩
        · intro row hrow hrowId
          rw [hrows] at hrow
          obtain ⟨before, -, rfl⟩ := List.mem_map.mp hrow
          have hbefore : before.id = userId := by
            unfold Table.updateRow at hrowId
            split_ifs at hrowId with hcondition
            · simpa using hcondition
            · exact hrowId
          rw [Table.updateRow, if_pos (c := decide (before.id = userId)) (by simpa using hbefore)]
          exact ⟨hnext.counts, hnext.locks⟩
        · intro time htime
          cases List.mem_append.mp htime with
          | inl hearlier => exact hpast time hearlier
          | inr hlast =>
              split at hlast <;> simp_all
        · split
          · apply hinvariant.spaced.drop_append
            intro earlier hearlier
            have hmany : maxAuthenticationFailures ≤ times.length := by
              have hlength := List.length_pos_of_mem hearlier
              rw [List.length_drop] at hlength
              unfold maxAuthenticationFailures
              omega
            exact hcounted.spaced hunlocked hmany earlier (List.mem_of_mem_drop hearlier)
          · rw [List.append_nil]
            exact hinvariant.spaced

theorem LockoutInvariant.elsewhere {clock : Nat}
    (hinvariant : LockoutInvariant userId database clock times)
    (hkeeps : KeepsLockout userId database later) :
    LockoutInvariant userId later clock times := by
  refine { hinvariant with counted := ?_ }
  intro row hrow hid
  obtain ⟨earlier, hmem, hearlierId, hfailures, hlock⟩ := hkeeps row hrow hid
  have hcounted := hinvariant.counted earlier hmem hearlierId
  exact ⟨hfailures ▸ hcounted.counts, hlock ▸ hcounted.locks⟩

theorem Guesses.invariant {clock : Nat} (hrun : Guesses verify userId database clock times) :
    LockoutInvariant userId database clock times := by
  induction hrun with
  | start hcounts =>
      refine ⟨?_, by simp, List.Pairwise.nil⟩
      intro row hrow hid
      refine ⟨?_, ?_⟩
      · exact (min_le_left _ _).trans (hcounts row hrow hid)
      · intro hmany
        exact absurd hmany (by decide)
  | attempt run now hclock deviceId password error hattempt ih =>
      exact ih.attempt hclock now.bounded hattempt
  | elsewhere run hkeeps ih =>
      exact ih.elsewhere hkeeps

/-! ## The bound -/

theorem authenticateUser_of_isLocked {row : UserRow} (hmem : row ∈ database.users.rows)
    (hid : row.id = userId) (hlocked : isLocked row now) :
    ∃ error, authenticateUser verify now userId deviceId password database =
      (.error error, database) := by
  have hunchecked : checkedUser? now userId deviceId database = none := by
    cases hchecked : checkedUser? now userId deviceId database with
    | none => rfl
    | some user =>
        obtain ⟨huser, -, hunlocked⟩ := checkedUser?_eq_some hchecked
        obtain ⟨huserMem, huserId⟩ := mem_of_activeUser? huser
        have hsame : user = row := Table.eq_of_key_eq (fun row => some row.id) (by simp [idIndex])
          huserMem hmem (congrArg some huserId) (congrArg some hid)
        rw [hsame, hlocked] at hunlocked
        cases hunlocked
  obtain ⟨error, hrefused⟩ := authenticateUser_unchecked hunchecked
  exact ⟨error, hrefused verify password⟩

/-- In any closed window of time, the password of a user is verified at most as often as it
takes to lock the row and once for each lockout which fits; and while the lock of a row lasts,
not even the right password logs in. -/
theorem lockout_bounds_guessing (verify : String → String → Bool) (userId : String) :
    (∀ database clock times, Guesses verify userId database clock times →
      ∀ start duration : ℝ,
        ((within start duration (times.map Nat.cast)).length : Int) ≤
          maxAuthenticationFailures + ⌈duration / lockoutSeconds⌉₊) ∧
    ∀ (database : AuthorizationDatabase), ∀ row ∈ database.users.rows, row.id = userId →
      ∀ now : EpochSeconds, isLocked row now.seconds → ∀ deviceId password, ∃ error,
        authenticateUser verify now.seconds userId deviceId password database =
          (.error error, database) := by
  refine ⟨?_, ?_⟩
  · intro database clock times hrun start duration
    have hspaced : Spaced ((lockoutSeconds : Nat) : ℝ)
        ((times.map (Nat.cast : Nat → ℝ)).drop 4) := by
      rw [← List.map_drop]
      exact hrun.invariant.spaced.map_cast
    have hlength : (within start duration (times.map Nat.cast)).length ≤
        4 + (⌊duration / lockoutSeconds⌋₊ + 1) :=
      length_within_le hspaced (by simp [lockoutSeconds])
    have hceil : ⌊duration / lockoutSeconds⌋₊ ≤ ⌈duration / lockoutSeconds⌉₊ :=
      Nat.floor_le_ceil _
    unfold maxAuthenticationFailures
    omega
  · intro database row hmem hid now hlocked deviceId password
    exact authenticateUser_of_isLocked hmem hid hlocked

def guessedDatabase : AuthorizationDatabase where
  users := { rows := [⟨"u", "org", "ACTIVE", some "hash", 4, none⟩], unique := by decide }
  devices := {
    rows := [⟨"id", "", "", none, "d", "key", "linux", "app", "ACTIVE", "", none, true⟩]
    unique := by decide }

theorem fifthGuess_locks :
    ∃ later, Guesses (fun password hash => password = hash) "u" later 700 [700] ∧
      ((within 0 300 ([700].map (Nat.cast : Nat → ℝ))).length : Int) ≤
        maxAuthenticationFailures + ⌈(300 : ℝ) / lockoutSeconds⌉₊ ∧
      ∃ error, authenticateUser (fun password hash => password = hash) 999 "u" "d" "hash" later =
        (.error error, later) := by
  let verify : String → String → Bool := fun password hash => password = hash
  let attempt := authenticateUser verify 700 "u" "d" "guess" guessedDatabase
  have hstart : Guesses verify "u" guessedDatabase 0 [] := by
    apply Guesses.start
    intro row hrow _
    rw [List.mem_singleton.mp hrow]
    decide
  have hrun : Guesses verify "u" attempt.2 700 [700] :=
    hstart.attempt ⟨700, by decide⟩ (Nat.zero_le 700) "d" "guess"
      (authenticationErrorMessage "auth_failed" "Authentication failed") rfl
  have hmem : (⟨"u", "org", "ACTIVE", some "hash", 5, some "1000"⟩ : UserRow) ∈
      attempt.2.users.rows := List.mem_singleton.mpr rfl
  exact ⟨attempt.2, hrun, (lockout_bounds_guessing verify "u").1 _ _ _ hrun 0 300,
    (lockout_bounds_guessing verify "u").2 _ _ hmem rfl ⟨999, by decide⟩ (by decide)
      "d" "hash"⟩

end TauriPlatform.DurableDatabase
