import TauriPlatform.NativeAuthentication

/-!
# The identity of the device

`load_or_create_device_key_provider` binds the key of this device to the one row of
`core_devices` which is marked local: a row which has the key already, the local row so far, or
a new one.
-/

namespace TauriPlatform.DurableDatabase

open Relational

/-! ## Statements -/

/-- What a `DeviceKeyProvider` tells of itself. -/
structure DeviceIdentity where
  deviceId : String
  publicKey : String
  platform : String
  applicationId : String
  deriving DecidableEq

def idOfDevice : List (Column DeviceRow) :=
  [⟨"id", fun row => .text row.id⟩]

def findMatchingIdentity (provider : DeviceIdentity) : Statement AuthorizationDatabase DeviceRow :=
  deviceTable.select "SELECT id FROM core_devices WHERE device_id = ?1 AND public_key = ?2"
    [.string provider.deviceId, .string provider.publicKey] idOfDevice
    (fun row => row.deviceId = provider.deviceId && row.publicKey = provider.publicKey) id

def findLocalRecord : Statement AuthorizationDatabase DeviceRow :=
  deviceTable.select "SELECT id FROM core_devices WHERE is_local = 1 ORDER BY created_at ASC LIMIT 1"
    [] idOfDevice (fun row => row.isLocal)
    fun rows => (Table.orderBy (fun left right => left.createdAt ≤ right.createdAt) rows).take 1

def unmarkLocal (matchingId : String) : Statement AuthorizationDatabase Unit :=
  deviceTable.update "UPDATE core_devices SET is_local = 0 WHERE is_local = 1 AND id <> ?1"
    [.string matchingId] (fun row => row.isLocal && row.id ≠ matchingId)
    (fun row => { row with isLocal := false })

def markLocal (applicationId platform now matchingId : String) :
    Statement AuthorizationDatabase Unit :=
  deviceTable.update
    "UPDATE core_devices
                     SET is_local = 1, application_id = ?1, platform = ?2, updated_at = ?3
                     WHERE id = ?4"
    [.string applicationId, .string platform, .string now, .string matchingId]
    (fun row => row.id = matchingId)
    (fun row => { row with
      isLocal := true, applicationId := applicationId, platform := platform, updatedAt := now })

def findDeviceId (deviceId : String) : Statement AuthorizationDatabase DeviceRow :=
  deviceTable.select "SELECT 1 FROM core_devices WHERE device_id = ?1 LIMIT 1"
    [.string deviceId] [⟨"1", fun _ => .integer 1⟩] (fun row => row.deviceId = deviceId)
    (List.take 1)

def rebindLocal (provider : DeviceIdentity) (applicationId platform now localId : String) :
    Statement AuthorizationDatabase Unit :=
  deviceTable.update
    "UPDATE core_devices
                         SET device_id = ?1, public_key = ?2, application_id = ?3,
                             platform = ?4, updated_at = ?5
                         WHERE id = ?6"
    [.string provider.deviceId, .string provider.publicKey, .string applicationId,
      .string platform, .string now, .string localId]
    (fun row => row.id = localId)
    (fun row => { row with
      deviceId := provider.deviceId
      publicKey := provider.publicKey
      applicationId := applicationId
      platform := platform
      updatedAt := now })

def newDevice (provider : DeviceIdentity) (now : String) : DeviceRow where
  id := s!"device_record_{provider.deviceId}"
  createdAt := now
  updatedAt := now
  userId := none
  deviceId := provider.deviceId
  publicKey := provider.publicKey
  platform := provider.platform
  applicationId := provider.applicationId
  status := "APPROVED"
  registeredAt := now
  lastSeenAt := none
  isLocal := true

def bindDevice (provider : DeviceIdentity) (now : String) : Statement AuthorizationDatabase Unit :=
  deviceTable.insert
    "INSERT INTO core_devices
                         (id, created_at, updated_at, device_id, public_key, platform,
                          application_id, status, registered_at, is_local)
                         VALUES (?1, ?2, ?2, ?3, ?4, ?5, ?6, 'APPROVED', ?2, 1)"
    [.string s!"device_record_{provider.deviceId}", .string now, .string provider.deviceId,
      .string provider.publicKey, .string provider.platform, .string provider.applicationId]
    (fun _ => true) (newDevice provider now)

/-! ## The call -/

/-- A call, with what its environment does: the key which it finds or creates, the clock, and
the steps of the transaction which fail, by the code of their error. -/
structure ProviderCall where
  provider : Except String DeviceIdentity
  applicationId : String
  platform : String
  now : Nat
  failure : String → Option String

def ProviderCall.check (call : ProviderCall) (code : String) :
    NativeTransaction AuthorizationDatabase Unit :=
  match call.failure code with
  | some message => throw (databaseError code message)
  | none => pure ()

def ProviderCall.run {Row : Type} (call : ProviderCall) (code : String)
    (statement : Statement AuthorizationDatabase Row) :
    NativeTransaction AuthorizationDatabase (List Row) := do
  call.check code
  runStatement code statement

def ProviderCall.bind (call : ProviderCall) (provider : DeviceIdentity) :
    NativeTransaction AuthorizationDatabase Unit := do
  let matching ← call.run "device_identity_lookup" (findMatchingIdentity provider)
  let locals ← call.run "device_identity_local_lookup" findLocalRecord
  let now := toString call.now
  match matching.head?, locals.head? with
  | some row, _ => do
      let _ ← call.run "device_identity_unmark_local" (unmarkLocal row.id)
      let _ ← call.run "device_identity_mark_local"
        (markLocal call.applicationId call.platform now row.id)
  | none, localRow => do
      let conflicting ← call.run "device_identity_conflict_lookup" (findDeviceId provider.deviceId)
      if conflicting ≠ [] then
        throw (databaseError "device_identity_conflict"
          "Stored device ID is bound to a different public key")
      else
        match localRow with
        | some row => do
            let _ ← call.run "device_identity_update"
              (rebindLocal provider call.applicationId call.platform now row.id)
        | none => do
            let _ ← call.run "device_identity_bind" (bindDevice provider now)

def loadOrCreateDeviceKeyProvider (call : ProviderCall) (database : AuthorizationDatabase) :
    Except NativeError DeviceIdentity × AuthorizationDatabase :=
  match call.provider with
  | .error message =>
      (.error (.new "AUTHENTICATION_ERROR" s!"Failed to load or create device key: {message}"
        "Unable to access device identity" "device_key_provider"), database)
  | .ok provider =>
      transact (do
        call.check "device_identity_begin"
        call.bind provider
        call.check "device_identity_commit"
        pure (.ok provider)) database

/-! ## What is bound -/

def HasLocal (identity : DeviceIdentity) (database : AuthorizationDatabase) : Prop :=
  ∃ row, database.devices.select (fun row => row.isLocal) = [row] ∧
    row.deviceId = identity.deviceId ∧ row.publicKey = identity.publicKey

def Unchanged (old new : DeviceRow) : Prop :=
  new = old ∨ old.isLocal ∧ new = { old with isLocal := false }

structure Binds (identity : DeviceIdentity) (database later : AuthorizationDatabase) : Prop where
  hasLocal : HasLocal identity later
  others : ∀ new ∈ later.devices, new.isLocal ∨ ∃ old ∈ database.devices, Unchanged old new
  kept : ∀ old ∈ database.devices, ∃ new ∈ later.devices,
    new.id = old.id ∧ (new.isLocal ∨ Unchanged old new)
  elsewhere : later = { database with devices := later.devices }

section Branches

variable {database later : AuthorizationDatabase} {identity : DeviceIdentity}

variable {row : DeviceRow}

theorem hasLocal_of_mem (hrow : row ∈ database.devices) (hlocal : row.isLocal)
    (hdevice : row.deviceId = identity.deviceId) (hkey : row.publicKey = identity.publicKey) :
    HasLocal identity database := by
  refine ⟨row, ?_, hdevice, hkey⟩
  have hindex : (fun row : DeviceRow => if row.isLocal then some "1" else none) ∈
      deviceIndexes := by
    simp [deviceIndexes]
  have hsingle := Table.select_eq_singleton _ hindex hrow (if_pos hlocal)
  rw [← hsingle]
  refine List.filter_congr fun other _ => ?_
  cases other.isLocal <;> rfl

theorem eq_of_device_id_eq {left right : DeviceRow} (hleft : left ∈ database.devices)
    (hright : right ∈ database.devices) (hid : left.id = right.id) : left = right :=
  Table.eq_of_key_eq (fun row : DeviceRow => some row.id) (by simp [deviceIndexes]) hleft hright
    (congrArg some hid) rfl

theorem binds_of_map {replace : DeviceRow → DeviceRow} {bound : DeviceRow}
    (hlater : later.devices.rows = database.devices.rows.map replace)
    (helsewhere : later = { database with devices := later.devices })
    (hbound : bound ∈ database.devices)
    (hidentity : (replace bound).isLocal ∧ (replace bound).deviceId = identity.deviceId ∧
      (replace bound).publicKey = identity.publicKey)
    (hid : ∀ row, (replace row).id = row.id)
    (hothers : ∀ row ∈ database.devices, row ≠ bound → Unchanged row (replace row)) :
    Binds identity database later := by
  have hmem : ∀ row ∈ database.devices, replace row ∈ later.devices := by
    intro row hrow
    rw [Table.mem_def, hlater]
    exact List.mem_map_of_mem hrow
  have hcases : ∀ row ∈ database.devices, (replace row).isLocal ∨ Unchanged row (replace row) := by
    intro row hrow
    by_cases hsame : row = bound
    · rw [hsame]
      exact .inl hidentity.1
    · exact .inr (hothers row hrow hsame)
  constructor
  · exact hasLocal_of_mem (hmem bound hbound) hidentity.1 hidentity.2.1 hidentity.2.2
  · intro new hnew
    rw [Table.mem_def, hlater] at hnew
    obtain ⟨old, hold, rfl⟩ := List.mem_map.mp hnew
    exact (hcases old hold).imp_right fun hunchanged => ⟨old, hold, hunchanged⟩
  · exact fun old hold => ⟨replace old, hmem old hold, hid old, hcases old hold⟩
  · exact helsewhere

variable {last : Table DeviceRow String deviceIndexes}

theorem binds_of_matching {middle : Table DeviceRow String deviceIndexes}
    {applicationId platform now : String} (hrow : row ∈ database.devices)
    (hdevice : row.deviceId = identity.deviceId) (hkey : row.publicKey = identity.publicKey)
    (hmiddle : middle.rows = database.devices.rows.map (Table.updateRow
      (fun other => other.isLocal && other.id ≠ row.id)
      fun other => { other with isLocal := false }))
    (hlast : last.rows = middle.rows.map (Table.updateRow (fun other => other.id = row.id)
      fun other => { other with
        isLocal := true, applicationId := applicationId, platform := platform
        updatedAt := now })) :
    Binds identity database { database with devices := last } := by
  rw [hmiddle, List.map_map] at hlast
  refine binds_of_map hlast rfl hrow ?_ ?_ ?_
  · simp [Table.updateRow, hdevice, hkey]
  · intro other
    simp only [Function.comp, Table.updateRow]
    split_ifs <;> rfl
  · intro other hother hne
    have hid : other.id ≠ row.id := fun hsame => hne (eq_of_device_id_eq hother hrow hsame)
    by_cases hlocal : other.isLocal
    · refine .inr ⟨hlocal, ?_⟩
      simp [Table.updateRow, hlocal, hid]
    · refine .inl ?_
      simp [Table.updateRow, hlocal, hid]

theorem binds_of_local {applicationId platform now : String} (hrow : row ∈ database.devices)
    (hlocal : row.isLocal) (hlast : last.rows = database.devices.rows.map (Table.updateRow
      (fun other => other.id = row.id) fun other => { other with
        deviceId := identity.deviceId, publicKey := identity.publicKey
        applicationId := applicationId, platform := platform, updatedAt := now })) :
    Binds identity database { database with devices := last } := by
  refine binds_of_map hlast rfl hrow ?_ ?_ ?_
  · simp [Table.updateRow, hlocal]
  · intro other
    unfold Table.updateRow
    split_ifs <;> rfl
  · intro other hother hne
    have hid : other.id ≠ row.id := fun hsame => hne (eq_of_device_id_eq hother hrow hsame)
    rw [Table.updateRow, if_neg (by simpa using hid)]
    exact .inl rfl

theorem binds_of_new {now : String}
    (hlast : last.rows = database.devices.rows ++ [newDevice identity now]) :
    Binds identity database { database with devices := last } := by
  have hmem : ∀ {row}, row ∈ last ↔ row ∈ database.devices ∨ row = newDevice identity now := by
    intro row
    rw [Table.mem_def, hlast, List.mem_append, List.mem_singleton, Table.mem_def]
  constructor
  · exact hasLocal_of_mem (hmem.mpr (.inr rfl)) rfl rfl rfl
  · intro new hnew
    rcases hmem.mp hnew with hold | rfl
    · exact .inr ⟨new, hold, .inl rfl⟩
    · exact .inl rfl
  · exact fun old hold => ⟨old, hmem.mpr (.inl hold), rfl, .inr (.inl rfl)⟩
  · rfl

end Branches

/-! ## What the transaction does -/

section Transaction

variable {call : ProviderCall} {database later : AuthorizationDatabase} {code : String}

theorem check_eq_ok {value : Unit} (hok : call.check code database = .ok (value, later)) :
    later = database := by
  unfold ProviderCall.check at hok
  cases hfailure : call.failure code with
  | some message =>
      rw [hfailure] at hok
      cases hok
  | none =>
      rw [hfailure] at hok
      cases hok
      rfl

theorem run_eq_ok {Row : Type} {statement : Statement AuthorizationDatabase Row}
    {rows : List Row} (hok : call.run code statement database = .ok (rows, later)) :
    ∃ result, statement.run database = .ok result ∧ rows = result.rows ∧
      later = result.database := by
  obtain ⟨_, middle, hcheck, hrun⟩ := bind_eq_ok hok
  obtain rfl := check_eq_ok hcheck
  exact runStatement_eq_ok hrun

theorem run_select_eq_ok {sql : String} {params : List JsonValue}
    {columns : List (Column DeviceRow)} {condition : DeviceRow → Bool}
    {limit : List DeviceRow → List DeviceRow} {rows : List DeviceRow}
    (hok : call.run code (deviceTable.select sql params columns condition limit) database =
      .ok (rows, later)) :
    rows = limit (database.devices.select condition) ∧ later = database := by
  obtain ⟨result, hrun, rfl, rfl⟩ := run_eq_ok hok
  cases hrun
  exact ⟨rfl, rfl⟩

theorem run_update_eq_ok {sql : String} {params : List JsonValue}
    {condition : DeviceRow → Bool} {set : DeviceRow → DeviceRow} {rows : List Unit}
    (hok : call.run code (deviceTable.update sql params condition set) database =
      .ok (rows, later)) :
    ∃ devices, devices.rows = database.devices.rows.map (Table.updateRow condition set) ∧
      later = { database with devices := devices } := by
  obtain ⟨result, hrun, -, rfl⟩ := run_eq_ok hok
  exact TableOf.update_eq_ok hrun

theorem bind_binds {provider : DeviceIdentity} {value : Unit}
    (hok : call.bind provider database = .ok (value, later)) :
    Binds provider database later := by
  obtain ⟨matching, first, hmatching, hlocalLookup⟩ := bind_eq_ok hok
  obtain ⟨hmatchingRows, rfl⟩ := run_select_eq_ok hmatching
  obtain ⟨locals, second, hlocals, hbranches⟩ := bind_eq_ok hlocalLookup
  obtain ⟨hlocalRows, rfl⟩ := run_select_eq_ok hlocals
  cases hmatchingHead : matching.head? with
  | some row =>
      have hrow := List.mem_of_mem_head? hmatchingHead
      rw [hmatchingRows, id, Table.mem_select, Bool.and_eq_true, decide_eq_true_eq,
        decide_eq_true_eq] at hrow
      obtain ⟨hmem, hdevice, hkey⟩ := hrow
      simp only [hmatchingHead] at hbranches
      obtain ⟨_, _, hunmark, hmarks⟩ := bind_eq_ok hbranches
      obtain ⟨middle, hmiddle, rfl⟩ := run_update_eq_ok hunmark
      obtain ⟨_, _, hmark, hdone⟩ := bind_eq_ok hmarks
      obtain ⟨last, hlast, rfl⟩ := run_update_eq_ok hmark
      cases hdone
      exact binds_of_matching hmem hdevice hkey hmiddle hlast
  | none =>
      simp only [hmatchingHead] at hbranches
      obtain ⟨conflicting, third, hconflicting, hrest⟩ := bind_eq_ok hbranches
      obtain ⟨-, rfl⟩ := run_select_eq_ok hconflicting
      split_ifs at hrest
      · cases hrest
      · cases hlocalHead : locals.head? with
        | some row =>
            have hrow := List.mem_of_mem_head? hlocalHead
            rw [hlocalRows] at hrow
            have hselected := Table.mem_orderBy.mp (List.mem_of_mem_take hrow)
            obtain ⟨hmem, hlocal⟩ := Table.mem_select.mp hselected
            simp only [hlocalHead] at hrest
            obtain ⟨_, _, hupdate, hdone⟩ := bind_eq_ok hrest
            obtain ⟨last, hlast, rfl⟩ := run_update_eq_ok hupdate
            cases hdone
            exact binds_of_local hmem hlocal hlast
        | none =>
            simp only [hlocalHead] at hrest
            obtain ⟨_, _, hinsert, hdone⟩ := bind_eq_ok hrest
            obtain ⟨result, hrun, -, rfl⟩ := run_eq_ok hinsert
            obtain ⟨last, hlast, hlater⟩ := TableOf.insert_eq_ok hrun
            cases hdone
            rw [hlater]
            exact binds_of_new hlast

theorem transaction_eq_ok {provider : DeviceIdentity} {outcome : Except NativeError DeviceIdentity}
    (hok : (do
        call.check "device_identity_begin"
        call.bind provider
        call.check "device_identity_commit"
        pure (.ok provider) : NativeTransaction AuthorizationDatabase _) database =
      .ok (outcome, later)) :
    outcome = .ok provider ∧ Binds provider database later := by
  obtain ⟨_, _, hbegin, hbound⟩ := bind_eq_ok hok
  obtain rfl := check_eq_ok hbegin
  obtain ⟨_, middle, hbind, hcommitted⟩ := bind_eq_ok hbound
  obtain ⟨_, _, hcommit, hdone⟩ := bind_eq_ok hcommitted
  obtain rfl := check_eq_ok hcommit
  cases hdone
  exact ⟨rfl, bind_binds hbind⟩

end Transaction

/-! ## Sequences of calls -/

structure Bound (call : ProviderCall) (database : AuthorizationDatabase)
    (outcome : Except NativeError DeviceIdentity × AuthorizationDatabase) : Prop where
  succeeded : ∀ identity, outcome.1 = .ok identity →
    call.provider = .ok identity ∧ Binds identity database outcome.2
  failed : ∀ error, outcome.1 = .error error → outcome.2 = database

theorem bound_loadOrCreateDeviceKeyProvider (call : ProviderCall)
    (database : AuthorizationDatabase) :
    Bound call database (loadOrCreateDeviceKeyProvider call database) := by
  unfold loadOrCreateDeviceKeyProvider
  cases hprovider : call.provider with
  | error message => exact ⟨fun _ hok => (nomatch hok), fun _ _ => rfl⟩
  | ok provider =>
      dsimp only
      unfold transact
      split
      · rename_i outcome later hbody
        obtain ⟨rfl, hbinds⟩ := transaction_eq_ok hbody
        refine ⟨fun identity hok => ?_, fun error herror => (nomatch herror)⟩
        cases hok
        exact ⟨hprovider, hbinds⟩
      · exact ⟨fun _ hok => (nomatch hok), fun _ _ => rfl⟩

/-- The database after the calls, and the identity which the last successful one answered. -/
def afterProviderCalls (calls : List ProviderCall) (database : AuthorizationDatabase) :
    Option DeviceIdentity × AuthorizationDatabase :=
  calls.foldl (fun (last, database) call =>
    match loadOrCreateDeviceKeyProvider call database with
    | (.ok identity, later) => (some identity, later)
    | (.error _, later) => (last, later)) (none, database)

theorem afterProviderCalls_append (calls : List ProviderCall) (call : ProviderCall)
    (database : AuthorizationDatabase) :
    afterProviderCalls (calls ++ [call]) database =
      match loadOrCreateDeviceKeyProvider call (afterProviderCalls calls database).2 with
      | (.ok identity, later) => (some identity, later)
      | (.error _, later) => ((afterProviderCalls calls database).1, later) := by
  rw [afterProviderCalls, List.foldl_append]
  rfl

theorem hasLocal_afterProviderCalls (calls : List ProviderCall)
    (database : AuthorizationDatabase) (identity : DeviceIdentity)
    (hlast : (afterProviderCalls calls database).1 = some identity) :
    HasLocal identity (afterProviderCalls calls database).2 := by
  induction calls using List.reverseRecOn generalizing identity with
  | nil => cases hlast
  | append_singleton calls call ih =>
      have hbound := bound_loadOrCreateDeviceKeyProvider call (afterProviderCalls calls database).2
      rw [afterProviderCalls_append] at hlast ⊢
      generalize loadOrCreateDeviceKeyProvider call (afterProviderCalls calls database).2 = outcome
        at hlast hbound
      obtain ⟨result, later⟩ := outcome
      cases result with
      | ok answered =>
          cases hlast
          exact (hbound.succeeded _ rfl).2.hasLocal
      | error error =>
          rw [hbound.failed error rfl]
          exact ih identity hlast

/-- After any calls, a call binds the device to its key or leaves the database as it was, and the
local row has the key of the last call which succeeded. -/
theorem deviceIdentity_bound (calls : List ProviderCall) (call : ProviderCall)
    (database : AuthorizationDatabase) :
    Bound call (afterProviderCalls calls database).2
        (loadOrCreateDeviceKeyProvider call (afterProviderCalls calls database).2) ∧
      ∀ identity, (afterProviderCalls calls database).1 = some identity →
        HasLocal identity (afterProviderCalls calls database).2 :=
  ⟨bound_loadOrCreateDeviceKeyProvider call _, hasLocal_afterProviderCalls calls database⟩

/-! ### A peer becomes this device -/

def sampleDevice (id deviceId publicKey : String) (isLocal : Bool) : DeviceRow where
  id := id
  createdAt := "1"
  updatedAt := "1"
  userId := none
  deviceId := deviceId
  publicKey := publicKey
  platform := "linux"
  applicationId := "app"
  status := "APPROVED"
  registeredAt := "1"
  lastSeenAt := none
  isLocal := isLocal

example :
    (loadOrCreateDeviceKeyProvider
      { provider := .ok ⟨"dev_2", "key_2", "linux", "app"⟩
        applicationId := "app"
        platform := "linux"
        now := 2
        failure := fun _ => none }
      { devices := {
          rows := [sampleDevice "a" "dev_1" "key_1" true, sampleDevice "b" "dev_2" "key_2" false]
          unique := by decide } }).2.devices.rows.map (fun row => (row.id, row.isLocal)) =
      [("a", false), ("b", true)] := by
  decide

end TauriPlatform.DurableDatabase
