import TauriPlatform.SerdeJson
import TauriPlatform.DurableDatabase
import TauriPlatform.NativeAuthentication

/-!
# The requests which the native side admits

The size of a request is estimated before anything is serialized.  The arithmetic saturates, so
an estimate within its bound is one which has not been cut off, and the serialized parameters
are no longer than what was estimated for them.
-/

namespace TauriPlatform.NativeRequest

open DurableDatabase SerdeJson

/-- `usize::MAX`. -/
def usizeMax : Nat := 2 ^ 64 - 1

def saturatingAdd (left right : Nat) : Nat := min (left + right) usizeMax

def saturatingMul (left right : Nat) : Nat := min (left * right) usizeMax

theorem saturatingAdd_eq {left right : Nat} (hlt : saturatingAdd left right < usizeMax) :
    saturatingAdd left right = left + right := by
  unfold saturatingAdd at hlt ⊢
  omega

theorem saturatingMul_eq {left right : Nat} (hlt : saturatingMul left right < usizeMax) :
    saturatingMul left right = left * right :=
  min_eq_left (min_lt_iff.mp hlt |>.resolve_right (lt_irrefl _)).le

variable {F : Type}

/-! ## The estimate -/

section Estimate

variable (floatText : F → List Char)

mutual

def estimateJsonValueBytes (value : Value F) (depth : Nat) : Option Nat :=
  if depth > maxSqlParameterNesting then none
  else
    match value with
    | .null => boundedEstimate 4
    | .bool true => boundedEstimate 4
    | .bool false => boundedEstimate 5
    | .number number => boundedEstimate (utf8Length (number.text floatText))
    | .string text =>
        boundedEstimate (saturatingAdd (saturatingMul (utf8Length text.toList) 6) 2)
    | .array items => (estimateItems items (depth + 1) 2).bind boundedEstimate
    | .object entries => (estimateEntries entries (depth + 1) 2).bind boundedEstimate
termination_by structural value

def estimateItems (items : List (Value F)) (depth size : Nat) : Option Nat :=
  match items with
  | [] => some size
  | item :: rest =>
      match estimateJsonValueBytes item depth with
      | none => none
      | some estimate =>
          let size := saturatingAdd (saturatingAdd size 1) estimate
          if size > maxSqlParameterBytes then none else estimateItems rest depth size
termination_by structural items

def estimateEntries (entries : List (String × Value F)) (depth size : Nat) : Option Nat :=
  match entries with
  | [] => some size
  | (key, item) :: rest =>
      let size := saturatingAdd size (saturatingMul (utf8Length key.toList) 6)
      match estimateJsonValueBytes item depth with
      | none => none
      | some estimate =>
          let size := saturatingAdd (saturatingAdd size estimate) 4
          if size > maxSqlParameterBytes then none else estimateEntries rest depth size
termination_by structural entries

end

def inputLimit (message : String) : NativeError :=
  DurableDatabase.databaseError "db_input_limit" message

/-- The loop of `validate_sql_request` over the parameters. -/
def addParameterBytes : List (Value F) → Nat → Except NativeError Nat
  | [], requestBytes => .ok requestBytes
  | value :: rest, requestBytes =>
      if (asU64? value).any (· > Int64.maxValue.toUInt64) then
        .error (DurableDatabase.databaseError "db_parameter_invalid"
          ("Unsigned integer SQL parameters must fit in " ++
            "SQLite's signed 64-bit integer range"))
      else
        match estimateJsonValueBytes floatText value 0 with
        | none =>
            .error (inputLimit "SQL parameter exceeds the supported size or nesting depth")
        | some valueBytes =>
            if valueBytes > maxSqlParameterBytes then
              .error (inputLimit "SQL parameter exceeds the maximum allowed size")
            else
              let requestBytes := saturatingAdd requestBytes valueBytes
              if requestBytes > maxSqlRequestBytes then
                .error (inputLimit "SQL request exceeds the maximum allowed size")
              else addParameterBytes rest requestBytes
where
  /-- `value.as_u64()`. -/
  asU64? : Value F → Option UInt64
    | .number number => number.asU64
    | _ => none

def validateSqlRequest (sql : String) (params : List (Value F)) : Except NativeError Nat :=
  if utf8Length sql.toList > maxSqlStatementBytes then
    .error (inputLimit "SQL statement exceeds the maximum allowed size")
  else if params.length > maxSqlParameters then
    .error (inputLimit "SQL request exceeds the maximum parameter count")
  else addParameterBytes floatText params (utf8Length sql.toList)

inductive SqlParam (F : Type) where
  | null
  | integer (value : Int64)
  | real (value : F)
  | text (value : String)

def jsonValueToSqlParam : Value F → SqlParam F
  | .null => .null
  | .bool value => .integer (if value then 1 else 0)
  | .number number =>
      match number.asI64, number.asU64, number with
      | some value, _, _ => .integer value
      | none, some value, _ => .integer value.toInt64
      | none, none, .float value => .real value
      | none, none, _ => .null
  | .string value => .text value
  | value => .text (String.ofList (value.serialize floatText))

end Estimate

/-! ## Depth -/

mutual

def nesting : Value F → Nat
  | .array items => nestingItems items
  | .object entries => nestingEntries entries
  | _ => 0
termination_by structural value => value

def nestingItems : List (Value F) → Nat
  | [] => 0
  | item :: rest => max (nesting item + 1) (nestingItems rest)
termination_by structural items => items

def nestingEntries : List (String × Value F) → Nat
  | [] => 0
  | (_, item) :: rest => max (nesting item + 1) (nestingEntries rest)
termination_by structural entries => entries

end

/-! ## What an estimate bounds -/

section Bounds

variable {floatText : F → List Char}

theorem boundedEstimate_eq_some {size estimate : Nat}
    (hestimate : boundedEstimate size = some estimate) :
    size = estimate ∧ estimate ≤ maxSqlParameterBytes := by
  unfold boundedEstimate at hestimate
  split_ifs at hestimate with hbound
  cases hestimate
  exact ⟨rfl, hbound⟩

theorem maxSqlParameterBytes_lt : maxSqlParameterBytes < usizeMax := by
  decide

theorem textEstimate_le {text : String} {estimate : Nat}
    (hestimate : saturatingAdd (saturatingMul (utf8Length text.toList) 6) 2 = estimate)
    (hbound : estimate ≤ maxSqlParameterBytes) :
    utf8Length (quoteText text) ≤ estimate := by
  have hlimit := maxSqlParameterBytes_lt
  have hsum := saturatingAdd_eq (hestimate.trans_lt (hbound.trans_lt hlimit))
  have hproduct : saturatingMul (utf8Length text.toList) 6 = utf8Length text.toList * 6 :=
    saturatingMul_eq (by omega)
  have hquoted := utf8Length_quoteText_le text
  omega

mutual

theorem estimateJsonValueBytes_bounds (value : Value F) {depth estimate : Nat}
    (hestimate : estimateJsonValueBytes floatText value depth = some estimate) :
    value.bytes floatText ≤ estimate ∧ estimate ≤ maxSqlParameterBytes ∧
      depth + nesting value ≤ maxSqlParameterNesting := by
  rw [estimateJsonValueBytes.eq_def] at hestimate
  split_ifs at hestimate with hdepth
  have hscalar : depth + 0 ≤ maxSqlParameterNesting := not_lt.mp hdepth
  match value with
  | .null =>
      obtain ⟨rfl, hbound⟩ := boundedEstimate_eq_some hestimate
      have hnull : utf8Length "null".toList ≤ 4 := by decide
      exact ⟨hnull, hbound, hscalar⟩
  | .bool true =>
      obtain ⟨rfl, hbound⟩ := boundedEstimate_eq_some hestimate
      have htrue : utf8Length "true".toList ≤ 4 := by decide
      exact ⟨htrue, hbound, hscalar⟩
  | .bool false =>
      obtain ⟨rfl, hbound⟩ := boundedEstimate_eq_some hestimate
      have hfalse : utf8Length "false".toList ≤ 5 := by decide
      exact ⟨hfalse, hbound, hscalar⟩
  | .number number =>
      obtain ⟨rfl, hbound⟩ := boundedEstimate_eq_some hestimate
      exact ⟨le_rfl, hbound, hscalar⟩
  | .string text =>
      obtain ⟨htext, hbound⟩ := boundedEstimate_eq_some hestimate
      exact ⟨textEstimate_le htext hbound, hbound, hscalar⟩
  | .array items =>
      obtain ⟨total, htotal, hbounded⟩ := Option.bind_eq_some_iff.mp hestimate
      obtain ⟨rfl, hbound⟩ := boundedEstimate_eq_some hbounded
      obtain ⟨hsum, hnesting⟩ := estimateItems_bounds items (by omega) htotal
      refine ⟨(Value.bytes_array_le items).trans hsum, hbound, ?_⟩
      rw [nesting]
      omega
  | .object entries =>
      obtain ⟨total, htotal, hbounded⟩ := Option.bind_eq_some_iff.mp hestimate
      obtain ⟨rfl, hbound⟩ := boundedEstimate_eq_some hbounded
      obtain ⟨hsum, hnesting⟩ := estimateEntries_bounds entries (by omega) htotal
      refine ⟨(Value.bytes_object_le entries).trans hsum, hbound, ?_⟩
      rw [nesting]
      omega
termination_by structural value

theorem estimateItems_bounds (items : List (Value F)) {depth size total : Nat}
    (hdepth : depth ≤ maxSqlParameterNesting + 1)
    (htotal : estimateItems floatText items depth size = some total) :
    size + (items.map fun item => item.bytes floatText + 1).sum ≤ total ∧
      depth + nestingItems items ≤ maxSqlParameterNesting + 1 := by
  match items with
  | [] =>
      cases htotal
      exact ⟨le_rfl, hdepth⟩
  | item :: rest =>
      rw [estimateItems] at htotal
      cases hitem : estimateJsonValueBytes floatText item depth with
      | none =>
          rw [hitem] at htotal
          cases htotal
      | some estimate =>
          rw [hitem] at htotal
          dsimp only at htotal
          split_ifs at htotal with hlimit
          obtain ⟨hbytes, -, hnesting⟩ := estimateJsonValueBytes_bounds item hitem
          obtain ⟨hsum, hrest⟩ := estimateItems_bounds rest hdepth htotal
          have hmax := maxSqlParameterBytes_lt
          have houter : saturatingAdd (saturatingAdd size 1) estimate =
              saturatingAdd size 1 + estimate := saturatingAdd_eq (by omega)
          have hinner : saturatingAdd size 1 = size + 1 := saturatingAdd_eq (by omega)
          rw [List.map_cons, List.sum_cons, nestingItems]
          omega
termination_by structural items

theorem estimateEntries_bounds (entries : List (String × Value F)) {depth size total : Nat}
    (hdepth : depth ≤ maxSqlParameterNesting + 1)
    (htotal : estimateEntries floatText entries depth size = some total) :
    size + (entries.map fun entry => entryBytes floatText entry + 1).sum ≤ total ∧
      depth + nestingEntries entries ≤ maxSqlParameterNesting + 1 := by
  match entries with
  | [] =>
      cases htotal
      exact ⟨le_rfl, hdepth⟩
  | (key, item) :: rest =>
      rw [estimateEntries] at htotal
      dsimp only at htotal
      cases hitem : estimateJsonValueBytes floatText item depth with
      | none =>
          rw [hitem] at htotal
          cases htotal
      | some estimate =>
          rw [hitem] at htotal
          dsimp only at htotal
          split_ifs at htotal with hlimit
          obtain ⟨hbytes, -, hnesting⟩ := estimateJsonValueBytes_bounds item hitem
          obtain ⟨hsum, hrest⟩ := estimateEntries_bounds rest hdepth htotal
          have hmax := maxSqlParameterBytes_lt
          have hkey := utf8Length_quoteText_le key
          generalize hproduct : saturatingMul (utf8Length key.toList) 6 = product at *
          have houter : saturatingAdd (saturatingAdd (saturatingAdd size product) estimate) 4 =
              saturatingAdd (saturatingAdd size product) estimate + 4 :=
            saturatingAdd_eq (by omega)
          have hmiddle : saturatingAdd (saturatingAdd size product) estimate =
              saturatingAdd size product + estimate := saturatingAdd_eq (by omega)
          have hinner : saturatingAdd size product = size + product :=
            saturatingAdd_eq (by omega)
          have hkeyBytes : product = utf8Length key.toList * 6 :=
            hproduct.symm.trans (saturatingMul_eq (by omega))
          rw [List.map_cons, List.sum_cons, nestingEntries, entryBytes]
          dsimp only
          omega
termination_by structural entries

end

end Bounds

/-! ## What is admitted -/

section Admitted

variable {floatText : F → List Char}

/-- A parameter which is no longer and no deeper than it may be, and keeps its value where it
is an integer. -/
structure Admitted (floatText : F → List Char) (value : Value F) : Prop where
  size : ∃ estimate, estimateJsonValueBytes floatText value 0 = some estimate ∧
    value.bytes floatText ≤ estimate ∧ estimate ≤ maxSqlParameterBytes
  depth : nesting value ≤ maxSqlParameterNesting
  integer : ∀ number, value = .number number → ∀ integer, number.integer? = some integer →
    ∃ bound, jsonValueToSqlParam floatText value = .integer bound ∧ bound.toInt = integer

theorem jsonValueToSqlParam_integer {number : Number F} {integer : Int}
    (hsmall : number.asU64.any (· > Int64.maxValue.toUInt64) = false)
    (hinteger : number.integer? = some integer) :
    ∃ bound, jsonValueToSqlParam floatText (.number number) = .integer bound ∧
      bound.toInt = integer := by
  cases number with
  | posInt unsigned =>
      have hrange : unsigned ≤ Int64.maxValue.toUInt64 := by
        simpa [Number.asU64] using hsmall
      cases hinteger
      have hsigned : (Number.posInt unsigned : Number F).asI64 = some unsigned.toInt64 :=
        if_pos hrange
      have hbound : jsonValueToSqlParam floatText (.number (.posInt unsigned)) =
          .integer unsigned.toInt64 := by
        simp only [jsonValueToSqlParam, hsigned]
      exact ⟨unsigned.toInt64, hbound, Number.toInt_toInt64 (Number.toNat_le_of_le hrange)⟩
  | negInt signed negative =>
      cases hinteger
      exact ⟨signed, rfl, rfl⟩
  | float double => cases hinteger

theorem addParameterBytes_sound {params : List (Value F)} {requestBytes total : Nat}
    (hwithin : requestBytes ≤ maxSqlRequestBytes)
    (hok : addParameterBytes floatText params requestBytes = .ok total) :
    (∀ value ∈ params, Admitted floatText value) ∧
      requestBytes + (params.map (Value.bytes floatText)).sum ≤ total ∧
      total ≤ maxSqlRequestBytes := by
  induction params generalizing requestBytes with
  | nil =>
      cases hok
      exact ⟨fun _ hmem => absurd hmem List.not_mem_nil, le_rfl, hwithin⟩
  | cons value rest ih =>
      rw [addParameterBytes] at hok
      split_ifs at hok with hlarge
      cases hestimate : estimateJsonValueBytes floatText value 0 with
      | none =>
          rw [hestimate] at hok
          cases hok
      | some estimate =>
          rw [hestimate] at hok
          dsimp only at hok
          split_ifs at hok with hparameter hrequest
          obtain ⟨hbytes, hbound, hdepth⟩ := estimateJsonValueBytes_bounds value hestimate
          obtain ⟨hrest, hsum, htotal⟩ := ih (not_lt.mp hrequest) hok
          have hlimit : maxSqlRequestBytes < usizeMax := by decide
          have hadded : saturatingAdd requestBytes estimate = requestBytes + estimate :=
            saturatingAdd_eq (by omega)
          refine ⟨List.forall_mem_cons.mpr ⟨⟨⟨estimate, hestimate, hbytes, hbound⟩, ?_, ?_⟩,
            hrest⟩, ?_, htotal⟩
          · omega
          · rintro number rfl integer hinteger
            exact jsonValueToSqlParam_integer (by simpa [addParameterBytes.asU64?] using hlarge)
              hinteger
          · rw [List.map_cons, List.sum_cons]
            omega

/-- What `validate_sql_request` accepts is within all of its bounds. -/
theorem validateSqlRequest_sound {sql : String} {params : List (Value F)} {requestBytes : Nat}
    (haccepted : validateSqlRequest floatText sql params = .ok requestBytes) :
    (∀ value ∈ params, Admitted floatText value) ∧
      utf8Length sql.toList + (params.map (Value.bytes floatText)).sum ≤ requestBytes ∧
      requestBytes ≤ maxSqlRequestBytes := by
  unfold validateSqlRequest at haccepted
  split_ifs at haccepted with hstatement hcount
  refine addParameterBytes_sound ?_ haccepted
  exact (not_lt.mp hstatement).trans (by decide)

def nestedParams : List (Value Unit) :=
  [.object [("k\n", .array [.null, .bool false, .string "v"])],
   .number (.negInt (-7) (by decide)), .number (.float ())]

theorem validateSqlRequest_sound_nestedParams :
    (∀ value ∈ nestedParams, Admitted (fun _ => "1.5".toList) value) ∧
      utf8Length "SELECT ?, ?, ?".toList +
        (nestedParams.map (Value.bytes fun _ => "1.5".toList)).sum ≤ 59 ∧
      59 ≤ maxSqlRequestBytes :=
  validateSqlRequest_sound (by with_unfolding_all rfl)

end Admitted

end TauriPlatform.NativeRequest
