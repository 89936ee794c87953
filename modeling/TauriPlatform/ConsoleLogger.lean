import TauriPlatform.LiveValue
import Mathlib.Data.Finset.Card

/-!
# The console logger

The data of a log entry may be a graph of objects with cycles.  It is written as a tree: a
reference back to an object which is being written is cut, and what a sensitive key holds is
replaced before it is looked at.  Two graphs which differ only below such keys give one line.
-/

namespace TauriPlatform.ConsoleLogger

/-! ## Sensitive keys -/

def redactedKeyFragments : List String :=
  ["private", "seed", "password", "secret", "token", "credential", "keystore", "authorization",
    "apikey", "accesskey", "signingkey"]

/-- What `toLowerCase` and the removal of `[^a-z0-9]` leave of a character.  The Kelvin sign and
the dotted capital I are the only others with a small letter of the alphabet. -/
def normalizedChar (c : Char) : Option Char :=
  if 'A' ≤ c ∧ c ≤ 'Z' then some (Char.ofNat (c.toNat + 32))
  else if ('a' ≤ c ∧ c ≤ 'z') ∨ ('0' ≤ c ∧ c ≤ '9') then some c
  else if c.toNat = 0x212A then some 'k'
  else if c.toNat = 0x130 then some 'i'
  else none

def isSensitiveKey (key : String) : Bool :=
  let normalizedKey := key.toList.filterMap normalizedChar
  redactedKeyFragments.any fun fragment => fragment.toList <:+: normalizedKey

example : isSensitiveKey "X-Api_Key" = true := by
  decide

/-! ## Graphs -/

inductive Held (Address : Type) where
  | undefined
  | null
  | primitive (value : JsPrimitive)
  | symbol (description : String)
  | object (address : Address)

/-- An array, with its empty slots, or a plain object, with its entries in the order of
`Object.entries`. -/
inductive Node (Address : Type) where
  | array (items : List (Option (Held Address)))
  | object (entries : List (String × Held Address))

structure Graph where
  size : Nat
  node : Fin size → Node (Fin size)

theorem remaining_lt {size : Nat} {ancestors : Finset (Fin size)} {address : Fin size}
    (hnew : address ∉ ancestors) :
    size - (insert address ancestors).card < size - ancestors.card := by
  have hroom := Finset.card_lt_univ_of_notMem hnew
  rw [Fintype.card_fin] at hroom
  rw [Finset.card_insert_of_notMem hnew]
  omega

/-- `sanitizeValue`.  An object is an ancestor of what is written within it, and no longer
afterwards; a symbol is written like `undefined`. -/
def sanitizeValue (graph : Graph) (ancestors : Finset (Fin graph.size)) :
    Held (Fin graph.size) → JsValue
  | .primitive (.bigint value) => .primitive (.string (toString value))
  | .undefined => .undefined
  | .null => .null
  | .symbol _ => .undefined
  | .primitive value => .primitive value
  | .object address =>
      if address ∈ ancestors then .primitive (.string "[Circular]")
      else
        match graph.node address with
        | .array items =>
            .array (items.map fun item =>
              match item with
              | none => .hole
              | some item => sanitizeValue graph (insert address ancestors) item)
        | .object entries =>
            .object ((entries.map fun entry =>
              (entry.1,
                if isSensitiveKey entry.1 then .primitive (.string "[REDACTED]")
                else sanitizeValue graph (insert address ancestors) entry.2)).foldl
              (fun sanitized entry => JsValue.define sanitized entry.1 entry.2) [])
termination_by graph.size - ancestors.card
decreasing_by
  all_goals exact remaining_lt ‹_›

section Sanitize

variable {graph : Graph} {ancestors : Finset (Fin graph.size)} {address : Fin graph.size}

theorem sanitizeValue_circular (hmem : address ∈ ancestors) :
    sanitizeValue graph ancestors (.object address) = .primitive (.string "[Circular]") := by
  rw [sanitizeValue, if_pos hmem]

theorem sanitizeValue_array (hnew : address ∉ ancestors)
    {items : List (Option (Held (Fin graph.size)))} (hnode : graph.node address = .array items) :
    sanitizeValue graph ancestors (.object address) =
      .array (items.map fun item =>
        (item.map (sanitizeValue graph (insert address ancestors))).getD .hole) := by
  rw [sanitizeValue, if_neg hnew, hnode]
  refine congrArg JsValue.array (List.map_congr_left fun item _ => ?_)
  cases item <;> rfl

theorem sanitizeValue_object (hnew : address ∉ ancestors)
    {entries : List (String × Held (Fin graph.size))} (hnode : graph.node address = .object entries) :
    sanitizeValue graph ancestors (.object address) =
      .object ((entries.map fun entry =>
        (entry.1,
          if isSensitiveKey entry.1 then .primitive (.string "[REDACTED]")
          else sanitizeValue graph (insert address ancestors) entry.2)).foldl
        (fun sanitized entry => JsValue.define sanitized entry.1 entry.2) []) := by
  rw [sanitizeValue, if_neg hnew, hnode]

end Sanitize

structure LogData where
  graph : Graph
  root : Held (Fin graph.size)

def primitiveIsTrue : JsPrimitive → Bool
  | .bool value => value
  | .number (.finite value) => value ≠ .integer 0
  | .number (.nonFinite text) => text ≠ "NaN"
  | .negativeZero => false
  | .bigint value => value ≠ 0
  | .string value => value ≠ ""

def Held.isTrue {Address : Type} : Held Address → Bool
  | .undefined => false
  | .null => false
  | .primitive value => primitiveIsTrue value
  | .symbol _ => true
  | .object _ => true

def sanitizeData (data : LogData) : JsValue :=
  if data.root.isTrue then sanitizeValue data.graph ∅ data.root else .undefined

/-! ## Lines -/

inductive LogLevel where
  | trace
  | debug
  | info
  | warn
  | error

/-- `level.toUpperCase()`. -/
def LogLevel.upper : LogLevel → String
  | .trace => "TRACE"
  | .debug => "DEBUG"
  | .info => "INFO"
  | .warn => "WARN"
  | .error => "ERROR"

structure LogEntry where
  level : LogLevel
  message : String
  timestamp : String
  correlationId : Option String
  feature : Option String
  operation : Option String
  deviceId : Option String
  userId : Option String
  data : Option LogData

/-- `...(value ? \x7b key: value \x7d : \x7b\x7d)`. -/
def spread (key : String) (value : Option String) : List (String × JsValue) :=
  match value with
  | some text => if text = "" then [] else [(key, .primitive (.string text))]
  | none => []

def spreadData (data : Option LogData) : List (String × JsValue) :=
  match data with
  | some data => if data.root.isTrue then [("data", sanitizeData data)] else []
  | none => []

def formatEntry (entry : LogEntry) : Except String (Option String) :=
  JsValue.stringify (.object
    ([("timestamp", .primitive (.string entry.timestamp)),
      ("level", .primitive (.string entry.level.upper)),
      ("message", .primitive (.string entry.message))] ++
      spread "correlationId" entry.correlationId ++ spread "feature" entry.feature ++
      spread "operation" entry.operation ++ spread "deviceId" entry.deviceId ++
      spread "userId" entry.userId ++ spreadData entry.data))

/-! ## Two runs -/

inductive Held.Agrees {Left Right : Type} (same : Left → Right → Prop) :
    Held Left → Held Right → Prop
  | undefined : Held.Agrees same .undefined .undefined
  | null : Held.Agrees same .null .null
  | primitive (value : JsPrimitive) : Held.Agrees same (.primitive value) (.primitive value)
  | symbol (description : String) : Held.Agrees same (.symbol description) (.symbol description)
  | object {left : Left} {right : Right} (hsame : same left right) :
      Held.Agrees same (.object left) (.object right)

/-- Objects with the same items, or with the same keys and the same values of all keys which are
not sensitive. -/
inductive Node.Agrees {Left Right : Type} (same : Left → Right → Prop) :
    Node Left → Node Right → Prop
  | array {left : List (Option (Held Left))} {right : List (Option (Held Right))}
      (hitems : List.Forall₂ (Option.Rel (Held.Agrees same)) left right) :
      Node.Agrees same (.array left) (.array right)
  | object {left : List (String × Held Left)} {right : List (String × Held Right)}
      (hentries : List.Forall₂ (fun leftEntry rightEntry => leftEntry.1 = rightEntry.1 ∧
        (isSensitiveKey leftEntry.1 = false → leftEntry.2.Agrees same rightEntry.2)) left right) :
      Node.Agrees same (.object left) (.object right)

section Agrees

variable {Left Right : Type} {same : Left → Right → Prop} {left : Node Left} {right : Node Right}

theorem Node.Agrees.of_array (hagrees : left.Agrees same right) {items : List (Option (Held Left))}
    (hleft : left = .array items) :
    ∃ otherItems, right = .array otherItems ∧
      List.Forall₂ (Option.Rel (Held.Agrees same)) items otherItems := by
  subst hleft
  cases hagrees with
  | array hitems => exact ⟨_, rfl, hitems⟩

theorem Node.Agrees.of_object (hagrees : left.Agrees same right)
    {entries : List (String × Held Left)} (hleft : left = .object entries) :
    ∃ otherEntries, right = .object otherEntries ∧
      List.Forall₂ (fun entry otherEntry => entry.1 = otherEntry.1 ∧
        (isSensitiveKey entry.1 = false → entry.2.Agrees same otherEntry.2))
        entries otherEntries := by
  subst hleft
  cases hagrees with
  | object hentries => exact ⟨_, rfl, hentries⟩

theorem map_eq_of_forall₂ {α β γ : Type} {relation : α → β → Prop} {f : α → γ} {g : β → γ}
    {items : List α} {others : List β} (hitems : List.Forall₂ relation items others)
    (heq : ∀ item other, relation item other → f item = g other) :
    items.map f = others.map g := by
  induction hitems with
  | nil => rfl
  | cons hfirst _ ih => rw [List.map_cons, List.map_cons, heq _ _ hfirst, ih]

end Agrees

/-- The data differ only in what sensitive keys hold: the objects which are found without such a
key correspond to each other. -/
structure DiffersInSecrets (left right : LogData) (same : Fin left.graph.size →
    Fin right.graph.size → Prop) : Prop where
  root : left.root.Agrees same right.root
  node : ∀ leftAddress rightAddress, same leftAddress rightAddress →
    (left.graph.node leftAddress).Agrees same (right.graph.node rightAddress)
  unique : ∀ leftAddress rightAddress otherLeft otherRight, same leftAddress rightAddress →
    same otherLeft otherRight → (leftAddress = otherLeft ↔ rightAddress = otherRight)

section TwoRuns

variable {left right : LogData} {same : Fin left.graph.size → Fin right.graph.size → Prop}

def SameAncestors (same : Fin left.graph.size → Fin right.graph.size → Prop)
    (ancestors : Finset (Fin left.graph.size)) (otherAncestors : Finset (Fin right.graph.size)) :
    Prop :=
  ∀ leftAddress rightAddress, same leftAddress rightAddress →
    (leftAddress ∈ ancestors ↔ rightAddress ∈ otherAncestors)

theorem DiffersInSecrets.insert (hdiffers : DiffersInSecrets left right same)
    {ancestors : Finset (Fin left.graph.size)} {otherAncestors : Finset (Fin right.graph.size)}
    (hancestors : SameAncestors same ancestors otherAncestors) {leftAddress : Fin left.graph.size}
    {rightAddress : Fin right.graph.size} (hsame : same leftAddress rightAddress) :
    SameAncestors same (insert leftAddress ancestors) (insert rightAddress otherAncestors) := by
  intro otherLeft otherRight hother
  rw [Finset.mem_insert, Finset.mem_insert, hancestors _ _ hother,
    hdiffers.unique _ _ _ _ hother hsame]

theorem DiffersInSecrets.sanitizeValue_eq (hdiffers : DiffersInSecrets left right same)
    (ancestors : Finset (Fin left.graph.size)) (value : Held (Fin left.graph.size)) :
    ∀ otherAncestors other, SameAncestors same ancestors otherAncestors →
      value.Agrees same other →
      sanitizeValue left.graph ancestors value = sanitizeValue right.graph otherAncestors other := by
  induction ancestors, value using sanitizeValue.induct with
  | case1 ancestors value =>
      intro otherAncestors other hancestors hagrees
      cases hagrees
      rw [sanitizeValue, sanitizeValue]
  | case2 ancestors =>
      intro otherAncestors other hancestors hagrees
      cases hagrees
      rw [sanitizeValue, sanitizeValue]
  | case3 ancestors =>
      intro otherAncestors other hancestors hagrees
      cases hagrees
      rw [sanitizeValue, sanitizeValue]
  | case4 ancestors description =>
      intro otherAncestors other hancestors hagrees
      cases hagrees
      rw [sanitizeValue, sanitizeValue]
  | case5 ancestors value hnotBig =>
      intro otherAncestors other hancestors hagrees
      cases hagrees
      rw [sanitizeValue, sanitizeValue]
      · exact hnotBig
      · exact hnotBig
  | case6 ancestors address hmem =>
      intro otherAncestors other hancestors hagrees
      cases hagrees with
      | object hsame =>
          rw [sanitizeValue_circular hmem, sanitizeValue_circular ((hancestors _ _ hsame).mp hmem)]
  | case7 ancestors address hnew items hnode ih =>
      intro otherAncestors other hancestors hagrees
      cases hagrees with
      | @object _ otherAddress hsame =>
          obtain ⟨otherItems, hotherNode, hitems⟩ := (hdiffers.node _ _ hsame).of_array hnode
          have hother : otherAddress ∉ otherAncestors := fun hmem =>
            hnew ((hancestors _ _ hsame).mpr hmem)
          rw [sanitizeValue_array hnew hnode, sanitizeValue_array hother hotherNode]
          refine congrArg JsValue.array (map_eq_of_forall₂ hitems fun item otherItem hitem => ?_)
          cases hitem with
          | none => rfl
          | some hitem => exact ih _ _ _ (hdiffers.insert hancestors hsame) hitem
  | case8 ancestors address hnew entries hnode ih =>
      intro otherAncestors other hancestors hagrees
      cases hagrees with
      | @object _ otherAddress hsame =>
          obtain ⟨otherEntries, hotherNode, hentries⟩ := (hdiffers.node _ _ hsame).of_object hnode
          have hother : otherAddress ∉ otherAncestors := fun hmem =>
            hnew ((hancestors _ _ hsame).mpr hmem)
          rw [sanitizeValue_object hnew hnode, sanitizeValue_object hother hotherNode,
            map_eq_of_forall₂ hentries]
          intro entry otherEntry hentry
          rw [← hentry.1]
          -- What a sensitive key holds is not looked at.
          by_cases hsensitive : isSensitiveKey entry.1 = true
          · rw [if_pos hsensitive, if_pos hsensitive]
          · rw [if_neg hsensitive, if_neg hsensitive,
              ih entry _ _ (hdiffers.insert hancestors hsame)
                (hentry.2 (Bool.eq_false_iff.mpr hsensitive))]

theorem DiffersInSecrets.isTrue_eq (hdiffers : DiffersInSecrets left right same) :
    left.root.isTrue = right.root.isTrue := by
  have hroot := hdiffers.root
  generalize left.root = leftRoot at hroot ⊢
  generalize right.root = rightRoot at hroot ⊢
  cases hroot <;> rfl

theorem DiffersInSecrets.sanitizeData_eq (hdiffers : DiffersInSecrets left right same) :
    sanitizeData left = sanitizeData right := by
  have hnone : SameAncestors same ∅ ∅ := fun _ _ _ => by simp
  rw [sanitizeData, sanitizeData, hdiffers.isTrue_eq,
    hdiffers.sanitizeValue_eq ∅ left.root ∅ right.root hnone hdiffers.root]

end TwoRuns

/-! ## The line is written -/

theorem mem_of_mem_foldl_define {entry : String × JsValue} {entries : List (String × JsValue)} :
    ∀ {sanitized : List (String × JsValue)},
      entry ∈ entries.foldl (fun sanitized entry => JsValue.define sanitized entry.1 entry.2)
        sanitized → entry ∈ sanitized ∨ entry ∈ entries := by
  induction entries with
  | nil => exact fun hmem => .inl hmem
  | cons first rest ih =>
      intro sanitized hmem
      rcases ih hmem with hbefore | hrest
      · rcases JsValue.mem_define hbefore with hfirst | hold
        · exact .inr (hfirst ▸ List.mem_cons_self)
        · exact .inl hold
      · exact .inr (List.mem_cons_of_mem _ hrest)

/-- A big integer is written as a string, so none is left for `JSON.stringify`. -/
theorem holdsBigInt_sanitizeValue (graph : Graph) (ancestors : Finset (Fin graph.size))
    (value : Held (Fin graph.size)) :
    (sanitizeValue graph ancestors value).holdsBigInt = false := by
  induction ancestors, value using sanitizeValue.induct with
  | case1 ancestors value => simp [sanitizeValue, JsValue.holdsBigInt]
  | case2 ancestors => simp [sanitizeValue, JsValue.holdsBigInt]
  | case3 ancestors => simp [sanitizeValue, JsValue.holdsBigInt]
  | case4 ancestors description => simp [sanitizeValue, JsValue.holdsBigInt]
  | case5 ancestors value hnotBig =>
      rw [sanitizeValue]
      · cases value with
        | bigint value => exact absurd rfl (hnotBig value)
        | _ => rfl
      · exact hnotBig
  | case6 ancestors address hmem =>
      rw [sanitizeValue_circular hmem]
      rfl
  | case7 ancestors address hnew items hnode ih =>
      rw [sanitizeValue_array hnew hnode, JsValue.holdsBigInt, JsValue.itemsHoldBigInt_eq_false]
      intro written hwritten
      obtain ⟨item, -, rfl⟩ := List.mem_map.mp hwritten
      cases item with
      | none => rfl
      | some item => exact ih item
  | case8 ancestors address hnew entries hnode ih =>
      rw [sanitizeValue_object hnew hnode, JsValue.holdsBigInt, JsValue.entriesHoldBigInt_eq_false]
      intro written hwritten
      have hfrom := mem_of_mem_foldl_define hwritten
      obtain ⟨entry, -, rfl⟩ := List.mem_map.mp (hfrom.resolve_left (by simp))
      simp only
      split_ifs
      · rfl
      · exact ih entry

theorem holdsBigInt_spread {key : String} {text : Option String} {written : String × JsValue}
    (hwritten : written ∈ spread key text) : written.2.holdsBigInt = false := by
  unfold spread at hwritten
  split at hwritten
  · split_ifs at hwritten
    · cases hwritten
    · rw [List.mem_singleton.mp hwritten]
      rfl
  · cases hwritten

theorem holdsBigInt_spreadData {data : Option LogData} {written : String × JsValue}
    (hwritten : written ∈ spreadData data) : written.2.holdsBigInt = false := by
  unfold spreadData at hwritten
  split at hwritten
  · split_ifs at hwritten
    · rw [List.mem_singleton.mp hwritten, sanitizeData]
      split_ifs
      · exact holdsBigInt_sanitizeValue _ _ _
    · cases hwritten
  · cases hwritten

theorem formatEntry_ok (entry : LogEntry) : ∃ line, formatEntry entry = .ok (some line) := by
  rw [formatEntry, JsValue.stringify, if_neg]
  · exact ⟨_, rfl⟩
  · rw [Bool.not_eq_true, JsValue.holdsBigInt, JsValue.entriesHoldBigInt_eq_false]
    intro written hwritten
    simp only [List.mem_append, List.mem_cons, List.not_mem_nil, or_false] at hwritten
    rcases hwritten with ((((((rfl | rfl | rfl) | h) | h) | h) | h) | h) | hdata
    · rfl
    · rfl
    · rfl
    all_goals first | exact holdsBigInt_spread h | exact holdsBigInt_spreadData hdata

def plainSession : LogData where
  graph :=
    { size := 1
      node := fun _ => .object
        [("user", .primitive (.string "ada")), ("password", .primitive (.string "tide")),
          ("self", .object 0)] }
  root := .object 0

def wrappedSession : LogData where
  graph :=
    { size := 2
      node := fun address =>
        if address = 0 then .object
          [("user", .primitive (.string "ada")), ("password", .object 1), ("self", .object 0)]
        else .object [("hash", .primitive (.bigint 7)), ("owner", .object 0)] }
  root := .object 0

def loginEntry : LogEntry where
  level := .info
  message := "login"
  timestamp := "2024-01-01T00:00:00.000Z"
  correlationId := none
  feature := none
  operation := none
  deviceId := none
  userId := none
  data := none

/-- No secret is told by a line: data which differ only in what sensitive keys hold are written
in the same way. -/
theorem formatEntry_eq (entry : LogEntry) (left right : LogData)
    (same : Fin left.graph.size → Fin right.graph.size → Prop)
    (hdiffers : DiffersInSecrets left right same) :
    ∃ line, formatEntry { entry with data := some left } = .ok (some line) ∧
      formatEntry { entry with data := some right } = .ok (some line) := by
  obtain ⟨line, hline⟩ := formatEntry_ok { entry with data := some left }
  refine ⟨line, hline, ?_⟩
  rw [← hline, formatEntry, formatEntry]
  simp only [spreadData, hdiffers.isTrue_eq, hdiffers.sanitizeData_eq]

theorem formatEntry_eq_session :
    ∃ line, formatEntry { loginEntry with data := some plainSession } = .ok (some line) ∧
      formatEntry { loginEntry with data := some wrappedSession } = .ok (some line) :=
  formatEntry_eq loginEntry plainSession wrappedSession
    (fun _ (rightAddress : Fin 2) => rightAddress = 0)
    { root := .object rfl
      node := by
        rintro leftAddress rightAddress rfl
        have hsecret : isSensitiveKey "password" = true := by decide
        refine .object (.cons ⟨rfl, fun _ => .primitive _⟩ (.cons ⟨rfl, fun hopen => ?_⟩
          (.cons ⟨rfl, fun _ => .object rfl⟩ .nil)))
        rw [hsecret] at hopen
        cases hopen
      unique := by
        rintro leftAddress rightAddress otherLeft otherRight rfl rfl
        exact iff_of_true (@Subsingleton.elim (Fin 1) _ _ _) rfl }

end TauriPlatform.ConsoleLogger
