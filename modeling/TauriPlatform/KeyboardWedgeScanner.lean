import TauriPlatform.IsoTimestamp
import TauriPlatform.JsNumber
import TauriPlatform.PlatformError
import TauriPlatform.ReadingRange

/-!
# The keyboard wedge scanner

A scanner types its code faster than a person does, and the terminator ends it.  The buffer holds
the characters which came without a long pause; keys with longer names are ignored, but they move
the time of the last key.  A pause before such a key is then no pause any more, and a scan is known
to be typed without one only where no ignored key hides it.
-/

namespace TauriPlatform.KeyboardWedgeScanner

/-! ## The scanner -/

structure Options where
  maxInterKeyDelayMs : Option JsNumber
  terminatorKey : Option String
  minScanLength : Option JsNumber

structure Settings where
  maxInterKeyDelayMs : ℚ
  terminatorKey : String
  minScanLength : Nat
  delay_pos : 0 < maxInterKeyDelayMs
  terminator_ne : terminatorKey ≠ ""
  length_pos : 1 ≤ minScanLength
  deriving DecidableEq

theorem length_pos_of_safeInteger {length : ℚ}
    (hlength : length.den = 1 ∧ |length| ≤ 2 ^ 53 - 1 ∧ 1 ≤ length) : 1 ≤ length.num.toNat := by
  have hone : (1 : ℚ) ≤ length.num := by
    rw [Rat.coe_int_num_of_den_eq_one hlength.1]
    exact hlength.2.2
  have hnum : 1 ≤ length.num := by exact_mod_cast hone
  omega

def create (options : Options) : Except Thrown Settings :=
  match options.maxInterKeyDelayMs.getD (.finite 50) with
  | .finite delay =>
      if hdelay : 0 < delay then
        if hterminator : options.terminatorKey.getD "Enter" = "" then
          .error (.builtin "TypeError" "terminatorKey must not be empty")
        else
          match options.minScanLength.getD (.finite 3) with
          | .finite length =>
              if hlength : length.den = 1 ∧ |length| ≤ 2 ^ 53 - 1 ∧ 1 ≤ length then
                .ok
                  { maxInterKeyDelayMs := delay
                    terminatorKey := options.terminatorKey.getD "Enter"
                    minScanLength := length.num.toNat
                    delay_pos := hdelay
                    terminator_ne := hterminator
                    length_pos := length_pos_of_safeInteger hlength }
              else .error (.builtin "RangeError" "minScanLength must be a positive safe integer")
          | _ => .error (.builtin "RangeError" "minScanLength must be a positive safe integer")
      else .error (.builtin "RangeError" "maxInterKeyDelayMs must be a positive finite number")
  | _ => .error (.builtin "RangeError" "maxInterKeyDelayMs must be a positive finite number")

variable {L : Type}

structure State (L : Type) where
  listener : Option L
  buffer : List String
  lastKeyTime : Option ℚ

def State.initial : State L :=
  { listener := none, buffer := [], lastKeyTime := none }

structure BarcodeScanResult where
  text : String
  timestamp : String
  deviceType : String

/-- `timestamp - this.lastKeyTime`. -/
def timeSince (timestamp lastKeyTime : ℚ) : JsNumber :=
  JsNumber.ofRat (timestamp - lastKeyTime)

section Key

variable (settings : Settings) (s : State L) (timestamp : ℚ)

def keptBuffer : List String :=
  if s.lastKeyTime.any fun last => JsNumber.lt (timeSince timestamp last) (.finite 0) then []
  else s.buffer

def terminatorWasPrompt : Bool :=
  s.lastKeyTime.any fun last =>
    JsNumber.le (.finite 0) (timeSince timestamp last) &&
      JsNumber.le (timeSince timestamp last) (.finite settings.maxInterKeyDelayMs)

def wasSlow : Bool :=
  s.lastKeyTime.any fun last =>
    JsNumber.lt (.finite settings.maxInterKeyDelayMs) (timeSince timestamp last)

end Key

/-- `handleKeyEvent`, with the scan for which the listener is called; the listener runs when the
state is final.  The second reading is that of `getUtcIsoTimestamp`. -/
def handleKeyEvent (settings : Settings) (s : State L) (key : String) (timestamp : JsNumber)
    (scanned : ClockReading) : State L × Option (L × BarcodeScanResult) :=
  match s.listener, timestamp with
  | some listener, .finite time =>
      let buffer := keptBuffer s time
      if key = settings.terminatorKey then
        let cleared := { s with buffer := [], lastKeyTime := none }
        if terminatorWasPrompt settings s time ∧ settings.minScanLength ≤ buffer.length then
          (cleared, some (listener,
            { text := String.join buffer, timestamp := scanned.iso, deviceType := "keyboard-wedge" }))
        else (cleared, none)
      else if jsLength key = 1 then
        let buffer := if buffer ≠ [] ∧ wasSlow settings s time then [] else buffer
        ({ s with buffer := buffer ++ [key], lastKeyTime := some time }, none)
      else ({ s with buffer := buffer, lastKeyTime := some time }, none)
  | _, _ => (s, none)

/-- A call of the scanner; the first reading is that of `Date.now()`. -/
inductive Call (L : Type) where
  | startListening (listener : L)
  | stopListening
  | handleKeyEvent (key : String) (timestamp : Option JsNumber) (now scanned : ClockReading)

def step (settings : Settings) (s : State L) :
    Call L → State L × Option (L × BarcodeScanResult)
  | .startListening listener =>
      ({ listener := some listener, buffer := [], lastKeyTime := none }, none)
  | .stopListening => ({ listener := none, buffer := [], lastKeyTime := none }, none)
  | .handleKeyEvent key timestamp now scanned =>
      handleKeyEvent settings s key (timestamp.getD (.finite now.millis)) scanned

/-! ## Runs -/

structure Listening (L : Type) where
  state : State L
  heard : List (String × ℚ)

def Listening.initial : Listening L :=
  { state := State.initial, heard := [] }

/-- A scan, with the characters heard before it and the time of its terminator. -/
structure Emission (L : Type) where
  listener : L
  result : BarcodeScanResult
  heard : List (String × ℚ)
  terminatorTime : ℚ

def isCharacter (settings : Settings) (key : String) : Prop :=
  key ≠ settings.terminatorKey ∧ jsLength key = 1

instance (settings : Settings) (key : String) : Decidable (isCharacter settings key) :=
  inferInstanceAs (Decidable (_ ∧ _))

namespace Listening

variable (settings : Settings) (r : Listening L)

def heardAfter : Call L → List (String × ℚ)
  | .handleKeyEvent key timestamp now _ =>
      match r.state.listener, timestamp.getD (.finite now.millis) with
      | some _, .finite time =>
          if isCharacter settings key then r.heard ++ [(key, time)] else r.heard
      | _, _ => r.heard
  | _ => []

def after (call : Call L) : Listening L :=
  { state := (step settings r.state call).1, heard := r.heardAfter settings call }

def emission : Call L → Option (Emission L)
  | .handleKeyEvent key timestamp now scanned =>
      match timestamp.getD (.finite now.millis) with
      | .finite time =>
          (step settings r.state (.handleKeyEvent key timestamp now scanned)).2.map fun emitted =>
            { listener := emitted.1
              result := emitted.2
              heard := r.heard
              terminatorTime := time }
      | _ => none
  | _ => none

def emissions (r : Listening L) : List (Call L) → List (Emission L)
  | [] => []
  | call :: calls => (r.emission settings call).toList ++ emissions (r.after settings call) calls

end Listening

def Close (settings : Settings) (earlier later : String × ℚ) : Prop :=
  0 ≤ later.2 - earlier.2 ∧ later.2 - earlier.2 ≤ settings.maxInterKeyDelayMs

/-- The text is that of the last characters heard, it is long enough, and there is no long pause
among them and before the terminator. -/
def Emission.Scanned (settings : Settings) (emission : Emission L) : Prop :=
  settings.minScanLength ≤ jsLength emission.result.text ∧
    ∃ scan, scan <:+ emission.heard ∧ emission.result.text = String.join (scan.map Prod.fst) ∧
      (scan ++ [(settings.terminatorKey, emission.terminatorTime)]).IsChain (Close settings)

/-- A character or a terminator comes soon after a key which was ignored, but the last of the
buffered characters is too long ago. -/
def hidesPause (settings : Settings) (r : Listening L) : Call L → Bool
  | .handleKeyEvent key timestamp now _ =>
      match timestamp.getD (.finite now.millis), r.state.lastKeyTime, r.heard.getLast? with
      | .finite time, some last, some character =>
          r.state.buffer ≠ [] ∧ (key = settings.terminatorKey ∨ jsLength key = 1) ∧
            last ≤ time ∧ time - last ≤ settings.maxInterKeyDelayMs ∧
            settings.maxInterKeyDelayMs < time - character.2
      | _, _, _ => false
  | _ => false

def pausesShown (settings : Settings) (r : Listening L) : List (Call L) → Bool
  | [] => true
  | call :: calls =>
      !hidesPause settings r call && pausesShown settings (r.after settings call) calls

/-! ## The delays -/

section Delays

variable {settings : Settings} {s : State L} {timestamp last : ℚ}

theorem overflowBound_pos : 0 < JsNumber.overflowBound :=
  sub_pos.mpr (pow_lt_pow_right₀ (by norm_num) (by norm_num))

theorem timeSince_negative (timestamp last : ℚ) :
    JsNumber.lt (timeSince timestamp last) (.finite 0) = true ↔ timestamp < last := by
  have hbound := overflowBound_pos
  unfold timeSince JsNumber.ofRat
  split_ifs with hlarge hsmall
  · refine iff_of_false (by simp [JsNumber.lt]) ?_
    linarith
  · refine iff_of_true rfl ?_
    linarith
  · simp only [JsNumber.lt, decide_eq_true_eq]
    exact sub_neg

theorem timeSince_le {delay : ℚ} (hdelay : 0 < delay)
    (hle : JsNumber.lt (.finite delay) (timeSince timestamp last) = false) :
    timestamp - last ≤ delay := by
  have hbound := overflowBound_pos
  unfold timeSince JsNumber.ofRat at hle
  split_ifs at hle with hlarge hsmall
  · simp [JsNumber.lt] at hle
  · linarith
  · simpa [JsNumber.lt] using hle

theorem prompt_of_terminator (hprompt : terminatorWasPrompt settings s timestamp = true)
    (hlast : s.lastKeyTime = some last) :
    last ≤ timestamp ∧ timestamp - last ≤ settings.maxInterKeyDelayMs := by
  rw [terminatorWasPrompt, hlast, Option.any_some, Bool.and_eq_true] at hprompt
  simp only [JsNumber.le, Bool.and_eq_true, Bool.not_eq_true'] at hprompt
  refine ⟨?_, timeSince_le settings.delay_pos hprompt.2.2⟩
  by_contra hback
  have hnegative := (timeSince_negative timestamp last).mpr (not_le.mp hback)
  rw [hprompt.1.2] at hnegative
  cases hnegative

theorem prompt_of_character (hslow : wasSlow settings s timestamp = false)
    (hlast : s.lastKeyTime = some last) :
    timestamp - last ≤ settings.maxInterKeyDelayMs := by
  rw [wasSlow, hlast, Option.any_some] at hslow
  exact timeSince_le settings.delay_pos hslow

theorem keptBuffer_cases (s : State L) (timestamp : ℚ) :
    keptBuffer s timestamp = [] ∨
      keptBuffer s timestamp = s.buffer ∧ ∀ last, s.lastKeyTime = some last → last ≤ timestamp := by
  unfold keptBuffer
  split_ifs with hnegative
  · exact .inl rfl
  · refine .inr ⟨rfl, fun last hlast => ?_⟩
    rw [hlast, Option.any_some, timeSince_negative] at hnegative
    exact not_lt.mp hnegative

end Delays

/-! ## What is buffered -/

/-- The buffered characters are the last ones heard, without a long pause among them, and the last
key is no earlier than the last of them. -/
structure Buffered (settings : Settings) (r : Listening L) : Prop where
  units : ∀ character ∈ r.heard, jsLength character.1 = 1
  scan : ∃ scan, scan <:+ r.heard ∧ r.state.buffer = scan.map Prod.fst ∧
    scan.IsChain (Close settings)
  lastKey : r.state.buffer ≠ [] → ∃ last character, r.state.lastKeyTime = some last ∧
    r.heard.getLast? = some character ∧ character.2 ≤ last

theorem Buffered.initial (settings : Settings) : Buffered settings (Listening.initial : Listening L) where
  units := by simp [Listening.initial]
  scan := ⟨[], List.nil_suffix, rfl, .nil⟩
  lastKey hbuffer := absurd rfl hbuffer

theorem Buffered.of_empty {settings : Settings} {r : Listening L} (hbuffer : r.state.buffer = [])
    (hunits : ∀ character ∈ r.heard, jsLength character.1 = 1) : Buffered settings r where
  units := hunits
  scan := ⟨[], List.nil_suffix, hbuffer, .nil⟩
  lastKey hne := absurd hbuffer hne

section Step

variable {settings : Settings} {r : Listening L} {key : String} {time : ℚ}
  {timestamp : Option JsNumber} {now scanned : ClockReading}

theorem Buffered.append_chain (hbuffered : Buffered settings r)
    (hshown : hidesPause settings r (.handleKeyEvent key timestamp now scanned) = false)
    (htime : timestamp.getD (.finite now.millis) = .finite time)
    (hkey : key = settings.terminatorKey ∨ jsLength key = 1)
    (hprompt : ∀ last, r.state.lastKeyTime = some last →
      last ≤ time ∧ time - last ≤ settings.maxInterKeyDelayMs) :
    ∃ scan, scan <:+ r.heard ∧ r.state.buffer = scan.map Prod.fst ∧
      (scan ++ [(key, time)]).IsChain (Close settings) := by
  obtain ⟨scan, hsuffix, hbuffer, hchain⟩ := hbuffered.scan
  refine ⟨scan, hsuffix, hbuffer, ?_⟩
  rw [List.isChain_append]
  refine ⟨hchain, .singleton _, fun character hcharacter next hnext => ?_⟩
  obtain rfl : (key, time) = next := by simpa using hnext
  have hlastOf : r.heard.getLast? = some character := by
    obtain ⟨front, hheard⟩ := hsuffix
    rw [← hheard, List.getLast?_append, hcharacter]
    rfl
  have hnonempty : r.state.buffer ≠ [] := by
    rw [hbuffer]
    intro hempty
    rw [List.map_eq_nil_iff.mp hempty] at hcharacter
    cases hcharacter
  obtain ⟨last, other, hlast, hother, hle⟩ := hbuffered.lastKey hnonempty
  obtain rfl : other = character := Option.some.inj (hother.symm.trans hlastOf)
  obtain ⟨hback, hsoon⟩ := hprompt last hlast
  refine ⟨by simp only; linarith, ?_⟩
  by_contra hlong
  simp only [hidesPause, htime, hlast, hlastOf, decide_eq_false_iff_not] at hshown
  exact hshown ⟨hnonempty, hkey, hback, hsoon, not_le.mp hlong⟩

theorem Buffered.push_character (hbuffered : Buffered settings r)
    (hshown : hidesPause settings r (.handleKeyEvent key timestamp now scanned) = false)
    (htime : timestamp.getD (.finite now.millis) = .finite time) (hunit : jsLength key = 1) :
    Buffered settings
      { state :=
          { r.state with
            buffer := (if keptBuffer r.state time ≠ [] ∧ wasSlow settings r.state time then []
              else keptBuffer r.state time) ++ [key]
            lastKeyTime := some time }
        heard := r.heard ++ [(key, time)] } where
  units character hcharacter := by
    rcases List.mem_append.mp hcharacter with hbefore | hnew
    · exact hbuffered.units character hbefore
    · rw [List.mem_singleton.mp hnew]
      exact hunit
  scan := by
    have hfresh : ∃ scan, scan <:+ r.heard ++ [(key, time)] ∧ [] ++ [key] = scan.map Prod.fst ∧
        scan.IsChain (Close settings) :=
      ⟨[(key, time)], List.suffix_append _ _, rfl, .singleton _⟩
    split_ifs with hslow
    · exact hfresh
    · cases keptBuffer_cases r.state time with
      | inl hempty =>
          rw [hempty]
          exact hfresh
      | inr hkept =>
          by_cases hbuffer : r.state.buffer = []
          · rw [hkept.1, hbuffer]
            exact hfresh
          · rw [hkept.1] at hslow ⊢
            have hfast := Bool.eq_false_iff.mpr fun htrue => hslow ⟨hbuffer, htrue⟩
            obtain ⟨scan, ⟨front, hfront⟩, hscan, hchain⟩ :=
              hbuffered.append_chain hshown htime (.inr hunit) fun last hlast =>
                ⟨hkept.2 last hlast, prompt_of_character hfast hlast⟩
            refine ⟨scan ++ [(key, time)], ⟨front, ?_⟩, ?_, hchain⟩
            · rw [← List.append_assoc, hfront]
            · rw [List.map_append, hscan]
              rfl
  lastKey _ := ⟨time, (key, time), rfl, by simp, le_rfl⟩

theorem after_ignored
    (hignored : r.state.listener = none ∨ ∀ time, timestamp.getD (.finite now.millis) ≠ .finite time) :
    r.after settings (.handleKeyEvent key timestamp now scanned) = r := by
  cases hlistener : r.state.listener with
  | none => simp [Listening.after, step, handleKeyEvent, Listening.heardAfter, hlistener]
  | some listener =>
      have hnever := hignored.resolve_left (by simp [hlistener])
      cases htime : timestamp.getD (.finite now.millis) with
      | finite time => exact absurd htime (hnever time)
      | infinity negative =>
          simp [Listening.after, step, handleKeyEvent, Listening.heardAfter, hlistener, htime]
      | nan => simp [Listening.after, step, handleKeyEvent, Listening.heardAfter, hlistener, htime]

section Heard

variable {listener : L} (hlistener : r.state.listener = some listener)
  (htime : timestamp.getD (.finite now.millis) = .finite time)

include hlistener htime

theorem after_terminator (hkey : key = settings.terminatorKey) :
    r.after settings (.handleKeyEvent key timestamp now scanned) =
      { state := { r.state with buffer := [], lastKeyTime := none }, heard := r.heard } := by
  have hnone : ¬ isCharacter settings key := fun hcharacter => hcharacter.1 hkey
  simp only [Listening.after, step, handleKeyEvent, Listening.heardAfter, hlistener, htime,
    if_pos hkey, if_neg hnone]
  split_ifs <;> rfl

theorem after_character (hkey : isCharacter settings key) :
    r.after settings (.handleKeyEvent key timestamp now scanned) =
      { state :=
          { r.state with
            buffer := (if keptBuffer r.state time ≠ [] ∧ wasSlow settings r.state time then []
              else keptBuffer r.state time) ++ [key]
            lastKeyTime := some time }
        heard := r.heard ++ [(key, time)] } := by
  simp only [Listening.after, step, handleKeyEvent, Listening.heardAfter, hlistener, htime,
    if_neg hkey.1, if_pos hkey, if_pos hkey.2]

theorem after_other (hterminator : key ≠ settings.terminatorKey) (hunit : jsLength key ≠ 1) :
    r.after settings (.handleKeyEvent key timestamp now scanned) =
      { state := { r.state with buffer := keptBuffer r.state time, lastKeyTime := some time }
        heard := r.heard } := by
  have hnone : ¬ isCharacter settings key := fun hcharacter => hunit hcharacter.2
  simp only [Listening.after, step, handleKeyEvent, Listening.heardAfter, hlistener, htime,
    if_neg hterminator, if_neg hunit, if_neg hnone]

end Heard

theorem Buffered.after_handleKeyEvent (hbuffered : Buffered settings r)
    (hshown : hidesPause settings r (.handleKeyEvent key timestamp now scanned) = false) :
    Buffered settings (r.after settings (.handleKeyEvent key timestamp now scanned)) := by
  by_cases hignored : r.state.listener = none ∨
      ∀ time, timestamp.getD (.finite now.millis) ≠ .finite time
  · rw [after_ignored hignored]
    exact hbuffered
  · obtain ⟨hlistener, htime⟩ := not_or.mp hignored
    obtain ⟨listener, hlistener⟩ := Option.ne_none_iff_exists'.mp hlistener
    obtain ⟨time, htime⟩ := not_forall_not.mp htime
    by_cases hterminator : key = settings.terminatorKey
    · rw [after_terminator hlistener htime hterminator]
      exact .of_empty rfl hbuffered.units
    · by_cases hunit : jsLength key = 1
      · rw [after_character hlistener htime ⟨hterminator, hunit⟩]
        exact hbuffered.push_character hshown htime hunit
      · rw [after_other hlistener htime hterminator hunit]
        cases keptBuffer_cases r.state time with
        | inl hempty => exact .of_empty hempty hbuffered.units
        | inr hkept =>
            rw [hkept.1]
            refine ⟨hbuffered.units, hbuffered.scan, fun hbuffer => ?_⟩
            obtain ⟨last, character, hlast, hcharacter, hle⟩ := hbuffered.lastKey hbuffer
            exact ⟨time, character, rfl, hcharacter, hle.trans (hkept.2 last hlast)⟩

theorem Buffered.after {call : Call L} (hbuffered : Buffered settings r)
    (hshown : hidesPause settings r call = false) : Buffered settings (r.after settings call) := by
  cases call with
  | startListening listener => exact .of_empty rfl (by simp [Listening.after, Listening.heardAfter])
  | stopListening => exact .of_empty rfl (by simp [Listening.after, Listening.heardAfter])
  | handleKeyEvent key timestamp now scanned => exact hbuffered.after_handleKeyEvent hshown

end Step

theorem jsLength_join {scan : List (String × ℚ)}
    (hunits : ∀ character ∈ scan, jsLength character.1 = 1) :
    jsLength (String.join (scan.map Prod.fst)) = scan.length := by
  induction scan with
  | nil => rfl
  | cons character scan ih =>
      have hfirst := hunits character List.mem_cons_self
      have hrest := ih fun other hother => hunits other (List.mem_cons_of_mem _ hother)
      rw [jsLength] at hfirst hrest ⊢
      rw [List.map_cons, String.join_cons, String.toList_append, List.map_append, List.sum_append,
        hfirst, hrest, List.length_cons, Nat.add_comm]

section Emitted

variable {settings : Settings} {r : Listening L} {call : Call L} {emission : Emission L}

theorem emission_cases (hemission : r.emission settings call = some emission) :
    ∃ timestamp now scanned,
      call = .handleKeyEvent settings.terminatorKey timestamp now scanned ∧
        timestamp.getD (.finite now.millis) = .finite emission.terminatorTime ∧
        terminatorWasPrompt settings r.state emission.terminatorTime = true ∧
        settings.minScanLength ≤ (keptBuffer r.state emission.terminatorTime).length ∧
        emission.result.text = String.join (keptBuffer r.state emission.terminatorTime) ∧
        emission.heard = r.heard := by
  cases call with
  | startListening listener => cases hemission
  | stopListening => cases hemission
  | handleKeyEvent key timestamp now scanned =>
      simp only [Listening.emission] at hemission
      cases htime : timestamp.getD (.finite now.millis) with
      | infinity negative => simp [htime] at hemission
      | nan => simp [htime] at hemission
      | finite time =>
          simp only [htime, step, handleKeyEvent] at hemission
          cases hlistener : r.state.listener with
          | none => simp [hlistener] at hemission
          | some listener =>
              simp only [hlistener] at hemission
              split_ifs at hemission with hkey hprompt hunit
              · obtain rfl := Option.some.inj hemission
                exact ⟨timestamp, now, scanned, by rw [hkey], htime, hprompt.1, hprompt.2, rfl, rfl⟩
              all_goals simp at hemission

theorem Buffered.scanned (hbuffered : Buffered settings r) (hshown : hidesPause settings r call = false)
    (hemission : r.emission settings call = some emission) : emission.Scanned settings := by
  obtain ⟨timestamp, now, scanned, rfl, htime, hprompt, hlength, htext, hheard⟩ :=
    emission_cases hemission
  have hpositive := settings.length_pos
  cases keptBuffer_cases r.state emission.terminatorTime with
  | inl hempty =>
      rw [hempty] at hlength
      exact absurd hlength (by simp; omega)
  | inr hkept =>
      rw [hkept.1] at hlength htext
      obtain ⟨scan, hsuffix, hscan, hchain⟩ :=
        hbuffered.append_chain hshown htime (.inl rfl) fun last hlast =>
          prompt_of_terminator hprompt hlast
      have hunits : ∀ character ∈ scan, jsLength character.1 = 1 := fun character hcharacter =>
        hbuffered.units character (hsuffix.subset hcharacter)
      rw [hscan] at hlength htext
      refine ⟨?_, scan, hheard ▸ hsuffix, htext, hchain⟩
      rw [htext, jsLength_join hunits]
      simpa using hlength

end Emitted

theorem Buffered.emissions_scanned {settings : Settings} {r : Listening L} {calls : List (Call L)}
    (hbuffered : Buffered settings r) (hshown : pausesShown settings r calls = true) :
    ∀ emission ∈ r.emissions settings calls, emission.Scanned settings := by
  induction calls generalizing r with
  | nil => simp [Listening.emissions]
  | cons call calls ih =>
      intro emission hemission
      rw [pausesShown, Bool.and_eq_true, Bool.not_eq_true'] at hshown
      rcases List.mem_append.mp hemission with hnow | hlater
      · exact hbuffered.scanned hshown.1 (Option.mem_toList.mp hnow)
      · exact ih (hbuffered.after hshown.1) hshown.2 emission hlater

def standard : Settings where
  maxInterKeyDelayMs := 50
  terminatorKey := "Enter"
  minScanLength := 3
  delay_pos := by norm_num
  terminator_ne := by decide
  length_pos := by decide

example : create { maxInterKeyDelayMs := none, terminatorKey := none, minScanLength := none } =
    .ok standard := by
  decide +kernel

def epochReading : ClockReading :=
  { millis := 0, inRange := ClockReading.inRange_epoch }

def press (key : String) (time : ℚ) : Call Unit :=
  .handleKeyEvent key (some (.finite time)) epochReading epochReading

end TauriPlatform.KeyboardWedgeScanner
