import TauriPlatform.NativeHlc

/-!
# The native clock

The state of a native `HybridLogicalClock` and its two calls, which always return a
stamp.  Each stamp is later than those before it and than the remote stamp it merges,
as long as neither the clock nor a remote stamp stands at the end of both fields: there
the physical time saturates, and the counter starts again.
-/

namespace TauriPlatform

/-- The node id, and the `u64` and the `u32` of the `ClockState`. -/
structure NativeHlcClock where
  physicalTime : Nat
  counter : Nat
  nodeId : String
  deriving DecidableEq

namespace NativeHlcClock

open NativeHlc

def maxPhysicalTime : Nat := 2 ^ 64 - 1
def maxCounter : Nat := 2 ^ 32 - 1

/-! ## Calls -/

/-- `new`. -/
def create (nodeId : String) (reading : UInt64) : NativeHlcClock where
  physicalTime := reading.toNat
  counter := 0
  nodeId := nodeId

/-- `format!("{:012x}_{:04x}_{}", …)`. -/
def stamp (clock : NativeHlcClock) : String :=
  String.ofList (timestampText
    (HybridLogicalClock.padStart 12 (HybridLogicalClock.hexText clock.physicalTime))
    (HybridLogicalClock.padStart 4 (HybridLogicalClock.hexText clock.counter))
    clock.nodeId.toList)

/-- `increment`: `checked_add` on the counter, `saturating_add` on the time. -/
def increment (physicalTime counter : Nat) : Nat × Nat :=
  if counter < maxCounter then (physicalTime, counter + 1)
  else (min (physicalTime + 1) maxPhysicalTime, 0)

def advance (clock : NativeHlcClock) (next : Nat × Nat) : String × NativeHlcClock :=
  let later := { clock with physicalTime := next.1, counter := next.2 }
  (later.stamp, later)

def now (clock : NativeHlcClock) (physical : UInt64) : String × NativeHlcClock :=
  clock.advance
    (if clock.physicalTime < physical.toNat then (physical.toNat, 0)
    else increment clock.physicalTime clock.counter)

/-- What `update` takes in place of a remote stamp which is not accepted. -/
def unknownRemote : NativeHlcTimestamp where
  physicalTime := 0
  counter := 0
  nodeId := "unknown"

/-- The next time and counter of `update`. -/
def merge (clock : NativeHlcClock) (remote : NativeHlcTimestamp) (physical : Nat) :
    Nat × Nat :=
  if clock.physicalTime < physical ∧ remote.physicalTime < physical then (physical, 0)
  else if clock.physicalTime = remote.physicalTime then
    increment clock.physicalTime (max clock.counter remote.counter)
  else if remote.physicalTime < clock.physicalTime then
    increment clock.physicalTime clock.counter
  else increment remote.physicalTime remote.counter

def update (clock : NativeHlcClock) (remoteHlc : String) (physical : UInt64) :
    String × NativeHlcClock :=
  clock.advance (clock.merge ((parse remoteHlc).getD unknownRemote) physical.toNat)

end NativeHlcClock

inductive NativeHlcCall where
  | now (physical : UInt64)
  | update (remoteHlc : String) (physical : UInt64)

structure NativeHlcEvent where
  call : NativeHlcCall
  stamp : String

namespace NativeHlcCall

def run (call : NativeHlcCall) (clock : NativeHlcClock) : String × NativeHlcClock :=
  match call with
  | .now physical => clock.now physical
  | .update remoteHlc physical => clock.update remoteHlc physical

def trace (clock : NativeHlcClock) : List NativeHlcCall → List NativeHlcEvent
  | [] => []
  | call :: calls =>
      { call := call, stamp := (call.run clock).1 } :: trace (call.run clock).2 calls

end NativeHlcCall

/-! ## What is asked of a trace -/

/-- Every stamp is greater than the stamps before it and than the remote stamp it
merges. -/
structure NativeHlcEvent.Advance (events : List NativeHlcEvent) : Prop where
  increasing : events.Pairwise fun earlier later =>
    NativeHlc.compare later.stamp earlier.stamp = .gt
  exceedsRemote : ∀ event ∈ events, ∀ remoteHlc physical,
    event.call = .update remoteHlc physical → (NativeHlc.parse remoteHlc).isSome →
      NativeHlc.compare event.stamp remoteHlc = .gt

def NativeHlcClock.IsLast (physicalTime counter : Nat) : Prop :=
  physicalTime = NativeHlcClock.maxPhysicalTime ∧ counter = NativeHlcClock.maxCounter

def NativeHlcCall.HasRoom (clock : NativeHlcClock) (call : NativeHlcCall) : Prop :=
  ¬ NativeHlcClock.IsLast clock.physicalTime clock.counter ∧
    ∀ remoteHlc physical, call = .update remoteHlc physical →
      ∀ remote, NativeHlc.parse remoteHlc = some remote →
        ¬ NativeHlcClock.IsLast remote.physicalTime remote.counter

def NativeHlcCall.AllHaveRoom : NativeHlcClock → List NativeHlcCall → Prop
  | _, [] => True
  | clock, call :: calls =>
      call.HasRoom clock ∧ AllHaveRoom (call.run clock).2 calls

namespace NativeHlc

/-! ## Stamps in order -/

def Before (time counter laterTime laterCounter : Nat) : Prop :=
  time < laterTime ∨ (time = laterTime ∧ counter < laterCounter)

theorem Before.trans {first second third counter counter' counter'' : Nat}
    (hfirst : Before first counter second counter')
    (hsecond : Before second counter' third counter'') :
    Before first counter third counter'' := by
  unfold Before at *
  omega

theorem compare_eq_gt_of_before {left right : String} {earlier later : NativeHlcTimestamp}
    (hleft : parse left = some later) (hright : parse right = some earlier)
    (hbefore : Before earlier.physicalTime earlier.counter later.physicalTime
      later.counter) :
    compare left right = .gt := by
  rw [compare, hleft, hright]
  simp only [Option.getD_some]
  rcases hbefore with htime | ⟨htime, hcounter⟩
  · rw [Nat.compare_eq_gt.mpr htime]
    rfl
  · rw [htime, Nat.compare_eq_eq.mpr rfl, Nat.compare_eq_gt.mpr hcounter]
    rfl

theorem before_of_compare_eq_gt {left right : String} {earlier later : NativeHlcTimestamp}
    (hleft : parse left = some later) (hright : parse right = some earlier)
    (hgreater : compare left right = .gt) :
    Before earlier.physicalTime earlier.counter later.physicalTime later.counter ∨
      (earlier.physicalTime = later.physicalTime ∧ earlier.counter = later.counter ∧
        Ord.compare later.nodeId earlier.nodeId = .gt) := by
  rw [compare, hleft, hright] at hgreater
  simp only [Option.getD_some] at hgreater
  rcases lt_trichotomy later.physicalTime earlier.physicalTime with htime | htime | htime
  · rw [Nat.compare_eq_lt.mpr htime] at hgreater
    cases hgreater
  · rw [htime, Nat.compare_eq_eq.mpr rfl] at hgreater
    rcases lt_trichotomy later.counter earlier.counter with hcounter | hcounter | hcounter
    · rw [Nat.compare_eq_lt.mpr hcounter] at hgreater
      cases hgreater
    · rw [hcounter, Nat.compare_eq_eq.mpr rfl] at hgreater
      exact Or.inr ⟨htime.symm, hcounter.symm, hgreater⟩
    · exact Or.inl (Or.inr ⟨htime.symm, hcounter⟩)
  · exact Or.inl (Or.inl htime)

theorem parse_fits {text : String} {timestamp : NativeHlcTimestamp}
    (hparse : parse text = some timestamp) :
    timestamp.physicalTime ≤ NativeHlcClock.maxPhysicalTime ∧
      timestamp.counter ≤ NativeHlcClock.maxCounter := by
  have hfits : ∀ {bits value : Nat} {field : List Char},
      fromStrRadix16 bits field = some value → value < 2 ^ bits := by
    intro bits value field hvalue
    unfold fromStrRadix16 at hvalue
    split_ifs at hvalue with hempty
    simpa using (Option.filter_eq_some_iff.mp hvalue).2
  obtain ⟨physical, counter, node, -, hphysical, hcounter, -⟩ := parse_eq_some_iff.mp hparse
  have htime := hfits hphysical
  have hcount := hfits hcounter
  unfold NativeHlcClock.maxPhysicalTime NativeHlcClock.maxCounter
  omega

end NativeHlc

/-! ## One call -/

namespace NativeHlcClock

open NativeHlc

structure Fits (clock : NativeHlcClock) : Prop where
  physicalTime : clock.physicalTime ≤ maxPhysicalTime
  counter : clock.counter ≤ maxCounter

theorem create_fits (nodeId : String) (reading : UInt64) : (create nodeId reading).Fits where
  physicalTime := by
    have hreading := reading.toNat_lt
    change reading.toNat ≤ maxPhysicalTime
    unfold maxPhysicalTime
    omega
  counter := Nat.zero_le _

variable {clock : NativeHlcClock}

theorem Fits.parse_stamp (hfits : clock.Fits) :
    parse clock.stamp = some {
      physicalTime := clock.physicalTime
      counter := clock.counter
      nodeId := clock.nodeId } := by
  have hvalue : ∀ width value : Nat,
      parseDigits 16 (HybridLogicalClock.padStart width (HybridLogicalClock.hexText value)) =
        value := by
    intro width value
    have hdigits : HybridLogicalClock.hexText value = Nat.toDigits 16 value := by
      simp [HybridLogicalClock.hexText]
    rw [HybridLogicalClock.parseDigits_padStart, hdigits,
      HybridLogicalClock.parseDigits_toDigits_hex]
  have hread : ∀ {bits width value : Nat}, value < 2 ^ bits →
      fromStrRadix16 bits
        (HybridLogicalClock.padStart width (HybridLogicalClock.hexText value)) = some value := by
    intro bits width value hlt
    rw [fromStrRadix16_of_hexField (HybridLogicalClock.isHexField_padStart width value)
      (by rwa [hvalue]), hvalue]
  have htime : clock.physicalTime < 2 ^ 64 :=
    Nat.lt_of_le_of_lt hfits.physicalTime (by decide)
  have hcounter : clock.counter < 2 ^ 32 := Nat.lt_of_le_of_lt hfits.counter (by decide)
  exact parse_eq_some_iff.mpr ⟨_, _, _, String.toList_ofList, hread htime, hread hcounter,
    String.ofList_toList.symm⟩

variable {physicalTime : Nat}

theorem increment_fits {counter : Nat} (htime : physicalTime ≤ maxPhysicalTime) :
    (increment physicalTime counter).1 ≤ maxPhysicalTime ∧
      (increment physicalTime counter).2 ≤ maxCounter := by
  unfold increment
  split_ifs with hcounter
  · exact ⟨htime, hcounter⟩
  · exact ⟨min_le_right _ _, Nat.zero_le _⟩

theorem increment_before {counter : Nat} (htime : physicalTime ≤ maxPhysicalTime)
    (hcounter : counter ≤ maxCounter) (hnext : ¬ IsLast physicalTime counter) :
    Before physicalTime counter (increment physicalTime counter).1
      (increment physicalTime counter).2 := by
  unfold increment
  split_ifs with hroom
  · exact Or.inr ⟨rfl, Nat.lt_succ_self _⟩
  · have hspace : physicalTime < maxPhysicalTime := by
      refine lt_of_le_of_ne htime fun heq => hnext ⟨heq, ?_⟩
      exact le_antisymm hcounter (not_lt.mp hroom)
    exact Or.inl (lt_min (Nat.lt_succ_self _) hspace)

theorem increment_of_isLast {counter : Nat} (hlast : IsLast physicalTime counter) :
    increment physicalTime counter = (maxPhysicalTime, 0) := by
  obtain ⟨rfl, rfl⟩ := hlast
  rfl

theorem now_before (hfits : clock.Fits) (hnext : ¬ IsLast clock.physicalTime clock.counter)
    (physical : UInt64) :
    Before clock.physicalTime clock.counter (clock.now physical).2.physicalTime
      (clock.now physical).2.counter := by
  simp only [now, advance]
  split_ifs with hreading
  · exact Or.inl hreading
  · exact increment_before hfits.physicalTime hfits.counter hnext

variable {remote : NativeHlcTimestamp}

theorem merge_before (hfits : clock.Fits) (htime : remote.physicalTime ≤ maxPhysicalTime)
    (hcounter : remote.counter ≤ maxCounter) (hnext : ¬ IsLast clock.physicalTime clock.counter)
    (hremote : ¬ IsLast remote.physicalTime remote.counter) (physical : Nat) :
    Before clock.physicalTime clock.counter (clock.merge remote physical).1
        (clock.merge remote physical).2 ∧
      Before remote.physicalTime remote.counter (clock.merge remote physical).1
        (clock.merge remote physical).2 := by
  unfold merge
  split_ifs with hreading hequal hbehind
  · exact ⟨Or.inl hreading.1, Or.inl hreading.2⟩
  · have hlast : ¬ IsLast clock.physicalTime (max clock.counter remote.counter) := by
      rintro ⟨hend, hmax⟩
      rcases max_choice clock.counter remote.counter with hchoice | hchoice
      · exact hnext ⟨hend, hchoice ▸ hmax⟩
      · exact hremote ⟨hequal ▸ hend, hchoice ▸ hmax⟩
    have hbefore := increment_before hfits.physicalTime
      (max_le hfits.counter hcounter) hlast
    have hleft := le_max_left clock.counter remote.counter
    have hright := le_max_right clock.counter remote.counter
    unfold Before at hbefore ⊢
    omega
  · have hbefore := increment_before hfits.physicalTime hfits.counter hnext
    unfold Before at hbefore ⊢
    omega
  · have hbefore := increment_before htime hcounter hremote
    unfold Before at hbefore ⊢
    omega

theorem merge_of_isLast (hfits : clock.Fits) (htime : remote.physicalTime ≤ maxPhysicalTime)
    (hcounter : remote.counter ≤ maxCounter) {physical : Nat}
    (hphysical : physical ≤ maxPhysicalTime) (hlast : IsLast clock.physicalTime clock.counter ∨
      IsLast remote.physicalTime remote.counter) :
    clock.merge remote physical = (maxPhysicalTime, 0) := by
  have hclockTime := hfits.physicalTime
  have hclockCounter := hfits.counter
  unfold merge
  rcases hlast with hlast | hlast
  · obtain ⟨hend, hcount⟩ := hlast
    rw [if_neg (by omega)]
    split_ifs with hequal hbehind
    · exact increment_of_isLast ⟨hend, by rw [hcount]; exact max_eq_left hcounter⟩
    · exact increment_of_isLast ⟨hend, hcount⟩
    · omega
  · obtain ⟨hend, hcount⟩ := hlast
    rw [if_neg (by omega)]
    split_ifs with hequal hbehind
    · exact increment_of_isLast
        ⟨hequal.trans hend, by rw [hcount]; exact max_eq_right hclockCounter⟩
    · omega
    · exact increment_of_isLast ⟨hend, hcount⟩

theorem merge_fits (hfits : clock.Fits) (htime : remote.physicalTime ≤ maxPhysicalTime)
    {physical : Nat} (hphysical : physical ≤ maxPhysicalTime) :
    (clock.merge remote physical).1 ≤ maxPhysicalTime ∧
      (clock.merge remote physical).2 ≤ maxCounter := by
  unfold merge
  split_ifs
  · exact ⟨hphysical, Nat.zero_le _⟩
  · exact increment_fits hfits.physicalTime
  · exact increment_fits hfits.physicalTime
  · exact increment_fits htime

theorem unknownRemote_fits : unknownRemote.physicalTime ≤ maxPhysicalTime ∧
    unknownRemote.counter ≤ maxCounter ∧
    ¬ IsLast unknownRemote.physicalTime unknownRemote.counter := by
  refine ⟨Nat.zero_le _, Nat.zero_le _, ?_⟩
  rintro ⟨hend, -⟩
  exact absurd hend (by decide)

theorem reading_le (physical : UInt64) : physical.toNat ≤ maxPhysicalTime := by
  have hreading := physical.toNat_lt
  unfold maxPhysicalTime
  omega

end NativeHlcClock

namespace NativeHlcCall

open NativeHlc NativeHlcClock

variable {clock : NativeHlcClock}

theorem run_fits (hfits : clock.Fits) (call : NativeHlcCall) : (call.run clock).2.Fits := by
  cases call with
  | now physical =>
      simp only [run, NativeHlcClock.now, advance]
      split_ifs
      · exact ⟨reading_le physical, Nat.zero_le _⟩
      · exact ⟨(increment_fits hfits.physicalTime).1, (increment_fits hfits.physicalTime).2⟩
  | update remoteHlc physical =>
      have htime : ((parse remoteHlc).getD unknownRemote).physicalTime ≤ maxPhysicalTime := by
        cases hparse : parse remoteHlc with
        | none => exact unknownRemote_fits.1
        | some remote => exact (parse_fits hparse).1
      have hmerged := merge_fits hfits htime (reading_le physical)
      exact ⟨hmerged.1, hmerged.2⟩

theorem run_stamp (call : NativeHlcCall) : (call.run clock).1 = (call.run clock).2.stamp := by
  cases call <;> rfl

variable {call : NativeHlcCall}

theorem run_before (hfits : clock.Fits) (hroom : call.HasRoom clock) :
    Before clock.physicalTime clock.counter (call.run clock).2.physicalTime
        (call.run clock).2.counter ∧
      ∀ remoteHlc physical remote, call = .update remoteHlc physical →
        parse remoteHlc = some remote →
          Before remote.physicalTime remote.counter (call.run clock).2.physicalTime
            (call.run clock).2.counter := by
  obtain ⟨hnext, hremote⟩ := hroom
  cases call with
  | now physical =>
      refine ⟨now_before hfits hnext physical, ?_⟩
      intro remoteHlc physical' remote hcall
      cases hcall
  | update remoteHlc physical =>
      cases hparse : parse remoteHlc with
      | none =>
          have hmerged := merge_before hfits unknownRemote_fits.1 unknownRemote_fits.2.1 hnext
            unknownRemote_fits.2.2 physical.toNat
          simp only [run, NativeHlcClock.update, hparse, Option.getD_none]
          refine ⟨hmerged.1, ?_⟩
          intro remoteHlc' physical' remote hcall hsome
          cases hcall
          cases hparse.symm.trans hsome
      | some remote =>
          have hbounds := parse_fits hparse
          have hmerged := merge_before hfits hbounds.1 hbounds.2 hnext
            (hremote remoteHlc physical rfl remote hparse) physical.toNat
          simp only [run, NativeHlcClock.update, hparse, Option.getD_some]
          refine ⟨hmerged.1, ?_⟩
          intro remoteHlc' physical' remote' hcall hsome
          cases hcall
          cases hparse.symm.trans hsome
          exact hmerged.2

theorem run_of_not_hasRoom (hfits : clock.Fits) (hroom : ¬ call.HasRoom clock) :
    (call.run clock).2.physicalTime = maxPhysicalTime ∧ (call.run clock).2.counter = 0 := by
  cases call with
  | now physical =>
      have hlast : IsLast clock.physicalTime clock.counter := by
        by_contra hnext
        refine hroom ⟨hnext, ?_⟩
        intro remoteHlc physical' hcall
        cases hcall
      have hreading : ¬ clock.physicalTime < physical.toNat := by
        rw [hlast.1]
        exact not_lt.mpr (reading_le physical)
      simp only [run, NativeHlcClock.now, advance, if_neg hreading, increment_of_isLast hlast,
        and_self]
  | update remoteHlc physical =>
      have hmerged : clock.merge ((parse remoteHlc).getD unknownRemote) physical.toNat =
          (maxPhysicalTime, 0) := by
        cases hparse : parse remoteHlc with
        | none =>
            refine merge_of_isLast hfits unknownRemote_fits.1 unknownRemote_fits.2.1
              (reading_le physical) (Or.inl ?_)
            by_contra hnext
            refine hroom ⟨hnext, ?_⟩
            intro remoteHlc' physical' hcall remote hsome
            cases hcall
            cases hparse.symm.trans hsome
        | some remote =>
            have hbounds := parse_fits hparse
            refine merge_of_isLast hfits hbounds.1 hbounds.2 (reading_le physical) ?_
            by_contra hneither
            obtain ⟨hnext, hremote⟩ := not_or.mp hneither
            refine hroom ⟨hnext, ?_⟩
            intro remoteHlc' physical' hcall remote' hsome
            cases hcall
            cases hparse.symm.trans hsome
            exact hremote
      simp only [run, NativeHlcClock.update, advance, hmerged, and_self]

/-! ## Runs -/

structure Ahead (clock : NativeHlcClock) (events : List NativeHlcEvent) : Prop where
  advance : NativeHlcEvent.Advance events
  later : ∀ event ∈ events, ∃ timestamp, parse event.stamp = some timestamp ∧
    Before clock.physicalTime clock.counter timestamp.physicalTime timestamp.counter

theorem ahead_nil (clock : NativeHlcClock) : Ahead clock [] where
  advance := {
    increasing := .nil
    exceedsRemote := fun _ hevent => absurd hevent List.not_mem_nil }
  later := fun _ hevent => absurd hevent List.not_mem_nil

theorem Ahead.cons {later : NativeHlcClock} {events : List NativeHlcEvent}
    (hahead : Ahead later events) (hfits : later.Fits)
    (hbefore : Before clock.physicalTime clock.counter later.physicalTime later.counter)
    (hremote : ∀ remoteHlc physical remote, call = .update remoteHlc physical →
      parse remoteHlc = some remote →
        Before remote.physicalTime remote.counter later.physicalTime later.counter) :
    Ahead clock ({ call := call, stamp := later.stamp } :: events) where
  advance := {
    increasing := by
      refine .cons ?_ hahead.advance.increasing
      intro event hevent
      obtain ⟨timestamp, hparse, hlater⟩ := hahead.later event hevent
      exact compare_eq_gt_of_before hparse hfits.parse_stamp hlater
    exceedsRemote := by
      intro event hevent remoteHlc physical hcall haccepted
      rcases List.mem_cons.mp hevent with rfl | hevent
      · obtain ⟨remote, hparse⟩ := Option.isSome_iff_exists.mp haccepted
        exact compare_eq_gt_of_before hfits.parse_stamp hparse
          (hremote remoteHlc physical remote hcall hparse)
      · exact hahead.advance.exceedsRemote event hevent remoteHlc physical hcall haccepted }
  later := by
    intro event hevent
    rcases List.mem_cons.mp hevent with rfl | hevent
    · exact ⟨_, hfits.parse_stamp, hbefore⟩
    · obtain ⟨timestamp, hparse, hlater⟩ := hahead.later event hevent
      exact ⟨timestamp, hparse, hbefore.trans hlater⟩

variable {calls : List NativeHlcCall}

theorem ahead_trace (hfits : clock.Fits) (hroom : AllHaveRoom clock calls) :
    Ahead clock (trace clock calls) := by
  induction calls generalizing clock with
  | nil => exact ahead_nil clock
  | cons call calls ih =>
      obtain ⟨hfirst, hrest⟩ := hroom
      obtain ⟨hbefore, hremote⟩ := run_before hfits hfirst
      have hlater := run_fits hfits call
      rw [trace, run_stamp]
      exact (ih hlater hrest).cons hlater hbefore hremote

theorem not_greater_of_not_hasRoom (hfits : clock.Fits) (hroom : ¬ call.HasRoom clock)
    {text : String} {timestamp : NativeHlcTimestamp} (hparse : parse text = some timestamp)
    (hlast : IsLast timestamp.physicalTime timestamp.counter) :
    NativeHlc.compare (call.run clock).1 text ≠ .gt := by
  intro hgreater
  obtain ⟨htime, hcounter⟩ := run_of_not_hasRoom hfits hroom
  rw [run_stamp] at hgreater
  have hpositive : 0 < maxCounter := by decide
  obtain ⟨hend, hcount⟩ := hlast
  rcases before_of_compare_eq_gt (run_fits hfits call).parse_stamp hparse hgreater with
    hbefore | ⟨-, hequal, -⟩
  · dsimp only [Before] at hbefore
    omega
  · dsimp only at hequal
    omega

theorem hasRoom_of_advance (hfits : clock.Fits)
    (hnext : ¬ IsLast clock.physicalTime clock.counter)
    (hadvance : NativeHlcEvent.Advance (trace clock (call :: calls))) :
    call.HasRoom clock := by
  by_contra hroom
  refine hroom ⟨hnext, ?_⟩
  intro remoteHlc physical hcall remote hparse hlast
  have hgreater := hadvance.exceedsRemote _ List.mem_cons_self remoteHlc physical hcall
    (Option.isSome_iff_exists.mpr ⟨remote, hparse⟩)
  exact not_greater_of_not_hasRoom hfits hroom hparse hlast hgreater

theorem allHaveRoom_of_advance (hfits : clock.Fits)
    (hlater : ∀ event ∈ trace clock calls, NativeHlc.compare event.stamp clock.stamp = .gt)
    (hadvance : NativeHlcEvent.Advance (trace clock calls)) : AllHaveRoom clock calls := by
  induction calls generalizing clock with
  | nil => trivial
  | cons call calls ih =>
      have hnext : ¬ IsLast clock.physicalTime clock.counter := by
        intro hlast
        have hroom : ¬ call.HasRoom clock := fun hroom => hroom.1 hlast
        have hfails := not_greater_of_not_hasRoom hfits hroom hfits.parse_stamp hlast
        exact hfails (hlater { call := call, stamp := (call.run clock).1 } List.mem_cons_self)
      obtain ⟨hstamps, hrest⟩ := List.pairwise_cons.mp hadvance.increasing
      rw [run_stamp] at hstamps
      refine ⟨hasRoom_of_advance hfits hnext hadvance,
        ih (run_fits hfits call) hstamps ⟨hrest, ?_⟩⟩
      intro event hevent
      exact hadvance.exceedsRemote event (List.mem_cons_of_mem _ hevent)

/-- Stamps increase and exceed what they merge in exactly the runs in which neither the
clock nor a remote stamp stands at the last stamp when they meet. -/
theorem trace_advances_iff (nodeId : String) (reading : UInt64)
    (calls : List NativeHlcCall) :
    NativeHlcEvent.Advance (trace (NativeHlcClock.create nodeId reading) calls) ↔
      AllHaveRoom (NativeHlcClock.create nodeId reading) calls := by
  have hfits := create_fits nodeId reading
  constructor
  · intro hadvance
    cases calls with
    | nil => trivial
    | cons call calls =>
        have hnext : ¬ IsLast (NativeHlcClock.create nodeId reading).physicalTime
            (NativeHlcClock.create nodeId reading).counter := by
          rintro ⟨-, hcounter⟩
          change 0 = maxCounter at hcounter
          exact absurd hcounter (by decide)
        obtain ⟨hstamps, hrest⟩ := List.pairwise_cons.mp hadvance.increasing
        rw [run_stamp] at hstamps
        refine ⟨hasRoom_of_advance hfits hnext hadvance,
          allHaveRoom_of_advance (run_fits hfits call) hstamps ⟨hrest, ?_⟩⟩
        intro event hevent
        exact hadvance.exceedsRemote event (List.mem_cons_of_mem _ hevent)
  · intro hroom
    exact (ahead_trace hfits hroom).advance

/-- The last stamp, taken over from a peer: the merged stamp is smaller. -/
theorem trace_saturates_after_last_stamp :
    ¬ NativeHlcEvent.Advance (trace (NativeHlcClock.create "node" 5)
      [.update "ffffffffffffffff_ffffffff_peer" 6]) := by
  intro hadvance
  have hremote : (parse "ffffffffffffffff_ffffffff_peer").isSome := by decide +kernel
  have hgreater := hadvance.exceedsRemote _ List.mem_cons_self
    "ffffffffffffffff_ffffffff_peer" 6 rfl hremote
  revert hgreater
  decide +kernel

end NativeHlcCall
end TauriPlatform
