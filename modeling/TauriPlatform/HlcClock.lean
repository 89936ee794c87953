import TauriPlatform.HlcText

/-!
# The hybrid logical clock

The state of a `HybridLogicalClock` and its two calls.  Each stamp is later than
those before it and than the remote stamp it merges, as long as the clock does not
run past the last stamp: a call which fails there may have taken over the remote
time already, and then no call succeeds any more.
-/

namespace TauriPlatform

structure HlcClock where
  latestTime : Int
  counter : Nat
  nodeId : String
  deriving DecidableEq

namespace HlcClock

open HybridLogicalClock

/-! ## Calls -/

/-- `new HybridLogicalClock(nodeId)`. -/
def create (nodeId : String) (reading : Int) : HlcClock where
  latestTime := reading
  counter := 0
  nodeId := nodeId

def stamp (clock : HlcClock) : String :=
  format clock.latestTime clock.counter clock.nodeId

/-- `increment`, and the stamp after it. -/
def increment (clock : HlcClock) : Except String String × HlcClock :=
  if clock.counter < maxSafeInteger then
    let later := { clock with counter := clock.counter + 1 }
    (.ok later.stamp, later)
  else if maxSafeInteger ≤ clock.latestTime then
    (.error "HLC timestamp space exhausted", clock)
  else
    let later := { clock with latestTime := clock.latestTime + 1, counter := 0 }
    (.ok later.stamp, later)

def reset (clock : HlcClock) (physical : Int) : Except String String × HlcClock :=
  let later := { clock with latestTime := physical, counter := 0 }
  (.ok later.stamp, later)

/-- `now`; `physical` is the reading of `Date.now()`. -/
def now (clock : HlcClock) (physical : Int) : Except String String × HlcClock :=
  if clock.latestTime < physical then clock.reset physical
  else clock.increment

/-- `update`.  The remote time is taken over before the counter is raised. -/
def update (clock : HlcClock) (remoteTimestampStr : String) (physical : Int) :
    Except String String × HlcClock :=
  match parse remoteTimestampStr with
  | .error message => (.error message, clock)
  | .ok remote =>
      if clock.latestTime < physical ∧ remote.physicalTime < physical then
        clock.reset physical
      else if clock.latestTime = remote.physicalTime then
        { clock with counter := max clock.counter remote.counter }.increment
      else if clock.latestTime < remote.physicalTime then
        { clock with
          latestTime := remote.physicalTime
          counter := remote.counter }.increment
      else clock.increment

end HlcClock

inductive HlcCall where
  | now (physical : Int)
  | update (remoteTimestampStr : String) (physical : Int)

structure HlcEvent where
  call : HlcCall
  outcome : Except String String

namespace HlcCall

open HybridLogicalClock

def run (call : HlcCall) (clock : HlcClock) : Except String String × HlcClock :=
  match call with
  | .now physical => clock.now physical
  | .update remote physical => clock.update remote physical

def reading : HlcCall → Int
  | .now physical => physical
  | .update _ physical => physical

def trace (clock : HlcClock) : List HlcCall → List HlcEvent
  | [] => []
  | call :: calls =>
      { call := call, outcome := (call.run clock).1 } :: trace (call.run clock).2 calls

end HlcCall

/-! ## What is asked of a trace -/

/-- `compare` answers that the first stamp is the smaller one. -/
def StampLess (collation : Collation) (left right : String) : Prop :=
  ∃ cmp, HybridLogicalClock.compare collation left right = .ok cmp ∧ cmp < 0

/-- Stamps increase and exceed the remote stamps they merge, and a failed call does
not keep a later `now` from returning a stamp. -/
structure HlcEvent.Advance (collation : Collation) (events : List HlcEvent) : Prop where
  increasing : events.Pairwise fun earlier later =>
    ∀ first second, earlier.outcome = .ok first → later.outcome = .ok second →
      StampLess collation first second
  exceedsRemote : ∀ event ∈ events, ∀ remote physical stamp,
    event.call = .update remote physical → event.outcome = .ok stamp →
      StampLess collation remote stamp
  recovers : events.Pairwise fun earlier later =>
    ∀ message physical, earlier.outcome = .error message → later.call = .now physical →
      ∃ stamp, later.outcome = .ok stamp

def HlcClock.HasNext (latestTime : Int) (counter : Nat) : Prop :=
  latestTime < maxSafeInteger ∨ counter < maxSafeInteger

/-- The times of a call are not all negative, and the greatest of the stamps it starts
from is not the last one. -/
def HlcCall.HasRoom (clock : HlcClock) : HlcCall → Prop
  | .now physical =>
      0 ≤ max clock.latestTime physical ∧
        HlcClock.HasNext clock.latestTime clock.counter
  | .update remoteTimestampStr physical =>
      ∀ remote, HybridLogicalClock.parse remoteTimestampStr = .ok remote →
        0 ≤ max (max clock.latestTime remote.physicalTime) physical ∧
          (remote.physicalTime ≤ clock.latestTime →
            HlcClock.HasNext clock.latestTime clock.counter) ∧
          (clock.latestTime ≤ remote.physicalTime →
            HlcClock.HasNext remote.physicalTime remote.counter)

def HlcCall.AllHaveRoom : HlcClock → List HlcCall → Prop
  | _, [] => True
  | clock, call :: calls =>
      call.HasRoom clock ∧ AllHaveRoom (call.run clock).2 calls

namespace HybridLogicalClock

/-! ## Stamps in order -/

def Before (time : Int) (counter : Nat) (laterTime : Int) (laterCounter : Nat) : Prop :=
  time < laterTime ∨ (time = laterTime ∧ counter < laterCounter)

theorem Before.trans {first second third : Int} {counter counter' counter'' : Nat}
    (hfirst : Before first counter second counter')
    (hsecond : Before second counter' third counter'') :
    Before first counter third counter'' := by
  unfold Before at *
  omega

theorem compareParsed_neg_of_before (collation : Collation) {left right : HlcTimestamp}
    (hbefore : Before left.physicalTime left.counter right.physicalTime right.counter) :
    compareParsed collation left right < 0 := by
  unfold compareParsed
  rcases hbefore with htime | ⟨htime, hcounter⟩
  · rw [if_pos htime.ne, if_pos htime]
    decide
  · rw [if_neg (not_not_intro htime), if_pos hcounter.ne, if_pos hcounter]
    decide

theorem stampLess_of_before {collation : Collation} {left right : String}
    {leftStamp rightStamp : HlcTimestamp} (hleft : parse left = .ok leftStamp)
    (hright : parse right = .ok rightStamp)
    (hbefore : Before leftStamp.physicalTime leftStamp.counter rightStamp.physicalTime
      rightStamp.counter) :
    StampLess collation left right := by
  refine ⟨compareParsed collation leftStamp rightStamp, ?_,
    compareParsed_neg_of_before collation hbefore⟩
  rw [compare, hleft, hright]
  rfl

end HybridLogicalClock

/-! ## One call -/

namespace HlcClock

open HybridLogicalClock

/-- The numbers of a clock are safe integers, and its node id can be read back. -/
structure IsSafe (clock : HlcClock) : Prop where
  latestTime : clock.latestTime ≤ maxSafeInteger
  counter : clock.counter ≤ maxSafeInteger
  nodeId : IsNodeText clock.nodeId.toList

variable {clock : HlcClock}

theorem IsSafe.parse_stamp (hsafe : clock.IsSafe) (htime : 0 ≤ clock.latestTime) :
    parse clock.stamp = .ok {
      physicalTime := clock.latestTime
      counter := clock.counter
      nodeId := clock.nodeId } := by
  obtain ⟨time, hvalue⟩ := Int.eq_ofNat_of_zero_le htime
  have hbound := hsafe.latestTime
  rw [stamp, hvalue] at *
  exact parse_of_format (Int.ofNat_le.mp hbound) hsafe.counter hsafe.nodeId

structure Returns (nodeId : String) (time : Int) (counter : Nat)
    (result : Except String String × HlcClock) : Prop where
  outcome : result.1 = .ok result.2.stamp
  safe : result.2.IsSafe
  nodeId : result.2.nodeId = nodeId
  before : Before time counter result.2.latestTime result.2.counter

theorem increment_returns (hsafe : clock.IsSafe) (hnext : HasNext clock.latestTime clock.counter) :
    Returns clock.nodeId clock.latestTime clock.counter clock.increment := by
  have htime := hsafe.latestTime
  unfold increment
  by_cases hcounter : clock.counter < maxSafeInteger
  · rw [if_pos hcounter]
    exact ⟨rfl, ⟨htime, hcounter, hsafe.nodeId⟩, rfl, Or.inr ⟨rfl, Nat.lt_succ_self _⟩⟩
  · have hroom : ¬ ((maxSafeInteger : Int) ≤ clock.latestTime) := by
      rcases hnext with hnext | hnext
      · omega
      · exact absurd hnext hcounter
    rw [if_neg hcounter, if_neg hroom]
    refine ⟨rfl, ⟨?_, Nat.zero_le _, hsafe.nodeId⟩, rfl, Or.inl ?_⟩
    · change clock.latestTime + 1 ≤ maxSafeInteger
      omega
    · exact Int.lt_succ _

variable {physical : Int}

theorem reset_returns (hsafe : clock.IsSafe) (hphysical : physical ≤ maxSafeInteger) {time : Int}
    (counter : Nat) (hbefore : time < physical) :
    Returns clock.nodeId time counter (clock.reset physical) :=
  ⟨rfl, ⟨hphysical, Nat.zero_le _, hsafe.nodeId⟩, rfl, Or.inl hbefore⟩

theorem Returns.weaken {nodeId : String} {time time' : Int} {counter counter' : Nat}
    {result : Except String String × HlcClock} (hreturns : Returns nodeId time counter result)
    (hle : time' < time ∨ (time' = time ∧ counter' ≤ counter)) :
    Returns nodeId time' counter' result := by
  refine ⟨hreturns.outcome, hreturns.safe, hreturns.nodeId, ?_⟩
  have hbefore := hreturns.before
  unfold Before at *
  omega

theorem now_returns (hsafe : clock.IsSafe) (hphysical : physical ≤ maxSafeInteger)
    (hnext : HasNext clock.latestTime clock.counter) :
    Returns clock.nodeId clock.latestTime clock.counter (clock.now physical) := by
  unfold now
  by_cases hlater : clock.latestTime < physical
  · rw [if_pos hlater]
    exact reset_returns hsafe hphysical clock.counter hlater
  · rw [if_neg hlater]
    exact increment_returns hsafe hnext

theorem update_returns (hsafe : clock.IsSafe) (hphysical : physical ≤ maxSafeInteger)
    {remoteTimestampStr : String} {remote : HlcTimestamp}
    (hremote : parse remoteTimestampStr = .ok remote)
    (hnext : remote.physicalTime ≤ clock.latestTime → HasNext clock.latestTime clock.counter)
    (hremoteNext : clock.latestTime ≤ remote.physicalTime →
      HasNext remote.physicalTime remote.counter) :
    Returns clock.nodeId clock.latestTime clock.counter
        (clock.update remoteTimestampStr physical) ∧
      Returns clock.nodeId remote.physicalTime remote.counter
        (clock.update remoteTimestampStr physical) := by
  obtain ⟨hremoteTime, hremoteCounter⟩ := parse_safe hremote
  have hcounter := hsafe.counter
  unfold update
  rw [hremote]
  by_cases hphysicalLater : clock.latestTime < physical ∧ remote.physicalTime < physical
  · simp only [if_pos hphysicalLater]
    exact ⟨reset_returns hsafe hphysical _ hphysicalLater.1,
      reset_returns hsafe hphysical _ hphysicalLater.2⟩
  · simp only [if_neg hphysicalLater]
    by_cases hsame : clock.latestTime = remote.physicalTime
    · simp only [if_pos hsame]
      have hmerged : HasNext clock.latestTime (max clock.counter remote.counter) := by
        have hfirst := hnext hsame.ge
        have hsecond := hremoteNext hsame.le
        unfold HasNext at *
        omega
      have hmergedSafe : ({ clock with
          counter := max clock.counter remote.counter } : HlcClock).IsSafe :=
        ⟨hsafe.latestTime, max_le hcounter hremoteCounter, hsafe.nodeId⟩
      have hreturns := increment_returns hmergedSafe hmerged
      constructor
      · exact hreturns.weaken (Or.inr ⟨rfl, le_max_left _ _⟩)
      · exact hreturns.weaken (Or.inr ⟨hsame.symm, le_max_right _ _⟩)
    · simp only [if_neg hsame]
      by_cases hahead : clock.latestTime < remote.physicalTime
      · simp only [if_pos hahead]
        have htakenSafe : ({ clock with
            latestTime := remote.physicalTime
            counter := remote.counter } : HlcClock).IsSafe :=
          ⟨hremoteTime, hremoteCounter, hsafe.nodeId⟩
        have hreturns := increment_returns htakenSafe (hremoteNext hahead.le)
        constructor
        · exact hreturns.weaken (Or.inl hahead)
        · exact hreturns
      · simp only [if_neg hahead]
        have hbehind : remote.physicalTime < clock.latestTime := by omega
        have hreturns := increment_returns hsafe (hnext hbehind.le)
        constructor
        · exact hreturns
        · exact hreturns.weaken (Or.inl hbehind)

theorem now_reading_le
    (hreturns : Returns clock.nodeId clock.latestTime clock.counter (clock.now physical)) :
    physical ≤ (clock.now physical).2.latestTime := by
  by_cases hlater : clock.latestTime < physical
  · rw [now, if_pos hlater]
    exact le_rfl
  · have hbefore := hreturns.before
    unfold Before at hbefore
    omega

theorem update_reading_le {remoteTimestampStr : String} {remote : HlcTimestamp}
    (hremote : parse remoteTimestampStr = .ok remote)
    (hclock : Returns clock.nodeId clock.latestTime clock.counter
      (clock.update remoteTimestampStr physical))
    (hpeer : Returns clock.nodeId remote.physicalTime remote.counter
      (clock.update remoteTimestampStr physical)) :
    physical ≤ (clock.update remoteTimestampStr physical).2.latestTime := by
  by_cases hlater : clock.latestTime < physical ∧ remote.physicalTime < physical
  · rw [update, hremote]
    simp only [if_pos hlater]
    exact le_rfl
  · have hbefore := hclock.before
    have hbefore' := hpeer.before
    unfold Before at hbefore hbefore'
    omega

end HlcClock

/-! ## Every run -/

namespace HlcCall

open HybridLogicalClock HlcClock

variable {clock : HlcClock}

/-- What a call with room does: it merges a malformed remote stamp and changes nothing,
or it returns a stamp which is later than the clock and than the remote stamp. -/
theorem run_cases (hsafe : clock.IsSafe) {call : HlcCall}
    (hreading : call.reading ≤ maxSafeInteger) (hroom : call.HasRoom clock) :
    (∃ remote physical message, call = .update remote physical ∧
        parse remote = .error message ∧ call.run clock = (.error message, clock)) ∨
      (Returns clock.nodeId clock.latestTime clock.counter (call.run clock) ∧
        0 ≤ (call.run clock).2.latestTime ∧
        ∀ remote physical, call = .update remote physical →
          ∃ timestamp, parse remote = .ok timestamp ∧
            Returns clock.nodeId timestamp.physicalTime timestamp.counter
              (call.run clock)) := by
  cases call with
  | now physical =>
      obtain ⟨hnonneg, hnext⟩ := hroom
      have hphysical : physical ≤ maxSafeInteger := hreading
      have hreturns := now_returns hsafe hphysical hnext
      have hle := now_reading_le hreturns
      have hbefore := hreturns.before
      refine Or.inr ⟨hreturns, ?_, ?_⟩
      · change 0 ≤ (clock.now physical).2.latestTime
        unfold Before at hbefore
        omega
      · intro remote physical' hcall
        cases hcall
  | update remote physical =>
      cases hparse : parse remote with
      | error message =>
          refine Or.inl ⟨remote, physical, message, rfl, hparse, ?_⟩
          rw [run, HlcClock.update, hparse]
      | ok timestamp =>
          have hphysical : physical ≤ maxSafeInteger := hreading
          obtain ⟨hnonneg, hnext, hremoteNext⟩ := hroom timestamp hparse
          obtain ⟨hclock, hpeer⟩ :=
            update_returns hsafe hphysical hparse hnext hremoteNext
          have hle := update_reading_le hparse hclock hpeer
          have hbefore := hclock.before
          have hbefore' := hpeer.before
          refine Or.inr ⟨hclock, ?_, ?_⟩
          · change 0 ≤ (clock.update remote physical).2.latestTime
            unfold Before at hbefore hbefore'
            omega
          · intro remote' physical' hcall
            cases hcall
            exact ⟨timestamp, hparse, hpeer⟩

structure Ahead (collation : Collation) (clock : HlcClock) (events : List HlcEvent) :
    Prop where
  advance : HlcEvent.Advance collation events
  later : ∀ event ∈ events, ∀ stamp, event.outcome = .ok stamp →
    ∃ timestamp, parse stamp = .ok timestamp ∧
      Before clock.latestTime clock.counter timestamp.physicalTime timestamp.counter
  succeeds : ∀ event ∈ events, ∀ physical, event.call = .now physical →
    ∃ stamp, event.outcome = .ok stamp

theorem ahead_nil (collation : Collation) (clock : HlcClock) : Ahead collation clock [] where
  advance := {
    increasing := .nil
    exceedsRemote := by
      intro event hevent
      cases hevent
    recovers := .nil }
  later := by
    intro event hevent
    cases hevent
  succeeds := by
    intro event hevent
    cases hevent

theorem Ahead.cons_rejected {collation : Collation} {events : List HlcEvent}
    (hahead : Ahead collation clock events) {remote message : String} {physical : Int} :
    Ahead collation clock
      ({ call := .update remote physical, outcome := .error message } :: events) where
  advance := {
    increasing := by
      refine .cons ?_ hahead.advance.increasing
      intro event _ first second hfirst
      cases hfirst
    exceedsRemote := by
      intro event hevent
      rcases List.mem_cons.mp hevent with rfl | hevent
      · intro remote' physical' stamp _ hstamp
        cases hstamp
      · exact hahead.advance.exceedsRemote event hevent
    recovers := by
      refine .cons ?_ hahead.advance.recovers
      intro event hevent message' physical' _ hcall
      exact hahead.succeeds event hevent physical' hcall }
  later := by
    intro event hevent
    rcases List.mem_cons.mp hevent with rfl | hevent
    · intro stamp hstamp
      cases hstamp
    · exact hahead.later event hevent
  succeeds := by
    intro event hevent
    rcases List.mem_cons.mp hevent with rfl | hevent
    · intro physical' hcall
      cases hcall
    · exact hahead.succeeds event hevent

theorem Ahead.cons_returned {collation : Collation} {later : HlcClock} {call : HlcCall}
    {events : List HlcEvent} (hahead : Ahead collation later events)
    (hbefore : Before clock.latestTime clock.counter later.latestTime later.counter)
    (hstamp : parse later.stamp = .ok {
      physicalTime := later.latestTime
      counter := later.counter
      nodeId := later.nodeId }) (hremote : ∀ remote physical, call = .update remote physical →
      StampLess collation remote later.stamp) :
    Ahead collation clock ({ call := call, outcome := .ok later.stamp } :: events) where
  advance := {
    increasing := by
      refine .cons ?_ hahead.advance.increasing
      intro event hevent first second hfirst hsecond
      cases hfirst
      obtain ⟨timestamp, hparse, hlater⟩ := hahead.later event hevent second hsecond
      exact stampLess_of_before hstamp hparse hlater
    exceedsRemote := by
      intro event hevent
      rcases List.mem_cons.mp hevent with rfl | hevent
      · intro remote physical stamp hcall hstamp'
        cases hstamp'
        exact hremote remote physical hcall
      · exact hahead.advance.exceedsRemote event hevent
    recovers := by
      refine .cons ?_ hahead.advance.recovers
      intro event _ message physical herror
      cases herror }
  later := by
    intro event hevent
    rcases List.mem_cons.mp hevent with rfl | hevent
    · intro stamp hstamp'
      cases hstamp'
      exact ⟨_, hstamp, hbefore⟩
    · intro stamp hstamp'
      obtain ⟨timestamp, hparse, hlater⟩ := hahead.later event hevent stamp hstamp'
      exact ⟨timestamp, hparse, hbefore.trans hlater⟩
  succeeds := by
    intro event hevent
    rcases List.mem_cons.mp hevent with rfl | hevent
    · intro physical _
      exact ⟨_, rfl⟩
    · exact hahead.succeeds event hevent

theorem ahead_trace (collation : Collation) {calls : List HlcCall} (hsafe : clock.IsSafe)
    (hreadings : ∀ call ∈ calls, call.reading ≤ maxSafeInteger) (hroom : AllHaveRoom clock calls) :
    Ahead collation clock (trace clock calls) := by
  induction calls generalizing clock with
  | nil => exact ahead_nil collation clock
  | cons call calls ih =>
      obtain ⟨hfirst, hrest⟩ := hroom
      have hreading := hreadings call List.mem_cons_self
      have hothers : ∀ other ∈ calls, other.reading ≤ maxSafeInteger :=
        fun other hother => hreadings other (List.mem_cons_of_mem _ hother)
      rcases run_cases hsafe hreading hfirst with
        ⟨remote, physical, message, rfl, -, hrun⟩ | ⟨hreturns, hnonneg, hpeer⟩
      · rw [hrun] at hrest
        rw [trace, hrun]
        exact (ih hsafe hothers hrest).cons_rejected
      · have hstamp := hreturns.safe.parse_stamp hnonneg
        rw [trace, hreturns.outcome]
        apply (ih hreturns.safe hothers hrest).cons_returned hreturns.before hstamp
        intro remote physical hcall
        obtain ⟨timestamp, hparse, hlater⟩ := hpeer remote physical hcall
        exact stampLess_of_before hparse hstamp hlater.before

/-- In every run whose calls have room, stamps increase, exceed what they merge, and
every `now` returns one. -/
theorem trace_advances (collation : Collation) (nodeId : String)
    (hnodeId : IsNodeText nodeId.toList) (reading : Int)
    (hreading : reading.natAbs ≤ maxSafeInteger) (calls : List HlcCall)
    (hreadings : ∀ call ∈ calls, call.reading.natAbs ≤ maxSafeInteger)
    (hroom : AllHaveRoom (HlcClock.create nodeId reading) calls) :
    HlcEvent.Advance collation (trace (HlcClock.create nodeId reading) calls) := by
  have hsafe : (HlcClock.create nodeId reading).IsSafe := by
    refine ⟨?_, Nat.zero_le _, hnodeId⟩
    change reading ≤ maxSafeInteger
    omega
  refine (ahead_trace collation hsafe ?_ hroom).advance
  intro call hcall
  have hbound := hreadings call hcall
  omega

theorem trace_advances_after_merge :
    HlcEvent.Advance .codePoint (trace (HlcClock.create "node" 5)
      [.now 7, .update "9_0_peer" 8, .now 6]) := by
  have hpeer : parse "9_0_peer" =
      .ok { physicalTime := 9, counter := 0, nodeId := "peer" } := by decide
  have hnodeId : IsNodeText "node".toList := by
    refine ⟨by decide, ?_⟩
    have hchars : ("node".toList.all fun c => !isLineTerminator c) = true := by decide
    simpa using hchars
  refine trace_advances .codePoint "node" hnodeId 5 (by decide)
    [.now 7, .update "9_0_peer" 8, .now 6] (by decide) ⟨?_, ?_, ?_, trivial⟩
  · exact ⟨by decide, Or.inl (by decide)⟩
  · intro remote hremote
    cases hpeer.symm.trans hremote
    exact ⟨by decide, fun _ => Or.inl (by decide), fun _ => Or.inl (by decide)⟩
  · exact ⟨by decide, Or.inl (by decide)⟩

/-- The last stamp, taken over from a peer: the call fails, and so does the next one. -/
theorem trace_stuck_after_last_stamp :
    ¬ HlcEvent.Advance .codePoint (trace (HlcClock.create "node" 5)
      [.update "1fffffffffffff_1fffffffffffff_peer" 6, .now 7]) := by
  intro hadvance
  have hfirst : ((HlcCall.update "1fffffffffffff_1fffffffffffff_peer" 6).run
      (HlcClock.create "node" 5)).1 = .error "HLC timestamp space exhausted" := by
    decide
  have hsecond : ((HlcCall.now 7).run ((HlcCall.update
      "1fffffffffffff_1fffffffffffff_peer" 6).run (HlcClock.create "node" 5)).2).1 =
        .error "HLC timestamp space exhausted" := by
    decide
  obtain ⟨stamp, hstamp⟩ := (List.pairwise_cons.mp hadvance.recovers).1 _
    (List.mem_singleton_self _) _ 7 hfirst rfl
  cases hsecond.symm.trans hstamp

end HlcCall
end TauriPlatform
