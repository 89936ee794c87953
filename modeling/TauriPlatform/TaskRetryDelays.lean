import TauriPlatform.TaskHolding

/-!
# The delays of retries

The capped delay of an attempt is multiplied by a jitter factor after it has been capped, then
rounded, and then added to the clock.  So whether every delay stays within its maximum and
every reschedule succeeds depends on the numbers of the retry policy.
-/

namespace TauriPlatform

open Async Relational

/-! ## Numbers -/

def JsonNumber.value (number : JsonNumber) : ℚ :=
  (number.decimal.1 : ℚ) / 10 ^ number.decimal.2

variable {number : JsonNumber}

theorem JsonNumber.value_nonneg (hsign : ¬ number.isNegative) :
    0 ≤ number.value := by
  simp only [isNegative, decide_eq_true_eq, not_lt] at hsign
  exact div_nonneg (Int.cast_nonneg hsign) (by positivity)

theorem JsonNumber.value_pos (hsign : number.isPositive) :
    0 < number.value := by
  simp only [isPositive, decide_eq_true_eq] at hsign
  exact div_pos (Int.cast_pos.mpr hsign) (by positivity)

theorem JsonNumber.value_le_one (hone : ¬ number.exceedsOne) :
    number.value ≤ 1 := by
  simp only [exceedsOne, decide_eq_true_eq, not_lt] at hone
  rw [value, div_le_one (by positivity)]
  exact_mod_cast hone

namespace JsNumber

theorem ofRat_of_lt {value : ℚ} (hnonneg : 0 ≤ value) (hlt : value < overflowBound) :
    ofRat value = .finite value := by
  have hlow : ¬ value ≤ -overflowBound := by linarith
  rw [ofRat, if_neg (not_le.mpr hlt), if_neg hlow]

theorem ofRat_of_le {value : ℚ} (hle : overflowBound ≤ value) : ofRat value = .infinity false :=
  if_pos hle

theorem lt_overflowBound : 2 ^ 64 < overflowBound := by
  have hsplit : ∀ base : ℚ, base ^ 1024 = base ^ 970 * base ^ 54 := by
    intro base
    rw [← pow_add]
  have hlarge : (2 : ℚ) ^ 64 ≤ 2 ^ 970 := pow_le_pow_right₀ (by norm_num) (by norm_num)
  rw [overflowBound, hsplit]
  generalize (2 : ℚ) ^ 970 = half at hlarge ⊢
  norm_num at hlarge ⊢
  linarith

theorem one_lt_overflowBound : 1 < overflowBound :=
  lt_trans (by norm_num) lt_overflowBound

theorem pow_eq {base : ℚ} (hbase : 0 < base) (exponent : ℤ) :
    pow (.finite base) exponent = ofRat (base ^ exponent) := by
  by_cases hzero : exponent = 0
  · rw [hzero, zpow_zero, ofRat_of_lt zero_le_one one_lt_overflowBound]
    rfl
  · simp [pow, hzero, hbase.ne']

theorem min_mul {factor power cap : ℚ} (hfactor : 0 ≤ factor) (hpower : 0 < power)
    (hcap : cap < overflowBound) :
    min (mul (.finite factor) (ofRat power)) (.finite cap) =
      if overflowBound ≤ power then (if factor = 0 then .nan else .finite cap)
      else .finite (Min.min (factor * power) cap) := by
  by_cases hoverflow : overflowBound ≤ power
  · rw [if_pos hoverflow, ofRat_of_le hoverflow]
    by_cases hzero : factor = 0
    · simp [mul, mul.scaled, min, hzero]
    · have hsign : decide (factor < 0) = false := decide_eq_false (not_lt.mpr hfactor)
      simp [mul, mul.scaled, min, lt, hzero, hsign]
  · rw [if_neg hoverflow, ofRat_of_lt hpower.le (not_le.mp hoverflow)]
    have hproduct : 0 ≤ factor * power := mul_nonneg hfactor hpower.le
    by_cases hlarge : overflowBound ≤ factor * power
    · have hcapped : cap ≤ factor * power := hcap.le.trans hlarge
      simp [mul, min, lt, ofRat_of_le hlarge, min_eq_right hcapped]
    · simp only [mul, ofRat_of_lt hproduct (not_le.mp hlarge), min, lt, reduceCtorEq, or_self,
        if_false, decide_eq_true_eq]
      split_ifs with hless
      · rw [min_eq_right hless.le]
      · rw [min_eq_left (not_lt.mp hless)]

theorem max_round {value : ℚ} (hvalue : 0 ≤ value) :
    max (.finite 0) (ofRat value).round =
      if overflowBound ≤ value then .infinity false else .finite ⌊value + 1 / 2⌋ := by
  by_cases hoverflow : overflowBound ≤ value
  · rw [if_pos hoverflow, ofRat_of_le hoverflow]
    simp [round, max, lt]
  · have hfloor : (0 : ℚ) ≤ ⌊value + 1 / 2⌋ := by
      exact_mod_cast Int.floor_nonneg.mpr (by linarith)
    rw [if_neg hoverflow, ofRat_of_lt hvalue (not_le.mp hoverflow)]
    simp only [round, max, lt, reduceCtorEq, or_self, if_false, decide_eq_true_eq]
    split_ifs with hpositive
    · rfl
    · exact congrArg JsNumber.finite (le_antisymm hfloor (not_lt.mp hpositive))

end JsNumber

/-! ## The delay of one attempt -/

namespace TaskRetryPolicy

/-- What the checks of `enqueue` promise; the last four are `Number.isFinite`. -/
structure Checked (policy : TaskRetryPolicy) : Prop where
  initialDelay_nonneg : 0 ≤ policy.initialDelayMs.value
  multiplier_pos : 0 < policy.backoffMultiplier.value
  maxDelay_nonneg : 0 ≤ policy.maxDelayMs.value
  jitter_nonneg : 0 ≤ policy.jitter.value
  jitter_le_one : policy.jitter.value ≤ 1
  initialDelay_finite : policy.initialDelayMs.value < JsNumber.overflowBound
  multiplier_finite : policy.backoffMultiplier.value < JsNumber.overflowBound
  maxDelay_finite : policy.maxDelayMs.value < JsNumber.overflowBound

def growth (policy : TaskRetryPolicy) (attempt : Int) : ℚ :=
  policy.backoffMultiplier.value ^ (attempt - 1)

def cappedDelay (policy : TaskRetryPolicy) (attempt : Int) : ℚ :=
  if JsNumber.overflowBound ≤ policy.growth attempt then policy.maxDelayMs.value
  else min (policy.initialDelayMs.value * policy.growth attempt) policy.maxDelayMs.value

def jittered (policy : TaskRetryPolicy) (attempt : Int) (random : ℚ) : ℚ :=
  policy.cappedDelay attempt * (1 + (random * 2 - 1) * policy.jitter.value)

section Checked

variable {policy : TaskRetryPolicy} {attempt : Int} {random : ℚ}

theorem Checked.growth_pos (hchecked : policy.Checked) (attempt : Int) :
    0 < policy.growth attempt :=
  zpow_pos hchecked.multiplier_pos _

theorem Checked.cappedDelay_nonneg (hchecked : policy.Checked) (attempt : Int) :
    0 ≤ policy.cappedDelay attempt := by
  unfold cappedDelay
  split_ifs
  · exact hchecked.maxDelay_nonneg
  · exact le_min (mul_nonneg hchecked.initialDelay_nonneg (hchecked.growth_pos attempt).le)
      hchecked.maxDelay_nonneg

theorem Checked.factor_nonneg (hchecked : policy.Checked) (hrandom : 0 ≤ random) :
    0 ≤ 1 + (random * 2 - 1) * policy.jitter.value := by
  have hjitter := hchecked.jitter_nonneg
  have hone := hchecked.jitter_le_one
  nlinarith

theorem Checked.jittered_nonneg (hchecked : policy.Checked) (hrandom : 0 ≤ random) :
    0 ≤ policy.jittered attempt random :=
  mul_nonneg (hchecked.cappedDelay_nonneg attempt) (hchecked.factor_nonneg hrandom)

theorem ofJson_eq {number : JsonNumber} (hnonneg : 0 ≤ number.value)
    (hfinite : number.value < JsNumber.overflowBound) :
    JsNumber.ofJson number = .finite number.value :=
  JsNumber.ofRat_of_lt hnonneg hfinite

theorem Checked.factor_eq (hchecked : policy.Checked) (hrandom : 0 ≤ random) (hone : random < 1) :
    JsNumber.add (.finite 1)
        (JsNumber.mul (.finite (random * 2 - 1)) (JsNumber.ofJson policy.jitter)) =
      .finite (1 + (random * 2 - 1) * policy.jitter.value) := by
  have hbound : (2 : ℚ) < JsNumber.overflowBound :=
    lt_trans (by norm_num) JsNumber.lt_overflowBound
  have hjitter := hchecked.jitter_nonneg
  have hjitterOne := hchecked.jitter_le_one
  have hlow : -1 ≤ (random * 2 - 1) * policy.jitter.value := by nlinarith
  have hhigh : (random * 2 - 1) * policy.jitter.value ≤ 1 := by nlinarith
  have hproduct : JsNumber.ofRat ((random * 2 - 1) * policy.jitter.value) =
      .finite ((random * 2 - 1) * policy.jitter.value) := by
    rw [JsNumber.ofRat, if_neg (by linarith), if_neg (by linarith)]
  rw [ofJson_eq hjitter (by linarith)]
  simp only [JsNumber.mul, hproduct, JsNumber.add]
  exact JsNumber.ofRat_of_lt (by linarith) (by linarith)

theorem Checked.delay_eq (hchecked : policy.Checked) (hrandom : 0 ≤ random) (hone : random < 1)
    (attempt : Int) :
    TaskRetryCalculator.delay attempt policy random =
      if policy.initialDelayMs.value = 0 ∧ JsNumber.overflowBound ≤ policy.growth attempt then
        .nan
      else if JsNumber.overflowBound ≤ policy.jittered attempt random then .infinity false
      else .finite ⌊policy.jittered attempt random + 1 / 2⌋ := by
  have hcapped := JsNumber.min_mul hchecked.initialDelay_nonneg (hchecked.growth_pos attempt)
    hchecked.maxDelay_finite
  have hnonneg : 0 ≤ policy.jittered attempt random := hchecked.jittered_nonneg hrandom
  have hjittered := JsNumber.max_round hnonneg
  simp only [TaskRetryCalculator.delay, hchecked.factor_eq hrandom hone,
    ofJson_eq hchecked.initialDelay_nonneg hchecked.initialDelay_finite,
    ofJson_eq hchecked.multiplier_pos.le hchecked.multiplier_finite,
    ofJson_eq hchecked.maxDelay_nonneg hchecked.maxDelay_finite,
    JsNumber.pow_eq hchecked.multiplier_pos]
  rw [growth] at hcapped
  rw [hcapped]
  simp only [jittered, cappedDelay, growth] at hjittered ⊢
  by_cases hoverflow : JsNumber.overflowBound ≤ policy.backoffMultiplier.value ^ (attempt - 1)
  · simp only [hoverflow, if_true, and_true] at hjittered ⊢
    by_cases hzero : policy.initialDelayMs.value = 0
    · simp [hzero, JsNumber.mul, JsNumber.round, JsNumber.max]
    · simp only [hzero, if_false, JsNumber.mul, hjittered]
  · simp only [hoverflow, if_false, and_false, JsNumber.mul] at hjittered ⊢
    exact hjittered

end Checked

end TaskRetryPolicy

/-! ## Rescheduling -/

namespace TaskQueueService

variable {table : TaskTable} {row : TaskRow} {clock : ClockReading} {random : ℚ}
  {error : Thrown} {policy : TaskRetryPolicy} {attempt : Int}

theorem checked_of_checkedPolicy? {given : PartialRetryPolicy}
    (hpolicy : checkedPolicy? given = some policy)
    (hinitial : policy.initialDelayMs.value < JsNumber.overflowBound)
    (hmultiplier : policy.backoffMultiplier.value < JsNumber.overflowBound)
    (hmax : policy.maxDelayMs.value < JsNumber.overflowBound) : policy.Checked := by
  simp only [checkedPolicy?, Option.bind_eq_bind, Option.bind_eq_some_iff] at hpolicy
  obtain ⟨maxAttempts, -, initialDelayMs, -, multiplier, -, maxDelayMs, -, jitter, -,
    hpolicy⟩ := hpolicy
  split_ifs at hpolicy with hbounds
  cases hpolicy
  obtain ⟨-, hinitialSign, hmultiplierSign, hmaxSign, hjitterSign, hjitterOne⟩ := hbounds
  exact {
    initialDelay_nonneg := JsonNumber.value_nonneg hinitialSign
    multiplier_pos := JsonNumber.value_pos hmultiplierSign
    maxDelay_nonneg := JsonNumber.value_nonneg hmaxSign
    jitter_nonneg := JsonNumber.value_nonneg hjitterSign
    jitter_le_one := JsonNumber.value_le_one hjitterOne
    initialDelay_finite := hinitial
    multiplier_finite := hmultiplier
    maxDelay_finite := hmax }

theorem decide_retryable (hretryable : TaskRetryCalculator.isNonRetryableClass error = false)
    (hattempt : attempt < policy.maxAttempts) (random : ℚ) :
    (TaskRetryCalculator.decide error attempt policy random).retryable = true ∧
      (TaskRetryCalculator.decide error attempt policy random).delayMs =
        some (TaskRetryCalculator.delay attempt policy random) := by
  simp only [TaskRetryCalculator.isNonRetryableClass, Bool.or_eq_false_iff,
    Option.isSome_eq_false_iff, Option.isNone_iff_eq_none] at hretryable
  simp [TaskRetryCalculator.decide, hretryable, not_le.mpr hattempt]

theorem markFailed_reschedules (hrow : row ∈ table) (hrunning : row.state = .running)
    {delayMs : JsNumber}
    (hretry : (TaskRetryCalculator.decide error row.attemptCount (rowPolicy row)
      random).retryable = true)
    (hdelay : (TaskRetryCalculator.decide error row.attemptCount (rowPolicy row)
      random).delayMs = some delayMs)
    {scheduledAt : String} (hschedule : scheduleAfter clock delayMs = .ok scheduledAt)
    (now : ClockReading) :
    ∃ later, (markFailed (connectionExecutor TaskTable) now clock random row.id error).run
        memoryConnection table = (.ok true, later) ∧
      rescheduled scheduledAt error.message now.iso row ∈ later := by
  have hselect : table.select (fun other => other.id = row.id) = [row] := by
    have hsingle := Table.select_eq_singleton (fun row : TaskRow => some row.id)
      (by simp [taskIndexes]) hrow rfl
    simpa only [Option.some.injEq] using hsingle
  have hread : (selectById row.id).run table = .ok {
      database := table
      rows := [row]
      rowsAffected := 0 } := by
    simp only [selectById, selectStatement, Statement.run, hselect]
  have hkeys : ∀ other ∈ table, (decide (other.id = row.id) && decide (other.state = .running) &&
      decide (other.attemptCount = row.attemptCount)) = true →
      KeepsKeys other (rescheduled scheduledAt error.message now.iso other) := by
    intro other _ hcondition
    simp only [Bool.and_eq_true, decide_eq_true_eq] at hcondition
    exact rescheduled_keepsKeys hcondition.1.2
  obtain ⟨later, hupdate, hlater⟩ := updateStatement_run
    (rescheduleStatement scheduledAt error.message now.iso row.id row.attemptCount).sql
    (rescheduleStatement scheduledAt error.message now.iso row.id row.attemptCount).params
    [idColumn] (fun _ other => other.id = row.id && other.state = .running &&
      other.attemptCount = row.attemptCount)
    (rescheduled scheduledAt error.message now.iso) (fun other => [other.id]) hkeys
  have hmem : row ∈ table.select fun other => other.id = row.id && other.state = .running &&
      other.attemptCount = row.attemptCount := by
    rw [Table.mem_select]
    exact ⟨hrow, by simp [hrunning]⟩
  have hrun : (rescheduleStatement scheduledAt error.message now.iso row.id row.attemptCount).run
      table = .ok _ := hupdate
  have hreturned : row.id ∈ ((table.select fun other => other.id = row.id &&
      other.state = .running && other.attemptCount = row.attemptCount).map
        (rescheduled scheduledAt error.message now.iso)).flatMap fun other => [other.id] :=
    List.mem_flatMap.mpr ⟨_, List.mem_map_of_mem hmem, List.mem_singleton_self _⟩
  refine ⟨later, ?_, ?_⟩
  · rw [markFailed, Program.run_bind_ok _ (memory_query_run hread)]
    simp only [hrunning, ne_eq, not_true_eq_false, if_false, hretry, hdelay, hschedule]
    refine (Program.run_bind_ok _ (Program.run_ofExcept _)).trans ?_
    refine (Program.run_bind_ok _ (memory_query_run hrun)).trans ?_
    simp [List.ne_nil_of_mem hreturned]
  · rw [Table.mem_def, hlater, List.mem_map]
    exact ⟨row, hrow, by simp [Table.updateRow, hrunning]⟩

end TaskQueueService

/-! ## Policies whose delays fit -/

namespace TaskRetryPolicy

def finalGrowth (policy : TaskRetryPolicy) : ℚ :=
  policy.growth (policy.maxAttempts - 1)

def largestDelay (policy : TaskRetryPolicy) : ℚ :=
  if JsNumber.overflowBound ≤ policy.finalGrowth then policy.maxDelayMs.value
  else min (max policy.initialDelayMs.value (policy.initialDelayMs.value * policy.finalGrowth))
    policy.maxDelayMs.value

/-- The longest whole delay which the maximum and the range of dates leave. -/
def delayLimit (policy : TaskRetryPolicy) (clock : ClockReading) : ℤ :=
  min ⌊policy.maxDelayMs.value⌋ (maxTimeValue - clock.millis)

/-- No delay is not a number, and the largest one stays within the limit when jitter is added. -/
def DelaysFit (policy : TaskRetryPolicy) (clock : ClockReading) : Prop :=
  policy.maxAttempts ≤ 1 ∨
    (policy.initialDelayMs.value = 0 → policy.finalGrowth < JsNumber.overflowBound) ∧
      if policy.largestDelay * policy.jitter.value = 0 then
        policy.largestDelay < policy.delayLimit clock + 1 / 2
      else policy.largestDelay * (1 + policy.jitter.value) ≤ policy.delayLimit clock + 1 / 2

section Attempts

variable {policy : TaskRetryPolicy} {attempt : Int}

structure Retried (policy : TaskRetryPolicy) (attempt : Int) : Prop where
  first : 1 ≤ attempt
  last : attempt < policy.maxAttempts

theorem growth_one (policy : TaskRetryPolicy) : policy.growth 1 = 1 := by
  simp [growth]

theorem Checked.growth_le (hchecked : policy.Checked) (hretried : policy.Retried attempt) :
    policy.growth attempt ≤ max 1 policy.finalGrowth := by
  have hfirst := hretried.first
  have hlast := hretried.last
  by_cases hone : 1 ≤ policy.backoffMultiplier.value
  · exact le_max_of_le_right (zpow_le_zpow_right₀ hone (by omega))
  · exact le_max_of_le_left (zpow_le_one₀ hchecked.multiplier_pos (not_le.mp hone).le (by omega))

theorem Checked.growth_lt (hchecked : policy.Checked) (hretried : policy.Retried attempt)
    (hfinal : policy.finalGrowth < JsNumber.overflowBound) :
    policy.growth attempt < JsNumber.overflowBound :=
  lt_of_le_of_lt (hchecked.growth_le hretried) (max_lt JsNumber.one_lt_overflowBound hfinal)

theorem Checked.cappedDelay_le (hchecked : policy.Checked) (hretried : policy.Retried attempt) :
    policy.cappedDelay attempt ≤ policy.largestDelay := by
  by_cases hoverflow : JsNumber.overflowBound ≤ policy.finalGrowth
  · rw [largestDelay, if_pos hoverflow, cappedDelay]
    split_ifs
    · exact le_rfl
    · exact min_le_right _ _
  · have hgrowth := hchecked.growth_lt hretried (not_le.mp hoverflow)
    rw [largestDelay, if_neg hoverflow, cappedDelay, if_neg (not_le.mpr hgrowth)]
    apply min_le_min_right
    have hproduct := mul_le_mul_of_nonneg_left (hchecked.growth_le hretried)
      hchecked.initialDelay_nonneg
    rwa [mul_max_of_nonneg _ _ hchecked.initialDelay_nonneg, mul_one] at hproduct

theorem Checked.largestDelay_nonneg (hchecked : policy.Checked) : 0 ≤ policy.largestDelay := by
  unfold largestDelay
  split_ifs
  · exact hchecked.maxDelay_nonneg
  · exact le_min (le_max_of_le_left hchecked.initialDelay_nonneg) hchecked.maxDelay_nonneg

theorem Checked.exists_largest (hchecked : policy.Checked) (hmore : 1 < policy.maxAttempts) :
    ∃ attempt, policy.Retried attempt ∧ policy.cappedDelay attempt = policy.largestDelay := by
  have hfinal : policy.Retried (policy.maxAttempts - 1) := ⟨by omega, by omega⟩
  by_cases hoverflow : JsNumber.overflowBound ≤ policy.finalGrowth
  · refine ⟨_, hfinal, ?_⟩
    rw [cappedDelay, largestDelay, if_pos hoverflow]
    exact if_pos hoverflow
  · by_cases hgrows : 1 ≤ policy.finalGrowth
    · refine ⟨_, hfinal, ?_⟩
      have hlarger : policy.initialDelayMs.value ≤
          policy.initialDelayMs.value * policy.finalGrowth :=
        le_mul_of_one_le_right hchecked.initialDelay_nonneg hgrows
      rw [cappedDelay, largestDelay, if_neg hoverflow, max_eq_right hlarger]
      exact if_neg hoverflow
    · refine ⟨1, ⟨le_rfl, hmore⟩, ?_⟩
      have hsmaller : policy.initialDelayMs.value * policy.finalGrowth ≤
          policy.initialDelayMs.value :=
        mul_le_of_le_one_right hchecked.initialDelay_nonneg (not_le.mp hgrows).le
      rw [cappedDelay, largestDelay, if_neg hoverflow, max_eq_left hsmaller, growth_one, mul_one]
      exact if_neg (not_le.mpr JsNumber.one_lt_overflowBound)

end Attempts

theorem jitter_lt_iff {capped jitter limit : ℚ} (hcapped : 0 ≤ capped) (hjitter : 0 ≤ jitter) :
    (∀ random : ℚ, 0 ≤ random → random < 1 →
      capped * (1 + (random * 2 - 1) * jitter) < limit) ↔
      if capped * jitter = 0 then capped < limit else capped * (1 + jitter) ≤ limit := by
  have hexpand : ∀ random : ℚ, capped * (1 + (random * 2 - 1) * jitter) =
      capped * (1 + jitter) - 2 * (1 - random) * (capped * jitter) := by
    intro random
    ring
  have hproduct : 0 ≤ capped * jitter := mul_nonneg hcapped hjitter
  split_ifs with hzero
  · have hsame : ∀ random : ℚ, capped * (1 + (random * 2 - 1) * jitter) = capped := by
      intro random
      rw [hexpand, mul_add, mul_one, hzero]
      ring
    simp only [hsame]
    exact ⟨fun hall => hall 0 le_rfl one_pos, fun hlt _ _ _ => hlt⟩
  · have hpositive : 0 < capped * jitter := lt_of_le_of_ne hproduct (Ne.symm hzero)
    constructor
    · intro hall
      by_contra hlarge
      -- a draw which is close enough to one exceeds the limit
      let distance := min 1 ((capped * (1 + jitter) - limit) / (2 * (capped * jitter)))
      have hdistance : 0 < distance :=
        lt_min one_pos (div_pos (by linarith) (by linarith))
      have hone : distance ≤ 1 := min_le_left _ _
      have hdraw := hall (1 - distance) (by linarith) (by linarith)
      have hclose : distance * (2 * (capped * jitter)) ≤ capped * (1 + jitter) - limit :=
        (le_div_iff₀ (by linarith)).mp (min_le_right _ _)
      rw [hexpand] at hdraw
      linarith
    · intro hle random _ hone
      rw [hexpand]
      nlinarith

end TaskRetryPolicy

/-! ## Retries within their bounds -/

namespace TaskQueueService

open TaskRetryPolicy

variable {policy : TaskRetryPolicy} {clock : ClockReading} {attempt : Int} {random : ℚ}
  {error : Thrown}

/-- The delay is a number between zero and its maximum, and with it `markFailed` reschedules
every running row of the policy and the attempt. -/
def RetriesWithin (policy : TaskRetryPolicy) (clock : ClockReading) (error : Thrown)
    (attempt : Int) (random : ℚ) : Prop :=
  ∃ (delayMs : ℚ) (scheduledAt : String),
    (TaskRetryCalculator.decide error attempt policy random).delayMs = some (.finite delayMs) ∧
    0 ≤ delayMs ∧ delayMs ≤ policy.maxDelayMs.value ∧
    scheduleAfter clock (.finite delayMs) = .ok scheduledAt ∧
    ∀ (table : TaskTable), ∀ row ∈ table, row.state = .running → row.attemptCount = attempt →
      rowPolicy row = policy → ∀ now : ClockReading, ∃ later,
        (markFailed (connectionExecutor TaskTable) now clock random row.id error).run
          memoryConnection table = (.ok true, later) ∧
        rescheduled scheduledAt error.message now.iso row ∈ later

def RetriesBounded (policy : TaskRetryPolicy) (clock : ClockReading) : Prop :=
  ∀ (error : Thrown) (attempt : Int) (random : ℚ),
    TaskRetryCalculator.isNonRetryableClass error = false → policy.Retried attempt →
    0 ≤ random → random < 1 → RetriesWithin policy clock error attempt random

theorem scheduleAfter_eq_ok_iff (clock : ClockReading) {delayMs : ℤ} (hdelay : 0 ≤ delayMs) :
    (∃ scheduledAt, scheduleAfter clock (.finite delayMs) = .ok scheduledAt) ↔
      delayMs ≤ maxTimeValue - clock.millis := by
  have hrange := clock.inRange
  have hvalid : (clock.millis + delayMs).natAbs ≤ maxTimeValue.natAbs ↔
      delayMs ≤ maxTimeValue - clock.millis := by
    simp only [maxTimeValue] at hrange ⊢
    omega
  simp only [scheduleAfter, Int.floor_intCast, toIsoString?, hvalid]
  split_ifs with hfits
  · simp [hfits]
  · simp [hfits]

theorem floor_le_limit_iff {value : ℚ} :
    ⌊value + 1 / 2⌋ ≤ policy.delayLimit clock ↔ value < policy.delayLimit clock + 1 / 2 := by
  rw [← Int.lt_add_one_iff, Int.floor_lt]
  push_cast
  constructor <;> intro hlt <;> linarith

theorem retriesWithin_iff (hchecked : policy.Checked)
    (hretryable : TaskRetryCalculator.isNonRetryableClass error = false)
    (hretried : policy.Retried attempt) (hrandom : 0 ≤ random) (hone : random < 1) :
    RetriesWithin policy clock error attempt random ↔
      (policy.initialDelayMs.value = 0 → policy.growth attempt < JsNumber.overflowBound) ∧
        policy.jittered attempt random < policy.delayLimit clock + 1 / 2 := by
  obtain ⟨hretry, hdelay⟩ := decide_retryable hretryable hretried.last random
  have hnonneg : 0 ≤ policy.jittered attempt random := hchecked.jittered_nonneg hrandom
  have hfloor : 0 ≤ ⌊policy.jittered attempt random + 1 / 2⌋ :=
    Int.floor_nonneg.mpr (by linarith)
  rw [hchecked.delay_eq hrandom hone attempt] at hdelay
  rw [← floor_le_limit_iff, delayLimit, le_min_iff, Int.le_floor,
    ← scheduleAfter_eq_ok_iff clock hfloor]
  constructor
  · intro hwithin
    obtain ⟨delayMs, scheduledAt, hcomputed, -, hmax, hschedule, -⟩ := hwithin
    rw [hdelay] at hcomputed
    split_ifs at hcomputed with hindefinite hoverflow
    · cases hcomputed
    · cases hcomputed
    · cases hcomputed
      exact ⟨fun hzero => not_le.mp fun hle => hindefinite ⟨hzero, hle⟩, hmax, _, hschedule⟩
  · intro hfits
    obtain ⟨hdefinite, hmax, scheduledAt, hschedule⟩ := hfits
    have hnumber : ¬ (policy.initialDelayMs.value = 0 ∧
        JsNumber.overflowBound ≤ policy.growth attempt) :=
      fun hboth => absurd hboth.2 (not_le.mpr (hdefinite hboth.1))
    have hfinite : ¬ JsNumber.overflowBound ≤ policy.jittered attempt random := by
      have hlimit := (scheduleAfter_eq_ok_iff clock hfloor).mp ⟨_, hschedule⟩
      have hlarge := JsNumber.lt_overflowBound
      have hrange := clock.inRange
      have hsmall : ⌊policy.jittered attempt random + 1 / 2⌋ ≤ 2 ^ 63 := by
        simp only [maxTimeValue] at hlimit hrange
        omega
      have hless := Int.lt_floor_add_one (policy.jittered attempt random + 1 / 2)
      have hcast : ((⌊policy.jittered attempt random + 1 / 2⌋ : ℤ) : ℚ) ≤ 2 ^ 63 := by
        exact_mod_cast hsmall
      norm_num at hlarge hcast
      linarith
    rw [if_neg hnumber, if_neg hfinite] at hdelay
    refine ⟨_, scheduledAt, hdelay, by exact_mod_cast hfloor, hmax, hschedule, ?_⟩
    intro table row hrow hrunning hattempt hpolicy now
    subst hattempt hpolicy
    exact markFailed_reschedules hrow hrunning hretry hdelay hschedule now

def patientPolicy : TaskRetryPolicy :=
  { defaultRetryPolicy with initialDelayMs := .integer 60000 }

theorem value_integer (number : ℤ) : (JsonNumber.integer number).value = number := by
  simp [JsonNumber.value, JsonNumber.decimal]

theorem value_quarter : defaultRetryPolicy.jitter.value = 1 / 4 := by
  norm_num [defaultRetryPolicy, JsonNumber.value, JsonNumber.decimal]

end TaskQueueService
end TauriPlatform
