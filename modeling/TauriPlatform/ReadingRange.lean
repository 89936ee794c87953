import TauriPlatform.IsoTimestamp

/-!
# Readings in range

The instants which sample runs read are in the range of a `Date`.
-/

namespace TauriPlatform.ClockReading

theorem inRange_epoch : (0 : Int).natAbs ≤ maxTimeValue.natAbs := by decide

/-- 1 January 2026. -/
theorem inRange_newYear : (1767225600000 : Int).natAbs ≤ maxTimeValue.natAbs := by decide

theorem inRange_newYearNoon : (1767268800000 : Int).natAbs ≤ maxTimeValue.natAbs := by decide

end TauriPlatform.ClockReading
