import Complyx.Platform.Time

namespace Complyx

/-!
# The years of the certificate library

The certificate library has dates of the years -9999 to 9999 alone.  Which
points in time these are follows from the computation of the calendar fields.
-/

/-- January 1 of the year -9999. -/
def minYmdSecs : Int := -377705116800

/-- The last second of the year 9999. -/
def maxYmdSecs : Int := 253402300799

namespace DateTime

/-! ## The parts of the computation -/

/-- The year within an era, which starts in March. -/
def yearOfEra (dayOfEra : Int) : Int :=
  (dayOfEra - dayOfEra / 1460 + dayOfEra / 36524 - dayOfEra / 146096) / 365

/-- January and February belong to the next calendar year. -/
def carried (dayOfYear : Int) : Int :=
  if (if (5 * dayOfYear + 2) / 153 < 10 then (5 * dayOfYear + 2) / 153 + 3
    else (5 * dayOfYear + 2) / 153 - 9) ≤ 2
  then 1 else 0

theorem civil_year (days : Int) : (civil days).1 =
    yearOfEra ((days + 719468) % 146097) + (days + 719468) / 146097 * 400 +
      carried
        ((days + 719468) % 146097 - (365 * yearOfEra ((days + 719468) % 146097) +
          yearOfEra ((days + 719468) % 146097) / 4 - yearOfEra
            ((days + 719468) % 146097) / 100)) := rfl

section Era

variable {day : Int} (low : 0 ≤ day) (high : day < 146097)

include low high

theorem yearOfEra_bounds : 0 ≤ yearOfEra day ∧ yearOfEra day ≤ 399 := by
  unfold yearOfEra
  omega

theorem yearOfEra_first : yearOfEra day = 0 <-> day ≤ 364 := by
  unfold yearOfEra
  omega

theorem yearOfEra_last : yearOfEra day = 399 <-> 145731 ≤ day := by
  unfold yearOfEra
  omega

end Era

theorem carried_bounds (dayOfYear : Int) :
    0 ≤ carried dayOfYear ∧ carried dayOfYear ≤ 1 := by
  unfold carried
  generalize (if (5 * dayOfYear + 2) / 153 < 10 then (5 * dayOfYear + 2) / 153 + 3
    else (5 * dayOfYear + 2) / 153 - 9) = month
  split <;> decide

theorem carried_eq_one {dayOfYear : Int} (low : 0 ≤ dayOfYear)
    (high : dayOfYear ≤ 365) :
    carried dayOfYear = 1 <-> 306 ≤ dayOfYear := by
  unfold carried
  split
  · split at * <;> omega
  · split at * <;> omega

/-! ## The first and the last day -/

theorem civil_year_le_iff (days : Int) :
    (civil days).1 ≤ 9999 <-> days ≤ 2932896 := by
  have low : 0 ≤ (days + 719468) % 146097 := by omega
  have high : (days + 719468) % 146097 < 146097 := by omega
  have whole :
      days =
        (days + 719468) / 146097 * 146097 + (days + 719468) %
        146097 - 719468 := by omega
  have years := yearOfEra_bounds low high
  have last := yearOfEra_last low high
  rw [civil_year]
  generalize (days + 719468) % 146097 = day at *
  generalize (days + 719468) / 146097 = era at *
  generalize yearOfEra day = year at *
  have carry := carried_bounds (day - (365 * year + year / 4 - year / 100))
  -- Only in the last year of an era does the carry decide.
  by_cases final : year = 399
  · have january : carried (day - (365 * year + year / 4 - year / 100)) = 1 <->
        306 ≤ day - (365 * year + year / 4 - year / 100) := by
      apply carried_eq_one <;> omega
    omega
  · omega

theorem le_civil_year_iff (days : Int) :
    -9999 ≤ (civil days).1 <-> -4371587 ≤ days := by
  have low : 0 ≤ (days + 719468) % 146097 := by omega
  have high : (days + 719468) % 146097 < 146097 := by omega
  have whole :
      days =
        (days + 719468) / 146097 * 146097 + (days + 719468) %
        146097 - 719468 := by omega
  have years := yearOfEra_bounds low high
  have first := yearOfEra_first low high
  rw [civil_year]
  generalize (days + 719468) % 146097 = day at *
  generalize (days + 719468) / 146097 = era at *
  generalize yearOfEra day = year at *
  have carry := carried_bounds (day - (365 * year + year / 4 - year / 100))
  by_cases initial : year = 0
  · have january : carried (day - (365 * year + year / 4 - year / 100)) = 1 <->
        306 ≤ day - (365 * year + year / 4 - year / 100) := by
      apply carried_eq_one <;> omega
    omega
  · omega

/-- The times whose year the certificate library has. -/
theorem year_bounds_iff (time : DateTime) :
    (-9999 ≤ time.year ∧ time.year ≤ 9999) <->
    minYmdSecs * nanosPerSec ≤ time.nanos ∧
      time.nanos < (maxYmdSecs + 1) * nanosPerSec := by
  rw [year, civil_year_le_iff, le_civil_year_iff, secs]
  simp only [secsPerDay, nanosPerSec, minYmdSecs, maxYmdSecs]
  omega

end DateTime

end Complyx
