import Mathlib.Data.Int.Notation
import Mathlib.Order.Basic

namespace Complyx

/-!
# Faults and points in time

A function of the server ends with a value, with an error of its own error
type, or with a panic.  The release profile aborts the process on a panic, so
a panic is kept apart from every error a caller could handle.

Points in time follow chrono's UTC date-times: nanoseconds since the epoch
within the range its dates can represent.  Constructing a duration, adding it
and handing a year to the certificate library all panic outside their own
ranges.
-/

/-- How a function fails: by returning an error or by panicking. -/
inductive Fault (ε : Type) where
  | error (reason : ε)
  | panic (message : String)
  deriving DecidableEq, Repr

def Fault.map {ε ζ : Type} (change : ε -> ζ) : Fault ε -> Fault ζ
  | .error reason => .error (change reason)
  | .panic message => .panic message

theorem isOk_iff {ε α : Type} {result : Except ε α} :
    result.isOk = true <-> Exists fun value => result = .ok value := by
  cases result with
  | ok value => exact ⟨fun _ => ⟨value, rfl⟩, fun _ => rfl⟩
  | error failure =>
      constructor
      · intro impossible
        cases impossible
      · rintro ⟨value, impossible⟩
        cases impossible

/-- A sequence that succeeds has two parts that succeed. -/
theorem bind_eq_ok {ε α β : Type} {first : Except ε α} {next : α -> Except ε β}
    {value : β} :
    (first >>= next) = .ok value <-> Exists fun middle => first = .ok middle ∧
      next middle = .ok value := by
  cases first with
  | ok middle =>
      constructor
      · intro rest
        exact ⟨middle, rfl, rest⟩
      · rintro ⟨_, same, rest⟩
        rw [Except.ok.inj same]
        exact rest
  | error failure =>
      constructor
      · intro impossible
        cases impossible
      · rintro ⟨middle, impossible, _⟩
        cases impossible

/-- A TIMESTAMP column, in nanoseconds since the epoch. -/
abbrev Timestamp := Int

def nanosPerSec : Int := 1000000000

def secsPerDay : Int := 86400

/-- January 1 of the year -262143, chrono's earliest second. -/
def minUtcSecs : Int := -8334601228800

/-- The last second of the year 262142, chrono's latest. -/
def maxUtcSecs : Int := 8210266876799

structure DateTime where
  nanos : Int
  inRange : minUtcSecs * nanosPerSec ≤ nanos ∧
    nanos < (maxUtcSecs + 1) * nanosPerSec

namespace DateTime

/-- `DateTime::from_timestamp(secs, 0)`. -/
def fromTimestamp (secs : Int) : Option DateTime :=
  if bounds : minUtcSecs ≤ secs ∧ secs ≤ maxUtcSecs then
    some ⟨secs * nanosPerSec, by simp only [nanosPerSec]; omega⟩
  else none

theorem fromTimestamp_nanos {secs : Int} {time : DateTime}
    (read : fromTimestamp secs = some time) :
    time.nanos = secs * nanosPerSec := by
  unfold fromTimestamp at read
  split at read
  · rw [← Option.some.inj read]
  · cases read

/-- `naive_utc`. -/
def naiveUtc (time : DateTime) : Timestamp := time.nanos

/-- `Duration::seconds`, which panics beyond the millisecond range of 64 bits. -/
def durationSeconds {ε : Type} (secs : Int) : Except (Fault ε) Int :=
  if -9223372036854775 ≤ secs ∧
    secs ≤ 9223372036854775 then .ok (secs * nanosPerSec)
  else .error (.panic "TimeDelta::seconds out of bounds")

/-- `Duration::days`. -/
def durationDays {ε : Type} (days : Int) : Except (Fault ε) Int :=
  if -9223372036854775 ≤ days * secsPerDay ∧
    days * secsPerDay ≤ 9223372036854775 then
    .ok (days * secsPerDay * nanosPerSec)
  else .error (.panic "TimeDelta::days out of bounds")

/-- `Duration::hours`. -/
def durationHours {ε : Type} (hours : Int) : Except (Fault ε) Int :=
  if -9223372036854775 ≤ hours * 3600 ∧
    hours * 3600 ≤ 9223372036854775 then .ok (hours * 3600 * nanosPerSec)
  else .error (.panic "TimeDelta::hours out of bounds")

/-- Addition of a duration, which panics when the sum is no date-time. -/
def add {ε : Type} (time : DateTime) (duration : Int) :
    Except (Fault ε) DateTime :=
  if bounds : minUtcSecs * nanosPerSec ≤ time.nanos + duration ∧
      time.nanos + duration < (maxUtcSecs + 1) * nanosPerSec then
    .ok ⟨time.nanos + duration, bounds⟩
  else .error (.panic "`DateTime + TimeDelta` overflowed")

theorem add_nanos {ε : Type} {time sum : DateTime} {duration : Int}
    (added : time.add duration = (.ok sum : Except (Fault ε) DateTime)) :
    sum.nanos = time.nanos + duration := by
  unfold add at added
  split at added
  · rw [← Except.ok.inj added]
  · cases added

theorem add_isOk {ε : Type} {time : DateTime} {duration : Int} :
    (Exists fun sum =>
      time.add duration = (.ok sum : Except (Fault ε) DateTime)) <->
      minUtcSecs * nanosPerSec ≤ time.nanos + duration ∧
        time.nanos + duration < (maxUtcSecs + 1) * nanosPerSec := by
  unfold add
  split
  · next within => exact iff_of_true ⟨_, rfl⟩ within
  · next outside =>
      exact iff_of_false (fun ⟨sum, impossible⟩ => nomatch impossible) outside

theorem durationDays_ok {ε : Type} {days duration : Int}
    (built : durationDays days = (.ok duration : Except (Fault ε) Int)) :
    duration = days * secsPerDay * nanosPerSec := by
  unfold durationDays at built
  split at built
  · exact (Except.ok.inj built).symm
  · cases built

theorem durationDays_isOk {ε : Type} {days : Int} :
    (Exists fun duration =>
      durationDays days = (.ok duration : Except (Fault ε) Int)) <->
      -9223372036854775 ≤ days * secsPerDay ∧
        days * secsPerDay ≤ 9223372036854775 := by
  unfold durationDays
  split
  · next within => exact iff_of_true ⟨_, rfl⟩ within
  · next outside =>
      exact iff_of_false
        (fun ⟨duration, impossible⟩ => nomatch impossible) outside

theorem durationHours_ok {ε : Type} {hours duration : Int}
    (built : durationHours hours = (.ok duration : Except (Fault ε) Int)) :
    duration = hours * 3600 * nanosPerSec := by
  unfold durationHours at built
  split at built
  · exact (Except.ok.inj built).symm
  · cases built

theorem durationHours_isOk {ε : Type} {hours : Int} :
    (Exists fun duration =>
      durationHours hours = (.ok duration : Except (Fault ε) Int)) <->
      -9223372036854775 ≤ hours * 3600 ∧ hours * 3600 ≤ 9223372036854775 := by
  unfold durationHours
  split
  · next within => exact iff_of_true ⟨_, rfl⟩ within
  · next outside =>
      exact iff_of_false
        (fun ⟨duration, impossible⟩ => nomatch impossible) outside

theorem durationDays_error {ε : Type} {days : Int} {failure : Fault ε}
    (failed : durationDays days = .error failure) :
    Exists fun message => failure = .panic message := by
  unfold durationDays at failed
  split at failed
  · cases failed
  · exact ⟨_, (Except.error.inj failed).symm⟩

theorem add_error {ε : Type} {time : DateTime} {duration : Int}
    {failure : Fault ε} (failed : time.add duration = .error failure) :
    Exists fun message => failure = .panic message := by
  unfold add at failed
  split at failed
  · cases failed
  · exact ⟨_, (Except.error.inj failed).symm⟩

/-- Subtraction of a duration, with the same range. -/
def sub {ε : Type} (time : DateTime) (duration : Int) :
    Except (Fault ε) DateTime :=
  if bounds : minUtcSecs * nanosPerSec ≤ time.nanos - duration ∧
      time.nanos - duration < (maxUtcSecs + 1) * nanosPerSec then
    .ok ⟨time.nanos - duration, bounds⟩
  else .error (.panic "`DateTime - TimeDelta` overflowed")

theorem sub_nanos {ε : Type} {time difference : DateTime} {duration : Int}
    (subtracted : time.sub duration =
      (.ok difference : Except (Fault ε) DateTime)) :
    difference.nanos = time.nanos - duration := by
  unfold sub at subtracted
  split at subtracted
  · rw [← Except.ok.inj subtracted]
  · cases subtracted

theorem sub_isOk {ε : Type} {time : DateTime} {duration : Int} :
    (Exists fun difference =>
      time.sub duration = (.ok difference : Except (Fault ε) DateTime)) <->
      minUtcSecs * nanosPerSec ≤ time.nanos - duration ∧
        time.nanos - duration < (maxUtcSecs + 1) * nanosPerSec := by
  unfold sub
  split
  · next within => exact iff_of_true ⟨_, rfl⟩ within
  · next outside =>
      exact iff_of_false
        (fun ⟨difference, impossible⟩ => nomatch impossible) outside

theorem durationSeconds_ok {ε : Type} {secs duration : Int}
    (built : durationSeconds secs = (.ok duration : Except (Fault ε) Int)) :
    duration = secs * nanosPerSec := by
  unfold durationSeconds at built
  split at built
  · exact (Except.ok.inj built).symm
  · cases built

/-! ## Calendar fields -/

/-- Whole seconds since the epoch. -/
def secs (time : DateTime) : Int := time.nanos / nanosPerSec

/-- Year, month and day of a day counted from the epoch.  The computation
counts the years of a 400-year era from March on, so that the leap day comes
last. -/
def civil (days : Int) : Int × Int × Int :=
  let shifted := days + 719468
  let era := shifted / 146097
  let dayOfEra := shifted % 146097
  let yearOfEra :=
    (dayOfEra - dayOfEra / 1460 + dayOfEra / 36524 - dayOfEra / 146096) / 365
  let dayOfYear := dayOfEra - (365 * yearOfEra + yearOfEra / 4 - yearOfEra / 100)
  let march := (5 * dayOfYear + 2) / 153
  let day := dayOfYear - (153 * march + 2) / 5 + 1
  let month := if march < 10 then march + 3 else march - 9
  (yearOfEra + era * 400 + (if month ≤ 2 then 1 else 0), month, day)

def year (time : DateTime) : Int := (civil (time.secs / secsPerDay)).1

def month (time : DateTime) : Int := (civil (time.secs / secsPerDay)).2.1

def day (time : DateTime) : Int := (civil (time.secs / secsPerDay)).2.2

private def padded (width : Nat) (number : Int) : String :=
  let digits := (toString number.natAbs).toList
  String.ofList (List.replicate (width - digits.length) '0' ++ digits)

/-- The year as `%Y` writes it, with a sign outside the four-digit years. -/
private def yearText (year : Int) : String :=
  if 0 ≤ year ∧ year ≤ 9999 then padded 4 year
  else (if year < 0 then "-" else "+") ++ padded 4 year

/-- `format("%Y-%m-%dTH:%M:%SZ")`.  The pattern has a literal `H` where the
hour would stand. -/
def format (time : DateTime) : String :=
  let ofDay := time.secs % secsPerDay
  yearText time.year ++ "-" ++ padded 2 time.month ++ "-" ++ padded 2
    time.day ++ "TH:" ++
    padded 2 (ofDay % 3600 / 60) ++ ":" ++ padded 2 (ofDay % 60) ++ "Z"

/-- `format("%Y-%m-%d %H:%M:%S UTC")`. -/
def formatUtc (time : DateTime) : String :=
  let ofDay := time.secs % secsPerDay
  yearText time.year ++ "-" ++ padded 2 time.month ++ "-" ++ padded 2
    time.day ++ " " ++
    padded 2 (ofDay / 3600) ++ ":" ++ padded 2
      (ofDay % 3600 / 60) ++ ":" ++ padded 2 (ofDay % 60) ++ " UTC"

end DateTime

/-- January 1, 2026. -/
def newYear : DateTime := ⟨1767225600000000000, by decide⟩

end Complyx
