import PingPost.Time.Civil

/-!
Instants of universal time, with nanoseconds. During a leap second the seconds stand still and
the nanoseconds count past one thousand million.
-/

namespace PingPost

/-- An instant: seconds since the start of 1970, and nanoseconds. -/
structure Instant where
  seconds : Int
  nanos : Nat
  deriving DecidableEq, Repr, Inhabited

namespace Instant

/-- Nanoseconds of a second. -/
def nanosPerSecond : Nat := 1000000000

/-- Seconds of a day. -/
def secondsPerDay : Int := 86400

/-- Day number. -/
def days (t : Instant) : Int := t.seconds.fdiv secondsPerDay

/-- Second of the day. -/
def secondOfDay (t : Instant) : Nat := (t.seconds.fmod secondsPerDay).toNat

/-- Calendar date. -/
def date (t : Instant) : CivilDate := CivilDate.ofDays t.days

/-- Hour of the day. -/
def hour (t : Instant) : Nat := t.secondOfDay / 3600

/-- Minute of the hour. -/
def minute (t : Instant) : Nat := t.secondOfDay / 60 % 60

/-- Second of the minute; 60 during a leap second. -/
def second (t : Instant) : Nat := t.secondOfDay % 60 + t.nanos / nanosPerSecond

/-- Nanoseconds within the second. -/
def subsecond (t : Instant) : Nat := t.nanos % nanosPerSecond

/-- Whether the instant lies in the years of the calendar. -/
def isRepresentable (t : Instant) : Bool :=
  CivilDate.toDays ⟨CivilDate.firstYear, 1, 1⟩ ≤ t.days &&
    t.days ≤ CivilDate.toDays ⟨CivilDate.lastYear, 12, 31⟩

/-- Midnight at the start of a date. -/
def ofDate (d : CivilDate) : Instant := ⟨d.toDays * secondsPerDay, 0⟩

/-- The instant of a count of seconds, when the calendar holds it. -/
def ofSeconds? (seconds : Int) : Option Instant :=
  let t : Instant := ⟨seconds, 0⟩
  if t.isRepresentable then some t else none

/-- Nanoseconds from `s` to `t`. A leap second between them counts when it is over. -/
def nanosSince (t s : Instant) : Int :=
  let a := t.secondOfDay
  let b := s.secondOfDay
  let leap : Int :=
    if a > b ∧ nanosPerSecond ≤ s.nanos then 1
    else if a < b ∧ nanosPerSecond ≤ t.nanos then -1
    else 0
  (t.seconds - s.seconds + leap) * nanosPerSecond + (t.nanos - s.nanos)

/-- Whole minutes from `s` to `t`, toward zero. -/
def minutesSince (t s : Instant) : Int := (nanosSince t s).tdiv (60 * nanosPerSecond)

/-- The instant some milliseconds later. A leap second that is left behind counts as a second. -/
def addMillis (t : Instant) (ms : Nat) : Instant :=
  if t.nanos < nanosPerSecond then
    let nanos := t.nanos + ms % 1000 * 1000000
    ⟨t.seconds + ms / 1000 + nanos / nanosPerSecond, nanos % nanosPerSecond⟩
  else if t.nanos + ms * 1000000 < 2 * nanosPerSecond then ⟨t.seconds, t.nanos + ms * 1000000⟩
  else
    let nanos := t.nanos - nanosPerSecond + ms % 1000 * 1000000
    ⟨t.seconds + ms / 1000 + nanos / nanosPerSecond, nanos % nanosPerSecond⟩

/-- Order in time. -/
def le (s t : Instant) : Bool :=
  s.seconds < t.seconds || (s.seconds == t.seconds && s.nanos ≤ t.nanos)

end Instant

end PingPost
