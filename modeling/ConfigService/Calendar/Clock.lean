import ConfigService.Calendar.Date
/-!
# Clock — the time of day, and seconds since the epoch

A day has 86400 seconds and no leap second: where one is given it has been folded into the second before it by the
time a `Clock` is built.  Seconds are counted from the start of 1970.
-/
namespace ConfigService

/-- A time of day, to the second. -/
structure Clock where
  hour : Nat
  minute : Nat
  second : Nat
  isClock : hour < 24 ∧ minute < 60 ∧ second < 60
  deriving DecidableEq

namespace Clock

/-- The time of day with these parts, if there is one. -/
def ofParts? (hour minute second : Nat) : Option Clock :=
  if h : hour < 24 ∧ minute < 60 ∧ second < 60 then some ⟨hour, minute, second, h⟩ else none

/-- The seconds since midnight. -/
def seconds (c : Clock) : Nat := c.hour * 3600 + c.minute * 60 + c.second

theorem seconds_lt (c : Clock) : c.seconds < 86400 := by
  have := c.isClock
  simp only [seconds]
  omega

/-- The time of day some seconds after midnight; whole days are dropped. -/
def ofSeconds (n : Nat) : Clock :=
  ⟨n / 3600 % 24, n / 60 % 60, n % 60, by omega⟩

@[simp] theorem seconds_ofSeconds {n : Nat} (h : n < 86400) : (ofSeconds n).seconds = n := by
  simp only [seconds, ofSeconds]
  omega

@[simp] theorem ofSeconds_seconds (c : Clock) : ofSeconds c.seconds = c := by
  have h := c.isClock
  cases c with
  | mk hour minute second _ =>
    simp only [ofSeconds, seconds, Clock.mk.injEq]
    simp only at h
    omega

end Clock

/-- A date and a time of day, to the second. -/
structure Moment where
  date : Date
  clock : Clock
  deriving DecidableEq

namespace Moment

/-- The number of the first of January 1970. -/
def epochDay : Int := 719162

/-- The seconds since the epoch. -/
def seconds (m : Moment) : Int := (m.date.number - epochDay) * 86400 + m.clock.seconds

/-- The moment some seconds after the epoch. -/
def ofSeconds (n : Int) : Moment := ⟨Date.ofNumber (n / 86400 + epochDay), Clock.ofSeconds (n % 86400).toNat⟩

@[simp] theorem seconds_ofSeconds (n : Int) : (ofSeconds n).seconds = n := by
  simp only [seconds, ofSeconds, Date.number_ofNumber]
  rw [Clock.seconds_ofSeconds (by omega)]
  omega

end Moment

end ConfigService
