import ConfigService.Calendar.Instant
import ConfigService.Distinct
/-!
# Timestamp — a moment with a four-digit year

Every timestamp is a moment in UTC in the years 1 to 9999, so that its text has a fixed width.  Whatever it is built
from — parts, an instant in UTC, a wall clock with an offset — the result is a timestamp or the reason why there is none,
and a fraction of a second has no part in it.
-/
namespace ConfigService

/-- What ends the reading of a timestamp's text. -/
inductive Timestamp.ReadFault
  /-- A number or a mark is missing at the end. -/
  | tooShort
  /-- A character that cannot stand there. -/
  | unexpected
  /-- A number too large for its place, or parts that make no date. -/
  | impossible
  /-- More text after the end. -/
  | trailing
  deriving DecidableEq, Repr

inductive Timestamp.Error
  | outOfRange (year : Int)
  | noSuchMoment
  | unreadable (fault : Timestamp.ReadFault)
  deriving DecidableEq, Repr

/-- A moment in UTC in the years 1 to 9999. -/
structure Timestamp where
  moment : Moment
  inRange : 1 ≤ moment.date.year ∧ moment.date.year ≤ 9999
  deriving DecidableEq

namespace Timestamp

namespace ReadFault

def message : ReadFault → String
  | tooShort => "premature end of input"
  | unexpected => "input contains invalid characters"
  | impossible => "input is out of range"
  | trailing => "trailing input"

end ReadFault

namespace Error

def message : Error → String
  | outOfRange year => "year " ++ toString year ++ " is outside of the supported range 1..=9999"
  | noSuchMoment => "invalid calendar date or time of day"
  | unreadable fault => "could not parse timestamp: " ++ fault.message

end Error

/-- A timestamp is a moment whose year has four digits. -/
def ofMoment (m : Moment) : Except Error Timestamp :=
  if h : 1 ≤ m.date.year ∧ m.date.year ≤ 9999 then .ok ⟨m, h⟩ else .error (.outOfRange m.date.year)

/-- The years a calendar date may have before it is asked whether a timestamp can hold it. -/
def calendarHolds (year : Int) : Bool := -262143 ≤ year && year ≤ 262142

/-- The date with these parts, in a year that the calendar holds. -/
def heldDate? (year : Int) (month day : Nat) : Option Date :=
  if calendarHolds year then Date.ofParts? year month day else none

/-- The moment with these parts, in a year that the calendar holds. -/
def heldMoment? (year : Int) (month day hour minute second : Nat) : Option Moment :=
  match heldDate? year month day, Clock.ofParts? hour minute second with
  | some date, some clock => some ⟨date, clock⟩
  | _, _ => none

def ofParts (year : Int) (month day hour minute second : Nat) : Except Error Timestamp :=
  match heldMoment? year month day hour minute second with
  | some m => ofMoment m
  | none => .error .noSuchMoment

/-- The timestamp of an instant in UTC: its fraction of a second is dropped, also that of a leap second. -/
def ofInstant (i : Instant) : Except Error Timestamp := ofMoment i.moment

/-- The timestamp of what a wall clock shows that runs `offset` seconds ahead of UTC. -/
def ofLocal (i : Instant) (offset : Int) : Except Error Timestamp := ofInstant (i.after (-offset))

/-- The instant that a timestamp stands for. -/
def instant (t : Timestamp) : Instant := .ofMoment t.moment

def parts (t : Timestamp) : List Nat :=
  [t.moment.date.year.toNat, t.moment.date.month, t.moment.date.day,
    t.moment.clock.hour, t.moment.clock.minute, t.moment.clock.second]

/-- Timestamps are ordered by their parts, the year first. -/
instance : LT Timestamp := ⟨fun a b => a.parts < b.parts⟩

instance (a b : Timestamp) : Decidable (a < b) := inferInstanceAs (Decidable (a.parts < b.parts))

/-- The timestamps of a list in ascending order, each once. -/
def sortDistinct (ts : List Timestamp) : List Timestamp := ascending ts

end Timestamp

end ConfigService
