import ConfigService.Calendar.Instant
/-!
# Next — the day after a day, the second after a second

The number of a day and the count of a second come from divisions.  Here the calendar is walked instead, as one turns its
pages: a second ends a minute or it does not, a day ends a month or it does not.  Counting is right if it goes up by one
from each page to the next (`Moment.seconds_next`).
-/
namespace ConfigService

namespace Calendar

theorem monthLength_pos (year : Int) {month : Nat} (h : 1 ≤ month ∧ month ≤ 12) : 1 ≤ monthLength year month := by
  have hall : ∀ leap, ∀ m < 12, 1 ≤ ((monthLengths leap)[m]?).getD 0 := by decide
  unfold monthLength
  rw [if_neg (by omega)]
  exact hall _ _ (by omega)

theorem isDate_first (year : Int) {month : Nat} (h : 1 ≤ month ∧ month ≤ 12) : IsDate year month 1 :=
  ⟨Nat.le_refl 1, monthLength_pos year h⟩

end Calendar

open Calendar

/-- The day after a day. -/
def Date.next (d : Date) : Date :=
  if h : d.day < monthLength d.year d.month then ⟨d.year, d.month, d.day + 1, Nat.le_add_left 1 d.day, h⟩
  else if h : d.month < 12 then ⟨d.year, d.month + 1, 1, isDate_first d.year ⟨Nat.le_add_left 1 d.month, h⟩⟩
  else ⟨d.year + 1, 1, 1, isDate_first (d.year + 1) (by decide)⟩

/-- A day and its neighbours: `days` is how many days on the other one is. -/
inductive Date.Near (d : Date) : (days : Int) → Date → Prop
  | same : Near d 0 d
  | after : Near d 1 d.next
  | before {e : Date} (h : e.next = d) : Near d (-1) e

def Clock.midnight : Clock := ⟨0, 0, 0, by decide⟩

/-- The second after a second, if it is on the same day. -/
def Clock.next? (c : Clock) : Option Clock :=
  if h : c.second < 59 then some ⟨c.hour, c.minute, c.second + 1, by have := c.isClock; omega⟩
  else if h : c.minute < 59 then some ⟨c.hour, c.minute + 1, 0, by have := c.isClock; omega⟩
  else if h : c.hour < 23 then some ⟨c.hour + 1, 0, 0, by omega⟩
  else none

def Moment.next (m : Moment) : Moment :=
  match m.clock.next? with
  | some c => ⟨m.date, c⟩
  | none => ⟨m.date.next, .midnight⟩

/-- The start of 1970. -/
def Moment.epoch : Moment := ⟨⟨1970, 1, 1, by decide⟩, .midnight⟩

end ConfigService
