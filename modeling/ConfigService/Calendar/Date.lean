/-!
# Date — the proleptic Gregorian calendar

Years run over all integers and keep the leap rule of today in both directions.  Days are numbered from the first of
January of the year 1, which is day 0, so that a year, a month and a day come from a number and go back to it: the year
by the cycle of 400 years and its parts of 100, 4 and 1, the month by walking the lengths of the months.
-/
namespace ConfigService
namespace Calendar

/-- Every fourth year, but of the full centuries only every fourth. -/
def isLeap (year : Int) : Bool := year % 4 == 0 && (year % 100 != 0 || year % 400 == 0)

/-- The lengths of the twelve months. -/
def monthLengths (leap : Bool) : List Nat := [31, if leap then 29 else 28, 31, 30, 31, 30, 31, 31, 30, 31, 30, 31]

/-- The days of a month; none for a number that names no month. -/
def monthLength (year : Int) (month : Nat) : Nat :=
  if month = 0 then 0 else ((monthLengths (isLeap year))[month - 1]?).getD 0

/-- The days of months with these lengths. -/
def daysIn : List Nat → Nat
  | [] => 0
  | length :: rest => length + daysIn rest

/-- The days of the year before a month. -/
def daysBeforeMonth (year : Int) (month : Nat) : Nat := daysIn ((monthLengths (isLeap year)).take (month - 1))

/-- The days from the first of January of the year 1 to that of a year. -/
def daysBeforeYear (year : Int) : Int :=
  365 * (year - 1) + (year - 1) / 4 - (year - 1) / 100 + (year - 1) / 400

/-- The year that holds a day, and the day's place in it, counted from zero. -/
def yearOf (day : Int) : Int × Nat :=
  let cycle := day / 146097
  let inCycle := day % 146097
  let century := min (inCycle / 36524) 3
  let inCentury := inCycle - 36524 * century
  let four := inCentury / 1461
  let inFour := inCentury % 1461
  let one := min (inFour / 365) 3
  (400 * cycle + 100 * century + 4 * four + one + 1, (inFour - 365 * one).toNat)

/-- The month and the day of the month that a day of the year falls on, walking the months from `month` on. -/
def monthOf : (month : Nat) → List Nat → Nat → Nat × Nat
  | month, [], day => (month, day + 1)
  | month, length :: rest, day => if day < length then (month, day + 1) else monthOf (month + 1) rest (day - length)

/-! ## The year of a day -/

theorem isLeap_eq_true_iff (year : Int) : isLeap year = true ↔ year % 4 = 0 ∧ (year % 100 ≠ 0 ∨ year % 400 = 0) := by
  simp [isLeap]

theorem daysBeforeYear_succ (year : Int) :
    daysBeforeYear (year + 1) = daysBeforeYear year + if isLeap year then 366 else 365 := by
  simp only [daysBeforeYear]
  by_cases h : isLeap year = true
  · have := (isLeap_eq_true_iff year).1 h
    simp only [h, if_true]
    omega
  · have hn : ¬(year % 4 = 0 ∧ (year % 100 ≠ 0 ∨ year % 400 = 0)) := fun hc => h ((isLeap_eq_true_iff year).2 hc)
    rw [if_neg h]
    omega

/-- A day in its cycle of 400 years, century, run of four years, year and place in the year. -/
theorem exists_parts (day : Int) : ∃ a c q o d : Int,
    yearOf day = (400 * a + 100 * c + 4 * q + o + 1, d.toNat) ∧ day = 146097 * a + 36524 * c + 1461 * q + 365 * o + d ∧
      0 ≤ c ∧ c ≤ 3 ∧ 0 ≤ q ∧ q ≤ 24 ∧ 0 ≤ o ∧ o ≤ 3 ∧ 0 ≤ d ∧ d ≤ 365 ∧ (o < 3 → d < 365) ∧
      (c < 3 → q = 24 → d < 365) := by
  have h0 : 0 ≤ day % 146097 ∧ day % 146097 < 146097 := by omega
  have ha : day = 146097 * (day / 146097) + day % 146097 := by omega
  generalize hr : day % 146097 = r at h0 ha
  generalize hcy : day / 146097 = a at ha
  have hc : 0 ≤ min (r / 36524) 3 ∧ min (r / 36524) 3 ≤ 3 ∧ 0 ≤ r - 36524 * min (r / 36524) 3 ∧
      r - 36524 * min (r / 36524) 3 ≤ 36524 ∧ (min (r / 36524) 3 < 3 → r - 36524 * min (r / 36524) 3 < 36524) := by
    omega
  generalize hcd : min (r / 36524) 3 = c at hc
  generalize hsd : r - 36524 * c = s at hc
  have hq : 0 ≤ s / 1461 ∧ s / 1461 ≤ 24 ∧ s = 1461 * (s / 1461) + s % 1461 ∧ 0 ≤ s % 1461 ∧ s % 1461 < 1461 := by
    omega
  generalize hqd : s / 1461 = q at hq
  generalize hud : s % 1461 = u at hq
  have ho : 0 ≤ min (u / 365) 3 ∧ min (u / 365) 3 ≤ 3 ∧ 0 ≤ u - 365 * min (u / 365) 3 ∧
      u - 365 * min (u / 365) 3 ≤ 365 ∧ (min (u / 365) 3 < 3 → u - 365 * min (u / 365) 3 < 365) := by
    omega
  generalize hod : min (u / 365) 3 = o at ho
  refine ⟨a, c, q, o, u - 365 * o, ?_, by omega⟩
  simp only [yearOf, hr, hcy, hcd, hsd, hqd, hud, hod]

theorem daysBeforeYear_parts {a c q o : Int} (hc : 0 ≤ c ∧ c ≤ 3) (hq : 0 ≤ q ∧ q ≤ 24) (ho : 0 ≤ o ∧ o ≤ 3) :
    daysBeforeYear (400 * a + 100 * c + 4 * q + o + 1) = 146097 * a + 36524 * c + 1461 * q + 365 * o := by
  have h4 : (400 * a + 100 * c + 4 * q + o + 1 - 1) / 4 = 100 * a + 25 * c + q := by omega
  have h100 : (400 * a + 100 * c + 4 * q + o + 1 - 1) / 100 = 4 * a + c := by omega
  have h400 : (400 * a + 100 * c + 4 * q + o + 1 - 1) / 400 = a := by omega
  simp only [daysBeforeYear, h4, h100, h400]
  omega

theorem yearOf_spec (day : Int) : daysBeforeYear (yearOf day).1 + (yearOf day).2 = day := by
  obtain ⟨a, c, q, o, d, hy, hd, hb⟩ := exists_parts day
  rw [hy]
  show daysBeforeYear _ + (d.toNat : Int) = day
  rw [daysBeforeYear_parts (by omega) (by omega) (by omega)]
  omega

theorem yearOf_lt (day : Int) : (yearOf day).2 < if isLeap (yearOf day).1 then 366 else 365 := by
  obtain ⟨a, c, q, o, d, hy, hd, hb⟩ := exists_parts day
  rw [hy]
  show d.toNat < _
  by_cases h : isLeap (400 * a + 100 * c + 4 * q + o + 1) = true
  · rw [if_pos h]
    omega
  · rw [isLeap_eq_true_iff] at h
    rw [if_neg (by rwa [isLeap_eq_true_iff])]
    omega

/-! ## The month of a day -/

theorem monthOf_spec : ∀ (lengths : List Nat) (month day : Nat), day < daysIn lengths →
    month ≤ (monthOf month lengths day).1 ∧ (monthOf month lengths day).1 < month + lengths.length ∧
      1 ≤ (monthOf month lengths day).2 ∧
      (monthOf month lengths day).2 ≤ (lengths[(monthOf month lengths day).1 - month]?).getD 0 ∧
      daysIn (lengths.take ((monthOf month lengths day).1 - month)) + (monthOf month lengths day).2 = day + 1
  | [], month, day, h => absurd h (Nat.not_lt_zero day)
  | length :: rest, month, day, h => by
    by_cases hd : day < length
    · rw [monthOf, if_pos hd]
      simp only [Nat.sub_self, List.getElem?_cons_zero, Option.getD_some, List.take_zero, daysIn,
        List.length_cons]
      omega
    · simp only [daysIn] at h
      obtain ⟨h1, h2, h3, h4, h5⟩ := monthOf_spec rest (month + 1) (day - length) (by omega)
      have hm : monthOf month (length :: rest) day = monthOf (month + 1) rest (day - length) := by
        rw [monthOf, if_neg hd]
      rw [hm]
      generalize monthOf (month + 1) rest (day - length) = r at h1 h2 h3 h4 h5
      have hs : r.1 - month = (r.1 - (month + 1)) + 1 := by omega
      rw [hs]
      simp only [List.getElem?_cons_succ, List.take_succ_cons, daysIn, List.length_cons]
      omega

theorem daysIn_monthLengths (leap : Bool) : daysIn (monthLengths leap) = if leap then 366 else 365 := by
  cases leap <;> rfl

theorem length_monthLengths (leap : Bool) : (monthLengths leap).length = 12 := by
  cases leap <;> rfl

/-! ## Dates -/

/-- There is such a day in the calendar. -/
def IsDate (year : Int) (month day : Nat) : Prop := 1 ≤ day ∧ day ≤ monthLength year month

instance (year : Int) (month day : Nat) : Decidable (IsDate year month day) :=
  inferInstanceAs (Decidable (_ ∧ _))

end Calendar

/-- A day of the calendar. -/
structure Date where
  year : Int
  month : Nat
  day : Nat
  isDate : Calendar.IsDate year month day
  deriving DecidableEq

namespace Date

open Calendar

/-- The date with these parts, if there is one. -/
def ofParts? (year : Int) (month day : Nat) : Option Date :=
  if h : IsDate year month day then some ⟨year, month, day, h⟩ else none

/-- The number of a date: day 0 is the first of January of the year 1. -/
def number (d : Date) : Int := daysBeforeYear d.year + daysBeforeMonth d.year d.month + (d.day - 1 : Nat)

theorem yearOf_lt_daysIn (n : Int) : (yearOf n).2 < daysIn (monthLengths (isLeap (yearOf n).1)) := by
  rw [daysIn_monthLengths]
  exact yearOf_lt n

/-- The date with a number. -/
def ofNumber (n : Int) : Date :=
  let y := yearOf n
  let md := monthOf 1 (monthLengths (isLeap y.1)) y.2
  ⟨y.1, md.1, md.2, by
    obtain ⟨h1, -, h3, h4, -⟩ := monthOf_spec _ 1 _ (yearOf_lt_daysIn n)
    refine ⟨h3, ?_⟩
    have h0 : ¬(monthOf 1 (monthLengths (isLeap (yearOf n).1)) (yearOf n).2).1 = 0 := by omega
    show _ ≤ monthLength _ _
    rw [monthLength, if_neg h0]
    exact h4⟩

@[simp] theorem number_ofNumber (n : Int) : (ofNumber n).number = n := by
  obtain ⟨-, -, h3, -, h5⟩ := monthOf_spec _ 1 _ (yearOf_lt_daysIn n)
  have hy := yearOf_spec n
  simp only [number, ofNumber, daysBeforeMonth]
  omega

end Date

end ConfigService
