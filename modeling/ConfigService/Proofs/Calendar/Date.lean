import ConfigService.Calendar.Next
/-!
# Date — days and seconds are counted without a gap

The number of a day is one more than that of the day before (`Date.number_next`), a later day has a greater number
(`Date.number_lt`), and so no two days share one.  The same goes for seconds.  That a day is found from its number is
`Date.number_ofNumber`; here is the other half of it, that there is no other day to be found.
-/
namespace ConfigService

namespace Calendar

theorem daysIn_take_succ : ∀ (lengths : List Nat) (n : Nat),
    daysIn (lengths.take (n + 1)) = daysIn (lengths.take n) + (lengths[n]?).getD 0
  | [], n => by simp [daysIn]
  | length :: rest, 0 => by simp [daysIn]
  | length :: rest, n + 1 => by
    have ih := daysIn_take_succ rest n
    simp only [List.take_succ_cons, daysIn, List.getElem?_cons_succ] at ih ⊢
    omega

theorem daysBeforeMonth_succ (year : Int) {month : Nat} (h : 1 ≤ month) :
    daysBeforeMonth year (month + 1) = daysBeforeMonth year month + monthLength year month := by
  obtain ⟨n, rfl⟩ := Nat.exists_eq_succ_of_ne_zero (Nat.ne_of_gt h)
  unfold daysBeforeMonth monthLength
  rw [if_neg (Nat.succ_ne_zero n)]
  exact daysIn_take_succ _ n

theorem daysBeforeMonth_le (year : Int) {month later : Nat} (h : month ≤ later) (h1 : 1 ≤ month) :
    daysBeforeMonth year month ≤ daysBeforeMonth year later := by
  induction h with
  | refl => exact Nat.le_refl _
  | @step m hm ih =>
    rw [Nat.succ_eq_add_one, daysBeforeMonth_succ year (Nat.le_trans h1 hm)]
    exact Nat.le_add_right_of_le ih

/-- The days before the thirteenth month are those of the year. -/
theorem daysBeforeMonth_thirteen (year : Int) : daysBeforeMonth year 13 = if isLeap year then 366 else 365 := by
  have hall : (monthLengths (isLeap year)).take 12 = monthLengths (isLeap year) :=
    List.take_of_length_le (Nat.le_of_eq (length_monthLengths _))
  unfold daysBeforeMonth
  rw [show 13 - 1 = 12 from rfl, hall, daysIn_monthLengths]

theorem daysBeforeYear_le {year later : Int} (h : year ≤ later) : daysBeforeYear year ≤ daysBeforeYear later := by
  unfold daysBeforeYear
  omega

theorem monthLength_le (year : Int) (month : Nat) : monthLength year month ≤ 31 := by
  have hall : ∀ leap, ∀ d ∈ monthLengths leap, d ≤ 31 := by decide
  unfold monthLength
  split
  · exact Nat.zero_le 31
  · cases h : (monthLengths (isLeap year))[month - 1]? with
    | none => exact Nat.zero_le 31
    | some d => exact hall _ d (List.mem_of_getElem? h)

/-- Only the months from 1 to 12 have days. -/
theorem month_of_isDate {year : Int} {month day : Nat} (h : IsDate year month day) : 1 ≤ month ∧ month ≤ 12 := by
  have hpos : 0 < monthLength year month := Nat.lt_of_lt_of_le h.1 h.2
  unfold monthLength at hpos
  split at hpos
  · exact absurd hpos (Nat.lt_irrefl 0)
  · next h0 =>
    refine ⟨Nat.pos_of_ne_zero h0, Nat.not_lt.1 fun h12 => ?_⟩
    rw [List.getElem?_eq_none (by rw [length_monthLengths]; omega)] at hpos
    exact absurd hpos (Nat.lt_irrefl 0)

end Calendar

open Calendar

namespace Date

/-- A day comes before the first of the month after it. -/
theorem place_lt (d : Date) : daysBeforeMonth d.year d.month + (d.day - 1) < daysBeforeMonth d.year (d.month + 1) := by
  have hd := d.isDate
  have hm := month_of_isDate hd
  have := daysBeforeMonth_succ d.year hm.1
  unfold IsDate at hd
  omega

theorem place_lt_year (d : Date) :
    daysBeforeMonth d.year d.month + (d.day - 1) < if isLeap d.year then 366 else 365 := by
  have hm := month_of_isDate d.isDate
  have hlt := d.place_lt
  have hle := daysBeforeMonth_le d.year (show d.month + 1 ≤ 13 by omega) (by omega)
  rw [daysBeforeMonth_thirteen] at hle
  omega

/-- **The day after has the next number.** -/
theorem number_next (d : Date) : d.next.number = d.number + 1 := by
  have hd := d.isDate
  have hm := month_of_isDate hd
  have hsucc := daysBeforeMonth_succ d.year hm.1
  unfold IsDate at hd
  unfold next
  split
  · simp only [number]
    omega
  · split
    · simp only [number]
      omega
    · have h12 : d.month = 12 := by omega
      have hyear := daysBeforeYear_succ d.year
      have hlast := daysBeforeMonth_thirteen d.year
      have hfirst : daysBeforeMonth (d.year + 1) 1 = 0 := rfl
      rw [h12] at hsucc
      simp only [number, h12] at hd ⊢
      rw [hyear, hfirst]
      split at hlast <;> simp_all <;> omega

/-- **A later day has a greater number.** -/
theorem number_lt {a b : Date}
    (h : a.year < b.year ∨ a.year = b.year ∧ (a.month < b.month ∨ a.month = b.month ∧ a.day < b.day)) :
    a.number < b.number := by
  have ha := a.isDate
  have hm := month_of_isDate ha
  unfold IsDate at ha
  unfold number
  rcases h with h | ⟨hy, h | ⟨hmonth, hday⟩⟩
  · have hyear := daysBeforeYear_succ a.year
    have hle := daysBeforeYear_le (show a.year + 1 ≤ b.year from h)
    have hplace := a.place_lt_year
    split at hyear <;> simp_all <;> omega
  · have hplace := a.place_lt
    have hle := daysBeforeMonth_le a.year (show a.month + 1 ≤ b.month from h) (by omega)
    rw [← hy]
    omega
  · rw [← hy, ← hmonth]
    omega

/-- **No two days have one number.** -/
theorem number_inj {a b : Date} (h : a.number = b.number) : a = b := by
  have hab := mt (number_lt (a := a) (b := b)) (by omega)
  have hba := mt (number_lt (a := b) (b := a)) (by omega)
  obtain ⟨year, month, day, _⟩ := a
  obtain ⟨year', month', day', _⟩ := b
  simp only at hab hba
  have hyear : year = year' := by omega
  have hmonth : month = month' := by omega
  have hday : day = day' := by omega
  simp only [hyear, hmonth, hday]

theorem number_in_year (d : Date) : daysBeforeYear d.year ≤ d.number ∧ d.number < daysBeforeYear (d.year + 1) := by
  have hplace := d.place_lt_year
  have hyear := daysBeforeYear_succ d.year
  unfold number
  split at hyear <;> simp_all <;> omega

@[simp] theorem ofNumber_number (d : Date) : ofNumber d.number = d := number_inj (number_ofNumber d.number)

end Date

/-! ## Seconds -/

theorem Clock.seconds_inj {a b : Clock} (h : a.seconds = b.seconds) : a = b := by
  rw [← Clock.ofSeconds_seconds a, h, Clock.ofSeconds_seconds]

theorem Clock.seconds_next? (c : Clock) :
    (∀ n, c.next? = some n → n.seconds = c.seconds + 1) ∧ (c.next? = none → c.seconds + 1 = 86400) := by
  have hc := c.isClock
  unfold next? seconds
  by_cases hs : c.second < 59
  · simp [hs]
    omega
  by_cases hm : c.minute < 59
  · simp [hs, hm]
    omega
  by_cases hh : c.hour < 23
  · simp [hs, hm, hh]
    omega
  · simp [hs, hm, hh]
    omega

namespace Moment

/-- **The second after is counted next.** -/
theorem seconds_next (m : Moment) : m.next.seconds = m.seconds + 1 := by
  obtain ⟨hsome, hnone⟩ := m.clock.seconds_next?
  unfold next seconds
  cases h : m.clock.next? with
  | some c =>
    have := hsome c h
    simp only
    omega
  | none =>
    have hmidnight : Clock.midnight.seconds = 0 := rfl
    have := hnone h
    simp only [Date.number_next, hmidnight]
    omega

theorem seconds_epoch : epoch.seconds = 0 := by decide

theorem seconds_inj {a b : Moment} (h : a.seconds = b.seconds) : a = b := by
  have ha := a.clock.seconds_lt
  have hb := b.clock.seconds_lt
  unfold seconds at h
  have hclock : a.clock = b.clock := Clock.seconds_inj (by omega)
  have hdate : a.date = b.date := Date.number_inj (by omega)
  cases a
  cases b
  simp_all

@[simp] theorem ofSeconds_seconds (m : Moment) : ofSeconds m.seconds = m := seconds_inj (seconds_ofSeconds m.seconds)

/-- **Less than a day on, the date is the same or the next one to it**, and the clock shows what is left. -/
theorem near_ofSeconds (m : Moment) {k : Int} (h : -86400 < k ∧ k < 86400) :
    ∃ days, m.date.Near days (ofSeconds (m.seconds + k)).date ∧
      ((ofSeconds (m.seconds + k)).clock.seconds : Int) = m.clock.seconds + k - 86400 * days := by
  have hsum := seconds_ofSeconds (m.seconds + k)
  generalize ofSeconds (m.seconds + k) = u at hsum ⊢
  have hm := m.clock.seconds_lt
  have hu := u.clock.seconds_lt
  unfold seconds at hsum
  rcases (by omega : u.date.number = m.date.number ∨ u.date.number = m.date.number + 1 ∨
    u.date.number + 1 = m.date.number) with hn | hn | hn
  · refine ⟨0, ?_, by omega⟩
    rw [Date.number_inj hn]
    exact .same
  · refine ⟨1, ?_, by omega⟩
    rw [Date.number_inj (hn.trans m.date.number_next.symm)]
    exact .after
  · exact ⟨-1, .before (Date.number_inj (u.date.number_next.trans hn)), by omega⟩

end Moment

end ConfigService
