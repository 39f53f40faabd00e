import ConfigService.Json.Printer
import ConfigService.Proofs.Calendar.Date
import ConfigService.Timestamp.Text
/-!
# Text — a written timestamp is read back

Each part of a timestamp is written with as many digits as it may have, so the reader, which takes as many as it may, takes
just them (`number_padded`).  Its ranges and the calendar hold for what was a timestamp before (`read_text`).
-/
namespace ConfigService

/-! ## Padded numbers -/

theorem isDigit_digit (n : Nat) : (digit n).isDigit = true := by
  have h : ∀ k < 10, (Char.ofNat (48 + k)).isDigit = true := by decide
  exact h (n % 10) (Nat.mod_lt n (by decide))

theorem toNat_digit (n : Nat) : (digit n).toNat - '0'.toNat = n % 10 := by
  have h : ∀ k < 10, (Char.ofNat (48 + k)).toNat - '0'.toNat = k := by decide
  exact h (n % 10) (Nat.mod_lt n (by decide))

theorem isDigit_of_mem_padded : ∀ {width n : Nat} {c : Char}, c ∈ padded width n → c.isDigit = true
  | 0, _, _, h => nomatch h
  | width + 1, n, c, h => by
    rw [padded, List.mem_append, List.mem_singleton] at h
    rcases h with h | rfl
    · exact isDigit_of_mem_padded h
    · exact isDigit_digit n

/-- The digits of a padded number spell it, if they suffice. -/
theorem ofDigits_padded : ∀ {width n : Nat}, n < Nat.pow 10 width → ofDigits (padded width n) = n
  | 0, n, h => by
    have : n = 0 := Nat.lt_one_iff.1 h
    rw [this]
    rfl
  | width + 1, n, h => by
    have hn : n < 10 * Nat.pow 10 width := by
      rw [Nat.mul_comm]
      exact h
    have ih : Nat.ofDigitChars 10 (padded width (n / 10)) 0 = n / 10 := ofDigits_padded (Nat.div_lt_of_lt_mul hn)
    rw [ofDigits, padded, Nat.ofDigitChars_append, ih, Nat.ofDigitChars_cons, Nat.ofDigitChars_nil, toNat_digit]
    omega

theorem exists_padded_eq_cons {width : Nat} (hw : 0 < width) (n : Nat) :
    ∃ c cs, padded width n = c :: cs ∧ c.isDigit = true := by
  cases h : padded width n with
  | nil =>
    have := length_padded width n
    rw [h] at this
    exact absurd this (Nat.ne_of_lt hw)
  | cons c cs => exact ⟨c, cs, rfl, isDigit_of_mem_padded (h ▸ List.mem_cons_self)⟩

namespace Timestamp

/-! ## Parts of the text -/

variable {width n low high : Nat}

theorem number_padded (hw : 0 < width) (hn : n < Nat.pow 10 width) (rest : List Char) :
    number width (padded width n ++ rest) = .ok (n, rest) := by
  have htake : (padded width n ++ rest).take width = padded width n := by
    rw [List.take_left' (length_padded width n)]
  have hwhile : (padded width n ++ []).takeWhile Char.isDigit = padded width n ++ [] :=
    List.takeWhile_append_of_pos fun c hc => isDigit_of_mem_padded hc
  rw [List.append_nil] at hwhile
  obtain ⟨c, cs, hcs, -⟩ := exists_padded_eq_cons hw n
  rw [number, digits, htake, hwhile]
  split
  · next h =>
    rw [hcs] at h
    cases h
  · show Except.ok (ofDigits (padded width n), (padded width n ++ rest).drop (padded width n).length) = _
    rw [ofDigits_padded hn, List.drop_left]

theorem dropWhile_isBlank_padded (hw : 0 < width) (n : Nat) (rest : List Char) :
    (padded width n ++ rest).dropWhile isBlank = padded width n ++ rest := by
  obtain ⟨c, cs, hcs, hc⟩ := exists_padded_eq_cons hw n
  rw [hcs, List.cons_append, List.dropWhile_cons, not_isBlank_of_isDigit hc]
  rfl

theorem field_padded (hn : low ≤ n ∧ n ≤ high) (hh : high < 100) (rest : List Char) :
    field low high (padded 2 n ++ rest) = .ok (n, rest) := by
  rw [field, dropWhile_isBlank_padded (by decide), number_padded (by decide) (show n < 100 by omega)]
  exact if_pos hn

theorem yearField_padded (hn : n < 10000) (rest : List Char) :
    yearField (padded 4 n ++ rest) = .ok ((n : Int), rest) := by
  have hnum := number_padded (by decide : 0 < 4) hn rest
  obtain ⟨c, cs, hcs, hc⟩ := exists_padded_eq_cons (by decide : 0 < 4) n
  unfold yearField
  simp only [dropWhile_isBlank_padded (by decide : 0 < 4)]
  rw [hcs, List.cons_append] at hnum ⊢
  split
  · next h =>
    cases h
    exact absurd hc (by decide)
  · next h =>
    cases h
    exact absurd hc (by decide)
  · rw [hnum]
    rfl

theorem mark_cons (c : Char) (rest : List Char) : mark c (c :: rest) = .ok rest := if_pos rfl

/-! ## The whole text -/

theorem heldMoment?_moment (t : Timestamp) :
    heldMoment? t.moment.date.year t.moment.date.month t.moment.date.day t.moment.clock.hour t.moment.clock.minute
      t.moment.clock.second = some t.moment := by
  obtain ⟨⟨⟨year, month, day, isDate⟩, ⟨hour, minute, second, isClock⟩⟩, inRange⟩ := t
  simp only at inRange isClock ⊢
  have hheld : calendarHolds year = true := by
    rw [calendarHolds, Bool.and_eq_true, decide_eq_true_eq, decide_eq_true_eq]
    omega
  simp [heldMoment?, heldDate?, hheld, Date.ofParts?, isDate, Clock.ofParts?, isClock]

theorem readMoment_text (t : Timestamp) : readMoment t.text = .ok t.moment := by
  have hyear := t.inRange
  have hclock := t.moment.clock.isClock
  have hdate := t.moment.date.isDate
  have hlength := Calendar.monthLength_le t.moment.date.year t.moment.date.month
  have year := yearField_padded (by omega : t.moment.date.year.toNat < 10000)
  have month := field_padded (Calendar.month_of_isDate hdate) (by decide)
  have day := field_padded ⟨hdate.1, Nat.le_trans hdate.2 hlength⟩ (by decide)
  have hour := field_padded (by omega : 0 ≤ t.moment.clock.hour ∧ t.moment.clock.hour ≤ 23) (by decide)
  have minute := field_padded (by omega : 0 ≤ t.moment.clock.minute ∧ t.moment.clock.minute ≤ 59) (by decide)
  have second := field_padded (by omega : 0 ≤ t.moment.clock.second ∧ t.moment.clock.second ≤ 60) (by decide)
  have hy : ((t.moment.date.year.toNat : Nat) : Int) = t.moment.date.year := by omega
  have hs : min t.moment.clock.second 59 = t.moment.clock.second := by omega
  simp only [text, List.append_assoc, List.cons_append, readMoment, bind, Except.bind, mark_cons, year, month, day, hour,
    minute, second, hy, hs, heldMoment?_moment]
  rfl

/-- **A timestamp is read back from its text.** -/
theorem read_text (t : Timestamp) : read t.text = .ok t := by
  rw [read, readMoment_text]
  exact dif_pos t.inRange

end Timestamp
/-- The start of 1970. -/
def Timestamp.epoch : Timestamp := ⟨.epoch, by decide⟩

end ConfigService
