import ConfigService.Proofs.Distinct
import ConfigService.Proofs.Text.Order
import ConfigService.Proofs.Timestamp.Source
/-!
# Order — one order of timestamps, of their texts and of the seconds they count

Timestamps are compared part by part, the year first.  Their texts have these parts at fixed places, with zeros in front, so
that they are compared part by part as well (`text_lt_iff`).  And a part that is less makes up for all that come after it:
no month has as many days as would bring it to the next one's first, and so on, so seconds have the same order again
(`seconds_lt_iff`).
-/
namespace ConfigService

open Calendar

/-! ## Seconds -/

/-- The days before a day are fewer just if it comes first. -/
theorem Date.number_lt_iff {a b : Date} :
    a.number < b.number ↔
      a.year < b.year ∨ a.year = b.year ∧ (a.month < b.month ∨ a.month = b.month ∧ a.day < b.day) := by
  refine ⟨fun h => ?_, number_lt⟩
  by_contra hab
  have hba := mt (number_lt (a := b) (b := a)) (by omega)
  obtain ⟨year, month, day, _⟩ := a
  obtain ⟨year', month', day', _⟩ := b
  simp only at hab hba
  have hyear : year = year' := by omega
  have hmonth : month = month' := by omega
  have hday : day = day' := by omega
  subst hyear hmonth hday
  exact Int.lt_irrefl _ h

theorem Date.number_eq_iff {a b : Date} : a.number = b.number ↔ a.year = b.year ∧ a.month = b.month ∧ a.day = b.day := by
  constructor
  · intro h
    rw [number_inj h]
    exact ⟨rfl, rfl, rfl⟩
  · rintro ⟨hyear, hmonth, hday⟩
    rw [number, number, hyear, hmonth, hday]

theorem Clock.seconds_lt_iff {a b : Clock} :
    a.seconds < b.seconds ↔
      a.hour < b.hour ∨ a.hour = b.hour ∧ (a.minute < b.minute ∨ a.minute = b.minute ∧ a.second < b.second) := by
  have ha := a.isClock
  have hb := b.isClock
  unfold seconds
  omega

theorem Moment.seconds_lt_iff {a b : Moment} :
    a.seconds < b.seconds ↔
      a.date.number < b.date.number ∨ a.date.number = b.date.number ∧ a.clock.seconds < b.clock.seconds := by
  have ha := a.clock.seconds_lt
  have hb := b.clock.seconds_lt
  unfold seconds
  omega

/-! ## Padded numbers -/

theorem digit_lt_digit_iff {m n : Nat} : digit m < digit n ↔ m % 10 < n % 10 := by
  have h : ∀ k < 10, ∀ l < 10, Char.ofNat (48 + k) < Char.ofNat (48 + l) ↔ k < l := by decide
  exact h _ (Nat.mod_lt m (by decide)) _ (Nat.mod_lt n (by decide))

theorem padded_inj {width m n : Nat} (hm : m < Nat.pow 10 width) (hn : n < Nat.pow 10 width) :
    padded width m = padded width n ↔ m = n := by
  refine ⟨fun h => ?_, fun h => by rw [h]⟩
  rw [← ofDigits_padded hm, h, ofDigits_padded hn]

/-- Numbers of one width have the order of their texts. -/
theorem padded_lt_iff {width : Nat} : ∀ {m n : Nat}, m < Nat.pow 10 width → n < Nat.pow 10 width →
    (padded width m < padded width n ↔ m < n) := by
  induction width with
  | zero =>
    intro m n hm hn
    have hm0 : m = 0 := Nat.lt_one_iff.1 hm
    have hn0 : n = 0 := Nat.lt_one_iff.1 hn
    simp [hm0, hn0]
  | succ width ih =>
    intro m n hm hn
    have hpow : Nat.pow 10 (width + 1) = Nat.pow 10 width * 10 := rfl
    have hm' : m / 10 < Nat.pow 10 width := by omega
    have hn' : n / 10 < Nat.pow 10 width := by omega
    rw [padded, padded, append_lt_append_iff (by simp), ih hm' hn', padded_inj hm' hn', List.cons_lt_cons_iff,
      digit_lt_digit_iff]
    simp only [List.not_lt_nil, and_false, or_false]
    omega

namespace Timestamp

/-! ## Timestamps -/

theorem lt_iff_parts {a b : Timestamp} :
    a < b ↔ a.moment.date.year.toNat < b.moment.date.year.toNat ∨ a.moment.date.year.toNat = b.moment.date.year.toNat ∧
      (a.moment.date.month < b.moment.date.month ∨ a.moment.date.month = b.moment.date.month ∧
      (a.moment.date.day < b.moment.date.day ∨ a.moment.date.day = b.moment.date.day ∧
      (a.moment.clock.hour < b.moment.clock.hour ∨ a.moment.clock.hour = b.moment.clock.hour ∧
      (a.moment.clock.minute < b.moment.clock.minute ∨ a.moment.clock.minute = b.moment.clock.minute ∧
      a.moment.clock.second < b.moment.clock.second)))) := by
  show a.parts < b.parts ↔ _
  simp only [parts, List.cons_lt_cons_iff, List.not_lt_nil, and_false, or_false]

theorem seconds_lt_iff (a b : Timestamp) : a.moment.seconds < b.moment.seconds ↔ a < b := by
  have ha := a.inRange
  have hb := b.inRange
  have hlt : a.moment.date.year < b.moment.date.year ↔ a.moment.date.year.toNat < b.moment.date.year.toNat := by omega
  have heq : a.moment.date.year = b.moment.date.year ↔ a.moment.date.year.toNat = b.moment.date.year.toNat := by omega
  rw [lt_iff_parts, Moment.seconds_lt_iff, Date.number_lt_iff, Date.number_eq_iff, Clock.seconds_lt_iff, hlt, heq]
  simp only [and_or_left, or_assoc, and_assoc]

theorem seconds_eq_iff (a b : Timestamp) : a.moment.seconds = b.moment.seconds ↔ a = b := by
  constructor
  · intro h
    obtain ⟨m, hm⟩ := a
    obtain ⟨n, hn⟩ := b
    obtain rfl : m = n := Moment.seconds_inj h
    rfl
  · exact fun h => by rw [h]

/-- A field of the text decides if it differs, and else what comes after the mark behind it. -/
theorem field_lt_iff {width m n : Nat} (hm : m < Nat.pow 10 width) (hn : n < Nat.pow 10 width) (mark : Char)
    (us vs : List Char) :
    padded width m ++ mark :: us < padded width n ++ mark :: vs ↔ m < n ∨ m = n ∧ us < vs := by
  rw [append_lt_append_iff (by simp), padded_lt_iff hm hn, padded_inj hm hn, List.cons_lt_cons_iff]
  simp

/-- No part of a timestamp has more digits than its text has room for. -/
theorem parts_lt (t : Timestamp) :
    t.moment.date.year.toNat < Nat.pow 10 4 ∧ t.moment.date.month < Nat.pow 10 2 ∧ t.moment.date.day < Nat.pow 10 2 ∧
      t.moment.clock.hour < Nat.pow 10 2 ∧ t.moment.clock.minute < Nat.pow 10 2 ∧ t.moment.clock.second < Nat.pow 10 2 := by
  have hyear := t.inRange
  have hclock := t.moment.clock.isClock
  have hmonth := month_of_isDate t.moment.date.isDate
  have hday := Nat.le_trans t.moment.date.isDate.2 (monthLength_le _ _)
  simp only [show Nat.pow 10 4 = 10000 from rfl, show Nat.pow 10 2 = 100 from rfl]
  omega

theorem text_lt_iff (a b : Timestamp) : a.text < b.text ↔ a < b := by
  obtain ⟨ayear, amonth, aday, ahour, aminute, asecond⟩ := a.parts_lt
  obtain ⟨byear, bmonth, bday, bhour, bminute, bsecond⟩ := b.parts_lt
  simp only [text, List.append_assoc, List.cons_append]
  rw [lt_iff_parts, field_lt_iff ayear byear, field_lt_iff amonth bmonth, field_lt_iff aday bday,
    field_lt_iff ahour bhour, field_lt_iff aminute bminute, field_lt_iff asecond bsecond]
  simp

theorem text_eq_iff (a b : Timestamp) : a.text = b.text ↔ a = b := by
  refine ⟨fun h => ?_, fun h => by rw [h]⟩
  have hread := a.read_text
  rw [h, b.read_text] at hread
  exact (Except.ok.inj hread).symm

/-- The JSON texts of timestamps are in the order of their texts, since all begin with a quote. -/
theorem encode_lt_iff (sortKeys : Bool) (a b : Timestamp) :
    (Json.Value.timestamp a).encode sortKeys < (Json.Value.timestamp b).encode sortKeys ↔ a < b := by
  rw [String.lt_iff_toList_lt, Json.Value.encode_eq, Json.Value.encode_eq, String.toList_ofList, String.toList_ofList,
    Json.Value.print, Json.Value.print, List.cons_lt_cons_iff, append_lt_append_iff, text_lt_iff]
  · simp
  · rw [length_text, length_text]

theorem encode_eq_iff (sortKeys : Bool) (a b : Timestamp) :
    (Json.Value.timestamp a).encode sortKeys = (Json.Value.timestamp b).encode sortKeys ↔ a = b := by
  rw [Json.Value.encode_eq, Json.Value.encode_eq, String.ofList_inj, Json.Value.print, Json.Value.print, ← text_eq_iff]
  simp

theorem toString_lt_iff (a b : Timestamp) : toString a < toString b ↔ a < b := by
  rw [String.lt_iff_toList_lt, toList_toString, toList_toString, text_lt_iff]

theorem toString_eq_iff (a b : Timestamp) : toString a = toString b ↔ a = b := by
  rw [← text_eq_iff, ← toList_toString, ← toList_toString, String.toList_inj]

/-- **Timestamps, their texts and the seconds they count have one order**, and equal texts are those of equal timestamps.
So it is all one whether a list of timestamps is put in order, each once, or the list of their texts, be they plain or JSON;
and what comes out ascends strictly and holds just the timestamps of the list. -/
theorem order_exact :
    (∀ a b : Timestamp, (a < b ↔ toString a < toString b) ∧ (a < b ↔ a.moment.seconds < b.moment.seconds) ∧
      (a = b ↔ toString a = toString b)) ∧
    ∀ ts : List Timestamp,
      (sortDistinct ts).map toString = ascending (ts.map toString) ∧
      (∀ sortKeys, (sortDistinct ts).map (fun t => (Json.Value.timestamp t).encode sortKeys) =
        ascending (ts.map fun t => (Json.Value.timestamp t).encode sortKeys)) ∧
      (sortDistinct ts).Pairwise (· < ·) ∧ ∀ t, t ∈ sortDistinct ts ↔ t ∈ ts := by
  refine ⟨fun a b => ⟨(toString_lt_iff a b).symm, (seconds_lt_iff a b).symm, (toString_eq_iff a b).symm⟩, fun ts => ?_⟩
  exact ⟨map_ascending toString_lt_iff toString_eq_iff ts,
    fun sortKeys => map_ascending (encode_lt_iff sortKeys) (encode_eq_iff sortKeys) ts,
    pairwise_ascending seconds_lt_iff seconds_eq_iff ts, fun t => mem_ascending⟩

end Timestamp

end ConfigService
