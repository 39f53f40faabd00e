import ConfigService.Proofs.Calendar.Date
import ConfigService.Timestamp
/-!
# Conversion — which seconds are timestamps

A timestamp can hold just the seconds from the first of the year 1 to the last of the year 9999, which is an interval of
counts (`inRange_iff`).  A wall clock is converted before it is asked for its year: it is set back by its offset, which may
take it over midnight to a neighbouring day, and the year that counts is the one it shows then.
-/
namespace ConfigService
namespace Timestamp

open Calendar

/-- **The years 1 to 9999 are an interval of seconds.** -/
theorem inRange_iff (m : Moment) :
    1 ≤ m.date.year ∧ m.date.year ≤ 9999 ↔ -62135596800 ≤ m.seconds ∧ m.seconds ≤ 253402300799 := by
  have hclock := m.clock.seconds_lt
  obtain ⟨hlow, hhigh⟩ := m.date.number_in_year
  have hfirst : daysBeforeYear 1 = 0 := rfl
  have hlast : daysBeforeYear 10000 = 3652059 := rfl
  have hepoch : Moment.epochDay = 719162 := rfl
  have hdays : 1 ≤ m.date.year ∧ m.date.year ≤ 9999 ↔ 0 ≤ m.date.number ∧ m.date.number < 3652059 := by
    constructor
    · rintro ⟨h1, h9999⟩
      have := daysBeforeYear_le h1
      have := daysBeforeYear_le (show m.date.year + 1 ≤ 10000 by omega)
      omega
    · rintro ⟨h0, hend⟩
      refine ⟨Int.not_lt.1 fun h => ?_, Int.not_lt.1 fun h => ?_⟩
      · have := daysBeforeYear_le (show m.date.year + 1 ≤ 1 by omega)
        omega
      · have := daysBeforeYear_le (show 10000 ≤ m.date.year by omega)
        omega
  rw [hdays]
  unfold Moment.seconds
  omega

theorem ofMoment_of_inRange {m : Moment} (h : -62135596800 ≤ m.seconds ∧ m.seconds ≤ 253402300799) :
    ofMoment m = .ok ⟨m, (inRange_iff m).2 h⟩ := dif_pos ((inRange_iff m).2 h)

theorem ofMoment_of_not_inRange {m : Moment} (h : ¬(-62135596800 ≤ m.seconds ∧ m.seconds ≤ 253402300799)) :
    ofMoment m = .error (.outOfRange m.date.year) := dif_neg (mt (inRange_iff m).1 h)

/-- **Conversion to UTC is exact.**  A count of seconds is a timestamp if and only if it is in the interval, and then the
timestamp shows the one date and time that has this count; any other count is refused with the year it falls in.  A wall
clock less than a day off, be its second whole, a fraction or a leap second, is the timestamp of its own count set back by
its offset, and on the way its date moves by the days that its clock ran over. -/
theorem conversion_exact :
    (∀ s : Int,
      ((∃ t, ofInstant (.ofMoment (.ofSeconds s)) = .ok t) ↔ -62135596800 ≤ s ∧ s ≤ 253402300799) ∧
      (∀ t, ofInstant (.ofMoment (.ofSeconds s)) = .ok t → ∀ m : Moment, m.seconds = s ↔ m = t.moment) ∧
      (¬(-62135596800 ≤ s ∧ s ≤ 253402300799) →
        ofInstant (.ofMoment (.ofSeconds s)) = .error (.outOfRange (Moment.ofSeconds s).date.year))) ∧
    (∀ (i : Instant) (offset : Int), -86400 < offset ∧ offset < 86400 →
      ofLocal i offset = ofInstant (.ofMoment (.ofSeconds (i.moment.seconds - offset))) ∧
      ∃ days, i.moment.date.Near days (Moment.ofSeconds (i.moment.seconds - offset)).date ∧
        ((Moment.ofSeconds (i.moment.seconds - offset)).clock.seconds : Int) =
          i.moment.clock.seconds - offset - 86400 * days) ∧
    (Moment.epoch.seconds = 0 ∧ ∀ m : Moment, m.next.seconds = m.seconds + 1) := by
  refine ⟨fun s => ?_, fun i offset h => ⟨rfl, ?_⟩, Moment.seconds_epoch, Moment.seconds_next⟩
  · show ((∃ t, ofMoment (.ofSeconds s) = .ok t) ↔ _) ∧ (∀ t, ofMoment (.ofSeconds s) = .ok t → _) ∧
      (_ → ofMoment (.ofSeconds s) = _)
    have hs := Moment.seconds_ofSeconds s
    by_cases h : -62135596800 ≤ s ∧ s ≤ 253402300799
    · rw [ofMoment_of_inRange (m := .ofSeconds s) (by rwa [hs])]
      refine ⟨⟨fun _ => h, fun _ => ⟨_, rfl⟩⟩, fun t ht m => ?_, fun hn => absurd h hn⟩
      cases ht
      exact ⟨fun hm => Moment.seconds_inj (hm.trans hs.symm), fun hm => by rw [hm, hs]⟩
    · rw [ofMoment_of_not_inRange (m := .ofSeconds s) (by rwa [hs])]
      refine ⟨⟨fun ⟨t, ht⟩ => ?_, fun hin => absurd hin h⟩, fun t ht => ?_, fun _ => rfl⟩ <;> cases ht
  · exact Moment.near_ofSeconds i.moment (k := -offset) (by omega)

/-- In a leap second at the end of 9999, on a clock one second behind UTC, the year is 10000. -/
theorem conversion_exact_leap :
    ofLocal ⟨⟨⟨9999, 12, 31, by decide⟩, ⟨23, 59, 59, by decide⟩⟩, 1500000000, by decide⟩ (-1) =
      .error (.outOfRange 10000) := by
  have hlocal := (conversion_exact.2.1 ⟨⟨⟨9999, 12, 31, by decide⟩, ⟨23, 59, 59, by decide⟩⟩, 1500000000, by decide⟩ (-1)
    (by decide)).1
  have hcount : (⟨⟨9999, 12, 31, by decide⟩, ⟨23, 59, 59, by decide⟩⟩ : Moment).seconds - -1 = 253402300800 := by
    decide +kernel
  have hyear : (Moment.ofSeconds 253402300800).date.year = 10000 := by decide +kernel
  rw [hlocal, hcount, (conversion_exact.1 253402300800).2.2 (by omega), hyear]

end Timestamp
end ConfigService
