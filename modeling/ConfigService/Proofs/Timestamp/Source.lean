import ConfigService.Payload.Lower
import ConfigService.Proofs.Json.Scalar
/-!
# Source — whatever a timestamp is made of, it reads back

A timestamp is made of six parts, of an instant in UTC, of what a wall clock shows, of a text or of a JSON document.  Each
of these tells an instant (`Source.instant?`), and all of them go the same way from there: the year is looked at and the
fraction of the second is dropped, be it that of a leap second (`Source.timestamp?_eq`).  So every timestamp has a text of
twenty characters, and is what that text says.
-/
namespace ConfigService

open Json

namespace Timestamp

/-! ## The text, character by character -/

/-- **Each field is written with zeros in front**, and the marks stand between them. -/
theorem text_eq (t : Timestamp) :
    t.text =
      [digit (t.moment.date.year.toNat / 1000), digit (t.moment.date.year.toNat / 100),
        digit (t.moment.date.year.toNat / 10), digit t.moment.date.year.toNat, '-',
        digit (t.moment.date.month / 10), digit t.moment.date.month, '-',
        digit (t.moment.date.day / 10), digit t.moment.date.day, 'T',
        digit (t.moment.clock.hour / 10), digit t.moment.clock.hour, ':',
        digit (t.moment.clock.minute / 10), digit t.moment.clock.minute, ':',
        digit (t.moment.clock.second / 10), digit t.moment.clock.second, 'Z'] := by
  simp [text, padded, Nat.div_div_eq_div_mul]

theorem length_text (t : Timestamp) : t.text.length = 20 := by
  rw [text_eq]
  rfl

theorem toNat_lt_of_isDigit {c : Char} (h : c.isDigit = true) : c.toNat < 128 := by
  rw [Char.isDigit, Bool.and_eq_true, decide_eq_true_eq, decide_eq_true_eq] at h
  exact Nat.lt_of_le_of_lt (UInt32.le_iff_toNat_le.1 h.2) (by decide)

theorem toNat_lt_of_mem_text {t : Timestamp} {c : Char} (h : c ∈ t.text) : c.toNat < 128 := by
  simp only [text, List.mem_append, List.mem_cons, List.not_mem_nil, or_false] at h
  rcases h with (((((h | h | h) | h | h) | h | h) | h | h) | h | h) | h <;>
    first
      | exact toNat_lt_of_isDigit (isDigit_of_mem_padded h)
      | exact h ▸ by decide

theorem toList_toString (t : Timestamp) : (toString t).toList = t.text := String.toList_ofList

/-! ## Reading and decoding -/

theorem read_toString (t : Timestamp) : read (toString t).toList = .ok t := by
  rw [toList_toString, read_text]

theorem readTimestamp_eq_ok_iff {d rest : Text} {t : Timestamp} :
    readTimestamp d = .ok (t, rest) ↔ ∃ s, readString d = .ok (s, rest) ∧ read s.toList = .ok t := by
  unfold readTimestamp
  cases readString d with
  | error f => simp
  | ok taken =>
    obtain ⟨s, after⟩ := taken
    simp only
    cases hs : read s.toList with
    | error e =>
      constructor
      · intro h
        cases h
      · rintro ⟨s', h, hs'⟩
        cases h
        rw [hs] at hs'
        cases hs'
    | ok u =>
      constructor
      · intro h
        cases h
        exact ⟨s, rfl, hs⟩
      · rintro ⟨s', h, hs'⟩
        cases h
        rw [hs] at hs'
        cases hs'
        rfl

/-- **A document that holds a timestamp holds a string that spells it.** -/
theorem timestampOf_eq_ok_iff {d : Text} {t : Timestamp} :
    timestampOf d = .ok t ↔ ∃ s, readWholeText readString d = .ok s ∧ read s.toList = .ok t := by
  have hfield : timestampOf d = .ok t ↔ ∃ rest, readTimestamp d = .ok (t, rest) ∧ skipGap rest = [] := by
    unfold timestampOf
    rw [readWholeText_eq_ok_iff]
    refine exists_congr fun rest => and_congr_left fun _ => ?_
    cases readTimestamp d with
    | ok taken => simp
    | error h => cases h <;> simp
  simp only [hfield, readTimestamp_eq_ok_iff, readWholeText_eq_ok_iff]
  constructor
  · rintro ⟨rest, ⟨s, hs, ht⟩, hrest⟩
    exact ⟨s, ⟨rest, hs, hrest⟩, ht⟩
  · rintro ⟨s, ⟨rest, hs, hrest⟩, ht⟩
    exact ⟨rest, ⟨s, hs, ht⟩, hrest⟩

theorem encode_payload (sortKeys : Bool) (t : Timestamp) :
    (Payload.timestamp t).encode sortKeys = .ok (String.ofList (literal (toString t))) := by
  show Except.ok ((Value.string (toString t)).encode sortKeys) = _
  rw [Value.encode_eq]
  rfl

theorem timestampOf_literal (t : Timestamp) :
    timestampOf (Text.ofString (String.ofList (literal (toString t)))) = .ok t := by
  have hread := readString_literal (toString t) []
  rw [List.append_nil] at hread
  rw [timestampOf_eq_ok_iff, Text.ofString_ofList]
  exact ⟨toString t, readWholeText_eq hread, read_toString t⟩

/-! ## Sources -/

/-- What timestamps are made of. -/
inductive Source
  | parts (year : Int) (month day hour minute second : Nat)
  | utc (i : Instant)
  /-- What a wall clock shows, and how many seconds it runs ahead of UTC. -/
  | zoned (i : Instant) (offset : Int)
  | text (s : String)
  | document (d : Text)

namespace Source

/-- The timestamp that is made, if there is one. -/
def timestamp? : Source → Option Timestamp
  | parts year month day hour minute second => (ofParts year month day hour minute second).toOption
  | utc i => (ofInstant i).toOption
  | zoned i offset => (ofLocal i offset).toOption
  | text s => (read s.toList).toOption
  | document d => (timestampOf d).toOption

/-- The instant that a text tells. -/
def instantOfText? (s : String) : Option Instant := (readMoment s.toList).toOption.map .ofMoment

/-- The instant that a source tells, if it tells one, whatever its year. -/
def instant? : Source → Option Instant
  | parts year month day hour minute second => (heldMoment? year month day hour minute second).map .ofMoment
  | utc i => some i
  | zoned i offset => some (i.after (-offset))
  | text s => instantOfText? s
  | document d => (readWholeText readString d).toOption.bind instantOfText?

end Source

theorem ofInstant_eq_ok_iff {i : Instant} {t : Timestamp} :
    ofInstant i = .ok t ↔ (1 ≤ i.moment.date.year ∧ i.moment.date.year ≤ 9999) ∧ t.instant = i.whole := by
  obtain ⟨m, hm⟩ := t
  rw [ofInstant, ofMoment]
  constructor
  · intro h
    split at h
    · next hyear =>
      cases h
      exact ⟨hyear, rfl⟩
    · cases h
  · rintro ⟨hyear, h⟩
    have hmoment : m = i.moment := congrArg Instant.moment h
    subst hmoment
    rw [dif_pos hyear]

theorem toOption_read (s : String) :
    (read s.toList).toOption = (Source.instantOfText? s).bind fun i => (ofInstant i).toOption := by
  rw [read, Source.instantOfText?]
  cases readMoment s.toList <;> rfl

/-- **All sources go one way**: what is made is the timestamp of the instant that the source tells. -/
theorem Source.timestamp?_eq (s : Source) : s.timestamp? = s.instant?.bind fun i => (ofInstant i).toOption := by
  cases s with
  | parts year month day hour minute second =>
    rw [timestamp?, instant?, ofParts]
    cases heldMoment? year month day hour minute second <;> rfl
  | utc i => rfl
  | zoned i offset => rfl
  | text s => exact toOption_read s
  | document d =>
    refine Option.ext fun t => ?_
    rw [timestamp?, toOption_eq_some_iff, timestampOf_eq_ok_iff, instant?]
    cases readWholeText readString d with
    | error f => simp [Except.toOption]
    | ok s =>
      rw [show (Except.ok s : Except Fault String).toOption = some s from rfl, Option.bind_some, ← toOption_read,
        toOption_eq_some_iff]
      simp

/-! ## What is made -/

/-- A timestamp is well made of a source. -/
structure WellMade (s : Source) (t : Timestamp) : Prop where
  /-- It is the beginning of the second in which the instant falls that the source tells. -/
  told : ∃ i, s.instant? = some i ∧ t.instant = i.whole
  year : 1 ≤ t.instant.moment.date.year ∧ t.instant.moment.date.year ≤ 9999
  date : Calendar.IsDate t.instant.moment.date.year t.instant.moment.date.month t.instant.moment.date.day
  clock : t.instant.moment.clock.hour ≤ 23 ∧ t.instant.moment.clock.minute ≤ 59 ∧ t.instant.moment.clock.second ≤ 59
  nanos : t.instant.nanos = 0
  /-- Its text has the form `YYYY-MM-DDTHH:MM:SSZ`. -/
  spelled : (toString t).toList =
    [digit (t.moment.date.year.toNat / 1000), digit (t.moment.date.year.toNat / 100),
      digit (t.moment.date.year.toNat / 10), digit t.moment.date.year.toNat, '-',
      digit (t.moment.date.month / 10), digit t.moment.date.month, '-',
      digit (t.moment.date.day / 10), digit t.moment.date.day, 'T',
      digit (t.moment.clock.hour / 10), digit t.moment.clock.hour, ':',
      digit (t.moment.clock.minute / 10), digit t.moment.clock.minute, ':',
      digit (t.moment.clock.second / 10), digit t.moment.clock.second, 'Z']
  ascii : (toString t).length = 20 ∧ ∀ c ∈ (toString t).toList, c.toNat < 128
  readBack : read (toString t).toList = .ok t
  decodedBack : ∀ sortKeys, ∃ json, (Payload.timestamp t).encode sortKeys = .ok json ∧
    timestampOf (Text.ofString json) = .ok t

/-- **A timestamp is made of a source if and only if it is well made of it**: it is the second that the source tells, a
date and a time of day with whole seconds in the years 1 to 9999, its text has twenty characters, and the text and its JSON
string are read as the timestamp. -/
theorem made_iff_wellMade (s : Source) (t : Timestamp) : s.timestamp? = some t ↔ WellMade s t := by
  rw [Source.timestamp?_eq, Option.bind_eq_some_iff]
  constructor
  · rintro ⟨i, hi, hmade⟩
    obtain ⟨-, hwhole⟩ := ofInstant_eq_ok_iff.1 (toOption_eq_some_iff.1 hmade)
    have hclock := t.moment.clock.isClock
    exact
      { told := ⟨i, hi, hwhole⟩
        year := t.inRange
        date := t.moment.date.isDate
        clock := ⟨Nat.le_of_lt_succ hclock.1, Nat.le_of_lt_succ hclock.2.1, Nat.le_of_lt_succ hclock.2.2⟩
        nanos := rfl
        spelled := by rw [toList_toString, text_eq]
        ascii := by
          rw [← String.length_toList, toList_toString]
          exact ⟨t.length_text, fun c hc => toNat_lt_of_mem_text hc⟩
        readBack := t.read_toString
        decodedBack := fun sortKeys => ⟨_, t.encode_payload sortKeys, t.timestampOf_literal⟩ }
  · intro h
    obtain ⟨i, hi, hwhole⟩ := h.told
    have hyear := h.year
    rw [hwhole] at hyear
    exact ⟨i, hi, toOption_eq_some_iff.2 (ofInstant_eq_ok_iff.2 ⟨hyear, hwhole⟩)⟩

/-- Half a second into the leap second at the end of 2016. -/
example :
    (Source.utc ⟨⟨⟨2016, 12, 31, by decide⟩, ⟨23, 59, 59, by decide⟩⟩, 1500000000, by decide⟩).timestamp? =
      some ⟨⟨⟨2016, 12, 31, by decide⟩, ⟨23, 59, 59, by decide⟩⟩, by decide⟩ := by
  rfl

end Timestamp

end ConfigService
