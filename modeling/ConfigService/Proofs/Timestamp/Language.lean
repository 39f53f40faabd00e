import Mathlib.Algebra.Group.Nat.Defs
import ConfigService.Proofs.Json.Lawful
import ConfigService.Proofs.Timestamp.Text
import ConfigService.Timestamp.Spelling
/-!
# Language — which texts are read as timestamps

A number is read as far as it may go, and what ends it is the mark after it, which is no digit: so there is one way to cut
a text into its parts, and reading finds it (`field_eq_ok_iff`, `yearField_eq_ok_iff`).  Ranges are checked on the way and
the calendar at the end, but a text is read as a moment just if its fields are those of one (`readMoment_eq_ok_iff`), and
the years a timestamp can hold tell the two errors apart (`read_exact`).
-/
namespace ConfigService
namespace Timestamp

open Calendar Json

theorem bind_eq_ok_iff {ε α β : Type} {x : Except ε α} {f : α → Except ε β} {b : β} :
    x >>= f = .ok b ↔ ∃ a, x = .ok a ∧ f a = .ok b := by
  cases x <;> simp [bind, Except.bind]

/-! ## Numbers before a mark -/

section Numbers

variable {c : Char} {cs ds rest : List Char} {limit n : Nat}

theorem takeWhile_isDigit_mark (hc : c.isDigit = false) : ((c :: rest).take n).takeWhile Char.isDigit = [] := by
  cases n with
  | zero => rfl
  | succ n => rw [List.take_succ_cons, List.takeWhile_cons, hc]; rfl

/-- Digits are taken as far as they go. -/
theorem takeWhile_digits (hd : AreDigits ds) (hlimit : ds.length ≤ limit) (hc : c.isDigit = false) :
    ((ds ++ c :: rest).take limit).takeWhile Char.isDigit = ds := by
  rw [List.take_append, List.take_of_length_le hlimit, List.takeWhile_append_of_pos hd.all, takeWhile_isDigit_mark hc,
    List.append_nil]

theorem digits_eq_ok_iff (hc : c.isDigit = false) :
    digits limit cs = .ok (ds, c :: rest) ↔ AreDigits ds ∧ ds.length ≤ limit ∧ cs = ds ++ c :: rest := by
  constructor
  · intro h
    rw [digits] at h
    have hstart : (cs.take limit).takeWhile Char.isDigit <+: cs.take limit := List.takeWhile_prefix _
    have hall : ∀ d ∈ (cs.take limit).takeWhile Char.isDigit, d.isDigit = true := List.all_eq_true.1 List.all_takeWhile
    split at h
    · cases h
    · next hne =>
      obtain ⟨rfl, hrest⟩ := Prod.mk.inj (Except.ok.inj h)
      have hlength : ((cs.take limit).takeWhile Char.isDigit).length ≤ limit :=
        Nat.le_trans hstart.length_le (List.length_take_le limit cs)
      refine ⟨⟨hne, hall⟩, hlength, ?_⟩
      rw [← hrest]
      exact List.prefix_iff_eq_append.1 (hstart.trans (List.take_prefix limit cs)) |>.symm
  · rintro ⟨hd, hlimit, rfl⟩
    rw [digits, takeWhile_digits hd hlimit hc]
    split
    · exact absurd rfl hd.ne_nil
    · rw [List.drop_left]

theorem number_eq_ok_iff (hc : c.isDigit = false) :
    number limit cs = .ok (n, c :: rest) ↔
      ∃ ds, AreDigits ds ∧ ds.length ≤ limit ∧ ofDigits ds = n ∧ cs = ds ++ c :: rest := by
  rw [number, map_eq_ok_iff, Prod.exists]
  constructor
  · rintro ⟨ds, after, hdigits, h⟩
    obtain ⟨rfl, rfl⟩ := Prod.mk.inj h
    obtain ⟨hd, hlimit, hcs⟩ := (digits_eq_ok_iff hc).1 hdigits
    exact ⟨ds, hd, hlimit, rfl, hcs⟩
  · rintro ⟨ds, hd, hlimit, rfl, hcs⟩
    exact ⟨ds, c :: rest, (digits_eq_ok_iff hc).2 ⟨hd, hlimit, hcs⟩, rfl⟩

/-- Each digit put behind a number makes it ten times as large at the most. -/
theorem ofDigitChars_lt (h : ∀ d ∈ ds, d.isDigit = true) (value : Nat) :
    Nat.ofDigitChars 10 ds value < (value + 1) * 10 ^ ds.length := by
  induction ds generalizing value with
  | nil => simp
  | cons d ds ih =>
    obtain ⟨hd, hds⟩ := List.forall_mem_cons.1 h
    have hdigit : d.toNat ≤ 57 := by
      rw [Char.isDigit, Bool.and_eq_true, decide_eq_true_eq, decide_eq_true_eq] at hd
      exact UInt32.le_iff_toNat_le.1 hd.2
    have hzero : '0'.toNat = 48 := rfl
    rw [Nat.ofDigitChars_cons, List.length_cons, Nat.pow_succ', ← Nat.mul_assoc]
    exact Nat.lt_of_lt_of_le (ih hds _) (Nat.mul_le_mul_right _ (by omega))

theorem ofDigits_lt (h : ∀ d ∈ ds, d.isDigit = true) : ofDigits ds < 10 ^ ds.length := by
  have hlt := ofDigitChars_lt h 0
  rwa [Nat.zero_add, Nat.one_mul] at hlt

/-- White space is passed over as far as it goes. -/
theorem exists_gap (cs : List Char) : ∃ gap, IsGap gap ∧ cs = gap ++ cs.dropWhile isBlank :=
  ⟨cs.takeWhile isBlank, List.all_eq_true.1 List.all_takeWhile, List.takeWhile_append_dropWhile.symm⟩

theorem dropWhile_gap {gap : List Char} (hgap : IsGap gap) (hc : isBlank c = false) :
    (gap ++ c :: rest).dropWhile isBlank = c :: rest := by
  rw [List.dropWhile_append_of_pos hgap, List.dropWhile_cons, hc]
  rfl

theorem dropWhile_gap_digits {gap : List Char} (hgap : IsGap gap) (hd : AreDigits ds) :
    (gap ++ (ds ++ rest)).dropWhile isBlank = ds ++ rest := by
  obtain ⟨d, ds, rfl⟩ := List.exists_cons_of_ne_nil hd.ne_nil
  exact dropWhile_gap hgap (not_isBlank_of_isDigit (hd.all d List.mem_cons_self))

end Numbers

/-! ## The parts of a text -/

section Parts

variable {c : Char} {cs rest : List Char} {n low high : Nat} {year : Int}

/-- **A number is read before a mark if and only if a text of it stands there.** -/
theorem field_eq_ok_iff (hc : c.isDigit = false) :
    field low high cs = .ok (n, c :: rest) ↔
      (∃ part, NumberText n part ∧ cs = part ++ c :: rest) ∧ low ≤ n ∧ n ≤ high := by
  constructor
  · intro h
    obtain ⟨gap, hgap, hcs⟩ := exists_gap cs
    rw [field] at h
    split at h
    · next m after hnumber =>
      split at h
      · next hrange =>
        obtain ⟨rfl, rfl⟩ := Prod.mk.inj (Except.ok.inj h)
        obtain ⟨ds, hd, hlimit, rfl, hds⟩ := (number_eq_ok_iff hc).1 hnumber
        refine ⟨⟨gap ++ ds, .digits hgap hd hlimit, ?_⟩, hrange⟩
        rw [hcs, hds, List.append_assoc]
      · cases h
    · cases h
  · rintro ⟨⟨_, ⟨hgap, hd, hlimit⟩, rfl⟩, hrange⟩
    rw [field, List.append_assoc, dropWhile_gap_digits hgap hd, (number_eq_ok_iff hc).2 ⟨_, hd, hlimit, rfl, rfl⟩]
    exact if_pos hrange

theorem signedYear_eq_ok_iff {sign : Int} (hsign : sign = 1 ∨ sign = -1) (hc : c.isDigit = false) :
    signedYear sign cs = .ok (year, c :: rest) ↔
      (∃ ds, AreDigits ds ∧ sign * ofDigits ds = year ∧ cs = ds ++ c :: rest) ∧
        -2147483648 ≤ year ∧ year < 2147483648 := by
  constructor
  · intro h
    rw [signedYear] at h
    split at h
    · next ds after hdigits =>
      rw [ofDigitsBelow?_eq (by decide)] at h
      split at h
      · next n hn =>
        obtain ⟨hbelow, hn⟩ := Option.ite_none_right_eq_some.1 hn
        obtain rfl := Option.some.inj hn
        split at h
        · next hyear =>
          obtain ⟨rfl, rfl⟩ := Prod.mk.inj (Except.ok.inj h)
          obtain ⟨hd, -, hcs⟩ := (digits_eq_ok_iff hc).1 hdigits
          have hpow : Nat.pow 2 31 = 2147483648 := rfl
          exact ⟨⟨ds, hd, rfl, hcs⟩, by rcases hsign with rfl | rfl <;> omega⟩
        · cases h
      · cases h
    · cases h
  · rintro ⟨⟨ds, hd, rfl, rfl⟩, hrange⟩
    have hpow : Nat.pow 2 31 = 2147483648 := rfl
    have hbelow : ofDigits ds < Nat.pow 2 31 + 1 := by rcases hsign with rfl | rfl <;> omega
    have hyear : sign * ofDigits ds < Nat.pow 2 31 := by omega
    have hlimit : ds.length ≤ (ds ++ c :: rest).length := (List.sublist_append_left ds (c :: rest)).length_le
    rw [signedYear, (digits_eq_ok_iff hc).2 ⟨hd, hlimit, rfl⟩]
    simp only [ofDigitsBelow?_eq (Nat.succ_pos _), if_pos hbelow, if_pos hyear]

/-- **A year is read before a mark if and only if a text of it stands there**, and it has no more than 31 bits. -/
theorem yearField_eq_ok_iff (hc : c.isDigit = false) :
    yearField cs = .ok (year, c :: rest) ↔
      (∃ part, YearText year part ∧ cs = part ++ c :: rest) ∧ -2147483648 ≤ year ∧ year < 2147483648 := by
  constructor
  · intro h
    obtain ⟨gap, hgap, hcs⟩ := exists_gap cs
    rw [yearField] at h
    split at h
    · next after hafter =>
      obtain ⟨⟨ds, hd, rfl, rfl⟩, hrange⟩ := (signedYear_eq_ok_iff (.inr rfl) hc).1 h
      rw [Int.neg_one_mul] at hrange ⊢
      exact ⟨⟨gap ++ '-' :: ds, .minus hgap hd, by rw [hcs, hafter, List.append_assoc, List.cons_append]⟩, hrange⟩
    · next after hafter =>
      obtain ⟨⟨ds, hd, rfl, rfl⟩, hrange⟩ := (signedYear_eq_ok_iff (.inl rfl) hc).1 h
      rw [Int.one_mul] at hrange ⊢
      exact ⟨⟨gap ++ '+' :: ds, .plus hgap hd, by rw [hcs, hafter, List.append_assoc, List.cons_append]⟩, hrange⟩
    · rw [map_eq_ok_iff, Prod.exists] at h
      obtain ⟨n, after, hnumber, h⟩ := h
      obtain ⟨rfl, rfl⟩ := Prod.mk.inj h
      obtain ⟨ds, hd, hlimit, rfl, hds⟩ := (number_eq_ok_iff hc).1 hnumber
      have hbelow := ofDigits_lt hd.all
      have hpow := Nat.pow_le_pow_right (show 0 < 10 by decide) hlimit
      exact ⟨⟨gap ++ ds, .unsigned hgap hd hlimit, by rw [hcs, hds, List.append_assoc]⟩, by omega⟩
  · rintro ⟨⟨_, hpart, rfl⟩, hrange⟩
    cases hpart with
    | @unsigned gap ds hgap hd hlimit =>
      rw [yearField, List.append_assoc, dropWhile_gap_digits hgap hd]
      obtain ⟨d, ds, rfl⟩ := List.exists_cons_of_ne_nil hd.ne_nil
      have hdigit := hd.all d List.mem_cons_self
      split
      · next h =>
        rw [(List.cons_eq_cons.1 h).1] at hdigit
        exact absurd hdigit (by decide)
      · next h =>
        rw [(List.cons_eq_cons.1 h).1] at hdigit
        exact absurd hdigit (by decide)
      · rw [(number_eq_ok_iff hc).2 ⟨_, hd, hlimit, rfl, rfl⟩]
        rfl
    | plus hgap hd =>
      rw [yearField, List.append_assoc, List.cons_append, dropWhile_gap hgap (by decide)]
      exact (signedYear_eq_ok_iff (.inl rfl) hc).2 ⟨⟨_, hd, Int.one_mul _, rfl⟩, hrange⟩
    | minus hgap hd =>
      rw [yearField, List.append_assoc, List.cons_append, dropWhile_gap hgap (by decide)]
      exact (signedYear_eq_ok_iff (.inr rfl) hc).2 ⟨⟨_, hd, Int.neg_one_mul _, rfl⟩, hrange⟩

theorem mark_eq_ok_iff : mark c cs = .ok rest ↔ cs = c :: rest := by
  cases cs with
  | nil => simp [mark]
  | cons d cs => by_cases h : d = c <;> simp [mark, h]

end Parts

/-! ## The whole text -/

theorem dateOfParts?_eq_some_iff {year : Int} {month day : Nat} {d : Date} :
    Date.ofParts? year month day = some d ↔ d.year = year ∧ d.month = month ∧ d.day = day := by
  obtain ⟨year', month', day', isDate⟩ := d
  constructor
  · intro h
    rw [Date.ofParts?] at h
    split at h <;> cases h
    exact ⟨rfl, rfl, rfl⟩
  · rintro ⟨rfl, rfl, rfl⟩
    exact dif_pos isDate

theorem clockOfParts?_eq_some_iff {hour minute second : Nat} {c : Clock} :
    Clock.ofParts? hour minute second = some c ↔ c.hour = hour ∧ c.minute = minute ∧ c.second = second := by
  obtain ⟨hour', minute', second', isClock⟩ := c
  constructor
  · intro h
    rw [Clock.ofParts?] at h
    split at h <;> cases h
    exact ⟨rfl, rfl, rfl⟩
  · rintro ⟨rfl, rfl, rfl⟩
    exact dif_pos isClock

/-- The moment with certain parts is the one that shows them. -/
theorem heldMoment?_eq_some_iff {year : Int} {month day hour minute second : Nat} {m : Moment} :
    heldMoment? year month day hour minute second = some m ↔
      calendarHolds year = true ∧ (m.date.year = year ∧ m.date.month = month ∧ m.date.day = day) ∧
        m.clock.hour = hour ∧ m.clock.minute = minute ∧ m.clock.second = second := by
  rw [← dateOfParts?_eq_some_iff, ← clockOfParts?_eq_some_iff, heldMoment?, heldDate?]
  cases calendarHolds year with
  | false => simp
  | true =>
    obtain ⟨date, clock⟩ := m
    cases Date.ofParts? year month day <;> cases Clock.ofParts? hour minute second <;> simp

/-- Real fields are in the ranges that are checked on the way. -/
theorem Fields.Real.ranges {f : Fields} (h : f.Real) :
    (1 ≤ f.month ∧ f.month ≤ 12) ∧ (1 ≤ f.day ∧ f.day ≤ 31) ∧ (0 ≤ f.hour ∧ f.hour ≤ 23) ∧
      (0 ≤ f.minute ∧ f.minute ≤ 59) ∧ 0 ≤ f.second ∧ f.second ≤ 60 :=
  ⟨month_of_isDate h.date, ⟨h.date.1, Nat.le_trans h.date.2 (monthLength_le f.year f.month)⟩, ⟨Nat.zero_le _, h.hour⟩,
    ⟨Nat.zero_le _, h.minute⟩, Nat.zero_le _, h.second⟩

/-- What has been read to the end is a moment if and only if that moment has these fields. -/
theorem heldMoment?_fields {f : Fields} (hsecond : f.second ≤ 60) {m : Moment} :
    heldMoment? f.year f.month f.day f.hour f.minute (min f.second 59) = some m ↔
      f.Real ∧ calendarHolds f.year = true ∧ f.ShownBy m := by
  rw [heldMoment?_eq_some_iff]
  constructor
  · rintro ⟨hheld, ⟨hyear, hmonth, hday⟩, hhour, hminute, hmin⟩
    have hdate := m.date.isDate
    have hclock := m.clock.isClock
    rw [hyear, hmonth, hday] at hdate
    exact ⟨⟨hdate, by omega, by omega, hsecond⟩, hheld, ⟨hyear, hmonth, hday, hhour, hminute, hmin⟩⟩
  · rintro ⟨-, hheld, hshown⟩
    exact ⟨hheld, ⟨hshown.year, hshown.month, hshown.day⟩, hshown.hour, hshown.minute, hshown.second⟩

/-- **A text is read as a moment if and only if it spells fields that this moment has.** -/
theorem readMoment_eq_ok_iff {cs : List Char} {m : Moment} :
    readMoment cs = .ok m ↔
      ∃ f : Fields, f.SpelledBy cs ∧ f.Real ∧ calendarHolds f.year = true ∧ f.ShownBy m := by
  simp only [readMoment, bind_eq_ok_iff, Prod.exists, mark_eq_ok_iff]
  constructor
  · rintro ⟨year, _, hyear, _, rfl, month, _, hmonth, _, rfl, day, _, hday, _, rfl, hour, _, hhour, _, rfl, minute, _,
      hminute, _, rfl, second, _, hsecond, rest, rfl, hend⟩
    obtain ⟨⟨_, tyear, rfl⟩, -⟩ := (yearField_eq_ok_iff (by decide)).1 hyear
    obtain ⟨⟨_, tmonth, rfl⟩, -⟩ := (field_eq_ok_iff (by decide)).1 hmonth
    obtain ⟨⟨_, tday, rfl⟩, -⟩ := (field_eq_ok_iff (by decide)).1 hday
    obtain ⟨⟨_, thour, rfl⟩, -⟩ := (field_eq_ok_iff (by decide)).1 hhour
    obtain ⟨⟨_, tminute, rfl⟩, -⟩ := (field_eq_ok_iff (by decide)).1 hminute
    obtain ⟨⟨_, tsecond, rfl⟩, -, hle⟩ := (field_eq_ok_iff (by decide)).1 hsecond
    split at hend
    · next hrest =>
      obtain rfl := List.isEmpty_iff.1 hrest
      split at hend
      · next m' hmoment =>
        obtain rfl := Except.ok.inj hend
        exact ⟨⟨year, month, day, hour, minute, second⟩, .parts tyear tmonth tday thour tminute tsecond,
          (heldMoment?_fields (f := ⟨year, month, day, hour, minute, second⟩) hle).1 hmoment⟩
      · cases hend
    · cases hend
  · rintro ⟨f, ⟨hyear, hmonth, hday, hhour, hminute, hsecond⟩, hreal, hheld, hshown⟩
    obtain ⟨rmonth, rday, rhour, rminute, rsecond⟩ := hreal.ranges
    have ryear : -2147483648 ≤ f.year ∧ f.year < 2147483648 := by
      rw [calendarHolds, Bool.and_eq_true, decide_eq_true_eq, decide_eq_true_eq] at hheld
      omega
    refine ⟨f.year, _, (yearField_eq_ok_iff (by decide)).2 ⟨⟨_, hyear, rfl⟩, ryear⟩, _, rfl,
      f.month, _, (field_eq_ok_iff (by decide)).2 ⟨⟨_, hmonth, rfl⟩, rmonth⟩, _, rfl,
      f.day, _, (field_eq_ok_iff (by decide)).2 ⟨⟨_, hday, rfl⟩, rday⟩, _, rfl,
      f.hour, _, (field_eq_ok_iff (by decide)).2 ⟨⟨_, hhour, rfl⟩, rhour⟩, _, rfl,
      f.minute, _, (field_eq_ok_iff (by decide)).2 ⟨⟨_, hminute, rfl⟩, rminute⟩, _, rfl,
      f.second, _, (field_eq_ok_iff (by decide)).2 ⟨⟨_, hsecond, rfl⟩, rsecond⟩, _, rfl, ?_⟩
    rw [(heldMoment?_fields hreal.second).2 ⟨hreal, hheld, hshown⟩]
    rfl

theorem Fields.Real.exists_shownBy {f : Fields} (h : f.Real) : ∃ m, f.ShownBy m := by
  have hhour := h.hour
  have hminute := h.minute
  exact ⟨⟨⟨f.year, f.month, f.day, h.date⟩, ⟨f.hour, f.minute, min f.second 59, by omega⟩⟩, rfl, rfl, rfl, rfl, rfl, rfl⟩

theorem calendarHolds_of_inRange {year : Int} (h : 1 ≤ year ∧ year ≤ 9999) : calendarHolds year = true := by
  rw [calendarHolds, Bool.and_eq_true, decide_eq_true_eq, decide_eq_true_eq]
  omega

section Read

variable {cs : List Char}

theorem read_eq_ok_iff {t : Timestamp} : read cs = .ok t ↔ readMoment cs = .ok t.moment := by
  rw [read]
  cases readMoment cs with
  | error e => simp
  | ok m =>
    show ofMoment m = .ok t ↔ _
    rw [Except.ok.injEq]
    constructor
    · intro h
      rw [ofMoment] at h
      split at h <;> cases h
      rfl
    · rintro rfl
      exact dif_pos t.inRange

theorem read_eq_outOfRange_iff {year : Int} :
    read cs = .error (.outOfRange year) ↔
      ∃ m, readMoment cs = .ok m ∧ ¬(1 ≤ m.date.year ∧ m.date.year ≤ 9999) ∧ m.date.year = year := by
  rw [read]
  cases readMoment cs with
  | error e => simp
  | ok m =>
    simp only [Except.ok.injEq, exists_eq_left', ofMoment]
    by_cases h : 1 ≤ m.date.year ∧ m.date.year ≤ 9999
    · simp [h]
    · simp [h]

theorem read_eq_unreadable_iff {fault : ReadFault} :
    read cs = .error (.unreadable fault) ↔ readMoment cs = .error fault := by
  rw [read]
  cases readMoment cs with
  | error e => simp
  | ok m =>
    simp only [ofMoment, reduceCtorEq, iff_false]
    split <;> simp

end Read

/-- **The language of timestamps is exact.**  A text is read as a timestamp if and only if it spells the fields of a date
and a time of day in the years 1 to 9999, and then the timestamp has these fields, a leap second apart, which is the second
before it.  It is out of range, with its year, just if it spells those of another year that the calendar holds, and it is
unreadable in every other case. -/
theorem read_exact (cs : List Char) :
    (∀ t, read cs = .ok t ↔
      ∃ f : Fields, f.SpelledBy cs ∧ f.Real ∧ (1 ≤ f.year ∧ f.year ≤ 9999) ∧ f.ShownBy t.moment) ∧
    (∀ year, read cs = .error (.outOfRange year) ↔
      ∃ f : Fields, f.SpelledBy cs ∧ f.Real ∧ calendarHolds f.year = true ∧ ¬(1 ≤ f.year ∧ f.year ≤ 9999) ∧
        f.year = year) ∧
    ((∃ fault, read cs = .error (.unreadable fault)) ↔
      ¬∃ f : Fields, f.SpelledBy cs ∧ f.Real ∧ calendarHolds f.year = true) := by
  refine ⟨fun t => ?_, fun year => ?_, ?_⟩
  · rw [read_eq_ok_iff, readMoment_eq_ok_iff]
    constructor
    · rintro ⟨f, hspelled, hreal, -, hshown⟩
      exact ⟨f, hspelled, hreal, hshown.year ▸ t.inRange, hshown⟩
    · rintro ⟨f, hspelled, hreal, hyear, hshown⟩
      exact ⟨f, hspelled, hreal, calendarHolds_of_inRange hyear, hshown⟩
  · rw [read_eq_outOfRange_iff]
    constructor
    · rintro ⟨m, hm, hyear, rfl⟩
      obtain ⟨f, hspelled, hreal, hheld, hshown⟩ := readMoment_eq_ok_iff.1 hm
      rw [hshown.year] at hyear ⊢
      exact ⟨f, hspelled, hreal, hheld, hyear, rfl⟩
    · rintro ⟨f, hspelled, hreal, hheld, hyear, rfl⟩
      obtain ⟨m, hshown⟩ := hreal.exists_shownBy
      refine ⟨m, readMoment_eq_ok_iff.2 ⟨f, hspelled, hreal, hheld, hshown⟩, ?_⟩
      rw [hshown.year]
      exact ⟨hyear, rfl⟩
  · simp only [read_eq_unreadable_iff]
    constructor
    · rintro ⟨fault, hfault⟩ ⟨f, hspelled, hreal, hheld⟩
      obtain ⟨m, hshown⟩ := hreal.exists_shownBy
      rw [readMoment_eq_ok_iff.2 ⟨f, hspelled, hreal, hheld, hshown⟩] at hfault
      cases hfault
    · intro hnone
      cases hm : readMoment cs with
      | error fault => exact ⟨fault, rfl⟩
      | ok m =>
        obtain ⟨f, hspelled, hreal, hheld, -⟩ := readMoment_eq_ok_iff.1 hm
        exact absurd ⟨f, hspelled, hreal, hheld⟩ hnone

/-- A sign allows for any number of zeros, and the leap second is the second before it. -/
example : (read "+0002016-12-31T 23:59:60Z".toList).toOption.map text = some "2016-12-31T23:59:59Z".toList := by
  decide +kernel

end Timestamp
end ConfigService
