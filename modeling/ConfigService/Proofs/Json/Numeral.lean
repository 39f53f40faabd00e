import ConfigService.Json.Scanner
import ConfigService.Proofs.Json.Literal
/-!
# Numeral — a written number is read back

A number does not close itself, so it is read back only where the text after it cannot go on with it (`EndsNumeral`);
what stands after a value in a document, a comma, a bracket or nothing, never can.  That numerals are `Proper` is what
their reader needs, and all that come about are: those of integers, of finite floats and those that have been read.
-/
namespace ConfigService
namespace Json

/-! ## Digits -/

/-- No digit stands at the front of a text. -/
def EndsDigits (t : Text) : Prop := ∀ s ∈ t.head?, isDigit s = false

/-- Nothing stands at the front of a text that could go on with a number. -/
def EndsNumeral (t : Text) : Prop :=
  ∀ s ∈ t.head?, isDigit s = false ∧ s ≠ .char '.' ∧ s ≠ .char 'e' ∧ s ≠ .char 'E'

theorem EndsNumeral.endsDigits {t : Text} (h : EndsNumeral t) : EndsDigits t := fun s hs => (h s hs).1

theorem endsDigits_cons {s : Symbol} (h : isDigit s = false) (t : Text) : EndsDigits (s :: t) := by
  intro u hu
  cases hu
  exact h

theorem endsNumeral_nil : EndsNumeral [] := fun _ hs => nomatch hs

/-- A comma or a bracket cannot go on with a number. -/
theorem endsNumeral_cons {c : Char} (h : c ∈ [',', ']', '}']) (t : Text) : EndsNumeral (.char c :: t) := by
  intro s hs
  cases hs
  simp only [List.mem_cons, List.not_mem_nil, or_false] at h
  rcases h with rfl | rfl | rfl <;> decide

theorem leadingDigits_of_endsDigits {t : Text} (h : EndsDigits t) : leadingDigits t = [] := by
  cases t with
  | nil => rfl
  | cons s t => simp [leadingDigits, h s rfl]

theorem skipDigits_of_endsDigits {t : Text} (h : EndsDigits t) : skipDigits t = t := by
  cases t with
  | nil => rfl
  | cons s t => simp [skipDigits, h s rfl]

theorem leadingDigits_append {ds : List Char} (hd : ∀ c ∈ ds, c.isDigit = true) {rest : Text} (hr : EndsDigits rest) :
    leadingDigits (Text.ofChars ds ++ rest) = ds := by
  induction ds with
  | nil => exact leadingDigits_of_endsDigits hr
  | cons c ds ih =>
    have hc : isDigit (.char c) = true := hd c List.mem_cons_self
    have := ih fun d h => hd d (List.mem_cons_of_mem c h)
    simp only [leadingDigits] at this ⊢
    simp [hc, char?, this]

theorem skipDigits_append {ds : List Char} (hd : ∀ c ∈ ds, c.isDigit = true) {rest : Text} (hr : EndsDigits rest) :
    skipDigits (Text.ofChars ds ++ rest) = rest := by
  induction ds with
  | nil => exact skipDigits_of_endsDigits hr
  | cons c ds ih =>
    have hc : isDigit (.char c) = true := hd c List.mem_cons_self
    have := ih fun d h => hd d (List.mem_cons_of_mem c h)
    simp only [skipDigits] at this ⊢
    simp [hc, this]

theorem isDigit_of_mem_leadingDigits {t : Text} {c : Char} (h : c ∈ leadingDigits t) : c.isDigit = true := by
  obtain ⟨s, hs, hc⟩ := List.mem_filterMap.1 h
  have hd : isDigit s = true := List.all_eq_true.1 List.all_takeWhile s hs
  cases s with
  | stray b => cases hc
  | char d =>
    cases hc
    exact hd

/-! ## The parts of a number -/

variable (report : DigitReport)

theorem readWhole_append {ds : List Char} (hd : ∀ c ∈ ds, c.isDigit = true) (hne : ds ≠ [])
    (hz : ds.head? = some '0' → ds = ['0']) {rest : Text} (hr : EndsDigits rest) :
    readWhole report (Text.ofChars ds ++ rest) = .ok (ds, rest) := by
  cases ds with
  | nil => exact absurd rfl hne
  | cons c cs =>
    by_cases hc : c = '0'
    · subst hc
      cases hz rfl
      simp [readWhole, leadingDigits_of_endsDigits hr]
    · have hl := leadingDigits_append hd hr
      have hs := skipDigits_append hd hr
      rw [Text.ofChars_cons, List.cons_append] at hl hs ⊢
      unfold readWhole
      split
      · next rest' h =>
        cases h
        exact absurd rfl hc
      · rw [hl, hs]
        rfl

/-- The text of a fraction with its point. -/
def fractionText (ds : List Char) : List Char := if ds = [] then [] else '.' :: ds

/-- The text of an exponent that may be absent. -/
def exponentText : Option Exponent → List Char
  | none => []
  | some e => e.text

theorem Numeral.text_eq (n : Numeral) :
    n.text = (if n.negative then ['-'] else []) ++ (n.whole ++ (fractionText n.fraction ++ exponentText n.exponent)) := by
  obtain ⟨negative, whole, fraction, exponent⟩ := n
  cases exponent <;> simp only [Numeral.text, fractionText, exponentText, List.append_assoc]

theorem readFraction_append {ds : List Char} (hd : ∀ c ∈ ds, c.isDigit = true) {rest : Text} (hr : EndsDigits rest)
    (hp : ∀ s ∈ rest.head?, s ≠ .char '.') :
    readFraction report (Text.ofChars (fractionText ds) ++ rest) = .ok (ds, rest) := by
  by_cases h : ds = []
  · subst h
    cases rest with
    | nil => rfl
    | cons s t =>
      have hs := hp s rfl
      show readFraction report (s :: t) = _
      unfold readFraction
      split
      · next rest' heq =>
        cases heq
        exact absurd rfl hs
      · rfl
  · rw [fractionText, if_neg h, Text.ofChars_cons, List.cons_append, readFraction, leadingDigits_append hd hr,
      skipDigits_append hd hr, if_neg (by simpa using h)]

theorem readExponent_append {e : Option Exponent} (he : ∀ x ∈ e, x.digits ≠ [] ∧ ∀ c ∈ x.digits, c.isDigit = true)
    {rest : Text} (hr : EndsNumeral rest) :
    readExponent report (Text.ofChars (exponentText e) ++ rest) = .ok (e, rest) := by
  cases e with
  | none =>
    cases rest with
    | nil => rfl
    | cons s t =>
      obtain ⟨-, -, hse, hsE⟩ := hr s rfl
      show readExponent report (s :: t) = _
      unfold readExponent
      split
      · next rest' heq =>
        cases heq
        exact absurd rfl hse
      · next rest' heq =>
        cases heq
        exact absurd rfl hsE
      · rfl
  | some x =>
    obtain ⟨hne, hd⟩ := he x rfl
    have hl := leadingDigits_append hd hr.endsDigits
    have hs := skipDigits_append hd hr.endsDigits
    obtain ⟨negative, ds⟩ := x
    have hds : ds.isEmpty = false := by simpa using hne
    simp only at hl hs
    cases negative <;> simp [exponentText, Exponent.text, readExponent, readSign, hl, hs, hds]

/-! ## The whole number -/

theorem endsDigits_exponentText (e : Option Exponent) {rest : Text} (hr : EndsNumeral rest) :
    EndsDigits (Text.ofChars (exponentText e) ++ rest) := by
  cases e with
  | none => exact hr.endsDigits
  | some x => exact endsDigits_cons rfl _

theorem endsDigits_fractionText (ds : List Char) {rest : Text} (hr : EndsDigits rest) :
    EndsDigits (Text.ofChars (fractionText ds) ++ rest) := by
  by_cases h : ds = []
  · rw [fractionText, if_pos h]
    exact hr
  · rw [fractionText, if_neg h]
    exact endsDigits_cons rfl _

theorem head?_exponentText_ne (e : Option Exponent) {rest : Text} (hr : EndsNumeral rest) :
    ∀ s ∈ (Text.ofChars (exponentText e) ++ rest).head?, s ≠ .char '.' := by
  cases e with
  | none => exact fun s hs => (hr s hs).2.1
  | some x =>
    intro s hs
    cases hs
    decide

variable {n : Numeral}

/-- The digits of a number are read up to its exponent, however that is spelled. -/
theorem readUnsigned_parts (hn : n.Proper) {ends rest : Text}
    (hexponent : readExponent report ends = .ok (n.exponent, rest)) (hdigits : EndsDigits ends)
    (hpoint : ∀ s ∈ ends.head?, s ≠ .char '.') :
    readUnsigned report n.negative (Text.ofChars n.whole ++ (Text.ofChars (fractionText n.fraction) ++ ends)) =
      .ok (n, rest) := by
  have hw : ∀ c ∈ n.whole, c.isDigit = true := fun c h => hn.digits c (List.mem_append_left _ h)
  have hf : ∀ c ∈ n.fraction, c.isDigit = true := fun c h => hn.digits c (List.mem_append_right _ h)
  rw [readUnsigned, readWhole_append report hw hn.whole_ne hn.leading (endsDigits_fractionText n.fraction hdigits)]
  simp only
  rw [readFraction_append report hf hdigits hpoint]
  simp only
  rw [hexponent]

theorem exists_whole_eq_cons (hn : n.Proper) : ∃ c cs, n.whole = c :: cs ∧ c.isDigit = true := by
  cases h : n.whole with
  | nil => exact absurd h hn.whole_ne
  | cons c cs => exact ⟨c, cs, rfl, hn.digits c (by simp [h])⟩

/-- A number begins with its sign or with a digit. -/
theorem exists_text_eq_cons (hn : n.Proper) : ∃ c cs, n.text = c :: cs ∧ (c = '-' ∨ c.isDigit = true) := by
  obtain ⟨c, cs, hw, hc⟩ := exists_whole_eq_cons hn
  rw [Numeral.text_eq, hw]
  cases n.negative with
  | true => exact ⟨'-', _, rfl, .inl rfl⟩
  | false => exact ⟨c, _, rfl, .inr hc⟩

theorem readNumeral_parts (hn : n.Proper) {ends rest : Text}
    (hexponent : readExponent report ends = .ok (n.exponent, rest)) (hdigits : EndsDigits ends)
    (hpoint : ∀ s ∈ ends.head?, s ≠ .char '.') :
    readNumeral report (Text.ofChars (if n.negative then ['-'] else []) ++
      (Text.ofChars n.whole ++ (Text.ofChars (fractionText n.fraction) ++ ends))) = .ok (n, rest) := by
  have h := readUnsigned_parts report hn hexponent hdigits hpoint
  obtain ⟨c, cs, hw, hc⟩ := exists_whole_eq_cons hn
  cases hneg : n.negative with
  | true =>
    rw [hneg] at h
    exact h
  | false =>
    rw [hneg, hw] at h
    rw [hw]
    unfold readNumeral
    split
    · next rest' heq =>
      cases heq
      exact absurd hc (by decide)
    · exact h

/-- **A number is read back** wherever the text after it cannot go on with it. -/
theorem readNumeral_text (hn : n.Proper) {rest : Text} (hr : EndsNumeral rest) :
    readNumeral report (Text.ofChars n.text ++ rest) = .ok (n, rest) := by
  simp only [Numeral.text_eq, Text.ofChars_append, List.append_assoc]
  exact readNumeral_parts report hn (readExponent_append report hn.exponent hr) (endsDigits_exponentText n.exponent hr)
    (head?_exponentText_ne n.exponent hr)

/-- **A number shows where it ends** if what follows cannot go on with it. -/
theorem text_append_inj {m : Numeral} (hm : m.Proper) (hn : n.Proper) {cs ds : List Char}
    (hc : EndsNumeral (Text.ofChars cs)) (hd : EndsNumeral (Text.ofChars ds)) (h : m.text ++ cs = n.text ++ ds) :
    m = n ∧ cs = ds := by
  have hr := readNumeral_text .asked hm hc
  rw [← Text.ofChars_append, h, Text.ofChars_append, readNumeral_text .asked hn hd] at hr
  simp only [Except.ok.injEq, Prod.mk.injEq, Text.ofChars_inj] at hr
  exact ⟨hr.1.symm, hr.2.symm⟩

end Json
end ConfigService
