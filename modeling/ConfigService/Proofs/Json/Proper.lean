import ConfigService.Proofs.Json.Numeral
/-!
# Proper — every numeral that comes about is one of the grammar

Integers, finite floats and numbers that have been read all have a `Proper` numeral.  For a float this takes a fact about
its shortest decimal: the digits found for a positive float are those of a positive number, so that none of them is a
needless zero in front.
-/
namespace ConfigService

/-! ## Decimals -/

theorem head?_decimal_ne_zero (n : Nat) (h : 0 < n) : (decimal n).head? ≠ some '0' := by
  unfold decimal
  induction n using Nat.strongRecOn with
  | ind n ih =>
    rw [Nat.toDigits_eq_if (by decide)]
    split
    · next hlt =>
      have hne : ∀ n < 10, 0 < n → n.digitChar ≠ '0' := by decide
      simpa using hne n hlt h
    · next hge =>
      have := ih (n / 10) (by omega) (by omega)
      rwa [List.head?_append, Option.or_of_isSome (by simp)]

theorem decimal_ne_nil (n : Nat) : decimal n ≠ [] := Nat.toDigits_ne_nil

theorem decimal_eq_of_head? {n : Nat} (h : (decimal n).head? = some '0') : decimal n = ['0'] := by
  rcases Nat.eq_zero_or_pos n with rfl | hn
  · rfl
  · exact absurd h (head?_decimal_ne_zero n hn)

/-! ## Shortest decimals -/

namespace Shortest

/-- Zero lies in no interval whose lower end is positive. -/
theorem pos_of_inside {low high den k : Nat} {even : Prop} [Decidable even] (h0 : 0 < low)
    (h : (if even then decide (low ≤ k * den) && decide (k * den ≤ high)
      else decide (low < k * den) && decide (k * den < high)) = true) : 0 < k := by
  rcases Nat.eq_zero_or_pos k with rfl | hk
  · rw [Nat.zero_mul] at h
    split at h
    · simp only [Bool.and_eq_true, decide_eq_true_eq] at h
      omega
    · simp at h
  · exact hk

theorem quotient_fst_pos {n : Nat} (hn : 0 < n) (e g : Int) : 0 < (quotient n e g).1 :=
  Nat.mul_pos (Nat.mul_pos hn (Nat.pow_pos (by decide))) (Nat.pow_pos (by decide))

/-- A candidate for a positive float has positive digits. -/
theorem candidate?_digits_pos {significand : Nat} (hs : 0 < significand) {exponent first : Int} {narrow : Bool}
    {count : Nat} {d : ShortDecimal} (h : candidate? significand exponent narrow first count = some d) :
    0 < d.digits := by
  have hn : 0 < 4 * significand - if narrow = true then 1 else 2 := by split <;> omega
  have hlow := quotient_fst_pos hn (exponent - 2) (-(first - count + 1))
  simp only [candidate?] at h
  split at h
  · next hb _ =>
    cases h
    have := pos_of_inside hlow hb
    simp only
    split
    · exact this
    · exact Nat.succ_pos _
  · next hb _ =>
    cases h
    exact pos_of_inside hlow hb
  · cases h
    exact Nat.succ_pos _
  · cases h

theorem search_digits {significand : Nat} (hs : 0 < significand) {exponent first : Int} {narrow : Bool} (room : Nat) :
    ∀ count, 0 < (search significand exponent narrow first room count).digits ∨
      search significand exponent narrow first room count = ⟨0, 0⟩ := by
  induction room with
  | zero =>
    intro count
    rw [search]
    cases h : candidate? significand exponent narrow first count with
    | none => exact .inr rfl
    | some d => exact .inl (candidate?_digits_pos hs h)
  | succ room ih =>
    intro count
    rw [search]
    cases h : candidate? significand exponent narrow first count with
    | none => exact ih (count + 1)
    | some d => exact .inl (candidate?_digits_pos hs h)

theorem trim_digits_pos (room : Nat) : ∀ d : ShortDecimal, 0 < d.digits → 0 < (trim room d).digits := by
  induction room with
  | zero => exact fun d h => h
  | succ room ih =>
    intro d h
    rw [trim]
    split
    · exact ih _ (show 0 < d.digits / 10 by omega)
    · exact h

end Shortest

open Shortest in
/-- The shortest decimal of a positive float has positive digits.  Where no candidate were found, the digits would be a
zero that has been moved far to the left. -/
theorem shortest_digits {significand : Nat} (hs : 0 < significand) (exponent : Int) (narrow : Bool) :
    0 < (shortest significand exponent narrow).digits ∨ shortest significand exponent narrow = ⟨0, 17⟩ := by
  simp only [shortest]
  generalize magnitude (quotient significand exponent 0).1 (quotient significand exponent 0).2 = first
  rcases search_digits hs 16 1 with h | h
  · exact .inl (trim_digits_pos 17 _ h)
  · rw [h]
    exact .inr rfl

namespace Json

/-! ## Numerals of integers and floats -/

theorem proper_ofInt (i : Int) : (Numeral.ofInt i).Proper where
  digits c h := isDigit_of_mem_decimal (by simpa [Numeral.ofInt] using h)
  whole_ne := decimal_ne_nil _
  leading h := decimal_eq_of_head? h
  exponent _ h := nomatch h

theorem isDigit_of_mem_replicate {n : Nat} {c : Char} (h : c ∈ List.replicate n '0') : c.isDigit = true := by
  rw [List.eq_of_mem_replicate h]
  rfl

theorem proper_positionalForm (negative : Bool) {n : Nat} (hn : 0 < n) (first : Int) :
    (Numeral.positionalForm negative (decimal n) first).Proper := by
  unfold Numeral.positionalForm
  split
  · exact
      { digits := by
          intro c h
          simp only [List.cons_append, List.nil_append, List.mem_cons, List.mem_append] at h
          rcases h with rfl | h | h
          · rfl
          · exact isDigit_of_mem_replicate h
          · exact isDigit_of_mem_decimal h
        whole_ne := List.cons_ne_nil _ _
        leading := fun _ => rfl
        exponent := fun _ h => nomatch h }
  · obtain ⟨c, cs, hc⟩ := List.exists_cons_of_ne_nil (decimal_ne_nil n)
    have hc0 : c ≠ '0' := by
      have := head?_decimal_ne_zero n hn
      rw [hc] at this
      simpa using this
    have hwhole : (decimal n).take (first.toNat + 1) ++ List.replicate (first.toNat + 1 - (decimal n).length) '0' =
        c :: (cs.take first.toNat ++ List.replicate (first.toNat + 1 - (decimal n).length) '0') := by
      rw [hc, List.take_succ_cons, List.cons_append]
    exact
      { digits := by
          intro d h
          simp only [List.mem_append] at h
          rcases h with (h | h) | h
          · exact isDigit_of_mem_decimal (List.mem_of_mem_take h)
          · exact isDigit_of_mem_replicate h
          · split at h
            · rw [List.mem_singleton.1 h]
              rfl
            · exact isDigit_of_mem_decimal (List.mem_of_mem_drop h)
        whole_ne := by
          simp only [hwhole]
          exact List.cons_ne_nil _ _
        leading := by
          simp only [hwhole]
          intro h
          exact absurd (Option.some.inj h) hc0
        exponent := fun _ h => nomatch h }

theorem proper_scientificForm (negative : Bool) (n : Nat) (first : Int) :
    (Numeral.scientificForm negative (decimal n) first).Proper := by
  obtain ⟨c, cs, hc⟩ := List.exists_cons_of_ne_nil (decimal_ne_nil n)
  exact
    { digits := by
        intro d h
        simp only [Numeral.scientificForm, List.take_append_drop] at h
        exact isDigit_of_mem_decimal h
      whole_ne := by simp [Numeral.scientificForm, hc]
      leading := by simp [Numeral.scientificForm, hc]
      exponent := by
        intro e he
        cases he
        exact ⟨decimal_ne_nil _, fun _ h => isDigit_of_mem_decimal h⟩ }

/-- The numeral of a finite float is one of the grammar, in a layout that writes large numbers with an exponent. -/
theorem proper_ofBinary {layout : Positional} (hl : layout.high < 17) (negative : Bool) (significand : Nat)
    (exponent : Int) (narrow : Bool) : (Numeral.ofBinary layout negative significand exponent narrow).Proper := by
  unfold Numeral.ofBinary
  split
  · exact
      { digits := fun c h => by
          have : c = '0' := by simpa using h
          rw [this]
          rfl
        whole_ne := List.cons_ne_nil _ _
        leading := fun _ => rfl
        exponent := fun _ h => nomatch h }
  · next hs =>
    simp only
    split
    · next hfirst =>
      rcases shortest_digits (Nat.pos_of_ne_zero hs) exponent narrow with h | h
      · exact proper_positionalForm negative h _
      · rw [h] at hfirst
        have : ((decimal 0).length : Int) = 1 := rfl
        simp only [this] at hfirst
        omega
    · exact proper_scientificForm negative _ _

theorem proper_ofValue {layout : Positional} (hl : layout.high < 17) {v : BinaryValue} {n : Numeral}
    (h : Numeral.ofValue layout v = .ok n) : n.Proper := by
  cases v with
  | nan => cases h
  | infinite negative => cases h
  | finite negative significand exponent narrow =>
    cases h
    exact proper_ofBinary hl negative significand exponent narrow

/-! ## Numerals that have been read -/

variable {report : DigitReport} {t rest : Text}

theorem readWhole_ok {ds : List Char} (h : readWhole report t = .ok (ds, rest)) :
    (∀ c ∈ ds, c.isDigit = true) ∧ ds ≠ [] ∧ (ds.head? = some '0' → ds = ['0']) := by
  unfold readWhole at h
  split at h
  · split at h
    · cases h
      refine ⟨fun c hc => ?_, List.cons_ne_nil _ _, fun _ => rfl⟩
      rw [List.mem_singleton.1 hc]
      rfl
    · cases h
  · next hz =>
    split at h
    · cases h
    · next hne =>
      cases h
      refine ⟨fun c hc => isDigit_of_mem_leadingDigits hc, by simpa using hne, fun h0 => ?_⟩
      cases t with
      | nil => cases h0
      | cons s t =>
        cases s with
        | stray b => simp [leadingDigits, isDigit] at h0
        | char c =>
          by_cases hc : c.isDigit = true
          · have : c = '0' := by simpa [leadingDigits, isDigit, char?, hc] using h0
            subst this
            exact absurd rfl (hz t)
          · simp [leadingDigits, isDigit, hc] at h0

theorem readFraction_ok {ds : List Char} (h : readFraction report t = .ok (ds, rest)) :
    ∀ c ∈ ds, c.isDigit = true := by
  unfold readFraction at h
  split at h
  · split at h
    · cases h
    · cases h
      exact fun c hc => isDigit_of_mem_leadingDigits hc
  · cases h
    exact fun c hc => nomatch hc

theorem readExponent_ok {e : Option Exponent} (h : readExponent report t = .ok (e, rest)) :
    ∀ x ∈ e, x.digits ≠ [] ∧ ∀ c ∈ x.digits, c.isDigit = true := by
  have hdigits : ∀ u : Text, (if (leadingDigits (readSign u).2).isEmpty = true
      then .error (missingDigit report (readSign u).2)
      else .ok (some ⟨(readSign u).1, leadingDigits (readSign u).2⟩, skipDigits (readSign u).2)) =
        (Except.ok (e, rest) : Taken (Option Exponent)) →
      ∀ x ∈ e, x.digits ≠ [] ∧ ∀ c ∈ x.digits, c.isDigit = true := by
    intro u hu x hx
    split at hu
    · cases hu
    · next hne =>
      cases hu
      cases hx
      exact ⟨by simpa using hne, fun c hc => isDigit_of_mem_leadingDigits hc⟩
  unfold readExponent at h
  split at h
  · exact hdigits _ h
  · exact hdigits _ h
  · cases h
    exact fun x hx => nomatch hx

theorem readUnsigned_ok {negative : Bool} {n : Numeral} (h : readUnsigned report negative t = .ok (n, rest)) :
    n.Proper := by
  unfold readUnsigned at h
  split at h
  · cases h
  · next hw =>
    split at h
    · cases h
    · next hf =>
      split at h
      · cases h
      · next he =>
        cases h
        obtain ⟨hd, hne, hz⟩ := readWhole_ok hw
        exact
          { digits := fun c hc => (List.mem_append.1 hc).elim (hd c) (readFraction_ok hf c)
            whole_ne := hne
            leading := hz
            exponent := readExponent_ok he }

/-- **A number that has been read is one of the grammar.** -/
theorem readNumeral_ok {n : Numeral} (h : readNumeral report t = .ok (n, rest)) : n.Proper := by
  unfold readNumeral at h
  split at h <;> exact readUnsigned_ok h

end Json
end ConfigService
