import ConfigService.Json.Scalar
import ConfigService.Proofs.Json.RoundTrip
/-!
# Scalar — values of a known kind are read back

A string, a truth value, a count and a timestamp are each read back from the way they are written, and so is a value that
may be absent: only `null` begins like an absent one (`readOptional_print`).  A count has no more than 64 bits, so its
digits are read to the end.
-/
namespace ConfigService
namespace Json

/-- A field's value is read back wherever the text after it cannot go on with a number. -/
def FieldReadsBack {α : Type} (item : Text → FieldTaken α) (cs : List Char) (a : α) : Prop :=
  ∀ rest, EndsNumeral rest → item (Text.ofChars cs ++ rest) = .ok (a, rest)

theorem readString_literal (s : String) (rest : Text) : readString (Text.ofChars (literal s) ++ rest) = .ok (s, rest) :=
  readLiteral_literal s rest

theorem readBool_print (sortKeys b : Bool) (rest : Text) :
    readBool (Text.ofChars ((Value.bool b).print sortKeys) ++ rest) = .ok (b, rest) := by
  cases b <;> rfl

/-! ## Counts -/

/-- **A count is a number without a sign, a fraction and an exponent that a word holds.** -/
theorem countOf_eq_ok_iff {n : Numeral} {rest : Text} {size : UInt64} : countOf n rest = .ok size ↔
    (n.fraction = [] ∧ n.exponent = none) ∧ n.negative = false ∧ ∃ m, n.word? = some m ∧ UInt64.ofNat m = size := by
  unfold countOf
  extract_lets asFloat
  by_cases hwhole : n.fraction = [] ∧ n.exponent = none
  · rw [if_pos hwhole]
    cases hword : n.word? with
    | none => simp
    | some m =>
      cases hsign : n.negative with
      | false => simp [hwhole]
      | true =>
        simp only [not_true_eq_false, if_false]
        split <;> simp
  · simp [hwhole]

theorem word?_ofInt (n : UInt64) : (Numeral.ofInt n.toNat).word? = some n.toNat := by
  have hdigits : ofDigits (Numeral.ofInt n.toNat).whole = n.toNat := ofDigits_decimal n.toNat
  rw [Numeral.word?, ofDigitsBelow?_eq (by decide), hdigits, if_pos n.toNat_lt]

theorem countOf_ofInt (n : UInt64) (rest : Text) : countOf (Numeral.ofInt n.toNat) rest = .ok n := by
  have hsign : (Numeral.ofInt n.toNat).negative = false := by simp [Numeral.ofInt]
  rw [countOf, if_pos ⟨rfl, rfl⟩, word?_ofInt]
  simp only [hsign]
  rw [if_pos Bool.false_ne_true, UInt64.ofNat_toNat]

theorem readCount_print (n : UInt64) : ReadsBack readCount (Numeral.ofInt n.toNat).text n := by
  intro rest hrest
  have h := readNumeral_text .asked (proper_ofInt n.toNat) hrest
  obtain ⟨c, cs, hcs, hc⟩ := startsNumber_text (proper_ofInt n.toNat)
  rw [hcs, Text.ofChars_cons, List.cons_append] at h ⊢
  rw [readCount, skipGap_cons (isGap_of_startsNumber hc)]
  simp only [if_pos hc, h, countOf_ofInt]
  rfl

/-! ## Fields -/

theorem plainly_readsBack {α : Type} {item : Text → Taken α} {cs : List Char} {a : α} (h : ReadsBack item cs a) :
    FieldReadsBack (plainly item) cs a := by
  intro rest hrest
  rw [plainly, h rest hrest]

theorem readTimestamp_literal (t : Timestamp) : FieldReadsBack readTimestamp (literal (toString t)) t := by
  intro rest _
  have htext : (toString t).toList = t.text := String.toList_ofList
  rw [readTimestamp, readString_literal]
  simp only [htext, Timestamp.read_text]

theorem readOptional_null {α : Type} (item : Text → FieldTaken α) (rest : Text) :
    readOptional item (Text.ofChars ['n', 'u', 'l', 'l'] ++ rest) = .ok (none, rest) := rfl

/-- What does not begin like `null` is there. -/
theorem readOptional_some {α : Type} {item : Text → FieldTaken α} {c : Char} {cs : List Char} {a : α}
    (hgap : isGap (.char c) = false) (hnull : c ≠ 'n') (h : FieldReadsBack item (c :: cs) a) :
    FieldReadsBack (readOptional item) (c :: cs) (some a) := by
  intro rest hrest
  have hitem := h rest hrest
  rw [Text.ofChars_cons, List.cons_append] at hitem ⊢
  rw [readOptional, skipGap_cons hgap]
  split
  · next heq =>
    cases heq
    exact absurd rfl hnull
  · rw [hitem]

end Json
end ConfigService
