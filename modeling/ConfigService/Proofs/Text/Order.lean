import Mathlib.Data.String.Basic
/-!
# Order — texts in the order of their characters, and of their bytes

Two texts are in the order of the first place at which they differ.  Where the parts of texts have a fixed width, the texts
are in the order of the first part that differs (`append_lt_append_iff`).  In UTF-8 the parts are the characters: their
bytes have no fixed width, but they are in the order of their code points whatever comes after them
(`utf8EncodeChar_append_lt`), so it is all one whether texts are compared by their characters or by their bytes
(`utf8_lt_iff`).
-/
namespace ConfigService

section Lists

variable {α : Type} [LT α]

/-- A common beginning does not matter. -/
theorem append_lt_append_left_iff [Std.Irrefl (fun a b : α => a < b)] {xs us vs : List α} : xs ++ us < xs ++ vs ↔ us < vs := by
  induction xs with
  | nil => rfl
  | cons x xs ih =>
    rw [List.cons_append, List.cons_append, List.cons_lt_cons_iff, ih]
    simp [Std.Irrefl.irrefl (r := fun a b : α => a < b) x]

/-- Behind beginnings of one length, the texts decide only if the beginnings are the same. -/
theorem append_lt_append_iff {xs ys us vs : List α} (h : xs.length = ys.length) :
    xs ++ us < ys ++ vs ↔ xs < ys ∨ xs = ys ∧ us < vs := by
  induction xs generalizing ys with
  | nil =>
    cases ys with
    | nil => simp
    | cons y ys => cases h
  | cons x xs ih =>
    cases ys with
    | nil => cases h
    | cons y ys =>
      rw [List.cons_append, List.cons_append, List.cons_lt_cons_iff, List.cons_lt_cons_iff, ih (Nat.succ.inj h),
        List.cons.injEq]
      constructor
      · rintro (hlt | ⟨rfl, hlt | ⟨rfl, hlt⟩⟩)
        · exact .inl (.inl hlt)
        · exact .inl (.inr ⟨rfl, hlt⟩)
        · exact .inr ⟨⟨rfl, rfl⟩, hlt⟩
      · rintro ((hlt | ⟨rfl, hlt⟩) | ⟨⟨rfl, rfl⟩, hlt⟩)
        · exact .inl hlt
        · exact .inr ⟨rfl, .inl hlt⟩
        · exact .inr ⟨rfl, .inr ⟨rfl, hlt⟩⟩

end Lists

/-! ## UTF-8 -/

theorem ofNat_lt_ofNat_iff {m n : Nat} (hm : m < 256) (hn : n < 256) : UInt8.ofNat m < UInt8.ofNat n ↔ m < n := by
  rw [UInt8.lt_iff_toNat_lt, UInt8.toNat_ofNat_of_lt' hm, UInt8.toNat_ofNat_of_lt' hn]

theorem ofNat_eq_ofNat_iff {m n : Nat} (hm : m < 256) (hn : n < 256) : UInt8.ofNat m = UInt8.ofNat n ↔ m = n := by
  rw [← UInt8.toNat_inj, UInt8.toNat_ofNat_of_lt' hm, UInt8.toNat_ofNat_of_lt' hn]

/-- Numbers are in the order of their last digit to the base 64 if what stands before it is the same. -/
theorem lt_iff_base64 {m n : Nat} : m < n ↔ m / 64 < n / 64 ∨ m / 64 = n / 64 ∧ m % 64 < n % 64 := by
  omega

theorem eq_iff_base64 {m n : Nat} : m = n ↔ m / 64 = n / 64 ∧ m % 64 = n % 64 := by
  omega

/-- Numbers are in the order of their digits to the base 64. -/
theorem lt_iff_digits64 {m n : Nat} :
    m < n ↔ m / 262144 < n / 262144 ∨ m / 262144 = n / 262144 ∧ (m / 4096 % 64 < n / 4096 % 64 ∨
      m / 4096 % 64 = n / 4096 % 64 ∧ (m / 64 % 64 < n / 64 % 64 ∨ m / 64 % 64 = n / 64 % 64 ∧ m % 64 < n % 64)) := by
  rw [lt_iff_base64 (m := m), lt_iff_base64 (m := m / 64), eq_iff_base64 (m := m / 64), lt_iff_base64 (m := m / 64 / 64),
    eq_iff_base64 (m := m / 64 / 64)]
  simp only [Nat.div_div_eq_div_mul, Nat.reduceMul]
  tauto

/-- **The bytes of a smaller character come first**, whatever comes after it.  A longer form begins with a greater byte,
and forms of one length hold the digits of the code point to the base 64. -/
theorem utf8EncodeChar_append_lt {c d : Char} (h : c < d) (us vs : List UInt8) :
    String.utf8EncodeChar c ++ us < String.utf8EncodeChar d ++ vs := by
  have hlt : c.val.toNat < d.val.toNat := h
  have hd : d.val.toNat < 1114112 := by
    have := d.valid
    unfold UInt32.isValidChar Nat.isValidChar at this
    omega
  unfold String.utf8EncodeChar
  dsimp only
  generalize c.val.toNat = m at hlt ⊢
  generalize d.val.toNat = n at hlt hd ⊢
  by_cases hm : m ≤ 65535
  · split_ifs <;>
      simp (disch := omega) only [List.cons_append, List.nil_append, List.cons_lt_cons_iff, ofNat_lt_ofNat_iff,
        ofNat_eq_ofNat_iff] <;>
      omega
  · have hm8 : m / 262144 % 8 = m / 262144 := by omega
    have hn8 : n / 262144 % 8 = n / 262144 := by omega
    simp (disch := omega) only [if_neg, List.cons_append, List.nil_append, List.cons_lt_cons_iff, ofNat_lt_ofNat_iff,
      ofNat_eq_ofNat_iff, hm8, hn8, Nat.add_lt_add_iff_right, Nat.add_right_cancel_iff]
    rw [lt_iff_digits64] at hlt
    tauto

theorem flatMap_utf8EncodeChar_lt_iff : ∀ cs ds : List Char,
    cs.flatMap String.utf8EncodeChar < ds.flatMap String.utf8EncodeChar ↔ cs < ds
  | [], [] => by simp
  | [], d :: ds => by
    obtain ⟨b, bs, hb⟩ := List.exists_cons_of_ne_nil (String.utf8EncodeChar_ne_nil (c := d))
    simp [List.flatMap_cons, hb]
  | c :: cs, [] => by simp
  | c :: cs, d :: ds => by
    rw [List.flatMap_cons, List.flatMap_cons, List.cons_lt_cons_iff]
    rcases lt_trichotomy c d with h | rfl | h
    · exact iff_of_true (utf8EncodeChar_append_lt h _ _) (.inl h)
    · rw [append_lt_append_left_iff, flatMap_utf8EncodeChar_lt_iff cs ds]
      simp
    · have hnot : ¬(c < d ∨ c = d ∧ cs < ds) := by
        rintro (hlt | ⟨rfl, -⟩)
        · exact lt_asymm h hlt
        · exact lt_irrefl c h
      exact iff_of_false (List.lt_asymm (utf8EncodeChar_append_lt h _ _)) hnot

/-- **The order of texts by their characters is that by their bytes in UTF-8.** -/
theorem utf8_lt_iff (s t : String) : s.toUTF8.data.toList < t.toUTF8.data.toList ↔ s < t := by
  have hbytes : ∀ u : String, u.toUTF8.data.toList = u.toList.flatMap String.utf8EncodeChar := fun u => by
    rw [String.toUTF8_eq_toByteArray, ← String.utf8Encode_toList, List.utf8Encode, List.toList_data_toByteArray]
  rw [hbytes, hbytes, flatMap_utf8EncodeChar_lt_iff, String.lt_iff_toList_lt]

end ConfigService
