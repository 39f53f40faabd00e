import ConfigService.Proofs.Json.Lawful
import ConfigService.Settings.Setting
/-!
# Value — the values that texts spell

Reading a number stops at the first digit that takes it over its bound; as more digits never make it smaller, what is read
is what all digits spell, if that is within the bound (`digitsUpTo_eq_ok`).  A text is read as the one value it spells.
-/
namespace ConfigService

open Variables

theorem digitsUpTo_eq_ok {bound n : Nat} : ∀ (cs : List Char) {value : Nat}, value < bound →
    (digitsUpTo bound value cs = .ok n ↔
      (∀ c ∈ cs, c.isDigit = true) ∧ Nat.ofDigitChars 10 cs value = n ∧ n < bound)
  | [], value, hvalue => by
    have hread : digitsUpTo bound value [] = .ok value := rfl
    rw [hread, Except.ok.injEq]
    constructor
    · rintro rfl
      exact ⟨fun c hc => absurd hc List.not_mem_nil, rfl, hvalue⟩
    · rintro ⟨-, h, -⟩
      exact h
  | c :: cs, value, hvalue => by
    have hnext : Nat.ofDigitChars 10 (c :: cs) value = Nat.ofDigitChars 10 cs (value * 10 + digitValue c) := by
      rw [Nat.ofDigitChars_cons, Nat.mul_comm 10 value]
      rfl
    rw [digitsUpTo, hnext, List.forall_mem_cons]
    by_cases hc : c.isDigit = true
    · rw [if_pos hc]
      by_cases hbound : value * 10 + digitValue c < bound
      · rw [if_pos hbound, digitsUpTo_eq_ok cs hbound]
        simp only [hc, true_and]
      · -- the number is too large by now, and more digits make it no smaller
        rw [if_neg hbound]
        constructor
        · intro h
          cases h
        · rintro ⟨-, rfl, hlt⟩
          exact absurd (Nat.lt_of_le_of_lt (le_ofDigitChars cs _) hlt) hbound
    · rw [if_neg hc]
      constructor
      · intro h
        cases h
      · rintro ⟨⟨hdigit, -⟩, -⟩
        exact absurd hdigit hc

/-- What `readNat` does with the digits once the plus is gone. -/
theorem exists_digits {cs : List Char} {n : Nat} (hcs : cs.head? ≠ some '+') :
    (∃ digits, (cs = digits ∨ cs = '+' :: digits) ∧ digits ≠ [] ∧ (∀ c ∈ digits, c.isDigit = true) ∧
      ofDigits digits = n) ↔ cs ≠ [] ∧ (∀ c ∈ cs, c.isDigit = true) ∧ ofDigits cs = n := by
  constructor
  · rintro ⟨digits, rfl | rfl, h⟩
    · exact h
    · exact absurd rfl hcs
  · intro h
    exact ⟨cs, .inl rfl, h⟩

theorem exists_digits_plus {cs : List Char} {n : Nat} :
    (∃ digits, ('+' :: cs = digits ∨ '+' :: cs = '+' :: digits) ∧ digits ≠ [] ∧ (∀ c ∈ digits, c.isDigit = true) ∧
      ofDigits digits = n) ↔ cs ≠ [] ∧ (∀ c ∈ cs, c.isDigit = true) ∧ ofDigits cs = n := by
  constructor
  · rintro ⟨digits, rfl | hdigits, h⟩
    · exact absurd (h.2.1 '+' List.mem_cons_self) (by decide)
    · cases hdigits
      exact h
  · intro h
    exact ⟨cs, .inr rfl, h⟩

theorem readNat_eq_ok {bound n : Nat} (hbound : 0 < bound) (s : String) :
    readNat bound s.toList = .ok n ↔ SpellsNumber s n ∧ n < bound := by
  have hdigits : ∀ cs : List Char, cs ≠ [] → (digitsUpTo bound 0 cs = .ok n ↔
      (cs ≠ [] ∧ (∀ c ∈ cs, c.isDigit = true) ∧ ofDigits cs = n) ∧ n < bound) := by
    intro cs hcs
    rw [digitsUpTo_eq_ok cs hbound]
    simp only [ofDigits, hcs, ne_eq, not_false_eq_true, true_and, and_assoc]
  unfold SpellsNumber
  generalize s.toList = cs
  unfold readNat
  split
  · constructor
    · intro h
      cases h
    · rintro ⟨h, -⟩
      exact absurd rfl ((exists_digits (by simp)).1 h).1
  · constructor
    · intro h
      cases h
    · rintro ⟨h, -⟩
      exact absurd rfl (exists_digits_plus.1 h).1
  · next cs hplus =>
    have hcs : cs ≠ [] := fun h => hplus h
    rw [hdigits cs hcs, exists_digits_plus]
  · next hnil _ hplus =>
    have hhead : cs.head? ≠ some '+' := by
      intro h
      obtain ⟨rest, rfl⟩ := List.head?_eq_some_iff.1 h
      exact hplus rest rfl
    rw [hdigits cs hnil, exists_digits hhead]

theorem readFlag_eq_ok {s : String} {b : Bool} : readFlag s = .ok b ↔ SpellsFlag s b := by
  unfold readFlag SpellsFlag
  by_cases htrue : s = "true"
  · rw [if_pos htrue, htrue]
    cases b <;> simp
  rw [if_neg htrue]
  by_cases hfalse : s = "false"
  · rw [if_pos hfalse, hfalse]
    cases b <;> simp
  · rw [if_neg hfalse]
    cases b with
    | true => simpa using htrue
    | false => simpa using hfalse

/-- A number that a type with a bound holds. -/
theorem readNat_map_eq_ok {α : Type} {bound : Nat} {ofNat : Nat → α} {toNat : α → Nat} (hbound : 0 < bound)
    (hlt : ∀ a, toNat a < bound) (hofNat : ∀ a, ofNat (toNat a) = a) (htoNat : ∀ n, n < bound → toNat (ofNat n) = n)
    {s : String} {a : α} : (readNat bound s.toList).map ofNat = .ok a ↔ SpellsNumber s (toNat a) := by
  rw [Json.map_eq_ok_iff]
  constructor
  · rintro ⟨n, hread, rfl⟩
    obtain ⟨hspells, hn⟩ := (readNat_eq_ok hbound s).1 hread
    rwa [htoNat n hn]
  · intro h
    exact ⟨toNat a, (readNat_eq_ok hbound s).2 ⟨h, hlt a⟩, hofNat a⟩

theorem readKind_eq_ok {s : String} : ∀ {k : Kind} {a : k.Carrier}, Variables.readKind k s = .ok a ↔ k.Spells s a
  | .text, _ => ⟨fun h => (Except.ok.inj h).symm, fun h => congrArg Except.ok (Eq.symm h)⟩
  | .count, _ =>
    readNat_map_eq_ok (by decide) UInt64.toNat_lt (fun _ => UInt64.ofNat_toNat) fun _ => UInt64.toNat_ofNat_of_lt'
  | .flag, _ => readFlag_eq_ok

namespace Setting

/-- A value of a setting, as it is read. -/
def read : (x : Setting) → String → Except ValueFault x.Value
  | host, s => .ok s
  | port, s => (readNat (Nat.pow 2 16) s.toList).map fun n => UInt16.ofNat n
  | seed f, s => Variables.readKind f.kind s
  | sortKeys, s => readFlag s
  | logFormat, s => .ok s

theorem read_eq_ok {s : String} : ∀ {x : Setting} {a : x.Value}, x.read s = .ok a ↔ x.Spells s a
  | host, _ => ⟨fun h => (Except.ok.inj h).symm, fun h => congrArg Except.ok (Eq.symm h)⟩
  | port, _ =>
    readNat_map_eq_ok (by decide) UInt16.toNat_lt (fun _ => UInt16.ofNat_toNat) fun _ => UInt16.toNat_ofNat_of_lt'
  | seed _, _ => readKind_eq_ok
  | sortKeys, _ => readFlag_eq_ok
  | logFormat, _ => ⟨fun h => (Except.ok.inj h).symm, fun h => congrArg Except.ok (Eq.symm h)⟩

/-- **A text spells one value of a setting at most.** -/
theorem Spells.unique {x : Setting} {s : String} {a b : x.Value} (ha : x.Spells s a) (hb : x.Spells s b) : a = b :=
  Except.ok.inj ((read_eq_ok.2 ha).symm.trans (read_eq_ok.2 hb))

end Setting

end ConfigService
