/-!
# Digits — numbers in decimal

A natural number is written with as many digits as it needs, or with a fixed number of them, zeros first.  Reading takes
digits from the left and is the inverse of both.
-/
namespace ConfigService

/-- The digit of a number below ten. -/
def digit (n : Nat) : Char := Char.ofNat (48 + n % 10)

/-- The number a digit stands for. -/
def digitValue (c : Char) : Nat := c.toNat - 48

/-- A number with just the digits it needs. -/
def decimal (n : Nat) : List Char := Nat.toDigits 10 n

/-- The last `width` digits of a number, zeros included. -/
def padded : (width : Nat) → Nat → List Char
  | 0, _ => []
  | width + 1, n => padded width (n / 10) ++ [digit n]

/-- The number that digits spell. -/
def ofDigits (cs : List Char) : Nat := Nat.ofDigitChars 10 cs 0

/-- Takes digits into a number as long as it stays below a bound: the number and the digits left over. -/
def fillBelow (bound : Nat) : (value : Nat) → List Char → Nat × List Char
  | value, [] => (value, [])
  | value, c :: cs =>
    let next := value * 10 + digitValue c
    if next < bound then fillBelow bound next cs else (value, c :: cs)

/-- The number that digits spell, if it is below a bound.  However many digits there are, no larger number is formed. -/
def ofDigitsBelow? (bound : Nat) (cs : List Char) : Option Nat :=
  match fillBelow bound 0 cs with
  | (value, []) => some value
  | (_, _ :: _) => none

@[simp] theorem ofDigits_decimal (n : Nat) : ofDigits (decimal n) = n :=
  Nat.ofDigitChars_toDigits (by decide) (by decide)

theorem le_ofDigitChars (cs : List Char) : ∀ value, value ≤ Nat.ofDigitChars 10 cs value := by
  induction cs with
  | nil => intro value; exact Nat.le_refl _
  | cons c cs ih =>
    intro value
    rw [Nat.ofDigitChars_cons]
    exact Nat.le_trans (by omega) (ih _)

theorem fillBelow_of_lt {bound : Nat} (cs : List Char) :
    ∀ value, Nat.ofDigitChars 10 cs value < bound → fillBelow bound value cs = (Nat.ofDigitChars 10 cs value, []) := by
  induction cs with
  | nil => intro value _; rfl
  | cons c cs ih =>
    intro value h
    rw [Nat.ofDigitChars_cons, Nat.mul_comm 10 value] at h ⊢
    have hnext : value * 10 + digitValue c < bound := Nat.lt_of_le_of_lt (le_ofDigitChars cs _) h
    rw [fillBelow, if_pos hnext]
    exact ih _ h

theorem fillBelow_snd_ne_nil {bound : Nat} (cs : List Char) :
    ∀ value, value < bound → bound ≤ Nat.ofDigitChars 10 cs value → (fillBelow bound value cs).2 ≠ [] := by
  induction cs with
  | nil => intro value hv h; exact absurd h (Nat.not_le.2 hv)
  | cons c cs ih =>
    intro value _ h
    rw [Nat.ofDigitChars_cons, Nat.mul_comm 10 value] at h
    rw [fillBelow]
    split
    · next hnext => exact ih _ hnext h
    · exact List.cons_ne_nil _ _

/-- A bounded reading gives the number that the digits spell, if that is within the bound. -/
theorem ofDigitsBelow?_eq {bound : Nat} (h : 0 < bound) (cs : List Char) :
    ofDigitsBelow? bound cs = if ofDigits cs < bound then some (ofDigits cs) else none := by
  unfold ofDigitsBelow? ofDigits
  split
  · next value hf =>
    split
    · next hlt =>
      rw [fillBelow_of_lt cs 0 hlt] at hf
      exact congrArg some (congrArg Prod.fst hf).symm
    · next hge => exact absurd (congrArg Prod.snd hf) (fillBelow_snd_ne_nil cs 0 h (Nat.not_lt.1 hge))
  · next value c cs' hf =>
    split
    · next hlt =>
      rw [fillBelow_of_lt cs 0 hlt] at hf
      exact nomatch congrArg Prod.snd hf
    · rfl

theorem isDigit_of_mem_decimal {n : Nat} {c : Char} (h : c ∈ decimal n) : c.isDigit = true :=
  Nat.isDigit_of_mem_toDigits (by decide) (by decide) h

@[simp] theorem length_padded (width n : Nat) : (padded width n).length = width := by
  induction width generalizing n with
  | zero => rfl
  | succ width ih => simp [padded, ih]

end ConfigService
