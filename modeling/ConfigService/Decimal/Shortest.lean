import ConfigService.Decimal.Binary
import ConfigService.Text.Digits
/-!
# Shortest — the fewest digits that read back

The reals that round to a given finite float form an interval, with its ends if the significand is even.  The decimal
written for the float is a point of that interval with as few digits as possible.  For one digit, two digits and so on
the candidates are the two neighbours of the exact value among the numbers with that many digits; the first count with a
candidate in the interval wins, of two candidates the nearer, and of two equally near ones the even one.
-/
namespace ConfigService

/-- A decimal `digits * 10 ^ exponent`. -/
structure ShortDecimal where
  digits : Nat
  exponent : Int
  deriving DecidableEq, Repr

namespace Shortest

/-- `n * 2 ^ e * 10 ^ g` as a quotient of naturals. -/
def quotient (n : Nat) (e g : Int) : Nat × Nat :=
  (n * Nat.pow 2 e.toNat * Nat.pow 10 g.toNat, Nat.pow 2 (-e).toNat * Nat.pow 10 (-g).toNat)

/-- How often a quotient below one has to be multiplied by ten to reach one, if `room` times are enough. -/
def leadingZeros (den : Nat) : (room : Nat) → (num : Nat) → Nat
  | 0, _ => 0
  | room + 1, num => if den ≤ num then 0 else leadingZeros den room (num * 10) + 1

/-- The decimal exponent of the first digit of a positive quotient. -/
def magnitude (num den : Nat) : Int :=
  if den ≤ num then (decimal (num / den)).length - 1 else -(leadingZeros den (den.log2 + 1) num)

/-- The candidate with `count` digits, if there is one. -/
def candidate? (significand : Nat) (exponent : Int) (narrow : Bool) (first : Int) (count : Nat) :
    Option ShortDecimal :=
  let grid := first - count + 1
  -- In quarters of a unit the value is `4 * significand` and the ends of its interval are whole.
  let (value, den) := quotient (4 * significand) (exponent - 2) (-grid)
  let (low, _) := quotient (4 * significand - if narrow then 1 else 2) (exponent - 2) (-grid)
  let (high, _) := quotient (4 * significand + 2) (exponent - 2) (-grid)
  let inside (k : Nat) : Bool :=
    if significand % 2 = 0 then low ≤ k * den && k * den ≤ high else low < k * den && k * den < high
  let below := value / den
  let above := below + 1
  match inside below, inside above with
  | true, true =>
    let down := value - below * den
    let up := above * den - value
    some ⟨if down < up ∨ (down = up ∧ below % 2 = 0) then below else above, grid⟩
  | true, false => some ⟨below, grid⟩
  | false, true => some ⟨above, grid⟩
  | false, false => none

/-- The first candidate when `count` digits and then up to `room` more are tried. -/
def search (significand : Nat) (exponent : Int) (narrow : Bool) (first : Int) : (room count : Nat) → ShortDecimal
  | 0, count => (candidate? significand exponent narrow first count).getD ⟨0, 0⟩
  | room + 1, count =>
    match candidate? significand exponent narrow first count with
    | some d => d
    | none => search significand exponent narrow first room (count + 1)

/-- Moves trailing zeros of the digits into the exponent. -/
def trim : (room : Nat) → ShortDecimal → ShortDecimal
  | 0, d => d
  | room + 1, d => if d.digits % 10 = 0 then trim room ⟨d.digits / 10, d.exponent + 1⟩ else d

end Shortest

open Shortest in
/-- The shortest decimal of a positive float `significand * 2 ^ exponent`.  Seventeen digits tell all floats of 64 bits
apart. -/
def shortest (significand : Nat) (exponent : Int) (narrow : Bool) : ShortDecimal :=
  let (num, den) := quotient significand exponent 0
  trim 17 (search significand exponent narrow (magnitude num den) 16 1)

end ConfigService
