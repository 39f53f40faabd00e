import ConfigService.Decimal.Shortest
import ConfigService.Json.EncodeError
/-!
# Numeral — a JSON number as it is spelled

A number is kept by its digits, not by its value, so that one read from a text is written as it was read.  The exponent
alone is respelled, with a small `e` and a sign.  Numbers that come from integers and floats are numerals too: an integer
has all its digits, a float the fewest that read back, with at least one decimal, and an exponent if it is very large or
very small.
-/
namespace ConfigService
namespace Json

/-- An exponent: its sign and its digits. -/
structure Exponent where
  negative : Bool
  digits : List Char
  deriving DecidableEq, Repr

/-- The spelling of a number.  No fraction is an empty fraction. -/
structure Numeral where
  negative : Bool
  whole : List Char
  fraction : List Char
  exponent : Option Exponent
  deriving DecidableEq, Repr

/-- From which decimal exponent of the first digit to which a float is written without an exponent. -/
structure Positional where
  low : Int
  high : Int

def positional64 : Positional := ⟨-5, 15⟩

def positional32 : Positional := ⟨-6, 12⟩

def Exponent.text (e : Exponent) : List Char := 'e' :: (if e.negative then '-' else '+') :: e.digits

namespace Numeral

def text (n : Numeral) : List Char :=
  (if n.negative then ['-'] else []) ++ n.whole ++ (if n.fraction = [] then [] else '.' :: n.fraction) ++
    (match n.exponent with | none => [] | some e => e.text)

/-- A numeral of the JSON grammar: digits throughout, at least one before the point, no needless zero in front. -/
structure Proper (n : Numeral) : Prop where
  digits : ∀ c ∈ n.whole ++ n.fraction, c.isDigit = true
  whole_ne : n.whole ≠ []
  leading : n.whole.head? = some '0' → n.whole = ['0']
  exponent : ∀ e ∈ n.exponent, e.digits ≠ [] ∧ ∀ c ∈ e.digits, c.isDigit = true

/-- The digits before the point as a number, if 64 bits hold it. -/
def word? (n : Numeral) : Option Nat := ofDigitsBelow? (Nat.pow 2 64) n.whole

def ofInt (i : Int) : Numeral := ⟨i < 0, decimal i.natAbs, [], none⟩

/-- A short decimal without an exponent: its point stands after the digit with exponent zero. -/
def positionalForm (negative : Bool) (ds : List Char) (first : Int) : Numeral :=
  if first < 0 then ⟨negative, ['0'], List.replicate (-first - 1).toNat '0' ++ ds, none⟩
  else
    let places := first.toNat + 1
    let fraction := ds.drop places
    ⟨negative, ds.take places ++ List.replicate (places - ds.length) '0', if fraction = [] then ['0'] else fraction,
      none⟩

/-- A short decimal with an exponent: one digit before the point, and no point if there is no other digit. -/
def scientificForm (negative : Bool) (ds : List Char) (first : Int) : Numeral :=
  ⟨negative, ds.take 1, ds.drop 1, some ⟨first < 0, decimal first.natAbs⟩⟩

/-- The numeral of a finite float. -/
def ofBinary (layout : Positional) (negative : Bool) (significand : Nat) (exponent : Int) (narrow : Bool) : Numeral :=
  if significand = 0 then ⟨negative, ['0'], ['0'], none⟩
  else
    let d := shortest significand exponent narrow
    let ds := decimal d.digits
    let first := d.exponent + ds.length - 1
    if layout.low ≤ first ∧ first ≤ layout.high then positionalForm negative ds first
    else scientificForm negative ds first

/-- The numeral of a float, if it is a number and finite. -/
def ofValue (layout : Positional) : BinaryValue → Except EncodeError Numeral
  | .finite negative significand exponent narrow => .ok (ofBinary layout negative significand exponent narrow)
  | .infinite negative => .error (.infinite negative)
  | .nan => .error .notANumber

end Numeral

end Json
end ConfigService
