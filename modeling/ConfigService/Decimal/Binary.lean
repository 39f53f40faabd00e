/-!
# Binary — floating-point numbers as their bits

A word of bits stands for a signed integer times a power of two, for an infinity or for no number.  What is written in
decimal is worked out from that integer and that power in exact arithmetic, so no operation on machine floats is needed.
-/
namespace ConfigService

/-- A binary interchange format: how many bits the fraction has, and how many the exponent. -/
structure BinaryFormat where
  fractionBits : Nat
  exponentBits : Nat

def binary64 : BinaryFormat := ⟨52, 11⟩

def binary32 : BinaryFormat := ⟨23, 8⟩

/-- What a word stands for.  A finite value is `significand * 2 ^ exponent`; it is `narrow` if the value below it is only
half as far away as the value above, which happens at powers of two. -/
inductive BinaryValue
  | nan
  | infinite (negative : Bool)
  | finite (negative : Bool) (significand : Nat) (exponent : Int) (narrow : Bool)
  deriving DecidableEq, Repr

namespace BinaryFormat

/-- The exponent that a stored exponent of zero is counted from. -/
def bias (f : BinaryFormat) : Int := Nat.pow 2 (f.exponentBits - 1) - 1

def decode (f : BinaryFormat) (bits : Nat) : BinaryValue :=
  let fraction := bits % Nat.pow 2 f.fractionBits
  let stored := bits / Nat.pow 2 f.fractionBits % Nat.pow 2 f.exponentBits
  let negative := bits / Nat.pow 2 (f.fractionBits + f.exponentBits) % 2 == 1
  if stored = Nat.pow 2 f.exponentBits - 1 then
    if fraction = 0 then .infinite negative else .nan
  else if stored = 0 then .finite negative fraction (1 - f.bias - f.fractionBits) false
  else .finite negative (Nat.pow 2 f.fractionBits + fraction) (stored - f.bias - f.fractionBits)
    (fraction == 0 && stored != 1)

end BinaryFormat

end ConfigService
