import ConfigService.Json.Fault
import ConfigService.Json.Numeral
/-!
# Scanner — the words of a JSON text

Blanks, the three fixed words and numbers.  Each function takes one of them from the front of a text.  A number is taken
to its last digit; what follows it is for the caller to judge.
-/
namespace ConfigService
namespace Json

/-- The four characters that may stand between words. -/
def isGap (s : Symbol) : Bool := s = .char ' ' || s = .char '\n' || s = .char '\t' || s = .char '\r'

/-- The text after its leading blanks. -/
def skipGap (t : Text) : Text := t.dropWhile isGap

def isDigit : Symbol → Bool
  | .char c => c.isDigit
  | .stray _ => false

def char? : Symbol → Option Char
  | .char c => some c
  | .stray _ => none

/-- The digits at the front of a text. -/
def leadingDigits (t : Text) : List Char := (t.takeWhile isDigit).filterMap char?

def skipDigits (t : Text) : Text := t.dropWhile isDigit

/-- Takes the rest of a fixed word, letter by letter. -/
def readWord : List Char → Text → Except Fault Text
  | [], t => .ok t
  | _ :: _, [] => .error (faultHere .endInValue [])
  | c :: cs, s :: rest => if s = .char c then readWord cs rest else .error (faultAt .expectedIdent (s :: rest))

/-! ## Numbers -/

/-- How a missing digit is reported. -/
structure DigitReport where
  /-- What it means that the text ends where the digit should be. -/
  atEnd : Cause
  /-- How many bytes count as read from there on, as far as the text has them. -/
  reach : Nat
  deriving DecidableEq, Repr

namespace DigitReport

/-- In a value that somebody asked for. -/
def asked : DigitReport := ⟨.endInValue, 1⟩

/-- In a value that is passed over. -/
def passed : DigitReport := ⟨.invalidNumber, 1⟩

/-- In a string that spells a number: whatever stands after the byte in the digit's place is one more fault, and the last
one is reported. -/
def spelled : DigitReport := ⟨.endInValue, 2⟩

end DigitReport

def missingDigit (report : DigitReport) : Text → Fault
  | [] => faultHere report.atEnd []
  | s :: rest => ⟨.invalidNumber, .left (Text.width (s :: rest) - report.reach), none⟩

/-- The digits before the point: a zero alone, or digits that begin with another. -/
def readWhole (report : DigitReport) (t : Text) : Taken (List Char) :=
  match t with
  | .char '0' :: rest =>
    if (leadingDigits rest).isEmpty then .ok (['0'], rest) else .error (faultAt .invalidNumber rest)
  | t => if (leadingDigits t).isEmpty then .error (missingDigit report t) else .ok (leadingDigits t, skipDigits t)

/-- The digits after a point, or none where there is no point.  The byte in the place of the first one is not taken before
it is judged, so a report goes no further than to it. -/
def readFraction (report : DigitReport) (t : Text) : Taken (List Char) :=
  match t with
  | .char '.' :: rest =>
    if (leadingDigits rest).isEmpty then .error (missingDigit ⟨report.atEnd, 1⟩ rest)
    else .ok (leadingDigits rest, skipDigits rest)
  | t => .ok ([], t)

/-- The sign of an exponent; none is plus. -/
def readSign : Text → Bool × Text
  | .char '-' :: rest => (true, rest)
  | .char '+' :: rest => (false, rest)
  | t => (false, t)

/-- An exponent, where there is one. -/
def readExponent (report : DigitReport) (t : Text) : Taken (Option Exponent) :=
  let digits (rest : Text) : Taken (Option Exponent) :=
    let (negative, rest) := readSign rest
    if (leadingDigits rest).isEmpty then .error (missingDigit report rest)
    else .ok (some ⟨negative, leadingDigits rest⟩, skipDigits rest)
  match t with
  | .char 'e' :: rest => digits rest
  | .char 'E' :: rest => digits rest
  | t => .ok (none, t)

/-- A number after its sign. -/
def readUnsigned (report : DigitReport) (negative : Bool) (t : Text) : Taken Numeral :=
  match readWhole report t with
  | .error f => .error f
  | .ok (whole, t) =>
    match readFraction report t with
    | .error f => .error f
    | .ok (fraction, t) =>
      match readExponent report t with
      | .error f => .error f
      | .ok (exponent, t) => .ok (⟨negative, whole, fraction, exponent⟩, t)

def readNumeral (report : DigitReport) (t : Text) : Taken Numeral :=
  match t with
  | .char '-' :: rest => readUnsigned report true rest
  | t => readUnsigned report false t

/-- The unit can be the first of a number. -/
def startsNumber (s : Symbol) : Bool := s = .char '-' || isDigit s

end Json
end ConfigService
