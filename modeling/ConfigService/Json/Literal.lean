import ConfigService.Json.Scanner
/-!
# Literal — string literals in a JSON text

A literal is read from after its opening quote to after its closing one.  An escape of the form `\u` names a UTF-16 unit,
so that a character beyond the first plane takes two of them, and one half alone is a fault.  Bytes that are no
characters are reported once the literal is closed: a fault further on in the literal goes first.  The place of such a
report is counted back from the closing quote by the bytes of the string the literal spells, not by those of the literal,
so it is the place of the first such byte only where no escape follows.
-/
namespace ConfigService
namespace Json

/-- The value of a hexadecimal digit of either case. -/
def hexValue? : Symbol → Option Nat
  | .char c =>
    let n := c.toNat
    if 48 ≤ n ∧ n ≤ 57 then some (n - 48)
    else if 97 ≤ n ∧ n ≤ 102 then some (n - 87)
    else if 65 ≤ n ∧ n ≤ 70 then some (n - 55)
    else none
  | .stray _ => none

/-- The fault of a text that does not begin with four hexadecimal digits.  Four bytes are read before they are judged. -/
def badUnit (t : Text) : Fault :=
  if Text.width t < 4 then faultHere .endInString [] else ⟨.invalidEscape, .left (Text.width t - 4), none⟩

/-- The UTF-16 unit spelled by four hexadecimal digits. -/
def readUnit (t : Text) : Taken Nat :=
  match t with
  | a :: b :: c :: d :: rest =>
    match hexValue? a, hexValue? b, hexValue? c, hexValue? d with
    | some a, some b, some c, some d => .ok (((a * 16 + b) * 16 + c) * 16 + d, rest)
    | _, _, _, _ => .error (badUnit t)
  | t => .error (badUnit t)

/-- The unit is the first half of a pair. -/
def isHighHalf (n : Nat) : Bool := 0xD800 ≤ n && n < 0xDC00

/-- The unit is the second half of a pair. -/
def isLowHalf (n : Nat) : Bool := 0xDC00 ≤ n && n < 0xE000

/-- The character that two halves make. -/
def pairChar (high low : Nat) : Char := Char.ofNat ((high - 0xD800) * 0x400 + (low - 0xDC00) + 0x10000)

/-- The second half of a pair, with its `\u`, after the first half `high`. -/
def readLowHalf (high : Nat) (t : Text) : Except Fault Char :=
  match t with
  | [] => .error (faultHere .endInString [])
  | .char '\\' :: rest =>
    match rest with
    | [] => .error (faultHere .endInString [])
    | .char 'u' :: rest =>
      match readUnit rest with
      | .error f => .error f
      | .ok (low, rest) =>
        if isLowHalf low then .ok (pairChar high low) else .error (faultHere .loneSurrogate rest)
    | rest => .error (faultAt .unpairedSurrogate rest)
  | t => .error (faultAt .unpairedSurrogate t)

/-- The character that a letter stands for after a backslash. -/
def shortEscape? (s : Symbol) : Option Char :=
  if s = .char '"' then some '"'
  else if s = .char '\\' then some '\\'
  else if s = .char '/' then some '/'
  else if s = .char 'b' then some '\x08'
  else if s = .char 'f' then some '\x0C'
  else if s = .char 'n' then some '\n'
  else if s = .char 'r' then some '\r'
  else if s = .char 't' then some '\t'
  else none

/-- The character of an escape, from after its backslash, and how many units the escape takes. -/
def readEscape (t : Text) : Except Fault (Char × Nat) :=
  match t with
  | [] => .error (faultHere .endInString [])
  | .char 'u' :: rest =>
    match readUnit rest with
    | .error f => .error f
    | .ok (unit, after) =>
      if isLowHalf unit then .error (faultHere .loneSurrogate after)
      else if isHighHalf unit then (readLowHalf unit after).map (·, 11)
      else .ok (Char.ofNat unit, 5)
  | s :: rest =>
    match shortEscape? s with
    | some c => .ok (c, 1)
    | none => .error (faultAt .invalidEscape (s :: rest))

/-- Reads a literal, where the next `skip` units belong to an escape that has been read, `read` are the characters so far
in reverse order, and `bad` is how many bytes the string has from its first byte that is no character. -/
def readLiteralFrom : (skip : Nat) → (read : List Char) → (bad : Option Nat) → Text → Taken String
  | _, _, _, [] => .error (faultHere .endInString [])
  | skip + 1, read, bad, _ :: rest => readLiteralFrom skip read bad rest
  | 0, read, bad, .stray _ :: rest =>
    readLiteralFrom 0 read (some (bad.getD 0 + 1)) rest
  | 0, read, bad, .char c :: rest =>
    if c = '"' then
      match bad with
      | none => .ok (String.ofList read.reverse, rest)
      | some bytes => .error ⟨.invalidCodePoint, .left (Text.width rest + bytes), none⟩
    else if c = '\\' then
      match readEscape rest with
      | .error f => .error f
      | .ok (e, skip) => readLiteralFrom skip (e :: read) (bad.map (· + e.utf8Size)) rest
    else if c.toNat < 0x20 then .error (faultAt .controlCharacter (.char c :: rest))
    else readLiteralFrom 0 (c :: read) (bad.map (· + c.utf8Size)) rest

/-- Reads a literal from after its opening quote. -/
def readLiteral (t : Text) : Taken String := readLiteralFrom 0 [] none t

/-! ## Literals that are passed over -/

/-- How many units an escape takes, from after its backslash, if nobody asks for its character. -/
def passEscape (t : Text) : Except Fault Nat :=
  match t with
  | [] => .error (faultHere .endInString [])
  | .char 'u' :: rest => (readUnit rest).map fun _ => 5
  | s :: rest => if (shortEscape? s).isSome then .ok 1 else .error (faultAt .invalidEscape (s :: rest))

/-- Passes over a literal of which the next `skip` units have been judged. -/
def passLiteralFrom : (skip : Nat) → Text → Except Fault Text
  | _, [] => .error (faultHere .endInString [])
  | skip + 1, _ :: rest => passLiteralFrom skip rest
  | 0, .stray _ :: rest => passLiteralFrom 0 rest
  | 0, .char c :: rest =>
    if c = '"' then .ok rest
    else if c = '\\' then
      match passEscape rest with
      | .error f => .error f
      | .ok skip => passLiteralFrom skip rest
    else if c.toNat < 0x20 then .error (faultHere .controlCharacter (.char c :: rest))
    else passLiteralFrom 0 rest

/-- Passes over a literal from after its opening quote.  Halves of pairs may stand alone in it. -/
def passLiteral (t : Text) : Except Fault Text := passLiteralFrom 0 t

end Json
end ConfigService
