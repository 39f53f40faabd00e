/-!
# Symbol — a text as it arrives

A request body is a run of bytes that ought to be UTF-8 and may not be.  A `Text` keeps what can be read as characters
as characters and every byte that belongs to none as a `stray`, so that a reader needs one alphabet for both and a
report about a place can still count bytes.  A text that comes from a `String` holds no stray byte.
-/
namespace ConfigService

/-- One unit of a text: a character, or a byte that is part of no character. -/
inductive Symbol
  | char (c : Char)
  | stray (b : UInt8)
  deriving DecidableEq, Repr

/-- The bytes a unit takes. -/
def Symbol.width : Symbol → Nat
  | .char c => c.utf8Size
  | .stray _ => 1

/-- A text that has not been read yet. -/
abbrev Text := List Symbol

namespace Text

/-- The text of a string: characters only. -/
def ofString (s : String) : Text := s.toList.map .char

/-- The bytes of a text. -/
def width (t : Text) : Nat := t.foldl (fun n s => n + s.width) 0

/-- The line and column reached after `n` bytes, from a given line and column on.  Lines are counted from one and end at
a line feed; columns count bytes, so that a place inside a character is a column of its own. -/
def locate : (n line column : Nat) → Text → Nat × Nat
  | _, line, column, [] => (line, column)
  | n, line, column, s :: t =>
    if n = 0 then (line, column)
    else if s = .char '\n' then locate (n - 1) (line + 1) 0 t
    else locate (n - s.width) line (column + min n s.width) t

/-- The line and column of the place with `left` bytes after it. -/
def place (t : Text) (left : Nat) : Nat × Nat := locate (t.width - left) 1 0 t

/-! ## Reading bytes as UTF-8

The well-formed sequences are those of one to four bytes with no overlong form, no surrogate and nothing above the last
code point.  A byte that starts none of them is stray, and reading goes on with the byte after it. -/

/-- The payload of a continuation byte. -/
def continuation? (b : UInt8) : Option Nat :=
  if 0x80 ≤ b.toNat ∧ b.toNat < 0xC0 then some (b.toNat - 0x80) else none

/-- The character with a code, if `least` is at most the code: a smaller one has a shorter sequence. -/
def scalar? (least code : Nat) : Option Char :=
  if h : least ≤ code ∧ code.isValidChar then some (Char.ofNatAux code h.2) else none

/-- The first character of a run of bytes, and what follows it. -/
def decodeChar? : List UInt8 → Option (Char × List UInt8)
  | [] => none
  | a :: rest =>
    if a.toNat < 0x80 then (scalar? 0 a.toNat).map (·, rest)
    else if a.toNat < 0xC0 then none
    else match rest with
      | [] => none
      | b :: rest => do
        let b ← continuation? b
        if a.toNat < 0xE0 then
          let c ← scalar? 0x80 ((a.toNat - 0xC0) * 64 + b)
          return (c, rest)
        else match rest with
          | [] => none
          | c :: rest =>
            let c ← continuation? c
            if a.toNat < 0xF0 then
              let ch ← scalar? 0x800 (((a.toNat - 0xE0) * 64 + b) * 64 + c)
              return (ch, rest)
            else match rest with
              | [] => none
              | d :: rest =>
                let d ← continuation? d
                if a.toNat < 0xF8 then
                  let ch ← scalar? 0x10000 ((((a.toNat - 0xF0) * 64 + b) * 64 + c) * 64 + d)
                  return (ch, rest)
                else none

/-- One unit is read for each unit of `room`; a run of `n` bytes has at most `n` units. -/
def ofBytesWithin : (room : Nat) → (read : List Symbol) → List UInt8 → Text
  | 0, read, _ => read.reverse
  | _ + 1, read, [] => read.reverse
  | room + 1, read, b :: bytes =>
    match decodeChar? (b :: bytes) with
    | some (c, rest) => ofBytesWithin room (.char c :: read) rest
    | none => ofBytesWithin room (.stray b :: read) bytes

/-- The text of a run of bytes. -/
def ofBytes (bytes : List UInt8) : Text := ofBytesWithin bytes.length [] bytes

end Text

end ConfigService
