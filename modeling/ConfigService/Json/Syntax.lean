import ConfigService.Json.Literal
import ConfigService.Json.Printer
import ConfigService.Json.Scalar
/-!
# Syntax — JSON texts as trees

A `Tree` is a JSON text with everything the grammar leaves open: blanks between the words, the escapes in strings and keys,
the spelling of exponents, members in any order and more than once.  Every text of the grammar is the text of a tree.

The halves of pairs in a literal are named by escapes one at a time, and the grammar lets them stand in any order; only a
literal in which they make pairs spells a string.
-/
namespace ConfigService
namespace Json

/-! ## Blanks -/

/-- The four characters that may stand between words. -/
inductive Blank
  | space
  | lineFeed
  | tab
  | carriageReturn
  deriving DecidableEq, Repr

def Blank.char : Blank → Char
  | space => ' '
  | lineFeed => '\n'
  | tab => '\t'
  | carriageReturn => '\r'

/-- What stands between two words. -/
abbrev Gap := List Blank

def Gap.text (g : Gap) : List Char := g.map Blank.char

/-! ## Literals -/

/-- A hexadecimal digit of either case. -/
structure HexDigit where
  char : Char
  value : Nat
  spells : hexValue? (.char char) = some value

/-- The UTF-16 unit that four digits spell. -/
def unitOf (a b c d : HexDigit) : Nat := ((a.value * 16 + b.value) * 16 + c.value) * 16 + d.value

/-- A character of a literal, or an escape. -/
inductive Piece
  | plain (c : Char) (isPlain : c ≠ '"' ∧ c ≠ '\\' ∧ ¬c.toNat < 0x20)
  | short (letter c : Char) (spells : shortEscape? (.char letter) = some c)
  | unit (a b c d : HexDigit)

def Piece.text : Piece → List Char
  | plain c _ => [c]
  | short letter _ _ => ['\\', letter]
  | unit a b c d => ['\\', 'u', a.char, b.char, c.char, d.char]

/-- What a piece stands for: a character, or one half of a pair. -/
inductive Meaning
  | char (c : Char)
  | high (unit : Nat)
  | low (unit : Nat)

def Meaning.ofUnit (n : Nat) : Meaning :=
  if isLowHalf n then .low n else if isHighHalf n then .high n else .char (Char.ofNat n)

def Piece.meaning : Piece → Meaning
  | plain c _ => .char c
  | short _ c _ => .char c
  | unit a b c d => .ofUnit (unitOf a b c d)

/-- The characters that are meant, if every half is part of a pair. -/
def joinPairs : List Meaning → Option (List Char)
  | [] => some []
  | .char c :: ms => (joinPairs ms).map (c :: ·)
  | .high h :: .low l :: ms => (joinPairs ms).map (pairChar h l :: ·)
  | .high _ :: _ => none
  | .low _ :: _ => none

/-- A string literal or a key, piece by piece. -/
abbrev Spelled := List Piece

namespace Spelled

/-- The text of a literal after its opening quote. -/
def body (s : Spelled) : List Char := s.flatMap Piece.text ++ ['"']

def text (s : Spelled) : List Char := '"' :: s.body

/-- The characters that a literal spells; none if half a pair stands alone in it. -/
def chars? (s : Spelled) : Option (List Char) := joinPairs (s.map Piece.meaning)

def string? (s : Spelled) : Option String := s.chars?.map String.ofList

end Spelled

/-! ## Numbers -/

/-- A number as it may be spelled: its exponent, if it has one, with a letter of either case and with its plus or not. -/
structure Figure where
  numeral : Numeral
  proper : numeral.Proper
  capital : Bool
  plus : Bool

namespace Figure

def exponentText (f : Figure) (e : Exponent) : List Char :=
  (if f.capital then 'E' else 'e') :: ((if e.negative then ['-'] else if f.plus then ['+'] else []) ++ e.digits)

def text (f : Figure) : List Char :=
  (if f.numeral.negative then ['-'] else []) ++ (f.numeral.whole ++
    ((if f.numeral.fraction = [] then [] else '.' :: f.numeral.fraction) ++
      (match f.numeral.exponent with | none => [] | some e => f.exponentText e)))

end Figure

/-! ## Trees -/

structure Padded (α : Type) where
  before : Gap
  value : α
  after : Gap

/-- A member of an object with the blanks around its key and its value. -/
structure Member (α : Type) where
  before : Gap
  key : Spelled
  middle : Gap
  value : Padded α

/-- A JSON text.  The gap of a container stands after its opening bracket. -/
inductive Tree
  | null
  | bool (b : Bool)
  | number (f : Figure)
  | string (s : Spelled)
  | array (gap : Gap) (items : List (Padded Tree))
  | object (gap : Gap) (members : List (Member Tree))

def around (before : Gap) (text : List Char) (after : Gap) : List Char := before.text ++ (text ++ after.text)

def keyed (before : Gap) (key : Spelled) (middle : Gap) (text : List Char) : List Char :=
  before.text ++ (key.text ++ (middle.text ++ ':' :: text))

namespace Tree

mutual

def text : Tree → List Char
  | null => ['n', 'u', 'l', 'l']
  | bool b => if b then ['t', 'r', 'u', 'e'] else ['f', 'a', 'l', 's', 'e']
  | number f => f.text
  | string s => s.text
  | array gap items => '[' :: (gap.text ++ (commaSeparated (itemTexts items) ++ [']']))
  | object gap members => '{' :: (gap.text ++ (commaSeparated (memberTexts members) ++ ['}']))

def itemTexts : List (Padded Tree) → List (List Char)
  | [] => []
  | ⟨before, value, after⟩ :: items => around before value.text after :: itemTexts items

def memberTexts : List (Member Tree) → List (List Char)
  | [] => []
  | ⟨before, key, middle, ⟨before', value, after⟩⟩ :: members =>
    keyed before key middle (around before' value.text after) :: memberTexts members

end

end Tree

/-- The text of a value with the blanks around it; a whole document is one. -/
def Padded.text (p : Padded Tree) : List Char := around p.before p.value.text p.after

def Member.text (m : Member Tree) : List Char := keyed m.before m.key m.middle m.value.text

/-! ## What a tree spells -/

/-- The count a number spells: it has no sign, no fraction and no exponent, and 64 bits hold it. -/
def Figure.count? (f : Figure) : Option UInt64 :=
  let n := f.numeral
  if n.negative = false ∧ n.fraction = [] ∧ n.exponent = none ∧ ofDigits n.whole < Nat.pow 2 64 then
    some (UInt64.ofNat (ofDigits n.whole))
  else none

namespace Tree

def string? : Tree → Option String
  | string s => s.string?
  | _ => none

def count? : Tree → Option UInt64
  | number f => f.count?
  | _ => none

def bool? : Tree → Option Bool
  | bool b => some b
  | _ => none

def timestamp? (t : Tree) : Option Timestamp := t.string?.bind fun s => (Timestamp.read s.toList).toOption

/-- A value that may be absent, which `null` says. -/
def optional? {α : Type} (spelled? : Tree → Option α) : Tree → Option (Option α)
  | null => some none
  | t => (spelled? t).map some

/-- The values of a record with the names of its fields, if it is an object all of whose keys spell strings, or a list with
a value for each of the fields in their declared order. -/
def entries? (names : List String) : Tree → Option (List (String × Tree))
  | object _ members => members.mapM fun m => m.key.string?.map (·, m.value.value)
  | array _ items => if items.length = names.length then some (names.zip (items.map Padded.value)) else none
  | _ => none

end Tree

/-- The values that stand under a key. -/
def valuesOf (key : String) (entries : List (String × Tree)) : List Tree :=
  (entries.filter fun e => e.1 == key).map Prod.snd

end Json
end ConfigService
