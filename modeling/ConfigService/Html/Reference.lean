/-!
# Reference — character references in HTML

An ampersand in a text or in the value of an attribute may begin a reference to characters, by a name or by a code.  Of the
names that stand there the longest counts.  Some names need no semicolon, but in an attribute such a name is not read
before an equals sign, a letter or a digit, where it is more likely part of an address.  This is how the HTML standard
reads them; its tables, of two thousand names and of codes with meanings of their own, are left open.
-/
namespace ConfigService
namespace Html

/-- The tables for reading references.  The names of the four characters that markup needs are among them. -/
structure References where
  /-- What a name stands for.  The semicolon after it is part of the name. -/
  named : List Char → Option (List Char)
  /-- What a code stands for, from its digits, which are hexadecimal or decimal. -/
  coded : (hexadecimal : Bool) → List Char → Char
  /-- A semicolon stands at the end of a name only. -/
  closed : ∀ name value, named name = some value → ';' ∉ name.dropLast
  amp : named ['a', 'm', 'p', ';'] = some ['&']
  lt : named ['l', 't', ';'] = some ['<']
  gt : named ['g', 't', ';'] = some ['>']
  quot : named ['q', 'u', 'o', 't', ';'] = some ['"']

def isHexDigit (c : Char) : Bool := c.isDigit || ('a' ≤ c && c ≤ 'f') || ('A' ≤ c && c ≤ 'F')

namespace References

/-- The longest name at the start of a text of which `seen` has been passed, and what it stands for. -/
def longest? (r : References) : (seen : List Char) → List Char → Option (List Char × List Char)
  | _, [] => none
  | seen, c :: cs =>
    (r.longest? (seen ++ [c]) cs).or ((r.named (seen ++ [c])).map fun value => (seen ++ [c], value))

/-- A reference by a code, from after the `#`: what it stands for, and how many characters belong to it. -/
def code? (r : References) (cs : List Char) : Option (List Char × Nat) :=
  let hexadecimal := cs.head? == some 'x' || cs.head? == some 'X'
  let mark := if hexadecimal then 1 else 0
  let digits := (cs.drop mark).takeWhile (if hexadecimal then isHexDigit else Char.isDigit)
  let semicolon := if cs[mark + digits.length]? = some ';' then 1 else 0
  if digits = [] then none else some ([r.coded hexadecimal digits], mark + digits.length + semicolon)

/-- In an attribute, a name without a semicolon is not read before these. -/
def continuesName : List Char → Bool
  | [] => false
  | c :: _ => c = '=' || c.isAlphanum

/-- A reference, from after the `&`: what it stands for, and how many characters belong to it. -/
def reference? (r : References) (inAttribute : Bool) : List Char → Option (List Char × Nat)
  | '#' :: cs => (r.code? cs).map fun (value, taken) => (value, taken + 1)
  | cs =>
    match r.longest? [] cs with
    | none => none
    | some (name, value) =>
      if inAttribute ∧ name.getLast? ≠ some ';' ∧ continuesName (cs.drop name.length) then none
      else some (value, name.length)

/-- A text with its references read, from after some characters on. -/
def decodeAfter (r : References) (inAttribute : Bool) : (skip : Nat) → List Char → List Char
  | _, [] => []
  | skip + 1, _ :: cs => r.decodeAfter inAttribute skip cs
  | 0, c :: cs =>
    if c = '&' then
      match r.reference? inAttribute cs with
      | some (value, taken) => value ++ r.decodeAfter inAttribute taken cs
      | none => c :: r.decodeAfter inAttribute 0 cs
    else c :: r.decodeAfter inAttribute 0 cs

def decodeText (r : References) (cs : List Char) : List Char := r.decodeAfter false 0 cs

/-- The value of an attribute with its references read. -/
def decodeAttribute (r : References) (cs : List Char) : List Char := r.decodeAfter true 0 cs

/-- The names of the four characters, which three of them may also bear without the semicolon, and no codes. -/
def basic : References where
  named name :=
    if name = ['a', 'm', 'p', ';'] ∨ name = ['a', 'm', 'p'] then some ['&']
    else if name = ['l', 't', ';'] ∨ name = ['l', 't'] then some ['<']
    else if name = ['g', 't', ';'] ∨ name = ['g', 't'] then some ['>']
    else if name = ['q', 'u', 'o', 't', ';'] ∨ name = ['q', 'u', 'o', 't'] then some ['"']
    else none
  coded _ _ := '\uFFFD'
  closed name value h := by
    split at h
    · next hname => rcases hname with rfl | rfl <;> decide
    split at h
    · next hname => rcases hname with rfl | rfl <;> decide
    split at h
    · next hname => rcases hname with rfl | rfl <;> decide
    split at h
    · next hname => rcases hname with rfl | rfl <;> decide
    cases h
  amp := by decide
  lt := by decide
  gt := by decide
  quot := by decide

end References

end Html
end ConfigService
