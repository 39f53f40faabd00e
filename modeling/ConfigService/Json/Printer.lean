import ConfigService.Json.Value
import ConfigService.Timestamp.Text
/-!
# Printer — values as compact JSON text

No blank is written.  In a string only the quote, the backslash and the control characters are escaped, the latter with
their short escape if they have one.  With `sortKeys` the members of every object, at any depth, stand in the order of
their keys by code point; without it, in their own order.
-/
namespace ConfigService
namespace Json

/-- The low-case hexadecimal digit of a number below sixteen. -/
def hexDigit (n : Nat) : Char := if n < 10 then Char.ofNat (48 + n) else Char.ofNat (87 + n)

/-- A character as it stands in a string literal. -/
def escape (c : Char) : List Char :=
  if c = '"' then ['\\', '"']
  else if c = '\\' then ['\\', '\\']
  else if c.toNat < 0x20 then
    if c.toNat = 0x08 then ['\\', 'b']
    else if c.toNat = 0x09 then ['\\', 't']
    else if c.toNat = 0x0A then ['\\', 'n']
    else if c.toNat = 0x0C then ['\\', 'f']
    else if c.toNat = 0x0D then ['\\', 'r']
    else ['\\', 'u', '0', '0', hexDigit (c.toNat / 16), hexDigit (c.toNat % 16)]
  else [c]

/-- A string literal. -/
def literal (s : String) : List Char := '"' :: (s.toList.flatMap escape ++ ['"'])

/-- Texts with a comma between each two. -/
def commaSeparated : List (List Char) → List Char
  | [] => []
  | [t] => t
  | t :: ts => t ++ ',' :: commaSeparated ts

/-- A member whose value has been written. -/
def memberText (m : String × List Char) : List Char := literal m.1 ++ ':' :: m.2

/-- Entries in the order of their keys by code point. -/
def sortByKey {α : Type} (entries : List (String × α)) : List (String × α) :=
  entries.mergeSort fun a b => decide (a.1 ≤ b.1)

namespace Value

mutual

/-- The text of a value. -/
def print (sortKeys : Bool) : Value → List Char
  | null => ['n', 'u', 'l', 'l']
  | bool b => if b then ['t', 'r', 'u', 'e'] else ['f', 'a', 'l', 's', 'e']
  | number n => n.text
  | string s => literal s
  | timestamp t => '"' :: (t.text ++ ['"'])
  | array items => '[' :: (commaSeparated (printItems sortKeys items) ++ [']'])
  | object members =>
    let written := printMembers sortKeys members
    '{' :: (commaSeparated ((if sortKeys then sortByKey written else written).map memberText) ++ ['}'])

/-- The texts of the items of an array. -/
def printItems (sortKeys : Bool) : List Value → List (List Char)
  | [] => []
  | v :: vs => print sortKeys v :: printItems sortKeys vs

/-- The keys of an object with the texts of their values. -/
def printMembers (sortKeys : Bool) : List (String × Value) → List (String × List Char)
  | [] => []
  | (k, v) :: ms => (k, print sortKeys v) :: printMembers sortKeys ms

end

/-! ## Writing

A value inside many others is a part of the text of each of them.  Writing puts every character down once: `out` is the
text so far, in reverse order. -/

/-- Writes members whose values can be written, each after a comma if something stands before it. -/
def writeMembers : (first : Bool) → List (String × (List Char → List Char)) → (out : List Char) → List Char
  | _, [], out => out
  | first, (k, w) :: ms, out =>
    writeMembers false ms (w (':' :: ((literal k).reverseAux (if first then out else ',' :: out))))

mutual

/-- Writes a value. -/
def write (sortKeys : Bool) : Value → (out : List Char) → List Char
  | null, out => 'l' :: 'l' :: 'u' :: 'n' :: out
  | bool b, out => if b then 'e' :: 'u' :: 'r' :: 't' :: out else 'e' :: 's' :: 'l' :: 'a' :: 'f' :: out
  | number n, out => n.text.reverseAux out
  | string s, out => (literal s).reverseAux out
  | timestamp t, out => '"' :: (t.text.reverseAux ('"' :: out))
  | array items, out => ']' :: writeItems sortKeys true items ('[' :: out)
  | object members, out =>
    let writers := memberWriters sortKeys members
    '}' :: writeMembers true (if sortKeys then sortByKey writers else writers) ('{' :: out)

/-- Writes the items of an array, each after a comma if something stands before it. -/
def writeItems (sortKeys : Bool) : (first : Bool) → List Value → (out : List Char) → List Char
  | _, [], out => out
  | first, v :: vs, out => writeItems sortKeys false vs (write sortKeys v (if first then out else ',' :: out))

/-- The keys of an object, each with what writes its value. -/
def memberWriters (sortKeys : Bool) : List (String × Value) → List (String × (List Char → List Char))
  | [] => []
  | (k, v) :: ms => (k, write sortKeys v) :: memberWriters sortKeys ms

end

/-- The text of a value as a string. -/
def encode (sortKeys : Bool) (v : Value) : String := String.ofList (v.write sortKeys []).reverse

theorem commaSeparated_cons (t : List Char) (ts : List (List Char)) :
    commaSeparated (t :: ts) = t ++ ts.flatMap (',' :: ·) := by
  induction ts generalizing t with
  | nil => simp [commaSeparated]
  | cons u us ih => simp [commaSeparated, ih]

/-- What writes a text. -/
def writer (m : String × List Char) : String × (List Char → List Char) := (m.1, fun out => m.2.reverseAux out)

theorem sortByKey_map_writer (ms : List (String × List Char)) :
    sortByKey (ms.map writer) = (sortByKey ms).map writer := by
  unfold sortByKey
  exact (List.map_mergeSort (f := writer) fun a _ b _ => rfl).symm

theorem writeMembers_map_writer (ms : List (String × List Char)) :
    ∀ out, writeMembers false (ms.map writer) out = ((ms.map memberText).flatMap (',' :: ·)).reverse ++ out := by
  induction ms with
  | nil => intro out; rfl
  | cons m ms ih =>
    intro out
    simp [writeMembers, writer, memberText, ih, List.reverseAux_eq]

theorem writeMembers_true (ms : List (String × List Char)) (out : List Char) :
    writeMembers true (ms.map writer) out = (commaSeparated (ms.map memberText)).reverse ++ out := by
  cases ms with
  | nil => rfl
  | cons m ms =>
    rw [List.map_cons, List.map_cons, writeMembers, writeMembers_map_writer, commaSeparated_cons]
    simp [writer, memberText, List.reverseAux_eq]

mutual

/-- Writing a value puts its text, reversed, before what has been written. -/
theorem write_eq (sortKeys : Bool) :
    ∀ (v : Value) (out : List Char), v.write sortKeys out = (v.print sortKeys).reverse ++ out
  | null, out => rfl
  | bool b, out => by cases b <;> rfl
  | number n, out => by simp [write, print, List.reverseAux_eq]
  | string s, out => by simp [write, print, List.reverseAux_eq]
  | timestamp t, out => by simp [write, print, List.reverseAux_eq]
  | array [], out => rfl
  | array (v :: vs), out => by
    simp [write, writeItems, print, printItems, commaSeparated_cons, write_eq sortKeys v, writeItems_eq sortKeys vs]
  | object ms, out => by
    rw [write, print, memberWriters_eq sortKeys ms]
    cases sortKeys <;> simp [sortByKey_map_writer, writeMembers_true]

theorem writeItems_eq (sortKeys : Bool) :
    ∀ (vs : List Value) (out : List Char),
      writeItems sortKeys false vs out = ((printItems sortKeys vs).flatMap (',' :: ·)).reverse ++ out
  | [], out => rfl
  | v :: vs, out => by
    simp [writeItems, printItems, write_eq sortKeys v, writeItems_eq sortKeys vs]

theorem memberWriters_eq (sortKeys : Bool) :
    ∀ ms : List (String × Value), memberWriters sortKeys ms = (printMembers sortKeys ms).map writer
  | [] => rfl
  | (k, v) :: ms => by
    rw [memberWriters, printMembers, List.map_cons, memberWriters_eq sortKeys ms]
    congr 2
    funext out
    rw [write_eq sortKeys v, List.reverseAux_eq]

end

/-- The string is the printed text. -/
theorem encode_eq (sortKeys : Bool) (v : Value) : v.encode sortKeys = String.ofList (v.print sortKeys) := by
  rw [encode, write_eq, List.append_nil, List.reverse_reverse]

/-- The text of a value in UTF-8. -/
def encodeBytes (sortKeys : Bool) (v : Value) : ByteArray := (v.encode sortKeys).toUTF8

end Value

end Json
end ConfigService
