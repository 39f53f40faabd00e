import ConfigService.Text.Blank
import ConfigService.Text.Digits
import ConfigService.Timestamp
/-!
# Text — timestamps as `YYYY-MM-DDTHH:MM:SSZ`

Writing always gives the same twenty characters for a timestamp.  Reading is wider: each number may stand after white
space and with fewer digits, a year may carry a sign and then have any number of digits, and a second of 60 is read as
59.  A number's range is checked when it has been read, the calendar when the text is at its end, and the years a
timestamp can hold last of all, so of several faults the leftmost is reported.
-/
namespace ConfigService
namespace Timestamp

/-- The text of a timestamp. -/
def text (t : Timestamp) : List Char :=
  padded 4 t.moment.date.year.toNat ++ '-' :: padded 2 t.moment.date.month ++ '-' :: padded 2 t.moment.date.day ++
    'T' :: padded 2 t.moment.clock.hour ++ ':' :: padded 2 t.moment.clock.minute ++
    ':' :: padded 2 t.moment.clock.second ++ ['Z']

instance : ToString Timestamp := ⟨fun t => String.ofList t.text⟩

/-- A part of a timestamp's text: what it stands for and the rest of the text, or a fault. -/
abbrev Part (α : Type) := Except ReadFault (α × List Char)

/-- The digits at the start, at least one and at most `limit` of them. -/
def digits (limit : Nat) (cs : List Char) : Part (List Char) :=
  match (cs.take limit).takeWhile Char.isDigit with
  | [] => .error (if cs.isEmpty then .tooShort else .unexpected)
  | ds => .ok (ds, cs.drop ds.length)

/-- The number spelled by the digits at the start, at least one and at most `limit` of them. -/
def number (limit : Nat) (cs : List Char) : Part Nat := (digits limit cs).map fun (ds, rest) => (ofDigits ds, rest)

/-- A number of one or two digits after optional white space, from `low` to `high`. -/
def field (low high : Nat) (cs : List Char) : Part Nat :=
  match number 2 (cs.dropWhile isBlank) with
  | .ok (n, rest) => if low ≤ n ∧ n ≤ high then .ok (n, rest) else .error .impossible
  | .error e => .error e

/-- The number of a year after its sign: any number of digits, of which no year beyond 31 bits is made. -/
def signedYear (sign : Int) (cs : List Char) : Part Int :=
  match digits cs.length cs with
  | .ok (ds, rest) =>
    match ofDigitsBelow? (Nat.pow 2 31 + 1) ds with
    | some n => if sign * n < Nat.pow 2 31 then .ok (sign * n, rest) else .error .impossible
    | none => .error .impossible
  | .error e => .error e

/-- A year after optional white space: up to four digits, or a sign and any number of them. -/
def yearField (cs : List Char) : Part Int :=
  match cs.dropWhile isBlank with
  | '-' :: rest => signedYear (-1) rest
  | '+' :: rest => signedYear 1 rest
  | cs => (number 4 cs).map fun (n, rest) => ((n : Int), rest)

/-- A mark that stands as it is. -/
def mark (c : Char) : List Char → Except ReadFault (List Char)
  | [] => .error .tooShort
  | d :: rest => if d = c then .ok rest else .error .unexpected

/-- The moment a text spells. -/
def readMoment (cs : List Char) : Except ReadFault Moment := do
  let (year, cs) ← yearField cs
  let cs ← mark '-' cs
  let (month, cs) ← field 1 12 cs
  let cs ← mark '-' cs
  let (day, cs) ← field 1 31 cs
  let cs ← mark 'T' cs
  let (hour, cs) ← field 0 23 cs
  let cs ← mark ':' cs
  let (minute, cs) ← field 0 59 cs
  let cs ← mark ':' cs
  let (second, cs) ← field 0 60 cs
  let cs ← mark 'Z' cs
  if cs.isEmpty then
    match heldMoment? year month day hour minute (min second 59) with
    | some m => .ok m
    | none => .error .impossible
  else .error .trailing

/-- The timestamp a text spells. -/
def read (cs : List Char) : Except Error Timestamp :=
  match readMoment cs with
  | .ok m => ofMoment m
  | .error e => .error (.unreadable e)

end Timestamp

end ConfigService
