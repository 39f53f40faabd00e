import ConfigService.Json.Record
import ConfigService.Timestamp.Text
/-!
# Scalar — values of a known kind

A string, a truth value, a count or a timestamp is read where a record asks for it.  A count is an integer of 64 bits
without a sign; every other number is described as the float it comes closest to, found by way of its first twenty digits
or so and a power of ten, and one that is too large for any float is a fault of its own.
-/
namespace ConfigService
namespace Json

/-- Reads a string. -/
def readString (t : Text) : Taken String :=
  match skipGap t with
  | [] => .error (faultHere .endInValue [])
  | s :: rest => if s = .char '"' then readLiteral rest else .error (otherKind "a string" (s :: rest))

/-- Reads a truth value. -/
def readBool (t : Text) : Taken Bool :=
  match skipGap t with
  | [] => .error (faultHere .endInValue [])
  | s :: rest =>
    if s = .char 't' then (readWord ['r', 'u', 'e'] rest).map (true, ·)
    else if s = .char 'f' then (readWord ['a', 'l', 's', 'e'] rest).map (false, ·)
    else .error (otherKind "a boolean" (s :: rest))

/-! ## Counts -/

/-- The float nearest to a power of ten. -/
def powerOfTen (k : Nat) : Float := Float.ofScientific 1 false k

/-- A float times a power of ten, in steps that a float can take; none if the result is too large.  Three steps go from
any word to zero. -/
def scale : (room : Nat) → Float → Int → Option Float
  | 0, x, _ => some x
  | room + 1, x, e =>
    if e.natAbs ≤ 308 then
      if 0 ≤ e then
        let y := x * powerOfTen e.natAbs
        if y.isInf then none else some y
      else some (x / powerOfTen e.natAbs)
    else if x == 0.0 then some x
    else if 0 ≤ e then none
    else scale room (x / powerOfTen 308) (e + 308)

/-- The float a number is described by, with its spelling; or, if there is none, how many digits from the end of the
number that became clear. -/
def nearestFloat (n : Numeral) : Except Nat (List Char) :=
  let (word, left) := fillBelow (Nat.pow 2 64) 0 n.whole
  let (word, unread) := fillBelow (Nat.pow 2 64) word n.fraction
  let shift : Int := left.length - (n.fraction.length - unread.length : Nat)
  let sign (x : Float) : Float := if n.negative then -x else x
  let spell (x : Float) : List Char :=
    match Numeral.ofValue positional64 (binary64.decode (sign x).toBits.toNat) with
    | .ok n => n.text
    | .error _ => []
  let scaled (e : Int) : Except Nat (List Char) :=
    match scale 4 word.toUInt64.toFloat e with
    | some x => .ok (spell x)
    | none => .error 0
  match n.exponent with
  | none => scaled shift
  | some e =>
    match fillBelow (Nat.pow 2 31) 0 e.digits with
    | (_, _ :: unread) => if word ≠ 0 ∧ ¬e.negative then .error unread.length else .ok (spell 0.0)
    | (size, []) =>
      let e : Int := if e.negative then -size else size
      scaled (max (-Nat.pow 2 31) (min (shift + e) (Nat.pow 2 31 - 1)))

/-- What a record that asks for a count says it expects. -/
def countTitle : String := "u64"

/-- The count that a number is, or the fault of a number that is none; `rest` is the text after the number. -/
def countOf (n : Numeral) (rest : Text) : Except Fault UInt64 :=
  let asFloat : Fault :=
    match nearestFloat n with
    | .ok text => faultHere (.wrongKind (.float text) countTitle) rest
    | .error left => ⟨.numberOutOfRange, .left (Text.width rest + left), none⟩
  if n.fraction = [] ∧ n.exponent = none then
    match n.word? with
    | none => .error asFloat
    | some size =>
      if ¬n.negative then .ok (UInt64.ofNat size)
      else if 0 < size ∧ size ≤ Nat.pow 2 63 then .error (faultHere (.wrongValue (.integer n.text) countTitle) rest)
      else .error asFloat
  else .error asFloat

/-- Reads a count. -/
def readCount (t : Text) : Taken UInt64 :=
  match skipGap t with
  | [] => .error (faultHere .endInValue [])
  | s :: rest =>
    if startsNumber s then
      match readNumeral .asked (s :: rest) with
      | .error f => .error f
      | .ok (n, rest) => (countOf n rest).map (·, rest)
    else .error (otherKind countTitle (s :: rest))

/-! ## Absent values and timestamps -/

/-- Reads a value that may be absent, which `null` says. -/
def readOptional {α : Type} (read : Text → FieldTaken α) (t : Text) : FieldTaken (Option α) :=
  match skipGap t with
  | .char 'n' :: rest =>
    match readWord ['u', 'l', 'l'] rest with
    | .ok rest => .ok (none, rest)
    | .error f => .error (.at f)
  | t =>
    match read t with
    | .ok (a, rest) => .ok (some a, rest)
    | .error h => .error h

/-- A reader of a kind that holds every value it can read. -/
def plainly {α : Type} (read : Text → Taken α) (t : Text) : FieldTaken α :=
  match read t with
  | .ok taken => .ok taken
  | .error f => .error (.at f)

/-- Reads a timestamp. -/
def readTimestamp (t : Text) : FieldTaken Timestamp :=
  match readString t with
  | .error f => .error (.at f)
  | .ok (s, rest) =>
    match Timestamp.read s.toList with
    | .ok ts => .ok (ts, rest)
    | .error e => .error (.refused (.badTimestamp e) rest)

/-- The timestamp that a text holds as its only value. -/
def timestampOf (t : Text) : Except Fault Timestamp :=
  readWholeText (fun t =>
    match readTimestamp t with
    | .ok taken => .ok taken
    | .error (.at f) => .error f
    | .error (.refused cause _) => .error ⟨cause, .nowhere, none⟩) t

end Json
end ConfigService
