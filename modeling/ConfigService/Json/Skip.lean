import ConfigService.Json.Reader
/-!
# Skip — values nobody asked for

A document may hold members that its reader does not know.  Their values are passed over to whatever depth they nest, so
the brackets that are open are kept in a list instead of in the call stack.  Only the form is judged: a literal may hold
half a pair, and a number that ends too early is a bad number even where the text ends with it.
-/
namespace ConfigService
namespace Json

/-- A bracket that is open. -/
inductive Bracket
  | list
  | object
  deriving DecidableEq, Repr

namespace Bracket

/-- The unit that closes a bracket. -/
def close : Bracket → Symbol
  | list => .char ']'
  | object => .char '}'

/-- What it means that the text ends inside a bracket. -/
def ended : Bracket → Cause
  | list => .endInList
  | object => .endInObject

/-- What it means that something else stands after an item. -/
def unclosed : Bracket → Cause
  | list => .expectedListEnd
  | object => .expectedObjectEnd

end Bracket

/-- Goes to the value of the next item: in a list it is next, in an object a key and a colon come first. -/
def passKey : Bracket → Text → Except Fault Text
  | .list, t => .ok t
  | .object, t =>
    match skipGap t with
    | [] => .error (faultHere .endInObject [])
    | s :: rest =>
      if s = .char '"' then
        match passLiteral rest with
        | .error f => .error f
        | .ok rest => readColon rest
      else .error (faultAt .keyNotString (s :: rest))

/-- Passes over a value without brackets. -/
def passScalar (s : Symbol) (rest : Text) : Except Fault Text :=
  if s = .char 'n' then readWord ['u', 'l', 'l'] rest
  else if s = .char 't' then readWord ['r', 'u', 'e'] rest
  else if s = .char 'f' then readWord ['a', 'l', 's', 'e'] rest
  else if startsNumber s then (readNumeral .passed (s :: rest)).map Prod.snd
  else if s = .char '"' then passLiteral rest
  else .error (faultAt .expectedValue (s :: rest))

/-- The bracket a unit opens. -/
def opens? (s : Symbol) : Option Bracket :=
  if s = .char '[' then some .list else if s = .char '{' then some .object else none

/-- Passes over the rest of a value inside the `enclosing` brackets, innermost first.  With `closed` an item has just
ended; without it, one is to begin.  Every round takes at least one unit. -/
def skipFrom : (room : Nat) → (closed : Bool) → (enclosing : List Bracket) → Text → Except Fault Text
  | 0, _, _, _ => .error (faultHere .endInValue [])
  | _ + 1, true, [], t => .ok t
  | room + 1, true, b :: enclosing, t =>
    match skipGap t with
    | [] => .error (faultHere b.ended [])
    | s :: rest =>
      if s = .char ',' then
        match passKey b rest with
        | .error f => .error f
        | .ok rest => skipFrom room false (b :: enclosing) rest
      else if s = b.close then skipFrom room true enclosing rest
      else .error (faultAt b.unclosed (s :: rest))
  | room + 1, false, enclosing, t =>
    match skipGap t with
    | [] => .error (faultHere .endInValue [])
    | s :: rest =>
      match opens? s with
      | none =>
        match passScalar s rest with
        | .error f => .error f
        | .ok rest => skipFrom room true enclosing rest
      | some b =>
        match skipGap rest with
        | [] => .error (faultHere b.ended [])
        | s :: rest =>
          if s = b.close then skipFrom room true enclosing rest
          else
            match passKey b (s :: rest) with
            | .error f => .error f
            | .ok rest => skipFrom room false (b :: enclosing) rest

/-- Passes over a value; `room` is no less than the length of the text. -/
def skipValue (room : Nat) (t : Text) : Except Fault Text := skipFrom (room + 1) false [] t

end Json
end ConfigService
