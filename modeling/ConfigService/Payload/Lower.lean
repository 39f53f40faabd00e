import ConfigService.Payload.Basic
import ConfigService.Json.Printer
import ConfigService.Json.Spelling
import ConfigService.Text.Report
/-!
# Lower — payloads as JSON values

A payload is walked twice.  The first walk looks for a float that is no number and for data that fails; it goes in the
order in which the payload is written, keys before their values, and what it finds first is the reason, whatever else may
be wrong.  The second walk builds the value.  Two things can still go wrong there: a key that is no string and is not
shown as one, and a record that is marked as a number or a quoted value and spells none.
-/
namespace ConfigService

namespace Payload

open Json (Value)

/-- The error of data that fails with a message. -/
def refusal (message : String) : EncodeError := .refused (Report.normalise message)

/-! ## The first walk -/

mutual

/-- The first float that is no number and the first data that fails, whichever comes first. -/
def firstFault : Payload → Option EncodeError
  | float32 bits => (value32 bits).fault?
  | float64 bits => (value64 bits).fault?
  | some p => firstFault p
  | wrapped _ p => firstFault p
  | wrappedVariant _ _ p => firstFault p
  | sequence items => firstFaultInItems items
  | tuple items => firstFaultInItems items
  | namedTuple _ items => firstFaultInItems items
  | tupleVariant _ _ items => firstFaultInItems items
  | map entries => firstFaultInEntries entries
  | record _ fields => firstFaultInFields fields
  | recordVariant _ _ fields => firstFaultInFields fields
  | fail message => Option.some (refusal message)
  | _ => Option.none

/-- The first fault in a list of items. -/
def firstFaultInItems : List Payload → Option EncodeError
  | [] => Option.none
  | p :: ps => firstFault p <|> firstFaultInItems ps

/-- The first fault in the entries of a map. -/
def firstFaultInEntries : List (Payload × Payload) → Option EncodeError
  | [] => Option.none
  | (k, p) :: es => firstFault k <|> firstFault p <|> firstFaultInEntries es

/-- The first fault in the fields of a record. -/
def firstFaultInFields : List (String × Payload) → Option EncodeError
  | [] => Option.none
  | (_, p) :: fs => firstFault p <|> firstFaultInFields fs

end

/-! ## The second walk -/

/-- The text of a float. -/
def floatText (layout : Json.Positional) (v : BinaryValue) : Except EncodeError String :=
  (Json.Numeral.ofValue layout v).map fun n => String.ofList n.text

/-- The key that a payload is shown as. -/
def keyText : Payload → Except EncodeError String
  | bool b => .ok (if b then "true" else "false")
  | integer i => .ok (String.ofList (Json.Numeral.ofInt i).text)
  | wideInteger _ i => .ok (String.ofList (Json.Numeral.ofInt i).text)
  | float32 bits => floatText Json.positional32 (value32 bits)
  | float64 bits => floatText Json.positional64 (value64 bits)
  | char c => .ok (String.ofList [c])
  | string s => .ok s
  | label _ variant => .ok variant
  | wrapped _ p => keyText p
  | timestamp t => .ok (toString t)
  | value (.bool b) => .ok (if b then "true" else "false")
  | value (.string s) => .ok s
  | value (.timestamp t) => .ok (toString t)
  | fail message => .error (refusal message)
  | _ => .error .badKey

/-- The name of a type of integers of 128 bits. -/
def wideName (signed : Bool) : String := if signed then "i128" else "u128"

/-- A mark on a record: the record has one field under `key`, and stands for what the string in that field spells. -/
structure Mark where
  key : String
  /-- What is wrong with a field that holds no string, or has another name. -/
  invalid : Json.Cause
  read : String → Except EncodeError Value

/-- The mark of a number. -/
def Mark.number : Mark where
  key := Json.numberKey
  invalid := .invalidNumber
  read s :=
    match Json.Numeral.ofSpelling s with
    | .ok n => .ok (.number n)
    | .error f => .error (.badSpelling (f.message []))

/-- The mark of a quoted value. -/
def Mark.quote : Mark where
  key := Json.quoteKey
  invalid := .expectedValue
  read s :=
    match Value.read (Text.ofString s) with
    | .ok v => .ok v
    | .error f => .error (.badSpelling (f.message (Text.ofString s)))

/-- The mark that the name of a record is, if it is one. -/
def mark? (name : String) : Option Mark :=
  if name = Mark.number.key then Option.some .number
  else if name = Mark.quote.key then Option.some .quote
  else Option.none

/-- The value that a field of a marked record spells.  Wide integers are turned away by their type. -/
def spelledField (mark : Mark) (field : String × Payload) : Except EncodeError Value :=
  let invalid : Except EncodeError Value := .error (.badSpelling mark.invalid.message)
  if field.1 ≠ mark.key then invalid
  else
    match field.2 with
    | string s => mark.read s
    | timestamp t => mark.read (toString t)
    | value (.string s) => mark.read s
    | value (.timestamp t) => mark.read (toString t)
    | wideInteger signed _ => .error (.badSpelling (wideName signed ++ " is not supported"))
    | _ => invalid

/-- The value that a marked record stands for: its last field counts, but every field must be good. -/
def markedValue (mark : Mark) : List (String × Payload) → Except EncodeError Value
  | [] => .error (.badSpelling mark.invalid.message)
  | [field] => spelledField mark field
  | field :: fields =>
    match spelledField mark field with
    | .error e => .error e
    | .ok _ => markedValue mark fields

/-- An object with one member. -/
def single (key : String) (v : Value) : Value := .object [(key, v)]

mutual

/-- The value of a payload. -/
def lower : Payload → Except EncodeError Value
  | bool b => .ok (.bool b)
  | integer i => .ok (.number (.ofInt i))
  | wideInteger _ i => .ok (.number (.ofInt i))
  | float32 bits => (Json.Numeral.ofValue Json.positional32 (value32 bits)).map .number
  | float64 bits => (Json.Numeral.ofValue Json.positional64 (value64 bits)).map .number
  | char c => .ok (.string (String.ofList [c]))
  | string s => .ok (.string s)
  | bytes bs => .ok (.array (bs.map fun b => .number (.ofInt b.toNat)))
  | none => .ok .null
  | some p => lower p
  | unit => .ok .null
  | marker _ => .ok .null
  | label _ variant => .ok (.string variant)
  | wrapped _ p => lower p
  | wrappedVariant _ variant p => (lower p).map (single variant)
  | sequence items => (lowerItems items).map .array
  | tuple items => (lowerItems items).map .array
  | namedTuple _ items => (lowerItems items).map .array
  | tupleVariant _ variant items => (lowerItems items).map fun vs => single variant (.array vs)
  | map entries => (lowerEntries entries).map fun ms => .object (Json.collapse ms)
  | record name fields =>
    match mark? name with
    | Option.some mark => markedValue mark fields
    | Option.none => (lowerFields fields).map fun ms => .object (Json.collapse ms)
  | recordVariant _ variant fields =>
    (lowerFields fields).map fun ms => single variant (.object (Json.collapse ms))
  | timestamp t => .ok (.string (toString t))
  | value v => .ok v.spelled
  | fail message => .error (refusal message)

/-- The values of a list of items. -/
def lowerItems : List Payload → Except EncodeError (List Value)
  | [] => .ok []
  | p :: ps =>
    match lower p with
    | .error e => .error e
    | .ok v => (lowerItems ps).map (v :: ·)

/-- The members that the entries of a map make. -/
def lowerEntries : List (Payload × Payload) → Except EncodeError (List (String × Value))
  | [] => .ok []
  | (k, p) :: es =>
    match keyText k with
    | .error e => .error e
    | .ok key =>
      match lower p with
      | .error e => .error e
      | .ok v => (lowerEntries es).map ((key, v) :: ·)

/-- The members that the fields of a record make. -/
def lowerFields : List (String × Payload) → Except EncodeError (List (String × Value))
  | [] => .ok []
  | (key, p) :: fs =>
    match lower p with
    | .error e => .error e
    | .ok v => (lowerFields fs).map ((key, v) :: ·)

end

/-- The value of a payload, after the walk for faults. -/
def toValue (p : Payload) : Except EncodeError Value :=
  match p.firstFault with
  | Option.some e => .error e
  | Option.none => p.lower

/-- The text of a payload. -/
def encode (sortKeys : Bool) (p : Payload) : Except EncodeError String := p.toValue.map (Value.encode sortKeys)

/-- The text of a payload in UTF-8. -/
def encodeBytes (sortKeys : Bool) (p : Payload) : Except EncodeError ByteArray :=
  p.toValue.map (Value.encodeBytes sortKeys)

end Payload

end ConfigService
