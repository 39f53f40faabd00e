import ConfigService.Payload.Parts
/-!
# Direct — payloads written in one pass

A payload can be written as it is handed over, with no value of it in between: each of its kinds has a text, and the text
of a container is put together from those of its parts.  A float that is no number is `null` then, entries under one key
stand one after the other, and what a record under a mark holds is copied as it is.  A `Style` says for each of these last
two whether it is done otherwise, and whether members are sorted.
-/
namespace ConfigService

namespace Payload

open Json (Value Numeral literal commaSeparated memberText)

/-- How a payload is written in one pass. -/
structure Style where
  /-- Entries under one key make one member, in the place of the first with the value of the last. -/
  collapsed : Bool
  sortKeys : Bool
  /-- The string in a marked record is read, and written anew; else it is copied. -/
  respelled : Bool

/-- As JSON is written by default. -/
def Style.standard : Style := ⟨false, false, false⟩

/-- As a value in between makes it. -/
def Style.lowered (sortKeys : Bool) : Style := ⟨true, sortKeys, true⟩

def Style.arrange {α : Type} (s : Style) (entries : List (String × α)) : List (String × α) :=
  let members := if s.collapsed then Json.collapse entries else entries
  if s.sortKeys then Json.sortByKey members else members

/-! ## Scalars and keys -/

def nullText : List Char := "null".toList

def truthText (b : Bool) : List Char := if b then "true".toList else "false".toList

/-- The text of a float, if it is a number and finite. -/
def finiteText? (layout : Json.Positional) (v : BinaryValue) : Option (List Char) :=
  (Numeral.ofValue layout v).toOption.map Numeral.text

/-- A key as it is written: a string as it is, any other scalar by its text. -/
def writtenKey? : Payload → Option String
  | string s => Option.some s
  | char c => Option.some (String.ofList [c])
  | label _ variant => Option.some variant
  | timestamp t => Option.some (toString t)
  | bool b => Option.some (String.ofList (truthText b))
  | integer i => Option.some (String.ofList (Numeral.ofInt i).text)
  | wideInteger _ i => Option.some (String.ofList (Numeral.ofInt i).text)
  | float32 bits => (finiteText? Json.positional32 (value32 bits)).map String.ofList
  | float64 bits => (finiteText? Json.positional64 (value64 bits)).map String.ofList
  | value (.string s) => Option.some s
  | value (.timestamp t) => Option.some (toString t)
  | value (.bool b) => Option.some (String.ofList (truthText b))
  | wrapped _ p => writtenKey? p
  | _ => Option.none

/-! ## Containers -/

def arrayText (items : List (List Char)) : List Char := '[' :: (commaSeparated items ++ [']'])

def objectText (members : List (String × List Char)) : List Char :=
  '{' :: (commaSeparated (members.map memberText) ++ ['}'])

/-- The strings that the fields of a marked record hold, if all of them have its key. -/
def heldStrings? (mark : Mark) : List (String × Payload) → Option (List String)
  | [] => Option.some []
  | (key, p) :: fs =>
    if key = mark.key then p.heldString?.bind fun s => (heldStrings? mark fs).map (s :: ·) else Option.none

def markedText? (s : Style) (mark : Mark) (fields : List (String × Payload)) : Option (List Char) :=
  (heldStrings? mark fields).bind fun held =>
    if s.respelled then held.getLast?.bind fun last => (mark.read last).toOption.map (Value.print s.sortKeys)
    else Option.some (held.flatMap String.toList)

mutual

/-- The text of a payload, written in one pass. -/
def written? (s : Style) : Payload → Option (List Char)
  | bool b => Option.some (truthText b)
  | integer i => Option.some (Numeral.ofInt i).text
  | wideInteger _ i => Option.some (Numeral.ofInt i).text
  | float32 bits => Option.some ((finiteText? Json.positional32 (value32 bits)).getD nullText)
  | float64 bits => Option.some ((finiteText? Json.positional64 (value64 bits)).getD nullText)
  | char c => Option.some (literal (String.ofList [c]))
  | string str => Option.some (literal str)
  | bytes bs => Option.some (arrayText (bs.map fun b => (Numeral.ofInt b.toNat).text))
  | none => Option.some nullText
  | some p => written? s p
  | unit => Option.some nullText
  | marker _ => Option.some nullText
  | label _ variant => Option.some (literal variant)
  | wrapped _ p => written? s p
  | wrappedVariant _ variant p => (written? s p).map fun t => objectText [(variant, t)]
  | sequence items => (writtenItems? s items).map arrayText
  | tuple items => (writtenItems? s items).map arrayText
  | namedTuple _ items => (writtenItems? s items).map arrayText
  | tupleVariant _ variant items => (writtenItems? s items).map fun ts => objectText [(variant, arrayText ts)]
  | map entries => (writtenEntries? s entries).map fun ms => objectText (s.arrange ms)
  | record name fields =>
    match mark? name with
    | Option.some mark => markedText? s mark fields
    | Option.none => (writtenFields? s fields).map fun ms => objectText (s.arrange ms)
  | recordVariant _ variant fields =>
    (writtenFields? s fields).map fun ms => objectText [(variant, objectText (s.arrange ms))]
  | timestamp t => Option.some (literal (toString t))
  | value v => Option.some (v.print s.sortKeys)
  | fail _ => Option.none

def writtenItems? (s : Style) : List Payload → Option (List (List Char))
  | [] => Option.some []
  | p :: ps => (written? s p).bind fun t => (writtenItems? s ps).map (t :: ·)

def writtenEntries? (s : Style) : List (Payload × Payload) → Option (List (String × List Char))
  | [] => Option.some []
  | (k, p) :: es =>
    (writtenKey? k).bind fun key => (written? s p).bind fun t => (writtenEntries? s es).map ((key, t) :: ·)

def writtenFields? (s : Style) : List (String × Payload) → Option (List (String × List Char))
  | [] => Option.some []
  | (key, p) :: fs => (written? s p).bind fun t => (writtenFields? s fs).map ((key, t) :: ·)

end

/-! ## What may be said of a payload -/

def IsFloat : Payload → Prop
  | float32 _ => True
  | float64 _ => True
  | _ => False

/-- No float in a payload is written as null. -/
def FloatsWritten (p : Payload) : Prop := ∀ q ∈ p.parts, q.IsFloat → ∀ s, q.written? s ≠ Option.some nullText

/-- In every map and record of a payload a key comes once, and what a marked record holds is just as it would be written
anew. -/
structure Plain (p : Payload) : Prop where
  entries : ∀ entries, map entries ∈ p.parts → (entries.map fun e => writtenKey? e.1).Nodup
  fields : ∀ name fields, record name fields ∈ p.parts → mark? name = Option.none → (fields.map Prod.fst).Nodup
  variantFields : ∀ sum variant fields, recordVariant sum variant fields ∈ p.parts → (fields.map Prod.fst).Nodup
  marked : ∀ name fields mark, record name fields ∈ p.parts → mark? name = Option.some mark →
    markedText? .standard mark fields = markedText? (.lowered false) mark fields

end Payload

end ConfigService
