import ConfigService.Json.Skip
/-!
# Record — documents with named fields

A record is read from an object whose keys name its fields, in any order, or from a list of the fields in their declared
order.  Its `Shape` tells what the fields are; what has been read so far is a draft, of a type of the record's own.

A fault in a value has a place of its own.  A fault about the record — a field that is unknown, repeated or missing, a
list that is too short, a string that is no timestamp — is found between values and is reported where the record would
have ended if it had ended there.
-/
namespace ConfigService
namespace Json

/-- Why the reading of a field stopped. -/
inductive Halt
  /-- A fault with a place. -/
  | at (f : Fault)
  /-- The value was read up to the rest of the text, and the record cannot hold it. -/
  | refused (cause : Cause) (rest : Text)

/-- What a reader of a field takes, and the rest. -/
abbrev FieldTaken (α : Type) := Except Halt (α × Text)

/-- A field of a record. -/
structure Slot (σ : Type) where
  name : String
  /-- The draft has this field. -/
  isFilled : σ → Bool
  /-- Reads the field's value into the draft. -/
  fill : σ → Text → FieldTaken σ
  /-- The record is complete without this field. -/
  optional : Bool

/-- The fields of a record in their declared order, and how the record is spoken of. -/
structure Shape (σ : Type) where
  title : String
  slots : List (Slot σ)
  empty : σ
  /-- An unknown field is a fault; otherwise its value is passed over. -/
  strict : Bool

namespace Shape

variable {σ : Type} (shape : Shape σ)

/-- The names of the fields. -/
def names : List String := shape.slots.map Slot.name

/-- The field a key names. -/
def slot? (key : String) : Option (Slot σ) := shape.slots.find? fun s => s.name == key

/-- The first field that a draft lacks and the record needs. -/
def missing? (draft : σ) : Option String :=
  (shape.slots.find? fun s => !s.optional && !s.isFilled draft).map Slot.name

/-- The description of a list that holds the record. -/
def listTitle : String := shape.title ++ " with " ++ toString shape.slots.length ++ " elements"

end Shape

/-- The text from where an object would end: after blanks, and after its closing brace if that is next. -/
def afterObject (t : Text) : Text :=
  match skipGap t with
  | [] => []
  | s :: rest => if s = .char '}' then rest else s :: rest

/-- The text from where a list would end: as for an object, and a comma is taken too. -/
def afterList (t : Text) : Text :=
  match skipGap t with
  | [] => []
  | s :: rest => if s = .char ']' then rest else if s = .char ',' then skipGap rest else s :: rest

/-- The fault of a field's value; `after` goes from where reading stopped to where the record would end. -/
def Halt.toFault (step : Step) (after : Text → Text) : Halt → Fault
  | .at f => { f with step := some step }
  | .refused cause rest => ⟨cause, .left (Text.width (after rest)), some step⟩

/-- Reads the members of a record from after the opening brace; `length` is no less than the length of the text. -/
def readFields {σ : Type} (shape : Shape σ) (length : Nat) : (room : Nat) → (first : Bool) → σ → Text → Taken σ
  | 0, _, _, _ => .error (faultHere .endInObject [])
  | room + 1, first, draft, t =>
    match nextKey first t with
    | .error f => .error f
    | .ok (none, rest) =>
      match shape.missing? draft with
      | some name => .error (faultHere (.missingField name) rest)
      | none => .ok (draft, rest)
    | .ok (some key, rest) =>
      match shape.slot? key with
      | none =>
        if shape.strict then
          .error ((Halt.refused (.unknownField key shape.names) rest).toFault (.key key) afterObject)
        else
          match readColon rest with
          | .error f => .error f
          | .ok rest =>
            match skipValue length rest with
            | .error f => .error f
            | .ok rest => readFields shape length room false draft rest
      | some slot =>
        if slot.isFilled draft then .error (faultHere (.repeatedField slot.name) (afterObject rest))
        else
          match readColon rest with
          | .error f => .error f
          | .ok rest =>
            match slot.fill draft rest with
            | .error h => .error (h.toFault (.key key) afterObject)
            | .ok (draft, rest) => readFields shape length room false draft rest

/-- Reads the fields of a record from a list, from after its opening bracket or after an item. -/
def readList {σ : Type} (shape : Shape σ) : (index : Nat) → List (Slot σ) → σ → Text → Taken σ
  | _, [], draft, t => .ok (draft, t)
  | index, slot :: slots, draft, t =>
    match nextItem (index == 0) t with
    | .error f => .error f
    | .ok (false, rest) => .error (faultHere (.wrongLength index shape.listTitle) rest)
    | .ok (true, rest) =>
      match slot.fill draft rest with
      | .error h => .error (h.toFault (.index index) afterList)
      | .ok (draft, rest) => readList shape (index + 1) slots draft rest

/-- The end of the list that held a record. -/
def endList (t : Text) : Except Fault Text :=
  match skipGap t with
  | [] => .error (faultHere .endInList [])
  | s :: rest =>
    if s = .char ']' then .ok rest
    else if s = .char ',' then
      match skipGap rest with
      | s :: rest =>
        .error (faultAt (if s = .char ']' then .trailingComma else .trailingCharacters) (s :: rest))
      | [] => .error (faultHere .trailingCharacters [])
    else .error (faultAt .trailingCharacters (s :: rest))

/-- Reads a record. -/
def readRecord {σ : Type} (shape : Shape σ) (t : Text) : Taken σ :=
  match skipGap t with
  | [] => .error (faultHere .endInValue [])
  | s :: rest =>
    if s = .char '{' then readFields shape t.length t.length true shape.empty rest
    else if s = .char '[' then
      match readList shape 0 shape.slots shape.empty rest with
      | .error f => .error f
      | .ok (draft, rest) => (endList rest).map (draft, ·)
    else .error (otherKind shape.title (s :: rest))

end Json
end ConfigService
