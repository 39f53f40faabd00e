import ConfigService.Json.Literal
import ConfigService.Json.Value
/-!
# Reader — values from JSON text

Arrays and objects are read item by item.  What stands between the items is judged by `nextItem` and `nextKey`, which
every reader of a list or of an object shares.  Containers may nest 127 deep; the reader of a container gets the depth
that is left for its items, and descends on it.  A loop over items counts down the length of the whole text, which it
cannot outlast because every item takes at least one unit.

Two keys are marks.  An object that begins with one of them is no object but what the string under that key spells: a
number, or any value, in a text of its own with a depth of its own.
-/
namespace ConfigService
namespace Json

/-! ## Between the items -/

/-- Goes to the next item of a list: `true` and the text from the item on, or `false` and the text after the closing
bracket. -/
def nextItem (first : Bool) (t : Text) : Taken Bool :=
  match skipGap t with
  | [] => .error (faultHere .endInList [])
  | s :: rest =>
    if s = .char ']' then .ok (false, rest)
    else if first then .ok (true, s :: rest)
    else if s = .char ',' then
      match skipGap rest with
      | [] => .error (faultHere .endInValue [])
      | s :: rest => if s = .char ']' then .error (faultAt .trailingComma (s :: rest)) else .ok (true, s :: rest)
    else .error (faultAt .expectedListEnd (s :: rest))

/-- Takes a key from the unit it begins with. -/
def readKey (s : Symbol) (rest : Text) : Taken (Option String) :=
  if s = .char '"' then (readLiteral rest).map fun (key, rest) => (some key, rest)
  else .error (faultAt .keyNotString (s :: rest))

/-- Goes to the next member of an object: its key and the text after the key, or none and the text after the closing
brace. -/
def nextKey (first : Bool) (t : Text) : Taken (Option String) :=
  match skipGap t with
  | [] => .error (faultHere .endInObject [])
  | s :: rest =>
    if s = .char '}' then .ok (none, rest)
    else if first then readKey s rest
    else if s = .char ',' then
      match skipGap rest with
      | [] => .error (faultHere .endInValue [])
      | s :: rest => if s = .char '}' then .error (faultAt .trailingComma (s :: rest)) else readKey s rest
    else .error (faultAt .expectedObjectEnd (s :: rest))

/-- Takes the colon after a key. -/
def readColon (t : Text) : Except Fault Text :=
  match skipGap t with
  | [] => .error (faultHere .endInObject [])
  | s :: rest => if s = .char ':' then .ok rest else .error (faultAt .expectedColon (s :: rest))

/-- Reads the items of a list from after its opening bracket. -/
def readItems {α : Type} (item : Text → Taken α) : (room : Nat) → (first : Bool) → (read : List α) → Text →
    Taken (List α)
  | 0, _, _, _ => .error (faultHere .endInList [])
  | room + 1, first, read, t =>
    match nextItem first t with
    | .error f => .error f
    | .ok (false, rest) => .ok (read.reverse, rest)
    | .ok (true, rest) =>
      match item rest with
      | .error f => .error f
      | .ok (a, rest) => readItems item room false (a :: read) rest

/-- Reads the members of an object from after its opening brace. -/
def readMembers {α : Type} (item : Text → Taken α) : (room : Nat) → (first : Bool) → (read : List (String × α)) →
    Text → Taken (List (String × α))
  | 0, _, _, _ => .error (faultHere .endInObject [])
  | room + 1, first, read, t =>
    match nextKey first t with
    | .error f => .error f
    | .ok (none, rest) => .ok (read.reverse, rest)
    | .ok (some key, rest) =>
      match readColon rest with
      | .error f => .error f
      | .ok rest =>
        match item rest with
        | .error f => .error f
        | .ok (a, rest) => readMembers item room false ((key, a) :: read) rest

/-! ## Other kinds -/

/-- How a number is described where another kind was asked for: as an integer if 64 bits hold it. -/
def Numeral.found (n : Numeral) : Found :=
  if n.fraction = [] ∧ n.exponent = none then
    match n.word? with
    | some size => if ¬n.negative ∨ 0 < size ∧ size ≤ Nat.pow 2 63 then .integer n.text else .number
    | none => .number
  else .number

/-- The fault of a text that holds a value of another kind than `expected`.  A scalar is read to its end, so that it can
be described and its own faults come first; a list or an object is not entered. -/
def otherKind (expected : String) (t : Text) : Fault :=
  let describe {α : Type} (found : α → Found) : Taken α → Fault
    | .error f => f
    | .ok (a, rest) => faultHere (.wrongKind (found a) expected) rest
  let word (found : Found) (letters : List Char) (rest : Text) : Fault :=
    describe (fun () => found) ((readWord letters rest).map ((), ·))
  match t with
  | [] => faultHere .endInValue []
  | s :: rest =>
    if s = .char 'n' then word .null ['u', 'l', 'l'] rest
    else if s = .char 't' then word (.bool true) ['r', 'u', 'e'] rest
    else if s = .char 'f' then word (.bool false) ['a', 'l', 's', 'e'] rest
    else if startsNumber s then describe Numeral.found (readNumeral .asked t)
    else if s = .char '"' then describe .string (readLiteral rest)
    else if s = .char '[' then faultHere (.wrongKind .sequence expected) t
    else if s = .char '{' then faultHere (.wrongKind .map expected) t
    else faultAt .expectedValue t

/-- The whole of a text, of which one reader takes all but blanks. -/
def readWholeText {α : Type} (read : Text → Taken α) (t : Text) : Except Fault α :=
  match read t with
  | .error f => .error f
  | .ok (a, rest) =>
    match skipGap rest with
    | [] => .ok a
    | s :: rest => .error (faultAt .trailingCharacters (s :: rest))

/-! ## Marked objects -/

/-- The key that marks an object as a number: the object then has this one member, whose value spells the number. -/
def numberKey : String := "$serde_json::private::Number"

/-- The key that marks an object as a quoted value: the object then has this one member, whose value is the JSON text of
what the object stands for. -/
def quoteKey : String := "$serde_json::private::RawValue"

/-- A fault in the text of a string: what surrounds the string has no other place for it. -/
def Fault.quoted (t : Text) (f : Fault) : Fault :=
  let (line, column) := (f.position? t).getD (1, 0)
  ⟨.badSpelling f.cause, .elsewhere line column, none⟩

/-- The number that a string spells from its first character to its last. -/
def Numeral.ofSpelling (s : String) : Except Fault Numeral :=
  let t := Text.ofString s
  let judge : Except Fault Numeral :=
    match t with
    | [] => .error (faultHere .endInValue [])
    | c :: _ =>
      if startsNumber c then
        match readNumeral .spelled t with
        | .error f => .error f
        | .ok (n, []) => .ok n
        | .ok (_, rest) => .error (faultAt .invalidNumber rest)
      else .error (faultAt .invalidNumber t)
  judge.mapError (Fault.quoted t)

/-- Reads what a marked object stands for, from after the key that marks it: `decode` reads the string under the key. -/
def readMarked (expected : String) (decode : String → Except Fault Value) (t : Text) : Taken Value :=
  match readColon t with
  | .error f => .error f
  | .ok rest =>
    match skipGap rest with
    | [] => .error (faultHere .endInValue [])
    | s :: rest =>
      if s = .char '"' then
        match readLiteral rest with
        | .error f => .error f
        | .ok (text, rest) =>
          match decode text with
          | .error f => .error f
          | .ok v =>
            match skipGap rest with
            | [] => .error (faultHere .endInObject [])
            | s :: rest =>
              if s = .char '}' then .ok (v, rest)
              else .error (faultAt (if s = .char ',' then .trailingComma else .trailingCharacters) (s :: rest))
      else .error (otherKind expected (s :: rest))

/-! ## Values -/

/-- Reads a value of which containers nest at most `depth` deep; `room` is no less than the length of the text, and
`unquote` reads the value of a quoted text. -/
def readValue (unquote : String → Except Fault Value) (room : Nat) : (depth : Nat) → Text → Taken Value
  | depth, t =>
    match skipGap t with
    | [] => .error (faultHere .endInValue [])
    | s :: rest =>
      if s = .char 'n' then (readWord ['u', 'l', 'l'] rest).map (Value.null, ·)
      else if s = .char 't' then (readWord ['r', 'u', 'e'] rest).map (Value.bool true, ·)
      else if s = .char 'f' then (readWord ['a', 'l', 's', 'e'] rest).map (Value.bool false, ·)
      else if startsNumber s then (readNumeral .asked (s :: rest)).map fun (n, rest) => (.number n, rest)
      else if s = .char '"' then (readLiteral rest).map fun (s, rest) => (.string s, rest)
      else if s = .char '[' then
        match depth with
        | 0 => .error (faultAt .tooDeep (s :: rest))
        | depth + 1 =>
          (readItems (readValue unquote room depth) room true [] rest).map fun (items, rest) => (.array items, rest)
      else if s = .char '{' then
        match depth with
        | 0 => .error (faultAt .tooDeep (s :: rest))
        | depth + 1 =>
          match nextKey true rest with
          | .error f => .error f
          | .ok (none, rest) => .ok (.object [], rest)
          | .ok (some key, after) =>
            if key = numberKey then
              readMarked "string containing a number" (fun s => (Numeral.ofSpelling s).map .number) after
            else if key = quoteKey then readMarked "raw value" unquote after
            else
              (readMembers (readValue unquote room depth) room true [] rest).map fun (members, rest) =>
                (.object (collapse members), rest)
      else .error (faultAt .expectedValue (s :: rest))

/-- How deep containers may nest. -/
def depthLimit : Nat := 127

/-- The value a text spells, where at most `layers` quoted texts stand inside each other. -/
def readQuoted : (layers : Nat) → Text → Except Fault Value
  | layers, t =>
    let unquote (s : String) : Except Fault Value :=
      match layers with
      | 0 => .error (faultHere .endInValue [])
      | layers + 1 => (readQuoted layers (Text.ofString s)).mapError (Fault.quoted (Text.ofString s))
    readWholeText (readValue unquote t.length depthLimit) t

/-- The value a text spells.  A quoted text is shorter than the text it stands in, so there are no more layers of them
than units. -/
def Value.read (t : Text) : Except Fault Value := readQuoted t.length t

end Json
end ConfigService
