import ConfigService.Text.Symbol
import ConfigService.Text.Quoted
import ConfigService.Timestamp
/-!
# Fault — why a JSON text could not be read

A fault has a cause and a place.  The place is kept as the number of bytes after it, which a reader knows without
counting what came before, and becomes a line and a column when the fault is told.  Causes fall into three categories:
the text ended too early, the text is no JSON, or it is JSON of the wrong content.  A reader of a document with named
fields also notes in which field a fault arose.
-/
namespace ConfigService
namespace Json

/-- What a value turned out to be where another kind was asked for. -/
inductive Found
  | null
  | bool (b : Bool)
  /-- An integer that a machine word holds, as it is spelled. -/
  | integer (text : List Char)
  /-- A float where only integers are of use, as it is spelled. -/
  | float (text : List Char)
  /-- Any other number. -/
  | number
  | string (s : String)
  | sequence
  | map
  deriving DecidableEq, Repr

/-- Why a text could not be read. -/
inductive Cause
  | endInValue
  | endInString
  | endInList
  | endInObject
  | expectedValue
  | expectedIdent
  | expectedColon
  | expectedListEnd
  | expectedObjectEnd
  | keyNotString
  | trailingComma
  | trailingCharacters
  | invalidNumber
  | numberOutOfRange
  | invalidEscape
  | loneSurrogate
  | unpairedSurrogate
  | controlCharacter
  | invalidCodePoint
  | tooDeep
  /-- A value of another kind. -/
  | wrongKind (found : Found) (expected : String)
  /-- A value of the right kind that is out of bounds. -/
  | wrongValue (found : Found) (expected : String)
  | wrongLength (length : Nat) (expected : String)
  | unknownField (name : String) (known : List String)
  | repeatedField (name : String)
  | missingField (name : String)
  | badTimestamp (e : Timestamp.Error)
  /-- A string that ought to spell a number. -/
  | badSpelling (inside : Cause)
  deriving DecidableEq, Repr

/-- The three categories of causes. -/
inductive Category
  | ended
  | malformed
  | wrongContent
  deriving DecidableEq, Repr

/-- A field of a document: by its key, or by its place in a list. -/
inductive Step
  | key (name : String)
  | index (i : Nat)
  deriving DecidableEq, Repr

/-- The place of a fault. -/
inductive Place
  /-- The fault is not about a place. -/
  | nowhere
  /-- So many bytes before the end. -/
  | left (bytes : Nat)
  /-- A line and a column of some other text. -/
  | elsewhere (line column : Nat)
  deriving DecidableEq, Repr

/-- Why a text could not be read, and where. -/
structure Fault where
  cause : Cause
  place : Place
  step : Option Step := none
  deriving DecidableEq, Repr

/-! ## Wording -/

/-- How a value of the wrong kind is described. -/
def Found.describe : Found → String
  | null => "null"
  | bool b => "boolean `" ++ (if b then "true" else "false") ++ "`"
  | integer text => "integer `" ++ String.ofList text ++ "`"
  | float text => "floating point `" ++ String.ofList text ++ "`"
  | number => "number"
  | string s => "string " ++ quoted s
  | sequence => "sequence"
  | map => "map"

/-- The names that were possible, as a sentence lists them. -/
def oneOf (names : List String) : String :=
  match names with
  | [] => "there are no fields"
  | [a] => "expected `" ++ a ++ "`"
  | [a, b] => "expected `" ++ a ++ "` or `" ++ b ++ "`"
  | names => "expected one of " ++ String.intercalate ", " (names.map fun n => "`" ++ n ++ "`")

namespace Cause

/-- The wording of a cause. -/
def message : Cause → String
  | endInValue => "EOF while parsing a value"
  | endInString => "EOF while parsing a string"
  | endInList => "EOF while parsing a list"
  | endInObject => "EOF while parsing an object"
  | expectedValue => "expected value"
  | expectedIdent => "expected ident"
  | expectedColon => "expected `:`"
  | expectedListEnd => "expected `,` or `]`"
  | expectedObjectEnd => "expected `,` or `\x7d`"
  | keyNotString => "key must be a string"
  | trailingComma => "trailing comma"
  | trailingCharacters => "trailing characters"
  | invalidNumber => "invalid number"
  | numberOutOfRange => "number out of range"
  | invalidEscape => "invalid escape"
  | loneSurrogate => "lone leading surrogate in hex escape"
  | unpairedSurrogate => "unexpected end of hex escape"
  | controlCharacter => "control character (\\u0000-\\u001F) found while parsing a string"
  | invalidCodePoint => "invalid unicode code point"
  | tooDeep => "recursion limit exceeded"
  | wrongKind found expected => "invalid type: " ++ found.describe ++ ", expected " ++ expected
  | wrongValue found expected => "invalid value: " ++ found.describe ++ ", expected " ++ expected
  | wrongLength length expected => "invalid length " ++ toString length ++ ", expected " ++ expected
  | unknownField name known => "unknown field `" ++ name ++ "`, " ++ oneOf known
  | repeatedField name => "duplicate field `" ++ name ++ "`"
  | missingField name => "missing field `" ++ name ++ "`"
  | badTimestamp e => e.message
  | badSpelling inside => inside.message

/-- The category of a cause. -/
def category : Cause → Category
  | endInValue | endInString | endInList | endInObject => .ended
  | wrongKind .. | wrongValue .. | wrongLength .. | unknownField .. | repeatedField .. | missingField ..
  | badTimestamp .. | badSpelling .. => .wrongContent
  | _ => .malformed

end Cause

/-- The name of a field in a report. -/
def Step.describe : Step → String
  | key name => name
  | index i => "[" ++ toString i ++ "]"

namespace Fault

/-- The line and column of a fault, if it is about a place. -/
def position? (t : Text) (f : Fault) : Option (Nat × Nat) :=
  match f.place with
  | .nowhere => none
  | .left bytes => some (t.place bytes)
  | .elsewhere line column => some (line, column)

/-- The report of a fault in a text. -/
def message (t : Text) (f : Fault) : String :=
  match f.position? t with
  | none => f.cause.message
  | some (line, column) => f.cause.message ++ " at line " ++ toString line ++ " column " ++ toString column

/-- The report of a fault with the field it arose in. -/
def messageInField (t : Text) (f : Fault) : String :=
  match f.step with
  | none => f.message t
  | some s => s.describe ++ ": " ++ f.message t

end Fault

/-- What a reader takes from the front of a text, and the rest; or why it cannot. -/
abbrev Taken (α : Type) := Except Fault (α × Text)

/-- A fault right before the rest of the text. -/
def faultHere (cause : Cause) (rest : Text) : Fault := ⟨cause, .left (Text.width rest), none⟩

/-- A fault about the first byte of the rest, which counts as read; at the end of the text there is none to count. -/
def faultAt (cause : Cause) (rest : Text) : Fault := ⟨cause, .left (Text.width rest - 1), none⟩

end Json
end ConfigService
