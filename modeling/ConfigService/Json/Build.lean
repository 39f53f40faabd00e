import ConfigService.Json.Reader
/-!
# Build — how values come about

A value is never put together by hand: it comes from data of a known type, from a list or an object of such values, or
from JSON text.  A `Build` is the account of that, and `Build.value` carries it out.  So what holds for every build holds
for every value there is: keys come once, numbers are spelled as the grammar wants them, timestamps have their four-digit
years.
-/
namespace ConfigService
namespace Json

/-- An account of how a value is put together. -/
inductive Build
  | null
  | bool (b : Bool)
  | integer (i : Int)
  | float (bits : UInt64)
  | string (s : String)
  | timestamp (year : Int) (month day hour minute second : Nat)
  | array (items : List Build)
  | object (entries : List (String × Build))
  /-- The value that a JSON text spells; a string in it stays a string. -/
  | text (t : String)

/-- Why a value cannot be put together. -/
inductive BuildError
  | timestamp (e : Timestamp.Error)
  | encode (e : EncodeError)
  | unreadable (t : Text) (f : Fault)

namespace BuildError

/-- The wording of an error. -/
def message : BuildError → String
  | timestamp e => e.message
  | encode e => e.message
  | unreadable t f => f.message t

end BuildError

mutual

/-- The value that an account describes, or the first error in its order. -/
def Build.value : Build → Except BuildError Value
  | .null => .ok .null
  | .bool b => .ok (.bool b)
  | .integer i => .ok (.number (.ofInt i))
  | .float bits =>
    match Numeral.ofValue positional64 (binary64.decode bits.toNat) with
    | .ok n => .ok (.number n)
    | .error e => .error (.encode e)
  | .string s => .ok (.string s)
  | .timestamp year month day hour minute second =>
    match Timestamp.ofParts year month day hour minute second with
    | .ok t => .ok (.timestamp t)
    | .error e => .error (.timestamp e)
  | .array items => (buildItems items).map .array
  | .object entries => (buildMembers entries).map fun ms => .object (collapse ms)
  | .text t =>
    match Value.read (Text.ofString t) with
    | .ok v => .ok v
    | .error f => .error (.unreadable (Text.ofString t) f)

/-- The values of a list of accounts. -/
def buildItems : List Build → Except BuildError (List Value)
  | [] => .ok []
  | b :: bs =>
    match b.value with
    | .error e => .error e
    | .ok v => (buildItems bs).map (v :: ·)

/-- The members that a list of entries makes. -/
def buildMembers : List (String × Build) → Except BuildError (List (String × Value))
  | [] => .ok []
  | (key, b) :: es =>
    match b.value with
    | .error e => .error e
    | .ok v => (buildMembers es).map ((key, v) :: ·)

end

end Json
end ConfigService
