import ConfigService.Json.Numeral
import ConfigService.Timestamp
/-!
# Value — what can be written as JSON

A value is a tree.  Timestamps are a kind of leaf of their own, so that nothing has to be guessed from the look of a
string.  The members of an object keep the order in which their keys first came; a key comes once.
-/
namespace ConfigService
namespace Json

/-- A JSON value. -/
inductive Value
  | null
  | bool (b : Bool)
  | number (n : Numeral)
  | string (s : String)
  | timestamp (t : Timestamp)
  | array (items : List Value)
  | object (members : List (String × Value))

/-! ## Members -/

/-- Puts a member into an object: a key that is there keeps its place and takes the new value. -/
def insertMember {α : Type} (key : String) (value : α) : List (String × α) → List (String × α)
  | [] => [(key, value)]
  | (k, v) :: rest => if k = key then (key, value) :: rest else (k, v) :: insertMember key value rest

/-- The members of a list of entries, of which each key stands at its first place with its last value. -/
def collapse {α : Type} (entries : List (String × α)) : List (String × α) :=
  entries.foldl (fun members e => insertMember e.1 e.2 members) []

/-- The value of a key. -/
def findMember? {α : Type} (key : String) : List (String × α) → Option α
  | [] => none
  | (k, v) :: rest => if k = key then some v else findMember? key rest

namespace Value

/-! ## Equality -/

mutual

/-- Values are equal if they are spelled alike, the order of an object's members apart. -/
def equal : Value → Value → Bool
  | null, null => true
  | bool a, bool b => a == b
  | number a, number b => a == b
  | string a, string b => a == b
  | timestamp a, timestamp b => a == b
  | array as, array bs => equalItems as bs
  | object as, object bs => as.length == bs.length && equalMembers as bs
  | _, _ => false

/-- Two lists are equal item by item. -/
def equalItems : List Value → List Value → Bool
  | [], [] => true
  | a :: as, b :: bs => equal a b && equalItems as bs
  | _, _ => false

/-- Each member of the first list has an equal value under its key in the second. -/
def equalMembers : List (String × Value) → List (String × Value) → Bool
  | [], _ => true
  | (k, a) :: as, bs => (match findMember? k bs with | some b => equal a b | none => false) && equalMembers as bs

end

end Value

end Json
end ConfigService
