import Mathlib.Data.List.Forall2
import ConfigService.Json.Value
/-!
# Reordered — the members of every object in the order of their keys

What sorting the keys should do to a value is told here without sorting: the members of every object, at any depth, change
places until their keys ascend, and that is all that changes.
-/
namespace ConfigService
namespace Json

namespace Value

/-- Every object, at any depth, has each of its keys once. -/
inductive KeysOnce : Value → Prop
  | null : KeysOnce null
  | bool (b : Bool) : KeysOnce (bool b)
  | number (n : Numeral) : KeysOnce (number n)
  | string (s : String) : KeysOnce (string s)
  | timestamp (t : Timestamp) : KeysOnce (timestamp t)
  | array {items : List Value} : (∀ v ∈ items, KeysOnce v) → KeysOnce (array items)
  | object {members : List (String × Value)} : (members.map Prod.fst).Nodup → (∀ m ∈ members, KeysOnce m.2) →
      KeysOnce (object members)

/-- The second value is the first with the members of every object in ascending order of their keys.  The members of an
object are first reordered inside and then change places; the items of an array stay in theirs, and leaves are the same. -/
inductive Reordered : Value → Value → Prop
  | null : Reordered null null
  | bool (b : Bool) : Reordered (bool b) (bool b)
  | number (n : Numeral) : Reordered (number n) (number n)
  | string (s : String) : Reordered (string s) (string s)
  | timestamp (t : Timestamp) : Reordered (timestamp t) (timestamp t)
  | array {as bs : List Value} : List.Forall₂ Reordered as bs → Reordered (array as) (array bs)
  | object {as bs cs : List (String × Value)} : as.map Prod.fst = bs.map Prod.fst →
      List.Forall₂ Reordered (as.map Prod.snd) (bs.map Prod.snd) → bs.Perm cs → cs.Pairwise (fun b c => b.1 < c.1) →
      Reordered (object as) (object cs)

end Value

end Json
end ConfigService
