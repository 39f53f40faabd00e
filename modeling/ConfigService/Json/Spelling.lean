import ConfigService.Json.Value
import ConfigService.Timestamp.Text
/-!
# Spelling — values as their text holds them

A timestamp is a leaf of its own only as long as it has not been written: in a text it is a string like any other.
`Value.spelled` puts the strings in place of the timestamps, and so tells of a value just what its text tells of it.
-/
namespace ConfigService
namespace Json

namespace Value

mutual

/-- A value with the texts of its timestamps in their place. -/
def spelled : Value → Value
  | timestamp t => .string (toString t)
  | array items => .array (spelledItems items)
  | object members => .object (spelledMembers members)
  | null => .null
  | bool b => .bool b
  | number n => .number n
  | string s => .string s

/-- The items of an array with their timestamps spelled. -/
def spelledItems : List Value → List Value
  | [] => []
  | v :: vs => v.spelled :: spelledItems vs

/-- The members of an object with their timestamps spelled. -/
def spelledMembers : List (String × Value) → List (String × Value)
  | [] => []
  | (k, v) :: ms => (k, v.spelled) :: spelledMembers ms

end

theorem spelledItems_eq_map (items : List Value) : spelledItems items = items.map spelled := by
  induction items with
  | nil => rfl
  | cons v vs ih => rw [spelledItems, ih, List.map_cons]

theorem spelledMembers_eq_map (members : List (String × Value)) :
    spelledMembers members = members.map fun m => (m.1, m.2.spelled) := by
  induction members with
  | nil => rfl
  | cons m ms ih =>
    obtain ⟨k, v⟩ := m
    rw [spelledMembers, ih, List.map_cons]

end Value

end Json
end ConfigService
