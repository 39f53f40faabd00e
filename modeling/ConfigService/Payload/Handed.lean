import ConfigService.Payload.Direct
/-!
# Handed — what a JSON value hands over

A JSON value can be handed over as typed data, part by part, like any other data: an array as a sequence, an object as a
map with strings for keys, and a number as a record under the mark of numbers, whose one field holds its text.  With
`sortKeys` the entries of each map are handed over in the order of their keys.  Nothing of this knows of the ways in which
the value itself is written.
-/
namespace ConfigService

open Json (numberKey sortByKey)

namespace Json.Value

mutual

/-- The payload that a value hands over. -/
def handed (sortKeys : Bool) : Value → Payload
  | null => .unit
  | bool b => .bool b
  | number n => .record numberKey [(numberKey, .string (String.ofList n.text))]
  | string s => .string s
  | timestamp t => .timestamp t
  | array items => .sequence (handedItems sortKeys items)
  | object members =>
    let fields := handedMembers sortKeys members
    .map ((if sortKeys then sortByKey fields else fields).map fun f => (.string f.1, f.2))

def handedItems (sortKeys : Bool) : List Value → List Payload
  | [] => []
  | v :: vs => v.handed sortKeys :: handedItems sortKeys vs

def handedMembers (sortKeys : Bool) : List (String × Value) → List (String × Payload)
  | [] => []
  | (k, v) :: ms => (k, v.handed sortKeys) :: handedMembers sortKeys ms

end

end Json.Value

end ConfigService
