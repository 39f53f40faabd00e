/-!
# Distinct — lists in ascending order, each element once

Sorting brings equal elements together, so that each need only be compared with the one before it.
-/
namespace ConfigService

/-- A list without the elements that equal the one before them. -/
def dropRepeats {α : Type} [DecidableEq α] : List α → List α
  | [] => []
  | [a] => [a]
  | a :: b :: rest => if a = b then dropRepeats (b :: rest) else a :: dropRepeats (b :: rest)

/-- The elements of a list in ascending order, each once. -/
def ascending {α : Type} [LT α] [DecidableLT α] [DecidableEq α] (as : List α) : List α :=
  dropRepeats (as.mergeSort fun a b => !decide (b < a))

end ConfigService
