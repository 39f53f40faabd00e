import ConfigService.Text.Digits
/-!
# Report — messages that end in a place

A report may end in ` at line L column C`.  When a report is taken over as another's own words, such an ending is read as
its place and written anew: the numbers lose their leading zeros, and a line of zero means no place and is left out.  An
ending whose numbers no machine word holds is no place but text.
-/
namespace ConfigService
namespace Report

/-- A text without an ending, if it has it. -/
def dropEnd? (ending text : List Char) : Option (List Char) :=
  if ending.reverse.isPrefixOf text.reverse then Option.some (text.take (text.length - ending.length)) else Option.none

/-- The digits at the end of a text, and the text before them; none without a digit or beyond a machine word. -/
def lastNumber? (text : List Char) : Option (Nat × List Char) :=
  let digits := (text.reverse.takeWhile Char.isDigit).reverse
  if digits.isEmpty then Option.none
  else (ofDigitsBelow? (Nat.pow 2 64) digits).map fun n => (n, text.take (text.length - digits.length))

/-- The place a report ends in, and the report before it. -/
def place? (text : List Char) : Option (Nat × Nat × List Char) := do
  let (column, text) ← lastNumber? text
  let text ← dropEnd? " column ".toList text
  let (line, text) ← lastNumber? text
  let text ← dropEnd? " at line ".toList text
  return (line, column, text)

/-- A report with its place written anew. -/
def normalise (report : String) : String :=
  match place? report.toList with
  | Option.none => report
  | Option.some (line, column, text) =>
    if line = 0 then String.ofList text
    else String.ofList text ++ " at line " ++ toString line ++ " column " ++ toString column

end Report
end ConfigService
