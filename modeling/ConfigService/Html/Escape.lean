/-!
# Escape — text inside HTML and inside a script

Text between tags must not open a tag or a character reference, an attribute's value must not end its quotes either, and
a script must not hold the two characters that begin its end tag.  The first two are a replacement character by
character.  The third puts a backslash between the two characters, which a JSON string literal reads as if it were not
there.
-/
namespace ConfigService
namespace Html

/-- A character of a text between tags. -/
def escapeTextChar (c : Char) : List Char :=
  if c = '&' then ['&', 'a', 'm', 'p', ';']
  else if c = '<' then ['&', 'l', 't', ';']
  else if c = '>' then ['&', 'g', 't', ';']
  else [c]

/-- A character of an attribute's value in double quotes. -/
def escapeAttributeChar (c : Char) : List Char :=
  if c = '"' then ['&', 'q', 'u', 'o', 't', ';'] else escapeTextChar c

def escapeText (cs : List Char) : List Char := cs.flatMap escapeTextChar

/-- An attribute's value in double quotes. -/
def escapeAttribute (cs : List Char) : List Char := cs.flatMap escapeAttributeChar

/-- A JSON text inside a script: `</` becomes `<\/`. -/
def escapeScript (cs : List Char) : List Char :=
  cs.foldr (fun c rest => if c = '<' ∧ rest.head? = some '/' then '<' :: '\\' :: rest else c :: rest) []

end Html
end ConfigService
