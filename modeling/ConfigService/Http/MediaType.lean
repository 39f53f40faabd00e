import ConfigService.Text.Case
/-!
# MediaType — the declared type of a body

A media type is a type, a slash, a subtype and parameters.  The subtype ends at its last plus sign, and what follows is
its suffix; a plus sign that comes first belongs to the subtype.  A parameter is a name and a value, which is a token or
stands in quotes; after a semicolon there may be spaces or nothing at all.
-/
namespace ConfigService
namespace Http

/-- The character can stand in a token. -/
def isTokenChar (c : Char) : Bool :=
  c.isAlphanum || ['!', '#', '$', '%', '&', '\'', '*', '+', '-', '.', '^', '_', '`', '|', '~'].contains c

/-- The character is a visible ASCII character or a blank of one line. -/
def isVisible (c : Char) : Bool := c = '\t' || (0x20 ≤ c.toNat && c.toNat < 0x7F)

/-- A media type without its parameters, in lower case. -/
structure MediaType where
  type : List Char
  subtype : List Char
  suffix : Option (List Char)
  deriving DecidableEq, Repr

namespace MediaType

/-- The value in quotes from after the opening quote, and the text after the closing one.  The first character belongs to
the value, whatever it is. -/
def skipQuoted : (first : Bool) → List Char → Option (List Char)
  | _, [] => none
  | first, c :: cs =>
    if c = '"' ∧ first = false then some cs
    else if 31 < c.toNat ∧ c.toNat ≠ 127 then skipQuoted false cs
    else none

/-- The parameters from after a semicolon are well-formed; `room` is no less than the length of the text. -/
def parametersOk : (room : Nat) → List Char → Bool
  | 0, cs => cs.isEmpty
  | room + 1, cs =>
    match cs.dropWhile (· == ' ') with
    | [] => true
    | cs =>
      let name := cs.takeWhile isTokenChar
      match cs.dropWhile isTokenChar with
      | '=' :: '"' :: rest =>
        !name.isEmpty &&
          match skipQuoted true rest with
          | none => false
          | some rest =>
            match rest.dropWhile (· == ' ') with
            | [] => true
            | ';' :: rest => parametersOk room rest
            | _ => false
      | '=' :: rest =>
        !name.isEmpty &&
          match rest.dropWhile isTokenChar with
          | [] => true
          | ';' :: after => !(rest.takeWhile isTokenChar).isEmpty && parametersOk room after
          | _ => false
      | _ => false

/-- A subtype and its suffix. -/
def splitSuffix (cs : List Char) : List Char × Option (List Char) :=
  let suffix := (cs.reverse.takeWhile (· != '+')).reverse
  let before := cs.take (cs.length - suffix.length - 1)
  if before = [] then (cs, none) else (before, some suffix)

/-- The media type a text spells. -/
def read (text : String) : Option MediaType :=
  let cs := text.toList
  let type := cs.takeWhile isTokenChar
  match cs.dropWhile isTokenChar with
  | '/' :: rest =>
    let sub := rest.takeWhile isTokenChar
    let parameters :=
      match rest.dropWhile isTokenChar with
      | [] => true
      | ';' :: rest => !sub.isEmpty && parametersOk (rest.length + 1) rest
      | _ => false
    if type.isEmpty || !parameters || !cs.all isVisible then none
    else
      let (subtype, suffix) := splitSuffix (sub.map lowerAscii)
      some ⟨type.map lowerAscii, subtype, suffix⟩
  | _ => none

/-- The name of the type that has JSON texts, as a subtype and as a suffix. -/
def jsonName : List Char := ['j', 's', 'o', 'n']

/-- The bodies of a media type are JSON texts. -/
def isJson (m : MediaType) : Bool :=
  m.type == "application".toList && (m.subtype == jsonName || m.suffix == some jsonName)

end MediaType

/-- The first value of a header. -/
def header? (name : List Char) (headers : List (String × String)) : Option String :=
  (headers.find? fun h => h.1.toList.map lowerAscii == name).map Prod.snd

/-- The headers declare a JSON body. -/
def declaresJson (headers : List (String × String)) : Bool :=
  match (header? "content-type".toList headers).bind MediaType.read with
  | some m => m.isJson
  | none => false

end Http
end ConfigService
