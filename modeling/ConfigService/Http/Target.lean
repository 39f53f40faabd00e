/-!
# Target — the path and the query of a request

A request's target is a path, or a whole address of which only the path counts; an address without a path has the path
`/`.  The query begins after the first `?`, and what follows a `#` is no part of either.  Nothing is decoded.
-/
namespace ConfigService
namespace Http

/-- Where a request is directed. -/
structure Target where
  path : List Char
  /-- None without a `?`. -/
  query : Option (List Char)
  deriving DecidableEq, Repr

namespace Target

/-- The text after the first `://`, if there is one. -/
def afterScheme? : List Char → Option (List Char)
  | ':' :: '/' :: '/' :: rest => some rest
  | [] => none
  | _ :: rest => afterScheme? rest

/-- The path and the query of a text without a fragment. -/
def split (cs : List Char) : Target :=
  match cs.dropWhile (· != '?') with
  | [] => ⟨cs.takeWhile (· != '?'), none⟩
  | _ :: query => ⟨cs.takeWhile (· != '?'), some query⟩

/-- The target of a request line. -/
def read (target : String) : Target :=
  let cs := target.toList.takeWhile (· != '#')
  if cs.head? = some '/' then split cs
  else
    match afterScheme? (cs.takeWhile (· != '?')) with
    | none => if cs = ['*'] then ⟨cs, none⟩ else ⟨[], none⟩
    | some _ =>
      match afterScheme? cs with
      | none => ⟨[], none⟩
      | some rest =>
        let t := split (rest.dropWhile fun c => c != '/' && c != '?')
        if t.path = [] then { t with path := ['/'] } else t

end Target

end Http
end ConfigService
