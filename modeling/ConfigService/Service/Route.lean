/-!
# Route — what the service answers

The service has six paths.  A path is matched as it stands, letter by letter and without a slash at its end.
-/
namespace ConfigService

/-- What a path names. -/
inductive Route
  | root
  | explore
  | review
  | dashboardAdmin
  | config
  | apiDocument
  deriving DecidableEq, Repr

namespace Route

/-- All routes. -/
def all : List Route := [root, explore, review, dashboardAdmin, config, apiDocument]

/-- The path of a route. -/
def path : Route → List Char
  | root => "/".toList
  | explore => "/explore".toList
  | review => "/review".toList
  | dashboardAdmin => "/dashboard-admin".toList
  | config => "/config".toList
  | apiDocument => "/docs/openapi.json".toList

/-- The route with a path. -/
def ofPath? (path : List Char) : Option Route := all.find? fun r => r.path == path

/-- **A path names the one route that has it.** -/
theorem ofPath?_eq_some_iff {path : List Char} {route : Route} : ofPath? path = some route ↔ path = route.path := by
  constructor
  · intro h
    have hfound := List.find?_some h
    exact (eq_of_beq hfound).symm
  · rintro rfl
    cases route <;> decide

/-- The methods a route has, as a response lists them. -/
def allow : Route → String
  | config => "GET,HEAD,POST"
  | _ => "GET,HEAD"

end Route

end ConfigService
