import ConfigService.Text.Symbol
/-!
# Message — requests and responses

A request has a method, a target, headers in the order in which they came, and a body that may be no valid text.  A
response has a status, headers and a body that is one.
-/
namespace ConfigService
namespace Http

abbrev Header := String × String

structure Request where
  method : String
  target : String
  headers : List Header
  body : Text

structure Response where
  status : Nat
  headers : List Header
  body : String
  deriving DecidableEq, Repr

namespace Response

/-- A response with one content type. -/
def ofContent (status : Nat) (contentType body : String) : Response := ⟨status, [("content-type", contentType)], body⟩

def json (status : Nat) (body : String) : Response := ofContent status "application/json" body

def plain (status : Nat) (body : String) : Response := ofContent status "text/plain; charset=utf-8" body

def html (status : Nat) (body : String) : Response := ofContent status "text/html; charset=utf-8" body

/-- A response with another header, which comes first. -/
def withHeader (h : Header) (r : Response) : Response := { r with headers := h :: r.headers }

end Response

/-- The character can stand in a header's value. -/
def isHeaderChar (c : Char) : Bool := c = '\t' || (0x20 ≤ c.toNat && c.toNat != 0x7F)

end Http
end ConfigService
