import ConfigService.Config.Document
import ConfigService.Config.Error
import ConfigService.Http.Message
/-!
# Answer — results and errors as responses

A payload is answered as JSON.  An error is answered as an object with one message: an update that must not be made is
told to the client, whatever failed inside is only named.
-/
namespace ConfigService

open Http (Response)

/-- An error that a client is told. -/
def errorResponse (status : Nat) (message : String) : Response :=
  .json status (Json.Value.encode false (.object [("message", .string message)]))

/-- The response to an error with the configuration. -/
def ConfigError.response : ConfigError → Response
  | invalidUpdate reason => errorResponse 400 ("Invalid config update: " ++ reason)
  | internal _ => errorResponse 500 "Internal server error"

/-- The response to an error of a request. -/
def ServiceError.response : ServiceError → Response
  | encoding _ => errorResponse 500 "Could not encode response"
  | config e => e.response

/-- A payload as a response. -/
def payloadResponse (sortKeys : Bool) (status : Nat) (p : Payload) : Except ServiceError Response :=
  match p.encode sortKeys with
  | .ok body => .ok (.json status body)
  | .error e => .error (.encoding e)

end ConfigService
