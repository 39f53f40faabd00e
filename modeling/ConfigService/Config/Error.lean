import ConfigService.Config.Basic
import ConfigService.Json.EncodeError
/-!
# Error — what can go wrong with the configuration

The store may fail, an update may be one that must not be made, and an answer may be one that cannot be written.  Each
level of the service knows the errors of the level below and has its own words for them; what a client is told is decided
where the answer is made.
-/
namespace ConfigService

inductive StorageError
  | encoding (reason : String)
  deriving DecidableEq, Repr

/-- An operation on the configuration failed. -/
inductive ConfigError
  | invalidUpdate (reason : String)
  | internal (reason : String)
  deriving DecidableEq, Repr

inductive ServiceError
  | encoding (e : EncodeError)
  | config (e : ConfigError)
  deriving DecidableEq, Repr

def StorageError.message : StorageError → String
  | encoding reason => "could not encode stored document: " ++ reason

/-- What cannot be written cannot be stored. -/
def StorageError.ofEncode (e : EncodeError) : StorageError := encoding e.message

namespace ConfigError

def message : ConfigError → String
  | invalidUpdate reason => "invalid config update: " ++ reason
  | internal reason => "internal server error: " ++ reason

/-- A failure of the store is internal. -/
def ofStorage (e : StorageError) : ConfigError := internal e.message

end ConfigError

namespace ServiceError

def message : ServiceError → String
  | encoding e => "could not encode response: " ++ e.message
  | config e => e.message

/-- A failure of the store as that of a request. -/
def ofStorage (e : StorageError) : ServiceError := config (.ofStorage e)

end ServiceError

/-- Refuses an update that must not be made. -/
def Update.validate (u : Update) : Except ConfigError Unit :=
  if u.isValid then .ok () else .error (.invalidUpdate "cache_duration must be greater than zero")

end ConfigService
