import ConfigService.Config.Document
import ConfigService.Text.Case
/-!
# Settings — what the environment says

The service is set up from environment variables: the address it listens on, the configuration it serves until one has
been saved, and how it writes.  A variable names a setting by the setting's name in any case; those that seed the
configuration or concern the writing carry a mark in front.  What no variable names has a standard value.
-/
namespace ConfigService

/-- The two ways to write the log. -/
inductive LogFormat
  | pretty
  | json
  deriving DecidableEq, Repr

namespace LogFormat

/-- The format with a name, in any case; every other name is that of the pretty format. -/
def ofName (name : String) : LogFormat :=
  if name.toList.map lowerAscii = ['j', 's', 'o', 'n'] then json else pretty

end LogFormat

structure Settings where
  host : String
  port : UInt16
  /-- The values of the configuration until one has been saved. -/
  seed : (f : Field) → f.Value
  sortKeys : Bool
  logFormat : String

namespace Settings

/-- The settings where no variable names any. -/
def standard : Settings := ⟨"0.0.0.0", 3000, Field.standard, true, "pretty"⟩

/-- The configuration that is served until one has been saved. -/
def initialConfig (s : Settings) : Config := ⟨s.seed, none⟩

def log (s : Settings) : LogFormat := .ofName s.logFormat

end Settings

end ConfigService
