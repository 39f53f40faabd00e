import ConfigService.Settings.Variables
import ConfigService.Text.Digits
/-!
# Setting — what a variable may name

A setting has a name, a type of values and a value where it is not named.  Variables name the server's settings as they
are and the others behind the mark; the text of a variable spells at most one value of the setting.  None of this asks in
which order the variables stand, or whether another names the same setting.
-/
namespace ConfigService

open Variables (mark settingName)

inductive Setting
  | host
  | port
  | seed (f : Field)
  | sortKeys
  | logFormat
  deriving DecidableEq

/-- A text spells a number: digits, maybe with a plus in front. -/
def SpellsNumber (text : String) (n : Nat) : Prop :=
  ∃ digits, (text.toList = digits ∨ text.toList = '+' :: digits) ∧
    digits ≠ [] ∧ (∀ c ∈ digits, c.isDigit = true) ∧ ofDigits digits = n

def SpellsFlag (text : String) (b : Bool) : Prop := text = if b then "true" else "false"

/-- A text spells a value of a kind. -/
def Kind.Spells : (k : Kind) → String → k.Carrier → Prop
  | text, s, a => a = s
  | count, s, a => SpellsNumber s (UInt64.toNat a)
  | flag, s, a => SpellsFlag s a

namespace Setting

/-- The settings of the server. -/
def ofServer : List Setting := [host, port]

/-- All other settings. -/
def ofService : List Setting := Field.all.map seed ++ [sortKeys, logFormat]

def Value : Setting → Type
  | host => String
  | port => UInt16
  | seed f => f.Value
  | sortKeys => Bool
  | logFormat => String

def name : Setting → String
  | host => "host"
  | port => "port"
  | seed f => f.name
  | sortKeys => "json_sort_keys"
  | logFormat => "log_format"

/-- The value of a setting. -/
def get (s : Settings) : (x : Setting) → x.Value
  | host => s.host
  | port => s.port
  | seed f => s.seed f
  | sortKeys => s.sortKeys
  | logFormat => s.logFormat

/-- A variable with a name names a setting: a setting of the server by itself, another one after the mark, which may be
repeated. -/
def NamedBy (x : Setting) (label : String) : Prop :=
  (x ∈ ofServer ∧ settingName label = x.name) ∨
    (x ∈ ofService ∧ ∃ marks rest, label.toList = (List.replicate (marks + 1) mark).flatten ++ rest ∧
      settingName (String.ofList rest) = x.name)

/-- A text spells a value of a setting. -/
def Spells : (x : Setting) → String → x.Value → Prop
  | host, text, a => a = text
  | port, text, a => SpellsNumber text (UInt16.toNat a)
  | seed f, text, a => f.kind.Spells text a
  | sortKeys, text, a => SpellsFlag text a
  | logFormat, text, a => a = text

end Setting

end ConfigService
