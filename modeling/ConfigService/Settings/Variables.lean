import ConfigService.Settings.Basic
/-!
# Variables — settings from a list of variables

A list of variables is read in two passes, first for the settings of the server, then, over the variables that carry the
mark, for all others.  In a pass the names are taken in lower case and without their mark; a variable that names no
setting is ignored, two that name the same are an error, and so is a value that its setting cannot hold.  The first error
in the order of the list is the answer.
-/
namespace ConfigService

/-- Why a value is none of the type its setting has. -/
inductive ValueFault
  | noDigits
  | badDigit
  | tooLarge
  | noTruthValue
  deriving DecidableEq, Repr

/-- Why there are no settings. -/
inductive SettingsError
  | repeated (setting : String)
  | badValue (fault : ValueFault) (value name : String)
  deriving DecidableEq, Repr

/-- The wording of a fault. -/
def ValueFault.message : ValueFault → String
  | noDigits => "cannot parse integer from empty string"
  | badDigit => "invalid digit found in string"
  | tooLarge => "number too large to fit in target type"
  | noTruthValue => "provided string was not `true` or `false`"

/-- The wording of an error. -/
def SettingsError.message : SettingsError → String
  | repeated setting => "duplicate field `" ++ setting ++ "`"
  | badValue fault value name =>
    fault.message ++ " while parsing value '" ++ value ++ "' provided by " ++ name

namespace Variables

/-- A variable: its name and its value. -/
abbrev Variable := String × String

/-- Sets a variable: in its place if there is one of that name, at the end otherwise. -/
def assign (env : List Variable) (v : Variable) : List Variable :=
  if env.any fun w => w.1 == v.1 then env.map fun w => if w.1 == v.1 then v else w else env ++ [v]

/-- The environment that assignments make, one after the other: it has one variable of each name. -/
def environment (assignments : List Variable) : List Variable := assignments.foldl assign []

/-- The mark in front of the names that are not about the server. -/
def mark : List Char := ['E', 'X', 'P', 'L', 'O', 'R', 'E', 'R', '_']

/-- A name without its marks; `room` is no less than how many it has. -/
def dropMarks : (room : Nat) → List Char → List Char
  | 0, name => name
  | room + 1, name => if mark.isPrefixOf name then dropMarks room (name.drop mark.length) else name

/-- The variables that carry the mark, without it.  A mark that is repeated is dropped as often as it stands there. -/
def marked (vars : List Variable) : List Variable :=
  vars.filterMap fun v =>
    let name := v.1.toList
    if mark.isPrefixOf name then some (String.ofList (dropMarks name.length name), v.2) else none

/-- The lower case of a character, as far as it is an ASCII letter: besides the capitals, that of the Kelvin sign.  No
other character has one, and no setting's name holds any other. -/
def lower (c : Char) : Char := if c = '\u212A' then 'k' else lowerAscii c

/-- The name of a setting that a variable's name is. -/
def settingName (name : String) : String := String.ofList (name.toList.map lower)

/-! ## Values -/

/-- The number that digits spell, taken one by one up to a bound. -/
def digitsUpTo (bound : Nat) : (value : Nat) → List Char → Except ValueFault Nat
  | value, [] => .ok value
  | value, c :: cs =>
    if c.isDigit then
      if value * 10 + digitValue c < bound then digitsUpTo bound (value * 10 + digitValue c) cs else .error .tooLarge
    else .error .badDigit

/-- A number below a bound, with an optional plus. -/
def readNat (bound : Nat) (cs : List Char) : Except ValueFault Nat :=
  match cs with
  | [] => .error .noDigits
  | ['+'] => .error .badDigit
  | '+' :: cs => digitsUpTo bound 0 cs
  | cs => digitsUpTo bound 0 cs

/-- A truth value. -/
def readFlag (s : String) : Except ValueFault Bool :=
  if s = "true" then .ok true else if s = "false" then .ok false else .error .noTruthValue

/-- A value of a kind. -/
def readKind : (k : Kind) → String → Except ValueFault k.Carrier
  | .text, s => .ok s
  | .count, s => (readNat (Nat.pow 2 64) s.toList).map fun n => UInt64.ofNat n
  | .flag, s => readFlag s

/-! ## The two passes -/

/-- A setting as a pass reads it into a draft. -/
structure Entry (σ : Type) where
  name : String
  isSet : σ → Bool
  set : σ → String → Except ValueFault σ

/-- Reads variables into a draft. -/
def readInto {σ : Type} (entries : List (Entry σ)) : σ → List Variable → Except SettingsError σ
  | draft, [] => .ok draft
  | draft, (name, value) :: vars =>
    match entries.find? fun e => e.name == settingName name with
    | none => readInto entries draft vars
    | some e =>
      if e.isSet draft then .error (.repeated e.name)
      else
        match e.set draft value with
        | .error fault => .error (.badValue fault value name)
        | .ok draft => readInto entries draft vars

/-- The settings of the server that have been named. -/
structure ServerDraft where
  host : Option String
  port : Option UInt16

/-- The settings of the server. -/
def serverEntries : List (Entry ServerDraft) :=
  [⟨"host", fun d => d.host.isSome, fun d s => .ok { d with host := some s }⟩,
    ⟨"port", fun d => d.port.isSome, fun d s =>
      (readNat (Nat.pow 2 16) s.toList).map fun n => { d with port := some (UInt16.ofNat n) }⟩]

/-- The other settings that have been named. -/
structure ServiceDraft where
  seed : (f : Field) → Option f.Value
  sortKeys : Option Bool
  logFormat : Option String

/-- The setting that seeds a field of the configuration. -/
def seedEntry (f : Field) : Entry ServiceDraft where
  name := f.name
  isSet d := (d.seed f).isSome
  set d s := (readKind f.kind s).map fun v => { d with seed := setField d.seed f v }

/-- The settings that carry the mark. -/
def serviceEntries : List (Entry ServiceDraft) :=
  Field.all.map seedEntry ++
    [⟨"json_sort_keys", fun d => d.sortKeys.isSome, fun d s =>
        (readFlag s).map fun b => { d with sortKeys := some b }⟩,
      ⟨"log_format", fun d => d.logFormat.isSome, fun d s => .ok { d with logFormat := some s }⟩]

end Variables

open Variables in
/-- The settings that variables name. -/
def Settings.ofVariables (vars : List Variable) : Except SettingsError Settings :=
  match readInto serverEntries ⟨none, none⟩ vars with
  | .error e => .error e
  | .ok server =>
    match readInto serviceEntries ⟨fun _ => none, none, none⟩ (marked vars) with
    | .error e => .error e
    | .ok service =>
      .ok ⟨server.host.getD standard.host, server.port.getD standard.port,
        fun f => (service.seed f).getD (standard.seed f), service.sortKeys.getD standard.sortKeys,
        service.logFormat.getD standard.logFormat⟩

end ConfigService
