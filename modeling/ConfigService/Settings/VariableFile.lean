import ConfigService.Settings.Variables
import ConfigService.Text.Alphanumeric
/-!
# VariableFile — variables from a file

A file may set variables that the environment lacks.  It is cut into lines first — quotes may hold line breaks, and a
comment runs from a `#` after white space to the end of its line — and each line is then read as a name, an equals sign
and a value of bare and quoted parts.  A `$` brings in the value of a variable that is set already.  The first line that
cannot be read ends the reading, without a word; what was set before it stays set.
-/
namespace ConfigService
namespace VariableFile

open Variables (Variable)

/-! ## Lines -/

/-- Where the cutting into lines stands. -/
inductive Position
  | bare
  | escape
  | single
  | singleEscape
  | double
  | doubleEscape
  /-- Right after white space, where a comment can begin. -/
  | blank
  deriving DecidableEq, Repr

/-- The position after a character outside of quotes. -/
def Position.afterBare (c : Char) : Position :=
  if c = '\\' then .escape else if c = '"' then .double else if c = '\'' then .single else .bare

/-- The position after a character. -/
def Position.next : Position → Char → Position
  | bare, c => if isBlank c && c != '\n' && c != '\r' then .blank else afterBare c
  | blank, c => afterBare c
  | escape, _ => .bare
  | single, c => if c = '\\' then .singleEscape else if c = '\'' then .bare else .single
  | singleEscape, _ => .single
  | double, c => if c = '\\' then .doubleEscape else if c = '"' then .bare else .double
  | doubleEscape, _ => .double

/-- How a physical line ends: in a position, or in a comment after the characters before it. -/
inductive LineEnd
  | position (p : Position)
  | comment (before : List Char)

/-- Goes through a physical line of which the characters `seen` have been passed, last first. -/
def lineEnd : Position → (seen : List Char) → List Char → LineEnd
  | p, _, [] => .position p
  | p, seen, c :: cs => if p = .blank ∧ c = '#' then .comment seen.reverse else lineEnd (p.next c) (c :: seen) cs

/-- The physical line at the start of a text, with its line feed, and the text after it. -/
def physicalLine (cs : List Char) : List Char × List Char :=
  let line := cs.takeWhile (· != '\n')
  match cs.dropWhile (· != '\n') with
  | [] => (line, [])
  | c :: rest => (line ++ [c], rest)

/-- A line without its line break. -/
def dropBreak (cs : List Char) : List Char :=
  match cs.reverse with
  | '\n' :: '\r' :: rest => rest.reverse
  | '\n' :: rest => rest.reverse
  | _ => cs

/-- What stands at the start of a text. -/
inductive Line
  | none
  | bad
  | some (line rest : List Char)

/-- Takes the physical lines of a line, of which the characters `held` have been taken, last first: there are quotes to
be closed or escapes to be ended.  Each round takes a physical line. -/
def closeLine : (room : Nat) → Position → (held : List Char) → List Char → Line
  | 0, _, _, _ => .none
  | _ + 1, p, _, [] => if p = .bare then .none else .bad
  | room + 1, p, held, cs =>
    let (line, rest) := physicalLine cs
    match lineEnd p [] line with
    | .comment before => .some (held.reverse ++ before) rest
    | .position .bare => .some (dropBreak (held.reverse ++ line)) rest
    | .position p => closeLine room p (line.reverse ++ held) rest

/-- Takes the line at the start of a text; `room` is more than its physical lines.  A physical line that is a comment
says nothing. -/
def nextLine (room : Nat) (cs : List Char) : Line :=
  let (line, rest) := physicalLine cs
  if (line.dropWhile isBlank).head? = some '#' then .some [] rest else closeLine room .bare [] cs

/-! ## Values -/

/-- What comes after a beginning in a text that has it. -/
def after? : (beginning : List Char) → List Char → Option (List Char)
  | [], cs => some cs
  | _ :: _, [] => none
  | b :: bs, c :: cs => if b = c then after? bs cs else none

/-- A variable as the environment holds it: one text. -/
def entry (v : Variable) : List Char := v.1.toList ++ '=' :: v.2.toList

/-- The value of a variable that is set; the empty text for one that is not.  It is what comes after the name and an
equals sign in an entry, so that a name with an equals sign in it reaches into the value of another variable. -/
def valueOf (env : List Variable) (name : List Char) : List Char :=
  if name = [] then [] else (env.findSome? fun v => after? (name ++ ['=']) (entry v)).getD []

/-- Where the reading of a value stands. -/
inductive Mode
  | bare
  | single
  | double
  /-- After the white space that ends a value. -/
  | ended
  deriving DecidableEq, Repr

/-- A reference to a variable that is being read: none, one without braces or one in braces, with the name so far, in
reverse order. -/
inductive Reference
  | none
  | open (name : List Char)
  | braced (name : List Char)
  deriving DecidableEq, Repr

/-- Reads a value; `out` is its text so far, in reverse order. -/
def readValue (env : List Variable) : Mode → (escaped : Bool) → Reference → (out : List Char) → List Char →
    Option (List Char)
  | mode, _, ref, out, [] =>
    match mode, ref with
    | .single, _ => Option.none
    | .double, _ => Option.none
    | _, .braced _ => Option.none
    | _, .open name => Option.some (out.reverse ++ valueOf env name.reverse)
    | _, .none => Option.some out.reverse
  | mode, escaped, ref, out, c :: cs =>
    if mode = .ended then
      if c = ' ' ∨ c = '\t' then readValue env mode escaped ref out cs
      else if c = '#' then Option.some out.reverse
      else Option.none
    else if escaped then
      if c = '\\' ∨ c = '\'' ∨ c = '"' ∨ c = '$' ∨ c = ' ' then readValue env mode false ref (c :: out) cs
      else if c = 'n' then readValue env mode false ref ('\n' :: out) cs
      else Option.none
    else if mode = .single then
      if c = '\'' then readValue env .bare false ref out cs else readValue env mode false ref (c :: out) cs
    else
      match ref with
      | .open name =>
        if isAlphanumeric c then readValue env mode false (.open (c :: name)) out cs
        else if c = '{' ∧ name = [] then readValue env mode false (.braced []) out cs
        else
          let out := (valueOf env name.reverse).reverse ++ out
          if c = '$' then readValue env mode false (.open []) out cs
          else readValue env mode false .none (c :: out) cs
      | .braced name =>
        if c = '}' then readValue env mode false .none ((valueOf env name.reverse).reverse ++ out) cs
        else readValue env mode false (.braced (c :: name)) out cs
      | .none =>
        if c = '$' then readValue env mode false (.open []) out cs
        else if mode = .double then
          if c = '"' then readValue env .bare false .none out cs
          else if c = '\\' then readValue env mode true .none out cs
          else readValue env mode false .none (c :: out) cs
        else if c = '\'' then readValue env .single false .none out cs
        else if c = '"' then readValue env .double false .none out cs
        else if c = '\\' then readValue env mode true .none out cs
        else if c = ' ' ∨ c = '\t' then readValue env .ended false .none out cs
        else readValue env mode false .none (c :: out) cs

/-! ## Assignments -/

/-- The character can begin a name. -/
def startsName (c : Char) : Bool := c.isAlpha || c == '_'

/-- The character can stand in a name. -/
def inName (c : Char) : Bool := c.isAlphanum || c == '_' || c == '.'

/-- Takes a name and the white space after it. -/
def readName (cs : List Char) : Option (List Char × List Char) :=
  match cs with
  | [] => none
  | c :: _ => if startsName c then some (cs.takeWhile inName, (cs.dropWhile inName).dropWhile isBlank) else none

/-- Takes an equals sign and the white space after it. -/
def readEquals : List Char → Option (List Char)
  | '=' :: cs => some (cs.dropWhile isBlank)
  | _ => none

/-- Takes what comes before a value: the name, after the word `export` if it stands there, and the equals sign. -/
def readTarget (cs : List Char) : Option (List Char × List Char) :=
  match readName cs with
  | none => none
  | some (name, rest) =>
    match readEquals rest with
    | some rest => some (name, rest)
    | none =>
      if name = "export".toList then
        match readName rest with
        | none => none
        | some (name, rest) => (readEquals rest).map (name, ·)
      else none

/-- A text without the white space at its end. -/
def trimEnd (cs : List Char) : List Char := (cs.reverse.dropWhile isBlank).reverse

/-- The text is empty or a comment. -/
def isVoid (cs : List Char) : Bool := cs.isEmpty || cs.head? == some '#'

/-- What a line says: nothing, a variable and its value, or none of both. -/
inductive Saying
  | nothing
  | assignment (name value : String)
  | bad

/-- Reads a line. -/
def readLine (env : List Variable) (line : List Char) : Saying :=
  let cs := (trimEnd line).dropWhile isBlank
  if isVoid cs then .nothing
  else
    match readTarget cs with
    | none => .bad
    | some (name, rest) =>
      if isVoid rest then .assignment (String.ofList name) ""
      else
        match readValue env .bare false .none [] rest with
        | none => .bad
        | some value => .assignment (String.ofList name) (String.ofList value)

/-- Sets a variable that is not set. -/
def setNew (env : List Variable) (name value : String) : List Variable :=
  if env.any fun v => v.1 == name then env else env ++ [(name, value)]

/-- Sets the variables of a text, line by line; `room` is more than its characters. -/
def loadLines : (room : Nat) → List Variable → List Char → List Variable
  | 0, env, _ => env
  | room + 1, env, cs =>
    match nextLine (room + 1) cs with
    | .none => env
    | .bad => env
    | .some line rest =>
      match readLine env line with
      | .bad => env
      | .nothing => loadLines room env rest
      | .assignment name value => loadLines room (setNew env name value) rest

/-- The environment after a file has been loaded into it.  A byte order mark at the start of the file is no part of its
text. -/
def load (env : List Variable) (file : String) : List Variable :=
  let cs := file.toList
  let cs := if cs.head? = some '\uFEFF' then cs.tail else cs
  loadLines (cs.length + 1) env cs

end VariableFile

/-- The settings that an environment names once a file has been loaded into it. -/
def Settings.ofEnvironment (env : List Variables.Variable) (file : String) : Except SettingsError Settings :=
  Settings.ofVariables (VariableFile.load env file)

end ConfigService
