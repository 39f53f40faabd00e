import ConfigService.Html.Page
/-!
# ScriptData — where a script ends

A browser does not look for `</script>` alone.  Inside a script it knows comments, from `<!--` to `-->`, and in a comment
further script tags, whose end tags do not end the script they stand in.  These are the states of the HTML standard's
tokenizer from the first character of a script's text to the end of its end tag, by the standard's names.  Line ends are
line feeds by then.
-/
namespace ConfigService
namespace Html

/-- The name of the element, in small letters. -/
def scriptName : List Char := ['s', 'c', 'r', 'i', 'p', 't']

/-- Where the tokenizer stands in a script's text or in its end tag; a name is kept in small letters. -/
inductive ScriptState
  | data
  | lessThan
  | endTagOpen
  | endTagName (name : List Char)
  | escapeStart
  | escapeStartDash
  | escaped
  | escapedDash
  | escapedDashDash
  | escapedLessThan
  | escapedEndTagOpen
  | escapedEndTagName (name : List Char)
  | doubleEscapeStart (name : List Char)
  | doubleEscaped
  | doubleEscapedDash
  | doubleEscapedDashDash
  | doubleEscapedLessThan
  | doubleEscapeEnd (name : List Char)
  | beforeAttributeName
  | attributeName
  | afterAttributeName
  | beforeAttributeValue
  | attributeValue (quote : Char)
  | attributeValueUnquoted
  | afterAttributeValueQuoted
  | selfClosingStartTag
  /-- The end tag is complete. -/
  | closed
  deriving DecidableEq

/-- White space between the parts of a tag. -/
def isTagSpace (c : Char) : Bool := c = '\t' || c = '\n' || c = '\x0c' || c = ' '

/-- What may stand after the name of a tag. -/
def endsTagName (c : Char) : Bool := isTagSpace c || c = '/' || c = '>'

namespace ScriptState

/-! ## States that other states fall back to with the character at hand -/

def onData (c : Char) : ScriptState := if c = '<' then lessThan else data

def onEscaped (c : Char) : ScriptState :=
  if c = '-' then escapedDash else if c = '<' then escapedLessThan else escaped

def onDoubleEscaped (c : Char) : ScriptState :=
  if c = '-' then doubleEscapedDash else if c = '<' then doubleEscapedLessThan else doubleEscaped

def onAfterAttributeName (c : Char) : ScriptState :=
  if isTagSpace c then afterAttributeName
  else if c = '/' then selfClosingStartTag
  else if c = '=' then beforeAttributeValue
  else if c = '>' then closed
  else attributeName

def onAttributeName (c : Char) : ScriptState :=
  if endsTagName c then onAfterAttributeName c else if c = '=' then beforeAttributeValue else attributeName

def onBeforeAttributeName (c : Char) : ScriptState :=
  if isTagSpace c then beforeAttributeName
  else if c = '/' ∨ c = '>' then onAfterAttributeName c
  else attributeName

def onAttributeValueUnquoted (c : Char) : ScriptState :=
  if isTagSpace c then beforeAttributeName else if c = '>' then closed else attributeValueUnquoted

/-- In the name of an end tag: only that of a script ends the element, any other tag is text. -/
def onEndTagName (more : List Char → ScriptState) (text : Char → ScriptState) (name : List Char) (c : Char) :
    ScriptState :=
  if endsTagName c ∧ name = scriptName then onBeforeAttributeName c
  else if c.isAlpha then more (name ++ [c.toLower])
  else text c

/-- The state after one more character. -/
def step : ScriptState → Char → ScriptState
  | data, c => onData c
  | lessThan, c => if c = '/' then endTagOpen else if c = '!' then escapeStart else onData c
  | endTagOpen, c => if c.isAlpha then endTagName [c.toLower] else onData c
  | endTagName name, c => onEndTagName endTagName onData name c
  | escapeStart, c => if c = '-' then escapeStartDash else onData c
  | escapeStartDash, c => if c = '-' then escapedDashDash else onData c
  | escaped, c => onEscaped c
  | escapedDash, c => if c = '-' then escapedDashDash else onEscaped c
  | escapedDashDash, c => if c = '-' then escapedDashDash else if c = '>' then data else onEscaped c
  | escapedLessThan, c =>
    if c = '/' then escapedEndTagOpen
    else if c.isAlpha then doubleEscapeStart [c.toLower]
    else onEscaped c
  | escapedEndTagOpen, c => if c.isAlpha then escapedEndTagName [c.toLower] else onEscaped c
  | escapedEndTagName name, c => onEndTagName escapedEndTagName onEscaped name c
  | doubleEscapeStart name, c =>
    if endsTagName c then if name = scriptName then doubleEscaped else escaped
    else if c.isAlpha then doubleEscapeStart (name ++ [c.toLower])
    else onEscaped c
  | doubleEscaped, c => onDoubleEscaped c
  | doubleEscapedDash, c => if c = '-' then doubleEscapedDashDash else onDoubleEscaped c
  | doubleEscapedDashDash, c =>
    if c = '-' then doubleEscapedDashDash else if c = '>' then data else onDoubleEscaped c
  | doubleEscapedLessThan, c => if c = '/' then doubleEscapeEnd [] else onDoubleEscaped c
  | doubleEscapeEnd name, c =>
    if endsTagName c then if name = scriptName then escaped else doubleEscaped
    else if c.isAlpha then doubleEscapeEnd (name ++ [c.toLower])
    else onDoubleEscaped c
  | beforeAttributeName, c => onBeforeAttributeName c
  | attributeName, c => onAttributeName c
  | afterAttributeName, c => onAfterAttributeName c
  | beforeAttributeValue, c =>
    if isTagSpace c then beforeAttributeValue
    else if c = '"' ∨ c = '\x27' then attributeValue c
    else onAttributeValueUnquoted c
  | attributeValue quote, c => if c = quote then afterAttributeValueQuoted else attributeValue quote
  | attributeValueUnquoted, c => onAttributeValueUnquoted c
  | afterAttributeValueQuoted, c => onBeforeAttributeName c
  | selfClosingStartTag, c => onBeforeAttributeName c
  | closed, _ => closed

/-- What stands after the end tag of a script whose text goes on like this; nothing if the script does not end. -/
def afterEnd? : ScriptState → List Char → Option (List Char)
  | _, [] => none
  | s, c :: cs =>
    match s.step c with
    | closed => some cs
    | t => afterEnd? t cs

end ScriptState

/-- What stands after the first place at which a text stands in another one. -/
def afterFirst? (part : List Char) : List Char → Option (List Char)
  | [] => if part = [] then some [] else none
  | c :: cs => if part.isPrefixOf (c :: cs) then some ((c :: cs).drop part.length) else afterFirst? part cs

/-- What stands in a page after the end of its first script. -/
def afterScript? (page : List Char) : Option (List Char) :=
  (afterFirst? ('<' :: (scriptName ++ ['>'])) page).bind (ScriptState.afterEnd? .data)

/-! ## Scripts in comments -/

/-- What holds of a text from some place on. -/
def Somewhere (P : List Char → Prop) (cs : List Char) : Prop := ∃ rest, rest <:+ cs ∧ P rest

/-- A text that begins a script tag. -/
def StartsScript (cs : List Char) : Prop :=
  ∃ name c rest, cs = '<' :: (name ++ c :: rest) ∧ name.map Char.toLower = scriptName ∧ endsTagName c = true

/-- What stands in a comment to the end of the text begins a script tag and does not end the comment. -/
def HoldsScript (cs : List Char) : Prop := ¬['-', '-', '>'] <:+: cs ∧ Somewhere StartsScript cs

/-- A text that begins a comment which is not ended and in which a script tag begins.  The dashes that begin a comment may
be among those that end it. -/
def BeginsOpenScript (cs : List Char) : Prop :=
  ∃ rest, cs = '<' :: '!' :: '-' :: '-' :: rest ∧ HoldsScript ('-' :: '-' :: rest)

/-- A script tag is begun in a comment that is not ended. -/
def LeavesScriptOpen (cs : List Char) : Prop := Somewhere BeginsOpenScript cs

end Html

/-- What stands on a page after the end tag of the script with the configuration. -/
def Page.afterScript (p : Page) : List Char := p.tail.drop ";\n    </script>".length

end ConfigService
