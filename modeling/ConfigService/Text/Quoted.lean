import ConfigService.Text.Unprintable
/-!
# Quoted — a string inside a message

Where a message shows a string that came from outside, the string stands in quotes and every character that would not be
seen as itself is escaped: the quote, the backslash, the tab, the line feed, the carriage return and the null character
by their short escapes, any other unprintable one by its code in hexadecimal.
-/
namespace ConfigService

/-- The low-case hexadecimal digits of a number. -/
def hexadecimal (n : Nat) : List Char := Nat.toDigits 16 n

/-- A character as a quoted string shows it. -/
def showChar (c : Char) : List Char :=
  if c = '"' then ['\\', '"']
  else if c = '\\' then ['\\', '\\']
  else if c = '\t' then ['\\', 't']
  else if c = '\n' then ['\\', 'n']
  else if c = '\r' then ['\\', 'r']
  else if c.toNat = 0 then ['\\', '0']
  else if isUnprintable c then '\\' :: 'u' :: '{' :: hexadecimal c.toNat ++ ['}']
  else [c]

/-- A string in quotes. -/
def quoted (s : String) : String := String.ofList ('"' :: (s.toList.flatMap showChar ++ ['"']))

end ConfigService
