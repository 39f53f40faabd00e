import ConfigService.Html.ScriptData
/-!
# Link — where a page leads

The first link of a page goes where the value of its `href` says, which ends at the next double quote, and shows the text
up to the next tag.  Value and text are as they stand on the page, with their character references unread.
-/
namespace ConfigService
namespace Html

structure Link where
  href : List Char
  text : List Char
  /-- What stands on the page from the next tag on. -/
  after : List Char
  deriving DecidableEq

/-- The first link whose tag begins with `href` and has nothing else. -/
def link? (page : List Char) : Option Link :=
  (afterFirst? "<a href=\"".toList page).bind fun cs =>
    match cs.dropWhile (· ≠ '"') with
    | '"' :: '>' :: rest => some ⟨cs.takeWhile (· ≠ '"'), rest.takeWhile (· ≠ '<'), rest.dropWhile (· ≠ '<')⟩
    | _ => none

end Html
end ConfigService
