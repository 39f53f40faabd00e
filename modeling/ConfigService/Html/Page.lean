import ConfigService.Html.Escape
/-!
# Page — the pages of the service

A page is a shell for a module of the client, which finds the current configuration in a script.  A redirect has a page
too, for clients that do not follow it.
-/
namespace ConfigService

inductive Page
  | explore
  | dashboardAdmin
  deriving DecidableEq, Repr

namespace Page

def title : Page → String
  | explore => "PerfKit Explorer"
  | dashboardAdmin => "PerfKit Explorer - Dashboard Administration"

/-- The module of the client that runs on a page. -/
def module : Page → String
  | explore => "explorer"
  | dashboardAdmin => "dashboard-admin"

/-- What stands on a page before the configuration. -/
def head (p : Page) : List Char :=
  "<!DOCTYPE html>\n<html lang=\"en\">\n<head>\n    <meta charset=\"utf-8\">\n    <meta name=\"viewport\" content=\"width=device-width, initial-scale=1\">\n    <title>".toList ++
    Html.escapeText p.title.toList ++
    "</title>\n    <script>\n        var INITIAL_CONFIG = ".toList

/-- What stands on a page after the configuration. -/
def tail (p : Page) : List Char :=
  ";\n    </script>\n</head>\n<body data-module=\"".toList ++ p.module.toList ++ "\">\n    <div id=\"".toList ++
    p.module.toList ++ "-root\"></div>\n    <script src=\"/static/".toList ++ p.module.toList ++
    ".js\"></script>\n</body>\n</html>".toList

/-- A page with a configuration, which is given as JSON text. -/
def render (p : Page) (config : List Char) : List Char := p.head ++ Html.escapeScript config ++ p.tail

end Page

/-- The page sent along with a redirect to a target. -/
def redirectPage (target : List Char) : List Char :=
  "<!DOCTYPE html>\n<html lang=\"en\">\n<head>\n    <meta charset=\"utf-8\">\n    <title>Moved Permanently</title>\n</head>\n<body>\n    <p>This page has moved to <a href=\"".toList ++
    Html.escapeAttribute target ++ "\">".toList ++ Html.escapeText target ++ "</a>.</p>\n</body>\n</html>".toList

end ConfigService
