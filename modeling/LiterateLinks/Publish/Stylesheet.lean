/-!
# The default stylesheet

How the links look that the program makes.  The stylesheet is written next to a page for those who
have none of their own.
-/

namespace LiterateLinks

namespace Stylesheet

/-- The name of its file. -/
def fileName : String := "nanolp-pub.css"

/-- Its lines. -/
def lines : List String :=
  ["/* Chunk definitions */",
    ".lpdefine \x7b",
    "    font-style: italic;",
    "    font-weight: bold;",
    "    color: #205080;",
    "\x7d",
    "",
    "a[name] \x7b",
    "    text-decoration: none;",
    "\x7d",
    "",
    "/* Wildcard pastes: the matched chunks show on hover */",
    ".popup \x7b",
    "    position: relative;",
    "    cursor: help;",
    "    border-bottom: 1px dotted #205080;",
    "\x7d",
    "",
    ".popup div \x7b",
    "    display: none;",
    "    position: absolute;",
    "    top: 1.2em;",
    "    left: 0;",
    "    z-index: 10;",
    "    min-width: 10em;",
    "    padding: 0.3em 0.5em;",
    "    background: #fffff0;",
    "    border: 1px solid #a0a0a0;",
    "    box-shadow: 2px 2px 4px rgba(0, 0, 0, 0.2);",
    "    white-space: nowrap;",
    "\x7d",
    "",
    ".popup:hover div \x7b",
    "    display: block;",
    "\x7d",
    "",
    ".popup div a \x7b",
    "    display: block;",
    "\x7d",
    "",
    "#caption \x7b",
    "    display: block;",
    "    font-size: smaller;",
    "    color: #606060;",
    "    border-bottom: 1px solid #d0d0d0;",
    "    margin-bottom: 0.2em;",
    "\x7d"]

/-- Its text. -/
def text : String :=
  String.join (lines.map fun line => line ++ "\n")

end Stylesheet

end LiterateLinks
