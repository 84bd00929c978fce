/-!
# Help

What the program tells about itself.
-/

namespace LiterateLinks

namespace Command

/-- The lines of the help text. -/
def helpLines : List String :=
  ["Turns chunk markers of a rendered literate program into hyperlinks",
    "",
    "Usage: nanolp-pub [OPTIONS] <input>",
    "",
    "Arguments:",
    "  <input>  Path to the HTML document",
    "",
    "Options:",
    "  -o, --output <output>          Write the linked document here instead of stdout",
    "      --in-place                 Overwrite the input document",
    "  -c, --config <config>          Configuration file layered over the defaults",
    "      --policy <policy>          Where pastes look for chunks (default: in-page, or " ++
      "mapped with --map) [possible values: in-page, mapped]",
    "  -m, --map <map>                JSON command map \x7bchunk name: source location\x7d",
    "      --left <left>              Left marker delimiter",
    "      --right <right>            Right marker delimiter",
    "      --base-url <base-url>      URL prefix for source files of the command map",
    "      --stylesheet <stylesheet>  Stylesheet href to link from the document head",
    "      --write-css                Write the default stylesheet next to the output " ++
      "unless one exists",
    "      --force                    Link documents that were already processed",
    "  -v, --verbose                  Log what is linked",
    "  -h, --help                     Print help",
    "  -V, --version                  Print version"]

/-- The help text. -/
def helpText : String :=
  String.join (helpLines.map fun line => line ++ "\n")

/-- The name and version of the program. -/
def versionText : String :=
  "nanolp-pub 0.1.0\n"

end Command

end LiterateLinks
