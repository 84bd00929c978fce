import LiterateLinks.Html.Construction.Foreign
import LiterateLinks.Html.Lexer

/-!
# Reading pages

`Document.parse` reads the source of a page.  Any text is a page: missing parts are supplied and
misplaced ones moved, so that the result always has an outermost element with a head and, unless
there are framesets, a body.
-/

namespace LiterateLinks

namespace Html

/-- Reads tokens until the source ends.  Every token uses up a character, so the length of the
source is fuel enough. -/
def Builder.consume : Nat → Builder → List Char → Builder
  | 0, b, _ => b.feed .eof
  | fuel + 1, b, source =>
    match Lexer.next b.textKind b.isForeign source with
    | (.eof, _) => b.feed .eof
    | (token, rest) => (b.feed token).consume fuel (Lexer.resume b.textKind token rest)

end Html

/-- The document of a source. -/
def Document.parse (source : String) : Document :=
  let text := Html.Lexer.normalize source.toList
  (({} : Html.Builder).consume (text.length + 1) text).arena.toDocument

end LiterateLinks
