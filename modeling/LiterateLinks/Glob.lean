import LiterateLinks.Regex.Syntax

/-!
# Wildcard patterns

A paste marker may name several chunks at once with a shell pattern: `*` stands for any run of
characters, `?` for exactly one, `[abc]` for one character of a set and `[!abc]` for one outside it;
every other character stands for itself.  There is no way to quote a metacharacter.  A `[` that no
`]` closes is an ordinary character.

A pattern is matched by way of the regular expression it is written as, `Glob.expression`; the
expression is also shown to the user.  Reading that expression fails exactly when some set holds a
range whose ends are out of order.
-/

namespace LiterateLinks

namespace Glob

/-- The body of the set that starts right after a `[`, up to but without the closing `]`.  A leading
`!`, and a `]` at the start or right after the `!`, belong to the body. -/
def classBody? (rest : List Char) : Option (List Char) :=
  let (bang, rest) := if rest.head? = some '!' then (['!'], rest.tail) else ([], rest)
  let (first, rest) := if rest.head? = some ']' then ([']'], rest.tail) else ([], rest)
  if rest.contains ']' then some (bang ++ first ++ rest.takeWhile (· != ']')) else none

/-- The parts of a pattern. -/
inductive Part where
  /-- Any run of characters. -/
  | star
  /-- Exactly one character. -/
  | any
  /-- One character of the set with this body. -/
  | bracket (body : List Char)
  /-- The character itself. -/
  | char (c : Char)
  deriving Repr, DecidableEq

/-- Takes a pattern apart.  The first argument counts the characters that still belong to the last
set, its closing bracket included. -/
def partsFrom : Nat → List Char → List Part
  | _, [] => []
  | hidden + 1, _ :: cs => partsFrom hidden cs
  | 0, c :: cs =>
    if c = '*' then .star :: partsFrom 0 cs
    else if c = '?' then .any :: partsFrom 0 cs
    else if c = '[' then
      match classBody? cs with
      | some body => .bracket body :: partsFrom (body.length + 1) cs
      | none => .char c :: partsFrom 0 cs
    else .char c :: partsFrom 0 cs

/-- The parts of a pattern, from left to right. -/
def parts (pattern : List Char) : List Part :=
  partsFrom 0 pattern

/-- Whether some suffix of the pattern starts with wildcard syntax: `*`, `?` or a closed set. -/
def isWildcardText : List Char → Bool
  | [] => false
  | c :: cs =>
    c == '*' || c == '?' || (c == '[' && (classBody? cs).isSome) || isWildcardText cs

/-- Whether the pattern uses wildcard syntax at all. -/
def isWildcard (pattern : String) : Bool :=
  isWildcardText pattern.toList

/-! ### The expression of a pattern -/

/-- Writes the body of a set.  Characters that are syntax inside brackets are quoted, and so is a
dash that follows a dash; other dashes are left to make ranges. -/
def writeBody : Option Char → List Char → List Char
  | _, [] => []
  | last, c :: cs =>
    let special := ['\\', '[', ']', '&', '~', '^'].contains c || (c == '-' && last == some '-')
    (if special then ['\\', c] else [c]) ++ writeBody (some c) cs

/-- Writes a set: a leading `!` becomes the sign of negation, a leading `^` is an ordinary
character. -/
def writeSet : List Char → List Char
  | '!' :: body => ['[', '^'] ++ writeBody none body ++ [']']
  | '^' :: body => ['[', '\\', '^'] ++ writeBody none body ++ [']']
  | body => ['['] ++ writeBody none body ++ [']']

/-- Writes one part of a pattern. -/
def Part.write : Part → List Char
  | .star => ['.', '*']
  | .any => ['.']
  | .bracket body => writeSet body
  | .char c => Regex.quote [c]

/-- The regular expression of a pattern, as it is written. -/
def expression (pattern : String) : String :=
  String.ofList ((parts pattern.toList).flatMap Part.write)

/-- The pattern as an expression that has to match a whole name, in which `*` and `?` cross
lines. -/
def compile? (pattern : String) : Option Pattern :=
  Pattern.parse? ("^(?s:".toList ++ (expression pattern).toList ++ ")$".toList)

end Glob

end LiterateLinks
