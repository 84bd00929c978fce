/-!
# Regular expressions

Markers and wildcard patterns are written down as regular expressions, so the library has a small
language of them.  An expression reads characters one set at a time; only a set can be repeated, and
any expression can be made optional or captured.  Three things are defined here: the expressions,
the words they accept, and the yes-or-no question whether a text holds a match.

A match is asked for with a `Pattern`, an expression that may be tied to the start and to the end of
the text.  The question is answered by tables: for an expression and a list of booleans, one for
each suffix of the text, `Regex.rows` computes the list that says from which suffixes the expression
can reach a suffix marked `true`.  One pass over the text per part of the expression is enough, so
even a pattern made of hundreds of repetitions is answered quickly.
-/

namespace LiterateLinks

/-- One entry of a bracketed set: a single character or a range with both ends included. -/
inductive ClassItem where
  | single (c : Char)
  | range (lo hi : Char)
  deriving Repr, DecidableEq

/-- Whether the entry holds the character. -/
def ClassItem.holds : ClassItem → Char → Bool
  | .single c, x => x == c
  | .range lo hi, x => decide (lo ≤ x) && decide (x ≤ hi)

/-- A set of characters: the smallest thing an expression reads. -/
inductive CharSet where
  /-- Exactly one character. -/
  | only (c : Char)
  /-- Any character that does not end a line. -/
  | inLine
  /-- Any character. -/
  | any
  /-- The characters that some entry holds, or, when `negated`, those that none holds. -/
  | bracket (negated : Bool) (items : List ClassItem)
  deriving Repr, DecidableEq

/-- Whether the set contains the character. -/
def CharSet.contains : CharSet → Char → Bool
  | .only c, x => x == c
  | .inLine, x => x != '\n'
  | .any, _ => true
  | .bracket negated items, x => items.any (·.holds x) != negated

/-- Regular expressions.  A greedy part prefers to read more, a lazy one to read less; the choice
changes which match is found first, never whether there is one. -/
inductive Regex where
  /-- Reads nothing. -/
  | empty
  /-- Reads one character of the set. -/
  | one (set : CharSet)
  /-- Reads any number of characters of the set. -/
  | many (set : CharSet) (greedy : Bool)
  /-- Reads the first expression, then the second. -/
  | cat (first second : Regex)
  /-- Reads the expression or nothing. -/
  | maybe (body : Regex) (greedy : Bool)
  /-- Reads the expression and remembers what it read under the index. -/
  | group (index : Nat) (body : Regex)
  deriving Repr, DecidableEq

namespace Regex

/-- The expressions of a list, read one after the other. -/
def concat : List Regex → Regex
  | [] => .empty
  | e :: es => .cat e (concat es)

/-- The words an expression accepts. -/
inductive Accepts : Regex → List Char → Prop where
  | empty : Accepts .empty []
  | one {set : CharSet} {c : Char} : set.contains c = true → Accepts (.one set) [c]
  | many {set : CharSet} {greedy : Bool} {word : List Char} :
      (∀ c ∈ word, set.contains c = true) → Accepts (.many set greedy) word
  | cat {first second : Regex} {u v : List Char} :
      Accepts first u → Accepts second v → Accepts (.cat first second) (u ++ v)
  | skip {body : Regex} {greedy : Bool} : Accepts (.maybe body greedy) []
  | take {body : Regex} {greedy : Bool} {word : List Char} :
      Accepts body word → Accepts (.maybe body greedy) word
  | group {index : Nat} {body : Regex} {word : List Char} :
      Accepts body word → Accepts (.group index body) word

end Regex

/-! ### Tables over the suffixes of a text

A row for a text of `n` characters has `n + 1` entries, the first for the whole text and the last
for the empty suffix. -/

namespace CharSet

/-- The row of the suffixes that start with a character of the set and whose tail is marked. -/
def stepRow (set : CharSet) : List Char → List Bool → List Bool
  | c :: cs, _ :: row => (set.contains c && row.headD false) :: stepRow set cs row
  | _, _ => [false]

/-- The row of the suffixes from which some number of characters of the set leads to a marked
one. -/
def manyRow (set : CharSet) : List Char → List Bool → List Bool
  | c :: cs, b :: row =>
    let later := manyRow set cs row
    (b || (set.contains c && later.headD false)) :: later
  | _, row => row

end CharSet

namespace Regex

/-- The row of the suffixes from which the expression can reach a suffix marked in `row`. -/
def rows : Regex → List Char → List Bool → List Bool
  | .empty, _, row => row
  | .one set, text, row => set.stepRow text row
  | .many set _, text, row => set.manyRow text row
  | .cat first second, text, row => first.rows text (second.rows text row)
  | .maybe body _, text, row => List.zipWith (· || ·) (body.rows text row) row
  | .group _ body, text, row => body.rows text row

end Regex

/-- An expression together with the ends of the text a match has to touch. -/
structure Pattern where
  fromStart : Bool
  body : Regex
  toEnd : Bool
  deriving Repr, DecidableEq

namespace Pattern

/-- The suffixes at which a match may end. -/
def lastRow (toEnd : Bool) : List Char → List Bool
  | [] => [true]
  | _ :: cs => (!toEnd) :: lastRow toEnd cs

/-- Whether the text holds a match. -/
def isMatch (p : Pattern) (text : List Char) : Bool :=
  let row := p.body.rows text (lastRow p.toEnd text)
  if p.fromStart then row.headD false else row.any id

end Pattern

end LiterateLinks
