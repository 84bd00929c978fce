import LiterateLinks.Regex.Basic

/-!
# Leftmost matches

Where a text holds several matches of an expression, the search takes the one that starts first, and
among those the one the expression prefers: greedy parts try to read more before they read less,
lazy parts less before more, and an earlier part's preference outranks a later one's.
`Regex.attempt` tries the readings at one place in the order of preference and hands each to a
continuation until one is accepted; `Regex.scan` walks along the text and lists the successive
matches, which never overlap.  `Pattern.find?` looks for the first match of an expression that may
be tied to the ends of the text: a reading that stops before an end that it is tied to is passed
over like any other reading that fails.
-/

namespace LiterateLinks

namespace CharSet

/-- Offers the suffixes reached by reading `0, 1, 2, …` characters of the set, shortest reading
first. -/
def lazily {β : Type} (set : CharSet) (next : List Char → Option β) : List Char → Option β
  | [] => next []
  | c :: cs =>
    match next (c :: cs) with
    | some answer => some answer
    | none => if set.contains c then lazily set next cs else none

/-- Offers the same suffixes as `lazily`, longest reading first. -/
def greedily {β : Type} (set : CharSet) (next : List Char → Option β) : List Char → Option β
  | [] => next []
  | c :: cs =>
    if set.contains c then
      match greedily set next cs with
      | some answer => some answer
      | none => next (c :: cs)
    else next (c :: cs)

end CharSet

/-- What a group has read, as the suffix where it began and the suffix where it ended. -/
structure Capture where
  index : Nat
  opened : List Char
  closed : List Char
  deriving Repr, DecidableEq

/-- The characters between the two suffixes. -/
def Capture.text (c : Capture) : List Char :=
  c.opened.take (c.opened.length - c.closed.length)

namespace Regex

/-- Reads the expression at the start of the text and hands the rest, with the captures so far, to
`next`.  The first reading, in the order of preference, that `next` accepts is the answer. -/
def attempt {β : Type} : Regex → List Char → List Capture →
    (List Char → List Capture → Option β) → Option β
  | .empty, text, captures, next => next text captures
  | .one set, text, captures, next =>
    match text with
    | [] => none
    | c :: cs => if set.contains c then next cs captures else none
  | .many set greedy, text, captures, next =>
    if greedy then set.greedily (next · captures) text else set.lazily (next · captures) text
  | .cat first second, text, captures, next =>
    first.attempt text captures fun rest found => second.attempt rest found next
  | .maybe body greedy, text, captures, next =>
    if greedy then
      match body.attempt text captures next with
      | some answer => some answer
      | none => next text captures
    else
      match next text captures with
      | some answer => some answer
      | none => body.attempt text captures next
  | .group index body, text, captures, next =>
    body.attempt text captures fun rest found => next rest (⟨index, text, rest⟩ :: found)

end Regex

/-- One match: the text it covers and what its groups have read. -/
structure Match where
  whole : List Char
  captures : List Capture
  deriving Repr, DecidableEq

/-- What the group has read, if it took part in the match. -/
def Match.group? (m : Match) (index : Nat) : Option (List Char) :=
  (m.captures.find? (·.index == index)).map Capture.text

/-- A text taken apart at its matches: each match with the text that precedes it, and the text after
the last one. -/
structure Scan where
  hits : List (List Char × Match)
  tail : List Char
  deriving Repr, DecidableEq

/-- Puts a character that belongs to no match in front. -/
def Scan.pushFront (c : Char) : Scan → Scan
  | ⟨[], tail⟩ => ⟨[], c :: tail⟩
  | ⟨(before, m) :: hits, tail⟩ => ⟨(c :: before, m) :: hits, tail⟩

/-- Puts a match in front. -/
def Scan.pushHit (m : Match) (scan : Scan) : Scan :=
  ⟨([], m) :: scan.hits, scan.tail⟩

namespace Regex

/-- The preferred match that starts where the text starts. -/
def matchHere? (e : Regex) (text : List Char) : Option Match :=
  e.attempt text [] fun rest captures =>
    some ⟨text.take (text.length - rest.length), captures⟩

/-- The successive matches of an expression that accepts no empty word.  The first argument counts
the characters that still belong to the last match: a match of `n + 1` characters keeps the search
from starting at any of the `n` places after its first one. -/
def scanFrom (e : Regex) : Nat → List Char → Scan
  | _, [] => ⟨[], []⟩
  | hidden + 1, _ :: cs => scanFrom e hidden cs
  | 0, c :: cs =>
    match e.matchHere? (c :: cs) with
    | some m => (scanFrom e (m.whole.length - 1) cs).pushHit m
    | none => (scanFrom e 0 cs).pushFront c

/-- The text taken apart at the successive matches of the expression. -/
def scan (e : Regex) (text : List Char) : Scan :=
  e.scanFrom 0 text

end Regex

namespace Pattern

/-- The preferred match that starts where the text starts and, if the pattern is tied to the end,
ends where the text ends. -/
def matchHere? (p : Pattern) (text : List Char) : Option Match :=
  p.body.attempt text [] fun rest captures =>
    if p.toEnd && !rest.isEmpty then none
    else some ⟨text.take (text.length - rest.length), captures⟩

/-- The first match, with the text in front of it.  The places of the text are tried from left to
right, only the first one if the pattern is tied to the start. -/
def find? (p : Pattern) : List Char → Option (List Char × Match)
  | [] => (p.matchHere? []).map ([], ·)
  | c :: cs =>
    match p.matchHere? (c :: cs) with
    | some m => some ([], m)
    | none => if p.fromStart then none else (p.find? cs).map (Prod.map (c :: ·) id)

end Pattern

end LiterateLinks
