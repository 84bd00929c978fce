import LiterateLinks.Regex.Basic

/-!
# Written regular expressions

Expressions are also a text format: the marker expressions and the expression of a wildcard pattern
are shown to the user as they are written.  This module reads that format.  A backslash quotes the
metacharacter after it; `[…]` is a set, negated by a leading `^`, with ranges `x-y`; `.` is any
character of the line, or any character at all inside `(?s:…)`; `*`, `+` and `?` repeat, lazily when
another `?` follows; parentheses capture; `^` and `$` tie the expression to the ends of the text.

Reading goes in steps, each a plain recursion over the output of the one before: quoted characters,
then brackets, then roles, then the expression.  Whatever the format reserves for uses not needed
here (alternatives, counted repetition, set operators inside brackets, letter escapes) is refused.
-/

namespace LiterateLinks

namespace Regex

/-- The characters that have a meaning of their own in the written format. -/
def metacharacters : List Char :=
  ['\\', '.', '+', '*', '?', '(', ')', '|', '[', ']', '\x7b', '\x7d', '^', '$', '#', '&', '-', '~']

/-- Whether the character has to be quoted to stand for itself. -/
def isMeta (c : Char) : Bool :=
  metacharacters.contains c

/-- The written form of a text that is to be read as itself. -/
def quote (text : List Char) : List Char :=
  text.flatMap fun c => if isMeta c then ['\\', c] else [c]

/-- A written character, with or without a backslash in front. -/
structure Glyph where
  char : Char
  quoted : Bool
  deriving Repr, DecidableEq

/-- Whether the glyph is the given character without a backslash. -/
def Glyph.isPlain (g : Glyph) (c : Char) : Bool :=
  g.char == c && !g.quoted

/-- Attaches each backslash to the character it quotes. -/
def glyphs? : List Char → Option (List Glyph)
  | [] => some []
  | c :: cs =>
    if c = '\\' then
      match cs with
      | [] => none
      | q :: rest => if isMeta q then (⟨q, true⟩ :: ·) <$> glyphs? rest else none
    else (⟨c, false⟩ :: ·) <$> glyphs? cs

/-! ### Brackets -/

/-- Whether the glyphs begin syntax that is reserved inside brackets: a nested set or one of the
operators `&&`, `--` and `~~`. -/
def isReserved (g : Glyph) (rest : List Glyph) : Bool :=
  g.isPlain '[' ||
    ['&', '-', '~'].any fun c => g.isPlain c && (rest.head?.map (·.isPlain c)).getD false

/-- The entries of a set.  A character, a plain dash and a further glyph that is no plain dash make
a range; its ends have to be in order.  Anything else is a single character. -/
def classItems? : List Glyph → Option (List ClassItem)
  | [] => some []
  | g :: gs =>
    if isReserved g gs then none
    else
      match gs with
      | d :: h :: rest =>
        if d.isPlain '-' && !h.isPlain '-' then
          if g.char ≤ h.char then (.range g.char h.char :: ·) <$> classItems? rest else none
        else (.single g.char :: ·) <$> classItems? (d :: h :: rest)
      | [d] => (.single g.char :: ·) <$> classItems? [d]
      | [] => some [.single g.char]

/-- The entries of a set whose leading plain dashes stand for themselves. -/
def leadingItems? : List Glyph → Option (List ClassItem)
  | [] => some []
  | g :: gs =>
    if g.isPlain '-' then (.single '-' :: ·) <$> leadingItems? gs else classItems? (g :: gs)

/-- The set written between two brackets. -/
def bracket? : List Glyph → Option CharSet
  | [] => none
  | g :: gs =>
    let negated := g.isPlain '^'
    let body := if negated then gs else g :: gs
    if body.isEmpty then none else .bracket negated <$> leadingItems? body

/-- What a glyph or a set does in an expression. -/
inductive Role where
  | set (s : CharSet)
  | dot
  | opening
  | closing
  | star
  | plus
  | question
  deriving Repr, DecidableEq

/-- The role of a glyph outside brackets, if it has one there. -/
def Glyph.role? (g : Glyph) : Option Role :=
  if g.quoted then some (.set (.only g.char))
  else
    match g.char with
    | '.' => some .dot
    | '(' => some .opening
    | ')' => some .closing
    | '*' => some .star
    | '+' => some .plus
    | '?' => some .question
    | c =>
      if ['|', '[', ']', '\x7b', '\x7d', '^', '$'].contains c then none else some (.set (.only c))

/-- The roles of the glyphs of an expression.  The first argument holds, newest first, the glyphs of
the set being read. -/
def roles? : Option (List Glyph) → List Glyph → Option (List Role)
  | none, [] => some []
  | some _, [] => none
  | none, g :: gs =>
    if g.isPlain '[' then roles? (some []) gs
    else do
      let role ← g.role?
      let roles ← roles? none gs
      return role :: roles
  | some body, g :: gs =>
    if g.isPlain ']' then do
      let set ← bracket? body.reverse
      let roles ← roles? none gs
      return .set set :: roles
    else roles? (some (g :: body)) gs

/-! ### Expressions -/

/-- A group that is still open: its index if it captures, whether `.` crosses lines in it, and the
expressions read so far, newest first. -/
structure Frame where
  index : Option Nat
  crossing : Bool
  parts : List Regex

/-- Adds an expression to the group. -/
def Frame.push (frame : Frame) (e : Regex) : Frame :=
  { frame with parts := e :: frame.parts }

/-- Replaces the newest expression of the group. -/
def Frame.change? (frame : Frame) (f : Regex → Option Regex) : Option Frame :=
  match frame.parts with
  | [] => none
  | e :: parts => do return { frame with parts := (← f e) :: parts }

/-- The expression of a whole group. -/
def Frame.close (frame : Frame) : Regex :=
  let body := concat frame.parts.reverse
  match frame.index with
  | some index => .group index body
  | none => body

/-- Repeats a set any number of times. -/
def star? (greedy : Bool) : Regex → Option Regex
  | .one set => some (.many set greedy)
  | _ => none

/-- Repeats a set at least once. -/
def plus? (greedy : Bool) : Regex → Option Regex
  | .one set => some (.cat (.one set) (.many set greedy))
  | _ => none

/-- Assembles the expression from its roles.  `count` groups have been opened to capture; `outer`
are the groups around `frame`, innermost first. -/
def assemble? : List Role → Nat → Frame → List Frame → Option Regex
  | [], _, frame, [] => some frame.close
  | [], _, _, _ :: _ => none
  | .set s :: rs, count, frame, outer => assemble? rs count (frame.push (.one s)) outer
  | .dot :: rs, count, frame, outer =>
    assemble? rs count (frame.push (.one (if frame.crossing then .any else .inLine))) outer
  | .opening :: .question :: .set s :: .set t :: rs, count, frame, outer =>
    if s = .only 's' ∧ t = .only ':' then assemble? rs count ⟨none, true, []⟩ (frame :: outer)
    else none
  | .opening :: rs, count, frame, outer =>
    assemble? rs (count + 1) ⟨some (count + 1), frame.crossing, []⟩ (frame :: outer)
  | .closing :: _, _, _, [] => none
  | .closing :: rs, count, frame, parent :: outer =>
    assemble? rs count (parent.push frame.close) outer
  | .star :: .question :: rs, count, frame, outer => do
    assemble? rs count (← frame.change? (star? false)) outer
  | .star :: rs, count, frame, outer => do
    assemble? rs count (← frame.change? (star? true)) outer
  | .plus :: .question :: rs, count, frame, outer => do
    assemble? rs count (← frame.change? (plus? false)) outer
  | .plus :: rs, count, frame, outer => do
    assemble? rs count (← frame.change? (plus? true)) outer
  | .question :: .question :: rs, count, frame, outer => do
    assemble? rs count (← frame.change? fun e => some (.maybe e false)) outer
  | .question :: rs, count, frame, outer => do
    assemble? rs count (← frame.change? fun e => some (.maybe e true)) outer

/-- The expression that the glyphs write down. -/
def ofGlyphs? (glyphs : List Glyph) : Option Regex := do
  let roles ← roles? none glyphs
  assemble? roles 0 ⟨none, false, []⟩ []

end Regex

/-- Reads a written expression, tied to the start by a leading `^` and to the end by a trailing
`$`. -/
def Pattern.parse? (source : List Char) : Option Pattern := do
  let glyphs ← Regex.glyphs? source
  let fromStart := (glyphs.head?.map (·.isPlain '^')).getD false
  let glyphs := if fromStart then glyphs.tail else glyphs
  let toEnd := (glyphs.getLast?.map (·.isPlain '$')).getD false
  let glyphs := if toEnd then glyphs.dropLast else glyphs
  let body ← Regex.ofGlyphs? glyphs
  return ⟨fromStart, body, toEnd⟩

end LiterateLinks
