/-!
# Names written in ASCII letters

A label of a domain name that starts with `xn--` spells a label with characters outside ASCII: the
ASCII characters of it come first, and after the last hyphen a sequence of numbers says which
characters to put where.  The numbers are written in digits of varying weight, least first, and
every number ends at the first digit below a threshold that follows the numbers read so far.
-/

namespace LiterateLinks

namespace Url

namespace Punycode

/-- The value of a digit: letters are 0 to 25, decimal digits 26 to 35. -/
def digit? (c : Char) : Option Nat :=
  if 'a' ≤ c && c ≤ 'z' then some (c.toNat - 'a'.toNat)
  else if c.isDigit then some (c.toNat - '0'.toNat + 26)
  else none

/-- The threshold of the digit at weight step `k`. -/
def threshold (k bias : Nat) : Nat :=
  max 1 (min 26 (k - bias))

/-- Divides until the number is small, counting the divisions; nine are enough for 32 bits. -/
def reduce : Nat → Nat → Nat → Nat × Nat
  | 0, delta, k => (delta, k)
  | fuel + 1, delta, k => if 455 < delta then reduce fuel (delta / 35) (k + 36) else (delta, k)

/-- The bias that follows a number, given the count of characters placed. -/
def adapt (delta count : Nat) (first : Bool) : Nat :=
  let delta := if first then delta / 700 else delta / 2
  let (delta, k) := reduce 9 (delta + delta / count) 0
  k + 36 * delta / (delta + 38)

/-- The reader between two digits: the characters so far, the last code point, the place counter as
it was before the number and as it is now, the weight of the next digit and its step, and the
bias. -/
structure Reading where
  placed : List Char
  point : Nat := 128
  start : Nat := 0
  place : Nat := 0
  weight : Nat := 1
  step : Nat := 36
  bias : Nat := 72

/-- Ends a number and places the character that it stands for. -/
def Reading.place? (r : Reading) : Option Reading :=
  let count := r.placed.length + 1
  let point := r.point + r.place / count
  let spot := r.place % count
  if point < 0x110000 && !(0xd800 ≤ point && point ≤ 0xdfff) then
    some { placed := r.placed.take spot ++ Char.ofNat point :: r.placed.drop spot
           point := point
           start := spot + 1
           place := spot + 1
           bias := adapt (r.place - r.start) count (r.start == 0) }
  else none

/-- Reads the digits; a number must not stop halfway. -/
def read : List Char → Reading → Option (List Char)
  | [], r => if r.step = 36 then some r.placed else none
  | c :: cs, r =>
    match digit? c with
    | none => none
    | some d =>
      let t := threshold r.step r.bias
      let r := { r with place := r.place + d * r.weight }
      if d < t then
        match r.place? with
        | some r => read cs r
        | none => none
      else read cs { r with weight := r.weight * (36 - t), step := r.step + 36 }

/-- The label that the text after `xn--` spells.  A hyphen with nothing before it ends no
characters, and is no digit either. -/
def decode (text : List Char) : Option (List Char) :=
  let reversed := text.reverse
  let placed := ((reversed.dropWhile (· != '-')).drop 1).reverse
  if placed.isEmpty then read text { placed := [] }
  else read (reversed.takeWhile (· != '-')).reverse { placed }

end Punycode

end Url

end LiterateLinks
