/-!
# Decimal numbers

A decimal is a whole number of digits and a power of ten.  It is written positionally, or with an
exponent when the point would be far from its digits.
-/

namespace LiterateLinks

/-- The number `digits · 10 ^ exponent`. -/
structure Decimal where
  digits : Nat
  exponent : Int
  deriving Repr, DecidableEq, Inhabited

namespace Decimal

/-- The digits as text. -/
def digitText (d : Decimal) : List Char :=
  Nat.toDigits 10 d.digits

/-- The exponent of the first digit. -/
def leadingExponent (d : Decimal) : Int :=
  d.exponent + d.digitText.length - 1

/-- The digits with the point in its place.  A whole number has no point, unless `keepPoint` asks
for one. -/
def positional (keepPoint : Bool) (d : Decimal) : String :=
  let text := d.digitText
  if 0 ≤ d.exponent then
    String.ofList (text ++ List.replicate d.exponent.toNat '0') ++ (if keepPoint then ".0" else "")
  else
    let places := (-d.exponent).toNat
    let padded := List.replicate (places + 1 - text.length) '0' ++ text
    let whole := padded.length - places
    String.ofList (padded.take whole ++ ['.'] ++ padded.drop whole)

/-- The digits with the point after the first one, and the exponent with its sign. -/
def scientific (d : Decimal) : String :=
  let fraction := d.digitText.tail
  let e := d.leadingExponent
  String.ofList (d.digitText.take 1 ++ (if fraction.isEmpty then [] else '.' :: fraction)) ++
    (if 0 ≤ e then "e+" else "e-") ++ String.ofList (Nat.toDigits 10 e.natAbs)

end Decimal

end LiterateLinks
