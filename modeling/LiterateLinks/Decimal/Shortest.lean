import LiterateLinks.Decimal.Basic

/-!
# The shortest decimal of a double

Among the decimals that read back as a given double, the shortest has the fewest digits, and among
those it is the nearest to the double.  A double `m · 2 ^ q` is read from every number in the
interval that reaches half-way to its two neighbours; the ends belong to the interval exactly when
`m` is even.  For one digit, two digits and so on, the two multiples of the last place around the
double are tried until one lies in the interval.  All comparisons are between whole numbers.
-/

namespace LiterateLinks

namespace Decimal

/-- A finite positive double and its interval, as whole multiples of one unit `1 / scale`: the
double itself, the two ends, and whether these belong to the interval. -/
structure Interval where
  scale : Nat
  value : Nat
  low : Nat
  high : Nat
  closed : Bool
  deriving Repr, DecidableEq

namespace Interval

/-- The interval of the double `m · 2 ^ q`.  `narrow` says that the neighbour below is only half as
far away as the one above, as for the smallest number with a given exponent. -/
def ofParts (m : Nat) (q : Int) (narrow : Bool) : Interval :=
  let up := Nat.pow 2 q.toNat
  let down := Nat.pow 2 (-q).toNat
  { scale := 4 * down
    value := 4 * m * up
    low := (4 * m - (if narrow then 1 else 2)) * up
    high := (4 * m + 2) * up
    closed := m % 2 == 0 }

/-- Whether the decimal lies in the interval. -/
def contains (i : Interval) (d : Decimal) : Bool :=
  let number := d.digits * Nat.pow 10 d.exponent.toNat * i.scale
  let unit := Nat.pow 10 (-d.exponent).toNat
  if i.closed then i.low * unit ≤ number && number ≤ i.high * unit
  else i.low * unit < number && number < i.high * unit

/-- The distance of a decimal from the double, as a multiple of a unit that only depends on the last
place of the decimal. -/
def distance (i : Interval) (d : Decimal) : Nat :=
  let number := d.digits * Nat.pow 10 d.exponent.toNat * i.scale
  let value := i.value * Nat.pow 10 (-d.exponent).toNat
  max number value - min number value

/-- The number of places before the point, or, for a double below one, minus the number of zeros
right after it.  The fuel bounds the zeros. -/
def magnitude (i : Interval) : Int :=
  if i.scale ≤ i.value then (Nat.toDigits 10 (i.value / i.scale)).length
  else zeros 400 (i.value * 10) 0
where
  zeros : Nat → Nat → Int → Int
    | 0, _, count => count
    | fuel + 1, value, count =>
      if i.scale ≤ value then count else zeros fuel (value * 10) (count - 1)

/-- The best decimal with the given number of digits, if one lies in the interval. -/
def best? (i : Interval) (digits : Nat) : Option Decimal :=
  let exponent := i.magnitude - digits
  let below := i.value * Nat.pow 10 (-exponent).toNat / (i.scale * Nat.pow 10 exponent.toNat)
  let lower : Decimal := ⟨below, exponent⟩
  let upper : Decimal := ⟨below + 1, exponent⟩
  match i.contains lower, i.contains upper with
  | true, true => some (if i.distance upper < i.distance lower then upper else lower)
  | true, false => some lower
  | false, true => some upper
  | false, false => none

/-- The best decimal with `digits`, `digits + 1`, and so on digits. -/
def search (i : Interval) : Nat → Nat → Decimal
  | 0, _ => ⟨0, 0⟩
  | fuel + 1, digits => (i.best? digits).getD (i.search fuel (digits + 1))

end Interval

/-- Drops the zeros at the end of the digits. -/
def trim : Nat → Decimal → Decimal
  | 0, d => d
  | fuel + 1, d =>
    if d.digits ≠ 0 && d.digits % 10 == 0 then trim fuel ⟨d.digits / 10, d.exponent + 1⟩ else d

/-- The shortest decimal of the absolute value of a finite double. -/
def ofFloat (x : Float) : Decimal :=
  let bits : Nat := x.toBits.toNat % 0x8000000000000000
  let fraction : Nat := bits % 0x10000000000000
  let biased : Nat := bits / 0x10000000000000
  if bits = 0 then ⟨0, 0⟩
  else
    let i :=
      if biased = 0 then Interval.ofParts fraction (-1074) false
      else
        Interval.ofParts (0x10000000000000 + fraction) ((biased : Int) - 1075)
          (fraction == 0 && biased != 1)
    trim 400 (i.search 17 1)

/-- Whether the sign bit of a double is set. -/
def isNegative (x : Float) : Bool :=
  0x8000000000000000 ≤ x.toBits.toNat

end Decimal

end LiterateLinks
