/-!
# Finite binary64 numbers

Every finite double is an integral multiple of the smallest positive one, `2 ^ -1074`, so a double
is kept as its sign and that multiple (`units`).  A nonzero double has a 53-bit significand: its
units are a multiple of `2 ^ (k - 52)` where `k` is the position of their highest bit.
`roundRatio` takes a fraction to the nearest such multiple, a tie to the one with an even
significand, and refuses what rounds beyond the largest double.  Products and quotients are exact
fractions before they are rounded.
-/

namespace QueryDesk.Number

/-- A finite double: a sign and a multiple of `2 ^ -1074`.  Zero has two signs. -/
structure Binary64 where
  negative : Bool
  units : Nat
deriving DecidableEq, Repr

namespace Binary64

/-- The units of the number one. -/
def one : Nat := Nat.pow 2 1074

/-- The first multiple that is beyond the largest finite double. -/
def limit : Nat := Nat.pow 2 2098

/-- The distance from a double to the next one above it, in units. -/
def spacing (units : Nat) : Nat :=
  Nat.pow 2 (units.log2 - 52)

/-- The integer nearest to `n / d`; of two equally near ones the even one. -/
def nearest (n d : Nat) : Nat :=
  let q := n / d
  let r := n % d
  if 2 * r < d then q
  else if d < 2 * r then q + 1
  else q + q % 2

/-- The units of the double nearest to `n / d`, or `none` if that is no finite double. -/
def roundRatio (n d : Nat) : Option Nat :=
  let scaled := n * one
  let gap := spacing (scaled / d)
  let units := nearest scaled (d * gap) * gap
  if units < limit then some units else none

/-- The units of the double nearest to an integer. -/
def ofNat? (n : Nat) : Option Nat :=
  roundRatio n 1

/-- The rounded product of two doubles' magnitudes. -/
def mul? (x y : Nat) : Option Nat :=
  roundRatio (x * y) (one * one)

/-- The rounded quotient of two doubles' magnitudes. -/
def div? (x y : Nat) : Option Nat :=
  roundRatio x y

/-- The units of the double nearest to a power of ten that is at most `10 ^ 308`. -/
def powerOfTen (k : Nat) : Nat :=
  (roundRatio (Nat.pow 10 k) 1).getD 0

end Binary64

end QueryDesk.Number
