import QueryDesk.Number.Binary64

/-!
# The shortest digits of a double

The decimals that read back as a double form an interval around it, whose ends belong to it when
the double's significand is even.  `shortest` finds the decimal with the fewest significant digits
in that interval, and of several the nearest to the double: for one digit, two digits and so on it
tries the two neighbours of the double among the decimals of that many digits.  The first count
with a neighbour inside the interval wins; of two such neighbours the nearer wins, and of two
equally near ones the even one.
-/

namespace QueryDesk.Number

/-- A positive decimal `digits * 10 ^ exponent`. -/
structure Decimal where
  digits : Nat
  exponent : Int
deriving DecidableEq, Repr

namespace Decimal

/-- The decimal as a fraction. -/
def ratio (x : Decimal) : Nat × Nat :=
  match x.exponent with
  | .ofNat k => (x.digits * Nat.pow 10 k, 1)
  | .negSucc k => (x.digits, Nat.pow 10 (k + 1))

/-- Moves zeros at the end of the digits into the exponent; `fuel` bounds their number. -/
def stripZeros : Nat → Decimal → Decimal
  | 0, x => x
  | fuel + 1, x =>
    if x.digits % 10 = 0 && 0 < x.digits then
      stripZeros fuel ⟨x.digits / 10, x.exponent + 1⟩
    else x

end Decimal

namespace Binary64

/-- The ends of the interval of numbers that read back as a double, in quarters of a unit.  Below
    a power of two the doubles lie closer together than above it. -/
def bounds (units : Nat) : Nat × Nat :=
  let gap := spacing units
  let below := if units = Nat.pow 2 units.log2 && 1 < gap then gap else 2 * gap
  (4 * units - below, 4 * units + 2 * gap)

/-- Whether a decimal reads back as the double. -/
def readsBack (units : Nat) (x : Decimal) : Bool :=
  let (low, high) := bounds units
  let (n, d) := x.ratio
  let value := n * one * 4
  if units / spacing units % 2 = 0 then low * d ≤ value && value ≤ high * d
  else low * d < value && value < high * d

/-- Whether `10 ^ k` is at most the double. -/
def powerBelow (units : Nat) (k : Int) : Bool :=
  match k with
  | .ofNat k => Nat.pow 10 k * one ≤ units
  | .negSucc k => one ≤ units * Nat.pow 10 (k + 1)

/-- The decimal exponent of a double's first significant digit. -/
def leadingExponent (units : Nat) : Int :=
  let guess := ((units.log2 : Int) - 1074) * 1233 / 4096
  if powerBelow units (guess + 1) then guess + 1
  else if powerBelow units guess then guess
  else guess - 1

/-- The largest multiple of `10 ^ k` that is at most the double, and the next one. -/
def neighbours (units : Nat) (k : Int) : Decimal × Decimal :=
  let below := match k with
    | .ofNat k => units / (one * Nat.pow 10 k)
    | .negSucc k => units * Nat.pow 10 (k + 1) / one
  (⟨below, k⟩, ⟨below + 1, k⟩)

/-- Of the two neighbours on a grid the one that reads back, the nearer if both do. -/
def gridHit (units : Nat) (k : Int) : Option Decimal :=
  let (below, above) := neighbours units k
  match readsBack units below && 0 < below.digits, readsBack units above with
  | false, false => none
  | true, false => some below
  | false, true => some above
  | true, true =>
    let (n, d) := (⟨2 * below.digits + 1, k⟩ : Decimal).ratio
    if 2 * units * d < n * one then some below
    else if n * one < 2 * units * d then some above
    else if below.digits % 2 = 0 then some below else some above

/-- Tries grids of ever more digits; seventeen always suffice. -/
def searchGrids (units : Nat) (leading : Int) : Nat → Nat → Option Decimal
  | 0, _ => none
  | fuel + 1, count =>
    (gridHit units (leading - count)).or (searchGrids units leading fuel (count + 1))

/-- The shortest decimal that reads back as a positive double. -/
def shortest (units : Nat) : Decimal :=
  let found := searchGrids units (leadingExponent units) 17 0
  Decimal.stripZeros 400 (found.getD ⟨0, 0⟩)

end Binary64

end QueryDesk.Number
