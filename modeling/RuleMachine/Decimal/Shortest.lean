/-!
# The shortest decimal of a double

`Decimal.shortest` finds, for a finite nonzero double, the decimal with the fewest
significant digits that reads back as that double, and of those the one nearest to it; an
exact tie between two nearest goes to the even significand.

A double is `m · 2^q` (`Binary.ofBits`). The reals that read back as it form an interval
around it whose ends lie halfway to the neighbouring doubles: the gap below is half as wide
when `m` is the least significand of a binade above the smallest, and both ends belong to the
interval when `m` is even, since a halfway value reads back as the even neighbour. For
`n = 1, 2, …, 17` the search looks at the two decimals with `n` significant digits that lie
next to the value, the one at or below it and the one above: when some decimal of that grid
lies in the interval, so does one of these two. The first `n` with a hit wins; seventeen
digits always suffice for a double.

All arithmetic is on natural numbers brought to a common denominator, so nothing in the
search is rounded.
-/

namespace RuleMachine

/-- A decimal `digits · 10 ^ exponent`. -/
structure Decimal where
  digits : Nat
  exponent : Int
  deriving Repr, DecidableEq

/-- A finite double taken apart: its sign, and the significand and binary exponent of its
magnitude `significand · 2 ^ exponent`. -/
structure Binary where
  negative : Bool
  significand : Nat
  exponent : Int
  deriving Repr, DecidableEq

namespace Binary

/-- The parts of a double from its 64 bits: sign bit, eleven exponent bits, fifty-two
fraction bits; a zero exponent field marks a subnormal, whose significand has no hidden
bit. -/
def ofBits (b : UInt64) : Binary :=
  let n : Nat := b.toNat
  let field : Nat := (n / Nat.pow 2 52) % Nat.pow 2 11
  let fraction : Nat := n % Nat.pow 2 52
  let negative := decide (n / Nat.pow 2 63 = 1)
  if field = 0 then ⟨negative, fraction, -1074⟩
  else ⟨negative, fraction + Nat.pow 2 52, (field : Int) - 1075⟩

/-- The parts of a double. -/
def ofFloat (x : Float) : Binary := ofBits x.toBits

end Binary

namespace Decimal

/-- The number of decimal digits of a natural number (one for zero). -/
def digitCount (n : Nat) : Nat := (Nat.toDigits 10 n).length

/-- `⌊log₁₀ (num / den)⌋` for positive `num` and `den`. Above one it is the digit count of
the integer part less one; below one it is `-j` for the least `j` with
`num · 10 ^ j ≥ den`, and that `j` is the digit count of `⌈den / num⌉ - 1`. -/
def floorLog10 (num den : Nat) : Int :=
  if den ≤ num then (digitCount (num / den) : Int) - 1
  else -((digitCount ((den + num - 1) / num - 1) : Int))

/-- Removes the trailing zeros of a significand, raising the exponent to match. -/
def normalize (c : Nat) (k : Int) : Decimal :=
  if h : c ≠ 0 ∧ c % 10 = 0 then
    have : c / 10 < c := Nat.div_lt_self (Nat.pos_of_ne_zero h.1) (by decide)
    normalize (c / 10) (k + 1)
  else ⟨c, k⟩
termination_by c

/-- The reals that read back as one double, scaled: the double is `value · scale / den`,
the interval runs from `low · scale / den` to `high · scale / den`, and `closed` says
whether its ends belong to it. -/
structure Interval where
  value : Nat
  low : Nat
  high : Nat
  scale : Nat
  den : Nat
  closed : Bool

/-- The interval of a positive double `m · 2 ^ q`, with the double at `4m · 2 ^ (q - 2)`. -/
def Interval.of (m : Nat) (q : Int) : Interval :=
  let e := q - 2
  let lowGap := if m = Nat.pow 2 52 ∧ q > -1074 then 1 else 2
  { value := 4 * m, low := 4 * m - lowGap, high := 4 * m + 2,
    scale := Nat.pow 2 e.toNat, den := Nat.pow 2 (-e).toNat, closed := m % 2 = 0 }

/-- Whether the decimal `c · 10 ^ k` reads back as the double of the interval. -/
def Interval.admits (iv : Interval) (c : Nat) (k : Int) : Bool :=
  let p := Nat.pow 10 k.toNat
  let r := Nat.pow 10 (-k).toNat
  let x := c * p * iv.den
  let lo := iv.low * iv.scale * r
  let hi := iv.high * iv.scale * r
  if iv.closed then lo ≤ x && x ≤ hi else lo < x && x < hi

/-- How far `c · 10 ^ k` lies from the double, in the common unit of the comparison. -/
def Interval.distance (iv : Interval) (c : Nat) (k : Int) : Nat :=
  let a := c * Nat.pow 10 k.toNat * iv.den
  let b := iv.value * iv.scale * Nat.pow 10 (-k).toNat
  if a ≤ b then b - a else a - b

/-- The decimal with `n` significant digits that reads back as the double, if there is
one: of the two grid points next to the value the one inside the interval, the nearer if
both are, the even one on a tie. -/
def Interval.onGrid (iv : Interval) (e10 : Int) (n : Nat) : Option Decimal :=
  let k := e10 + 1 - n
  let below := iv.value * iv.scale * Nat.pow 10 (-k).toNat / (iv.den * Nat.pow 10 k.toNat)
  let above := below + 1
  match iv.admits below k, iv.admits above k with
  | true, true =>
    let db := iv.distance below k
    let da := iv.distance above k
    if db < da || (db = da && below % 2 = 0) then some (normalize below k)
    else some (normalize above k)
  | true, false => some (normalize below k)
  | false, true => some (normalize above k)
  | false, false => none

/-- The shortest decimal that reads back as the positive double `m · 2 ^ q`, the nearest of
those on a tie of length. -/
def ofParts (m : Nat) (q : Int) : Decimal :=
  let iv := Interval.of m q
  let e10 := floorLog10 (iv.value * iv.scale) iv.den
  match (List.range 17).findSome? (fun i => iv.onGrid e10 (i + 1)) with
  | some d => d
  | none =>
    let k := e10 + 1 - 17
    normalize (iv.value * iv.scale * Nat.pow 10 (-k).toNat / (iv.den * Nat.pow 10 k.toNat)) k

/-- The shortest decimal of the magnitude of a double; `⟨0, 0⟩` for a zero. -/
def shortest (x : Float) : Decimal :=
  let b := Binary.ofFloat x
  if b.significand = 0 then ⟨0, 0⟩ else ofParts b.significand b.exponent

end Decimal

end RuleMachine
