import RuleMachine.Decimal.Shortest
/-!
# Reading a decimal by scaling

A JSON reader of the kind this machine answers to turns the text of a number into a double in
two rounded steps, not one: the significand, a natural number below `2 ^ 64`, is rounded to a
double, and that double is multiplied by the double nearest `10 ^ e` for an exponent `e ≥ 0`,
or divided by the double nearest `10 ^ -e` for `e < 0`. Each step rounds, so the result can miss
the double nearest the decimal by one place in the last digit: `96710.64429805659` reads as
`96710.6442980566`, a neighbour of the double it names.

`Decimal.nearestDouble` rounds a natural number to the nearest double, a tie going to the even
significand; `Decimal.powerOfTen` is the double nearest a power of ten; `Decimal.scaled` is the
two-step reading. An exponent beyond `10 ^ 308` is brought back by dividing by `1e308` first,
as often as needed, and a zero needs no scaling at all. A reading that overflows has no value.
-/

namespace RuleMachine

namespace Decimal

/-- **The double nearest a natural number**, a tie going to the even significand. Below `2 ^ 53`
every natural number is a double; above, the number is cut to its top 53 bits and rounded by the
bits cut off. -/
def nearestDouble (n : Nat) : Float :=
  if n < Nat.pow 2 53 then n.toUInt64.toFloat
  else
    let shift := n.log2 - 52
    let q := n / Nat.pow 2 shift
    let r := n % Nat.pow 2 shift
    let half := Nat.pow 2 (shift - 1)
    let q := if r > half || (r = half && q % 2 = 1) then q + 1 else q
    q.toUInt64.toFloat.scaleB shift

/-- The double nearest `10 ^ e`. -/
def powerOfTen (e : Nat) : Float := nearestDouble (Nat.pow 10 e)

/-- Scales `value` by `10 ^ exponent` as the reader does, within `fuel` rounds of dividing by
`1e308`. -/
def scaleBy : Nat → Float → Int → Option Float
  | 0, value, _ => some value
  | fuel + 1, value, exponent =>
    if exponent.natAbs ≤ 308 then
      if 0 ≤ exponent then
        let product := value * powerOfTen exponent.toNat
        if product.isInf then none else some product
      else some (value / powerOfTen exponent.natAbs)
    else if value == 0.0 then some value
    else if 0 ≤ exponent then none
    else scaleBy fuel (value / powerOfTen 308) (exponent + 308)

/-- **The double a reader makes of `significand · 10 ^ exponent`**: the significand rounded
to a double, then scaled. Three rounds of dividing by `1e308` bring any significand below
`2 ^ 64` to zero, so four rounds always suffice. `none` when the value overflows. -/
def scaled (significand : Nat) (exponent : Int) : Option Float :=
  scaleBy 4 (nearestDouble significand) exponent

end Decimal

end RuleMachine
