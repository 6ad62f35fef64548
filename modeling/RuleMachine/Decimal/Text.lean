import RuleMachine.Decimal.Shortest
/-!
# The text of a double

`Decimal.text` writes a double as JSON numbers are written here: the fewest significant digits
that read back as the double (`Decimal.shortest`), laid out by where the decimal point falls.
With `n` digits `d₁…dₙ` and the value `0.d₁…dₙ · 10 ^ p`:

- for `0 < p ≤ 16` the digits are written positionally, with zeros up to the point and `.0`
  after an integral value: `1.5`, `100.0`, `1000000000000000.0`;
- for `-5 < p ≤ 0` they follow `0.` and `-p` zeros: `0.001`, `0.00001`;
- otherwise in scientific notation, one digit before the point and the exponent with its
  sign: `1e+16`, `1.8446744073709552e+19`, `1e-7`, `5e-324`.

Zero is `0.0`, and a negative double, `-0.0` included, starts with a minus sign. A value that is
not finite has no JSON text; it is written `null`.
-/

namespace RuleMachine

namespace Decimal

/-- `n` zeros. -/
def zeros (n : Nat) : String := String.ofList (List.replicate n '0')

/-- The layout of a positive decimal's digits, by the position `p` of its point. -/
def layout (d : Decimal) : String :=
  let ds := Nat.toDigits 10 d.digits
  let p : Int := ds.length + d.exponent
  if 0 ≤ d.exponent ∧ p ≤ 16 then String.ofList ds ++ zeros d.exponent.toNat ++ ".0"
  else if 0 < p ∧ p ≤ 16 then
    String.ofList (ds.take p.toNat) ++ "." ++ String.ofList (ds.drop p.toNat)
  else if -5 < p ∧ p ≤ 0 then "0." ++ zeros (-p).toNat ++ String.ofList ds
  else
    let mantissa := match ds with
      | [c] => c.toString
      | c :: rest => c.toString ++ "." ++ String.ofList rest
      | [] => "0"
    let e := p - 1
    mantissa ++ "e" ++ (if 0 ≤ e then "+" else "-") ++ toString e.natAbs

/-- **The JSON text of a double.** -/
def text (x : Float) : String :=
  if x.isNaN || x.isInf then "null"
  else
    let sign := if (Binary.ofFloat x).negative then "-" else ""
    let d := shortest x
    if d.digits = 0 then sign ++ "0.0" else sign ++ layout d

end Decimal

end RuleMachine
