import MusicLibrary.Decimal.Binary64

/-!
# The shortest decimal of a double

Among the decimals that lie closer to a magnitude than to its neighbours, `shortest` takes one with
the fewest digits, and among those the nearest to the magnitude. The reals that round to a magnitude
form an interval, whose ends belong to it exactly if the significand is even. If a grid of decimals
with a given number of digits meets the interval at all, it does so at one of the two grid points
around the magnitude, so only these are tried.

A `Layout` says how such a decimal is written out.
-/

namespace MusicLibrary.Decimal

/-- The decimal `digits · 10 ^ power`. -/
structure Shortest where
  /-- The digits, as a number. -/
  digits : Nat
  /-- The power of ten they are scaled by. -/
  power : Int
  deriving DecidableEq, Repr

/-- The number of decimal digits of `n`. -/
def digitCount (n : Nat) : Nat := (Nat.toDigits 10 n).length

/-- The greatest `k` with `10 ^ k ≤ num / den`, for positive `num` and `den`. -/
def decimalExponent (num den : Nat) : Int :=
  let k : Int := (digitCount num : Int) - digitCount den
  if den * Nat.pow 10 k.toNat ≤ num * Nat.pow 10 (-k).toNat then k else k - 1

/-- `num / den` over `10 ^ p`, as numerator and denominator. -/
def overPower (num den : Nat) (p : Int) : Nat × Nat :=
  (num * Nat.pow 10 (-p).toNat, den * Nat.pow 10 p.toNat)

/-- A decimal without zeros at the end of its digits. -/
def Shortest.strip : Nat → Shortest → Shortest
  | 0, d => d
  | n + 1, d => if d.digits % 10 = 0 then Shortest.strip n ⟨d.digits / 10, d.power + 1⟩ else d

/-- The decimal with the last digit at `10 ^ p` that rounds to the magnitude with the quarter-steps
`quarters · 2 ^ e`, the interval around it ending at `low` and `high` quarter-steps: the nearer of
the two around it that do, the one with even digits if both are as near. -/
def onGrid (quarters low high : Nat) (closed : Bool) (e p : Int) : Option Shortest :=
  let (n, d) := Binary64.shift quarters 1 e
  let (n, d) := overPower n d p
  let below := n / d
  let within (candidate : Nat) : Bool :=
    let (c, unit) := Binary64.shift candidate 1 (-e)
    let (c, unit) := overPower c unit (-p)
    if closed then low * unit ≤ c && c ≤ high * unit else low * unit < c && c < high * unit
  match within below, within (below + 1) with
  | true, true =>
    if 2 * n < (2 * below + 1) * d then some ⟨below, p⟩
    else if (2 * below + 1) * d < 2 * n then some ⟨below + 1, p⟩
    else some ⟨below + below % 2, p⟩
  | true, false => some ⟨below, p⟩
  | false, true => some ⟨below + 1, p⟩
  | false, false => none

/-- The shortest decimal that rounds to `x`, the nearest of those. Seventeen digits always suffice. -/
def shortest (x : Binary64) : Shortest :=
  if x.significand = 0 then ⟨0, 0⟩
  else
    let quarters := 4 * x.significand
    let atStep := x.significand == Binary64.leastNormal && x.exponent != Binary64.leastExponent
    let low := if atStep then quarters - 1 else quarters - 2
    let e := x.exponent - 2
    let (n, d) := Binary64.shift quarters 1 e
    let k := decimalExponent n d
    let found := (List.range 17).findSome? fun (i : Nat) =>
      onGrid quarters low (quarters + 2) (x.significand % 2 == 0) e (k - i)
    (found.getD ⟨n / d, 0⟩).strip 17

/-- How a decimal is written: positionally if the exponent of its first digit lies between two bounds,
otherwise with that exponent and its sign after the letter `e`. -/
structure Layout where
  /-- The least exponent written positionally. -/
  leastPositional : Int
  /-- The greatest exponent written positionally. -/
  greatestPositional : Int

/-- The text of a decimal. A positional text has at least one digit on both sides of the point. -/
def Layout.write (layout : Layout) (x : Shortest) : List Char :=
  let ds := Nat.toDigits 10 x.digits
  let e : Int := x.power + ds.length - 1
  if x.digits = 0 then ['0', '.', '0']
  else if layout.leastPositional ≤ e && e ≤ layout.greatestPositional then
    if 0 ≤ x.power then ds ++ List.replicate x.power.toNat '0' ++ ['.', '0']
    else if 0 ≤ e then ds.take (e.toNat + 1) ++ '.' :: ds.drop (e.toNat + 1)
    else '0' :: '.' :: List.replicate (-e - 1).toNat '0' ++ ds
  else
    let mantissa := if ds.length = 1 then ds else ds.take 1 ++ '.' :: ds.drop 1
    mantissa ++ 'e' :: (if e < 0 then '-' else '+') :: Nat.toDigits 10 e.natAbs

end MusicLibrary.Decimal
