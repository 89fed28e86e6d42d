/-!
# Double-precision magnitudes

A finite magnitude of the binary64 format is `significand · 2 ^ exponent` with a significand below
`2 ^ 53`; it is normal if the significand has all its 53 bits, and otherwise its exponent is the
least one. `nearest` rounds a quotient of natural numbers to this format, and multiplication and
division are the exact results rounded. All of it is arithmetic on natural numbers.
-/

namespace MusicLibrary.Decimal

/-- The magnitude `significand · 2 ^ exponent`. -/
structure Binary64 where
  /-- The significand, below `2 ^ 53`. -/
  significand : Nat
  /-- The power of two it is scaled by, at least `-1074` and at most `971`. -/
  exponent : Int
  deriving DecidableEq, Repr

namespace Binary64

/-- `2 ^ 53`, which all significands are below. -/
def significandLimit : Nat := 0x20000000000000

/-- `2 ^ 52`, the least significand of a normal magnitude. -/
def leastNormal : Nat := 0x10000000000000

/-- The exponent of the smallest magnitudes. -/
def leastExponent : Int := -1074

/-- The exponent of the largest magnitudes. -/
def greatestExponent : Int := 971

/-- The magnitude zero. -/
def zero : Binary64 := ⟨0, leastExponent⟩

/-- The fraction `num / den` times `2 ^ e`, as numerator and denominator. -/
def shift (num den : Nat) (e : Int) : Nat × Nat :=
  (num * Nat.pow 2 e.toNat, den * Nat.pow 2 (-e).toNat)

/-- The integer nearest to `num / den`; halfway between two integers, the even one. -/
def roundHalfEven (num den : Nat) : Nat :=
  let q := num / den
  let r := num % den
  if 2 * r < den then q else if den < 2 * r then q + 1 else q + q % 2

/-- A significand of 53 bits or less, or `2 ^ 53` itself, with its exponent: the magnitude it
denotes, or `none` if that is beyond the largest one. -/
def ofRounded (m : Nat) (e : Int) : Option Binary64 :=
  let (m, e) := if m = significandLimit then (leastNormal, e + 1) else (m, e)
  if e ≤ greatestExponent then some ⟨m, e⟩ else none

/-- The magnitude nearest to `num / den`, to even on ties, or `none` beyond the largest one. -/
def nearest (num den : Nat) : Option Binary64 :=
  if num = 0 then some zero
  else
    let e : Int := max leastExponent ((num.log2 : Int) - den.log2 - 53)
    let (n, d) := shift num den (-e)
    if n / d < significandLimit then ofRounded (roundHalfEven n d) e
    else
      let (n, d) := shift num den (-e - 1)
      ofRounded (roundHalfEven n d) (e + 1)

/-- The product, rounded. -/
def mul (a b : Binary64) : Option Binary64 :=
  let (n, d) := shift (a.significand * b.significand) 1 (a.exponent + b.exponent)
  nearest n d

/-- The quotient by `b`, rounded; `b` is not zero. -/
def div (a b : Binary64) : Option Binary64 :=
  let (n, d) := shift a.significand b.significand (a.exponent - b.exponent)
  nearest n d

end Binary64

end MusicLibrary.Decimal
