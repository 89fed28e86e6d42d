import MusicLibrary.Decimal.Shortest

/-!
# JSON numbers

The value that a number of a JSON text stands for: an integer of 64 bits, or a double. A text
without point and exponent is an integer as long as it fits, and `-0` is a double. The digits of a
double are collected into an integer of 64 bits; later digits only move the point. That integer is
rounded to a double and then multiplied or divided by a power of ten, with one more rounding.
-/

namespace MusicLibrary.Json

open MusicLibrary.Decimal

/-- `2 ^ 64`, which all integers are below. -/
def naturalLimit : Nat := 0x10000000000000000

/-- `2 ^ 63`, the greatest magnitude of a negative integer. -/
def negativeLimit : Nat := 0x8000000000000000

/-- The value of a number. -/
inductive Number where
  /-- An integer that is not negative, below `2 ^ 64`. -/
  | natural (n : Nat)
  /-- The integer `-n`, for `n` from `1` to `2 ^ 63`. -/
  | negative (n : Nat)
  /-- A double, with its sign. -/
  | double (minus : Bool) (magnitude : Binary64)
  deriving DecidableEq, Repr

/-- Doubles are written positionally for exponents from `-5` to `15`. -/
def numberLayout : Layout := ⟨-5, 15⟩

/-- A number in words, as error messages name it. -/
def Number.describe : Number → List Char
  | .natural n => "integer `".toList ++ Nat.toDigits 10 n ++ ['`']
  | .negative n => "integer `-".toList ++ Nat.toDigits 10 n ++ ['`']
  | .double minus x =>
    "floating point `".toList ++ (if minus then ['-'] else []) ++ numberLayout.write (shortest x) ++ ['`']

/-- The parts of a number's text: its sign, the digits before the point, those after it (none if there
is no point), and the exponent if there is one. -/
structure Numeral where
  /-- The text starts with a minus sign. -/
  minus : Bool
  /-- The digits before the point. -/
  whole : List Char
  /-- The digits after the point. -/
  fraction : List Char
  /-- The exponent. -/
  exponent : Option Int
  deriving DecidableEq, Repr

/-- The value of a decimal digit. -/
def digitValue (c : Char) : Nat := c.toNat - 48

/-- `n` followed by as many of the given digits as leave it below `2 ^ 64`, and the number of digits
left over. -/
def collect (n : Nat) : List Char → Nat × Nat
  | [] => (n, 0)
  | c :: cs =>
    let m := n * 10 + digitValue c
    if m < naturalLimit then collect m cs else (n, cs.length + 1)

/-- The double nearest to `n`, for `n < 2 ^ 64`. -/
def roundedNat (n : Nat) : Binary64 := (Binary64.nearest n 1).getD .zero

/-- `x · 10 ^ e`: one rounded multiplication or division, after as many divisions by `10 ^ 308` as a very
small exponent needs; `none` if the result is too large. -/
def scale (x : Binary64) (e : Int) : Option Binary64 :=
  if x.significand = 0 then some x
  else if 308 < e then none
  else if 0 ≤ e then x.mul (roundedNat (Nat.pow 10 e.toNat))
  else if -308 ≤ e then x.div (roundedNat (Nat.pow 10 (-e).toNat))
  else
    match x.div (roundedNat (Nat.pow 10 308)) with
    | some y => scale y (e + 308)
    | none => none
termination_by (-e).toNat

/-- The value of a numeral; `none` if it is too large for a double. -/
def Numeral.value (s : Numeral) : Option Number :=
  let (n, moved) := collect 0 s.whole
  if s.fraction = [] && s.exponent.isNone then
    if moved ≠ 0 then (scale (roundedNat n) moved).map (.double s.minus)
    else if !s.minus then some (.natural n)
    else if n = 0 || negativeLimit < n then some (.double true (roundedNat n))
    else some (.negative n)
  else
    let (n, unused) := collect n s.fraction
    let e : Int := (moved : Int) - ((s.fraction.length : Int) - unused) + s.exponent.getD 0
    (scale (roundedNat n) e).map (.double s.minus)

end MusicLibrary.Json
