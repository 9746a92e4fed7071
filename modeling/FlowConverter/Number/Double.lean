/-! Binary floating-point numbers, held exactly as a sign, a mantissa and a power of two.
Reading a decimal rounds to the nearest number, a tie to the even mantissa. The order
of numbers goes through `Magnitude`, where integers and floating-point numbers meet as
rationals, so no comparison rounds. There is no NaN and no arithmetic. -/
namespace FlowConverter

/-- `finite negative m e` is `m * 2 ^ e`, below zero if `negative`; zero has a sign too. -/
inductive Double where
  | finite (negative : Bool) (mantissa : Nat) (exponent : Int)
  | infinite (negative : Bool)
deriving DecidableEq, Repr

/-- A place on the extended number line. -/
inductive Magnitude where
  | below
  | point (q : Rat)
  | above
deriving DecidableEq

namespace Magnitude

/-- Less or equal on the extended line. -/
def le : Magnitude → Magnitude → Bool
  | below, _ => true
  | _, above => true
  | point p, point q => decide (p ≤ q)
  | _, _ => false

end Magnitude

/-- `n * base ^ k` as a numerator and a denominator. -/
def scaled (n base : Nat) (k : Int) : Nat × Nat :=
  if 0 ≤ k then (n * Nat.pow base k.toNat, 1) else (n, Nat.pow base (-k).toNat)

namespace Double

/-- The least exponent, where numbers have fewer than 53 bits. -/
def minExponent : Int := -1074

/-- The greatest exponent of a finite number. -/
def maxExponent : Int := 971

/-- The quotient rounded to the nearest natural number, a tie to the even one. -/
def roundDiv (n d : Nat) : Nat :=
  let q := n / d
  let r := n % d
  if 2 * r > d || (2 * r == d && q % 2 == 1) then q + 1 else q

/-- `n / (d * 2 ^ e)` as a numerator and a denominator. -/
private def shifted (n d : Nat) (e : Int) : Nat × Nat :=
  if 0 ≤ e then (n, d <<< e.toNat) else (n <<< (-e).toNat, d)

/-- The nearest number to the positive fraction `n / d`. -/
def ofFraction (negative : Bool) (n d : Nat) : Double :=
  let guess : Int := Int.ofNat n.log2 - Int.ofNat d.log2 - 53
  let (a, b) := shifted n d guess
  let e := max minExponent (if a / b < Nat.pow 2 53 then guess else guess + 1)
  let (a, b) := shifted n d e
  let m := roundDiv a b
  let (m, e) := if m = Nat.pow 2 53 then (Nat.pow 2 52, e + 1) else (m, e)
  if e > maxExponent then infinite negative else finite negative m e

/-- The number of decimal digits of `n`, one for zero. -/
def digitCount (n : Nat) : Nat := (Nat.toDigits 10 n).length

/-- The nearest number to `digits * 10 ^ scale`. The two bounds keep the powers small:
beyond them the result is zero or an infinity anyway. -/
def ofDecimal (negative : Bool) (digits : Nat) (scale : Int) : Double :=
  let top := Int.ofNat (digitCount digits) + scale
  if digits = 0 || top < -330 then finite negative 0 minExponent
  else if top > 320 then infinite negative
  else
    let (n, d) := scaled digits 10 scale
    ofFraction negative n d

/-- Where a number lies; both zeros lie at zero. -/
def magnitude : Double → Magnitude
  | infinite true => .below
  | infinite false => .above
  | finite negative m e =>
    let (n, d) := scaled m 2 e
    let q := mkRat (Int.ofNat n) d
    .point (if negative then -q else q)

/-- Only the two zeros are zero. -/
def isZero : Double → Bool
  | finite _ m _ => m == 0
  | infinite _ => false

end Double

end FlowConverter
