/-!
# Double-precision values and rounding to them

A binary64 value is `± mantissa × 2 ^ exponent` with a mantissa below `2 ^ 53` and an
exponent from `-1074` to `971`; a mantissa below `2 ^ 52` only at the lowest exponent (the
subnormal values, zero among them). Every operation here computes its exact result as a
fraction of natural numbers and keeps the nearest value, a tie going to the even mantissa:
the rounding of the machine's arithmetic. A result at or beyond the halfway point between the
largest finite value and `2 ^ 1024` is an infinity.

* `Decimal` — a number as text writes it, `± significand × 10 ^ exponent`;
* `Binary64` — a finite value or an infinity;
* `Binary64.nearest` — the value nearest to a fraction;
* `Decimal.toBinary64` — the value nearest to a decimal number;
* `Binary64.mul`, `Binary64.div` — rounded products and quotients.
-/

namespace AddressSpace

-- `^` on naturals and integers is `Nat.pow` and `Int.pow` in this file, ahead of any other
-- power in scope.
attribute [local instance (high)] instPowNat

/-- A number in decimal: `± significand × 10 ^ exponent`. -/
structure Decimal where
  /-- Whether a minus sign stands before it. -/
  negative : Bool
  /-- Its digits, as one number. -/
  significand : Nat
  /-- The power of ten they are multiplied by. -/
  exponent : Int
deriving DecidableEq, Repr

/-- A double-precision value. -/
inductive Binary64 where
  /-- `± mantissa × 2 ^ exponent`, the mantissa below `2 ^ 53`. -/
  | finite (negative : Bool) (mantissa : Nat) (exponent : Int)
  /-- An infinity. -/
  | infinite (negative : Bool)
deriving DecidableEq, Repr

namespace Binary64

/-- The exponent of the subnormal values: they are the multiples of `2 ^ -1074`. -/
def minExponent : Int := -1074

/-- The largest exponent of a finite value. -/
def maxExponent : Int := 971

/-- A zero, with its sign. -/
def zero (negative : Bool) : Binary64 := .finite negative 0 minExponent

/-- The quotient `num / den` rounded to the nearest natural number, a tie to the even one. -/
def roundDiv (num den : Nat) : Nat :=
  let q := num / den
  let r := num % den
  if 2 * r < den then q else if den < 2 * r then q + 1 else q + q % 2

/-- The fraction `num / (den × 2 ^ e)` as a pair of naturals. -/
def scaled (num den : Nat) (e : Int) : Nat × Nat :=
  if 0 ≤ e then (num, den * 2 ^ e.toNat) else (num * 2 ^ (-e).toNat, den)

/-- The exponent at which a positive fraction has a 53-bit mantissa: the quotient at the
estimate from the two lengths in bits lies between `2 ^ 51` and `2 ^ 53`, so one step down
is enough when it falls short of `2 ^ 52`. -/
def normalExponent (num den : Nat) : Int :=
  let est : Int := (num.log2 : Int) - den.log2 - 52
  let (a, b) := scaled num den est
  if a / b < 2 ^ (52 : Nat) then est - 1 else est

/-- The value nearest to `± num / den`; `den` is positive. -/
def nearest (negative : Bool) (num den : Nat) : Binary64 :=
  if num = 0 then zero negative
  else
    let e := max (normalExponent num den) minExponent
    let (a, b) := scaled num den e
    let m := roundDiv a b
    let (m, e) := if m = 2 ^ (53 : Nat) then (2 ^ (52 : Nat), e + 1) else (m, e)
    if maxExponent < e then .infinite negative else .finite negative m e

/-- The value of a finite number as the fraction `num / den`, without its sign. -/
def ratio (m : Nat) (e : Int) : Nat × Nat :=
  if 0 ≤ e then (m * 2 ^ e.toNat, 1) else (m, 2 ^ (-e).toNat)

/-- Whether a value is finite. -/
def isFinite : Binary64 → Bool
  | .finite .. => true
  | .infinite _ => false

/-- Whether a value is a zero. -/
def isZero : Binary64 → Bool
  | .finite _ m _ => m = 0
  | .infinite _ => false

/-- The value with the other sign. -/
def negate : Binary64 → Binary64
  | .finite s m e => .finite (!s) m e
  | .infinite s => .infinite (!s)

/-- The value nearest to a natural number. -/
def ofNat (n : Nat) : Binary64 := nearest false n 1

/-- The rounded product; an infinity times a nonzero value stays infinite. -/
def mul : Binary64 → Binary64 → Binary64
  | .finite s m e, .finite t n f =>
    let (a, b) := ratio m e
    let (c, d) := ratio n f
    nearest (s != t) (a * c) (b * d)
  | .finite s _ _, .infinite t => .infinite (s != t)
  | .infinite s, .finite t _ _ => .infinite (s != t)
  | .infinite s, .infinite t => .infinite (s != t)

/-- The rounded quotient by a finite nonzero value; a zero divisor leaves the dividend as
it is, since no caller divides by zero. -/
def div : Binary64 → Binary64 → Binary64
  | .finite s m e, .finite t n f =>
    if n = 0 then .finite s m e
    else
      let (a, b) := ratio m e
      let (c, d) := ratio n f
      nearest (s != t) (a * d) (b * c)
  | .infinite s, .finite t _ _ => .infinite (s != t)
  | x, .infinite _ => x

end Binary64

namespace Decimal

/-- The number of decimal digits of a natural number; zero has one. -/
def digitCount (n : Nat) : Nat := (Nat.toDigits 10 n).length

/-- The value nearest to a decimal number. A number of more than 310 digits before its
point is beyond every finite value, and one below `10 ^ -330` is below half the least
subnormal value, so neither needs its power of ten computed. -/
def toBinary64 (d : Decimal) : Binary64 :=
  if d.significand = 0 then Binary64.zero d.negative
  else
    let order := (digitCount d.significand : Int) + d.exponent
    if 310 < order then .infinite d.negative
    else if order < -330 then Binary64.zero d.negative
    else if 0 ≤ d.exponent then
      Binary64.nearest d.negative (d.significand * 10 ^ d.exponent.toNat) 1
    else Binary64.nearest d.negative d.significand (10 ^ (-d.exponent).toNat)

end Decimal

end AddressSpace
