import AddressSpace.Number.Binary64

/-!
# The shortest decimal text of a double

A finite value is written with the fewest significant digits that read back as the same
value; among the numbers of that many digits that do, the nearest one, a tie going to the
even last digit. A number reads back as `m × 2 ^ e` when it lies between the halfway points
to the neighbouring values, and the halfway points themselves read back as `m` when `m` is
even.

How the digits are then written — which orders are positional, the exponent's mark, sign
and width — is a `Binary64.Layout`, chosen by the format that writes the number.

* `Binary64.shortest` — the digits and the power of ten of the last one;
* `Binary64.format` — the text in a layout, signed zeros and the infinities included.
-/

namespace AddressSpace

-- `^` on naturals and integers is `Nat.pow` and `Int.pow` in this file, ahead of any other
-- power in scope.
attribute [local instance (high)] instPowNat

namespace Binary64

/-- Compare `a × 10 ^ p` with `b × 2 ^ q`. -/
def compareScaled (a : Nat) (p : Int) (b : Nat) (q : Int) : Ordering :=
  compare (a * 10 ^ p.toNat * 2 ^ (-q).toNat) (b * 2 ^ q.toNat * 10 ^ (-p).toNat)

/-- The `k` with `10 ^ k ≤ m × 2 ^ e < 10 ^ (k + 1)`, for a positive `m`: the lengths in
digits of the fraction's two parts give `k` or `k + 1`. -/
def decimalOrder (m : Nat) (e : Int) : Int :=
  let (num, den) := ratio m e
  let est : Int := (Decimal.digitCount num : Int) - Decimal.digitCount den
  if compareScaled 1 est m e = .gt then est - 1 else est

/-- The halfway point below `m × 2 ^ e`, in units of `2 ^ (e - 2)`: the gap below a power
of two that is not subnormal is half the gap above it. -/
def lowerHalfway (m : Nat) (e : Int) : Nat :=
  if m = 2 ^ (52 : Nat) ∧ minExponent < e then 4 * m - 1 else 4 * m - 2

/-- Whether `c × 10 ^ p` reads back as the positive value `m × 2 ^ e`. -/
def readsBack (m : Nat) (e : Int) (c : Nat) (p : Int) : Bool :=
  let lo := compareScaled c p (lowerHalfway m e) (e - 2)
  let hi := compareScaled c p (4 * m + 2) (e - 2)
  if m % 2 = 0 then lo != .lt && hi != .gt else lo == .gt && hi == .lt

/-- The number of `n` significant digits that reads back as `m × 2 ^ e` and is nearest
to it, if there is one; `k` is the value's decimal order. The two multiples of `10 ^ p`
around the value are the only candidates, since the values that read back form an
interval around it. -/
def withDigits (m : Nat) (e k : Int) (n : Nat) : Option (Nat × Int) :=
  let p := k - n + 1
  let num := m * 2 ^ e.toNat * 10 ^ (-p).toNat
  let den := 2 ^ (-e).toNat * 10 ^ p.toNat
  let q := num / den
  let r := num % den
  if r = 0 then some (q, p)
  else
    match readsBack m e q p, readsBack m e (q + 1) p with
    | true, true =>
      if 2 * r < den then some (q, p)
      else if den < 2 * r then some (q + 1, p)
      else some (q + q % 2, p)
    | true, false => some (q, p)
    | false, true => some (q + 1, p)
    | false, false => none

/-- Remove the zeros at the end of `c × 10 ^ p`, raising `p`. -/
def dropZeros : Nat → Nat → Int → Nat × Int
  | 0, c, p => (c, p)
  | fuel + 1, c, p => if c ≠ 0 ∧ c % 10 = 0 then dropZeros fuel (c / 10) (p + 1) else (c, p)

/-- The shortest digits of a positive finite value `m × 2 ^ e`, as `c × 10 ^ p`. Seventeen
significant digits always read back, so the search ends there. -/
def shortest (m : Nat) (e : Int) : Nat × Int :=
  let k := decimalOrder m e
  let found := ((List.range 17).findSome? fun i => withDigits m e k (i + 1)).getD (m, 0)
  dropZeros (Decimal.digitCount found.1) found.1 found.2

/-- How a number's digits are laid out: the orders written positionally, and how an
exponent and the special values look. A value in `[10 ^ (k - 1), 10 ^ k)` is positional when
`positionalAbove < k ≤ positionalUpTo`, with at least one digit after the point when
`pointZero` holds; otherwise one digit stands before the point and the exponent follows. -/
structure Layout where
  /-- Orders above this one are written positionally. -/
  positionalAbove : Int
  /-- Orders up to this one are written positionally. -/
  positionalUpTo : Int
  /-- Whether a whole number keeps `.0`. -/
  pointZero : Bool
  /-- The mark before an exponent. -/
  exponentMark : String
  /-- Whether a positive exponent has a `+`. -/
  plusSign : Bool
  /-- The least number of digits of an exponent. -/
  exponentDigits : Nat
  /-- The text of positive infinity. -/
  infinity : String

/-- The text of an exponent, with its sign and padded with zeros. -/
def Layout.exponentText (l : Layout) (x : Int) : String :=
  let digits := Nat.toDigits 10 x.natAbs
  let sign := if x < 0 then "-" else if l.plusSign then "+" else ""
  let padding := List.replicate (l.exponentDigits - digits.length) '0'
  l.exponentMark ++ sign ++ String.ofList (padding ++ digits)

/-- The layout of the digits `ds` whose last one stands for `10 ^ p`. -/
def Layout.digits (l : Layout) (ds : List Char) (p : Int) : String :=
  let k : Int := p + ds.length
  let wholeEnd := if l.pointZero then ".0" else ""
  if 0 ≤ p ∧ l.positionalAbove < k ∧ k ≤ l.positionalUpTo then
    String.ofList (ds ++ List.replicate p.toNat '0') ++ wholeEnd
  else if 0 < k ∧ k ≤ l.positionalUpTo then
    String.ofList (ds.take k.toNat ++ '.' :: ds.drop k.toNat)
  else if l.positionalAbove < k ∧ k ≤ 0 then
    String.ofList ('0' :: '.' :: List.replicate (-k).toNat '0' ++ ds)
  else
    match ds with
    | [d] => String.ofList [d] ++ l.exponentText (k - 1)
    | d :: rest => String.ofList (d :: '.' :: rest) ++ l.exponentText (k - 1)
    | [] => "0" ++ wholeEnd

/-- The shortest text of a value that reads back as it, laid out by `l`; a zero keeps its
sign. -/
def format (l : Layout) : Binary64 → String
  | .infinite negative => (if negative then "-" else "") ++ l.infinity
  | .finite negative m e =>
    let sign := if negative then "-" else ""
    if m = 0 then sign ++ "0" ++ (if l.pointZero then ".0" else "")
    else
      let (c, p) := shortest m e
      sign ++ l.digits (Nat.toDigits 10 c) p

end Binary64

end AddressSpace
