/-!
# Decimal and hexadecimal numerals

The numerals that node ids, attribute numbers, masks and status codes are written in.

* `Numeral.ofDigits?` — the value of a non-empty run of ASCII decimal digits;
* `Numeral.unsigned?` — an optional `+`, then digits, the value below a bound;
* `Numeral.signed?` — an optional `+` or `-`, then digits, the value within a range;
* `Numeral.decimal` / `Numeral.signedDecimal` / `Numeral.hexUpper` / `Numeral.hexLower` — writing numbers.

Leading zeros are accepted, and nothing else: no blanks, no separators, no other digits
than `0`–`9`. A lone sign is no numeral.
-/

namespace AddressSpace.Numeral

/-- The value of an ASCII decimal digit. -/
def digitValue? (c : Char) : Option Nat :=
  if '0' ≤ c ∧ c ≤ '9' then some (c.toNat - '0'.toNat) else none

/-- The value of a hexadecimal digit, in either case. -/
def hexValue? (c : Char) : Option Nat :=
  if '0' ≤ c ∧ c ≤ '9' then some (c.toNat - '0'.toNat)
  else if 'a' ≤ c ∧ c ≤ 'f' then some (c.toNat - 'a'.toNat + 10)
  else if 'A' ≤ c ∧ c ≤ 'F' then some (c.toNat - 'A'.toNat + 10)
  else none

/-- The number whose digits in base `b` are `ds`, most significant first. -/
def valueIn (b : Nat) (ds : List Nat) : Nat :=
  ds.foldl (fun acc d => acc * b + d) 0

/-- The value of a non-empty run of decimal digits. -/
def ofDigits? (cs : List Char) : Option Nat :=
  if cs.isEmpty then none else (cs.mapM digitValue?).map (valueIn 10)

/-- An unsigned numeral: an optional `+`, then decimal digits, the value below `bound`. -/
def unsigned? (bound : Nat) (cs : List Char) : Option Nat :=
  let body := match cs with
    | '+' :: rest => rest
    | _ => cs
  match ofDigits? body with
  | some n => if n < bound then some n else none
  | none => none

/-- A signed numeral: an optional `+` or `-`, then decimal digits, the value in `[lo, hi]`. -/
def signed? (lo hi : Int) (cs : List Char) : Option Int :=
  let value : Option Int := match cs with
    | '-' :: rest => (ofDigits? rest).map fun n => -(n : Int)
    | '+' :: rest => (ofDigits? rest).map fun n => (n : Int)
    | _ => (ofDigits? cs).map fun n => (n : Int)
  match value with
  | some v => if lo ≤ v ∧ v ≤ hi then some v else none
  | none => none

/-- A natural number in decimal. -/
def decimal (n : Nat) : String :=
  String.ofList (Nat.toDigits 10 n)

/-- An integer in decimal, with `-` before a negative one. -/
def signedDecimal (i : Int) : String :=
  if i < 0 then "-" ++ decimal i.natAbs else decimal i.natAbs

/-- The lowercase hexadecimal digit of a value below sixteen. -/
def hexDigitLower (d : Nat) : Char :=
  if d < 10 then Char.ofNat ('0'.toNat + d) else Char.ofNat ('a'.toNat + d - 10)

/-- The digits of `n` in base sixteen, most significant first, at least `width` of them. -/
def hexDigits (width n : Nat) : List Nat :=
  let ds := (Nat.toDigits 16 n).map fun c => (hexValue? c).getD 0
  List.replicate (width - ds.length) 0 ++ ds

/-- The number `n` in lowercase hexadecimal, zero-padded to `width` digits. -/
def hexLower (width n : Nat) : String :=
  String.ofList ((hexDigits width n).map hexDigitLower)

/-- The number `n` in uppercase hexadecimal, zero-padded to `width` digits. -/
def hexUpper (width n : Nat) : String :=
  String.ofList ((hexDigits width n).map fun d => (hexDigitLower d).toUpper)

end AddressSpace.Numeral
