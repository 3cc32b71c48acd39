import AddressSpace.Text.Numeral

/-!
# Universally unique identifiers

A uuid is a 128-bit number; its sixteen bytes, most significant first, are its big-endian
digits, so the numeric order is the order of the bytes.

* `Uuid` — the number, with its bound;
* `Uuid.parse?` — the four accepted text forms: 32 hex digits, the hyphenated 8-4-4-4-12
  form, that form in braces, and that form after `urn:uuid:`; letters in either case, in the
  digits and in the prefix;
* `Uuid.toText` — the lowercase hyphenated form.
-/

namespace AddressSpace

-- `^` on naturals and integers is `Nat.pow` and `Int.pow` in this file, ahead of any other
-- power in scope.
attribute [local instance (high)] instPowNat

/-- A 128-bit universally unique identifier. -/
structure Uuid where
  /-- The identifier as a number; its big-endian bytes are the uuid's bytes. -/
  val : Nat
  /-- It fits in 128 bits. -/
  lt : val < 2 ^ (128 : Nat)
deriving DecidableEq

namespace Uuid

instance : Ord Uuid := ⟨fun a b => compare a.val b.val⟩

/-- The uuid of a number, reduced to 128 bits. -/
def ofNat (n : Nat) : Uuid := ⟨n % 2 ^ (128 : Nat), Nat.mod_lt _ (Nat.two_pow_pos 128)⟩

/-- The uuid written by exactly 32 hex digits. -/
def ofHex? (cs : List Char) : Option Uuid :=
  if cs.length = 32 then (cs.mapM Numeral.hexValue?).map fun ds => ofNat (Numeral.valueIn 16 ds)
  else none

/-- The hyphenated form: 36 characters, hyphens at 8, 13, 18 and 23, hex digits elsewhere. -/
def ofHyphenated? (cs : List Char) : Option Uuid :=
  if cs.length = 36 ∧ cs[8]? = some '-' ∧ cs[13]? = some '-' ∧ cs[18]? = some '-' ∧
      cs[23]? = some '-' then
    ofHex? (cs.take 8 ++ (cs.drop 9).take 4 ++ (cs.drop 14).take 4 ++ (cs.drop 19).take 4 ++
      cs.drop 24)
  else none

/-- The prefix of the URN form, in lowercase. -/
def urnPrefix : List Char := "urn:uuid:".toList

/-- Read a uuid in any of its four text forms. The URN prefix is compared without regard to
ASCII case, as the program compares it: `URN:UUID:`, `Urn:Uuid:` and `uRn:UuId:` are read as
`urn:uuid:` is. -/
def parse? (cs : List Char) : Option Uuid :=
  if cs.length = 32 then ofHex? cs
  else if cs.length = 36 then ofHyphenated? cs
  else if cs.length = 38 then
    if cs.head? = some '{' ∧ cs.getLast? = some '}' then ofHyphenated? (cs.drop 1).dropLast
    else none
  else if cs.length = 45 then
    if (cs.take 9).map Char.toLower = urnPrefix then ofHyphenated? (cs.drop 9) else none
  else none

/-- The 32 lowercase hex digits of a uuid. -/
def hexText (u : Uuid) : List Char :=
  (Numeral.hexDigits 32 u.val).map Numeral.hexDigitLower

/-- The lowercase hyphenated form, `8-4-4-4-12` hex digits. -/
def toText (u : Uuid) : String :=
  let h := u.hexText
  String.ofList (h.take 8 ++ '-' :: (h.drop 8).take 4 ++ '-' :: (h.drop 12).take 4 ++
    '-' :: (h.drop 16).take 4 ++ '-' :: h.drop 20)

end Uuid

end AddressSpace
