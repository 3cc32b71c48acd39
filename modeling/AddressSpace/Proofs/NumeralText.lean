import Mathlib
import AddressSpace.Uuid

/-!
# Numerals and uuids read back from their text

Node ids write their numbers in decimal and their uuids as hex digits, and read both back
with the numeral and uuid readers. This module says exactly which texts the unsigned
reader accepts, and proves that what the writers produce reads back to the number or uuid
written.

* `Numeral.IsUnsignedLiteral` — the grammar of an unsigned numeral: an optional `+`, then
  one or more ASCII digits, with a value below the bound; stated with the standard
  library's `Char.isDigit` and `Nat.ofDigitChars`, not with the reader's own functions;
* `Numeral.unsigned?_eq_some_iff` — the reader accepts exactly that grammar;
* `Numeral.unsigned?_decimal` — the decimal text of a number below the bound reads back;
* `Numeral.valueIn_hexDigits` — padded hex digits have the value of the number;
* `Uuid.parse?_toText` — the lowercase hyphenated form of a uuid reads back to it.
-/

namespace AddressSpace

namespace Numeral

/-! ### Decimal digits -/

theorem digitValue?_eq (c : Char) :
    digitValue? c = if c.isDigit then some (c.toNat - '0'.toNat) else none := by
  have : ('0' ≤ c ∧ c ≤ '9') ↔ c.isDigit = true := by
    simp [Char.isDigit, Char.le_def]
  simp only [digitValue?, this]

/-- The digit values of a run of ASCII digits, and nothing else. -/
theorem mapM_digitValue?_eq_some_iff (cs : List Char) (ds : List Nat) :
    cs.mapM digitValue? = some ds ↔
      (∀ c ∈ cs, c.isDigit) ∧ ds = cs.map fun c => c.toNat - '0'.toNat := by
  induction cs generalizing ds with
  | nil =>
    simp only [List.mapM_nil, List.not_mem_nil, false_imp_iff, imp_true_iff, true_and,
      List.map_nil]
    exact ⟨fun h => (Option.some.inj h).symm, fun h => h ▸ rfl⟩
  | cons c cs ih =>
    by_cases hc : c.isDigit
    · simp only [List.mapM_cons, digitValue?_eq, hc, if_true, List.mem_cons, forall_eq_or_imp,
        true_and, List.map_cons]
      cases hcs : cs.mapM digitValue? with
      | none =>
        -- a later character is no digit
        have : ¬∀ c ∈ cs, c.isDigit := fun h => by simp [(ih _).2 ⟨h, rfl⟩] at hcs
        simp only [Option.bind_eq_bind, Option.bind_some, Option.bind_none]
        exact ⟨fun h => (by cases h), fun h => absurd h.1 this⟩
      | some ds' =>
        obtain ⟨hall, rfl⟩ := (ih ds').1 hcs
        simp only [Option.bind_eq_bind, Option.bind_some, Option.pure_def, Option.some.injEq]
        exact ⟨fun h => ⟨hall, h.symm⟩, fun h => h.2.symm⟩
    · simp [List.mapM_cons, digitValue?_eq, hc]

/-- The positional value of digit values is the value `Nat.ofDigitChars` reads. -/
theorem valueIn_map_digit (cs : List Char) :
    valueIn 10 (cs.map fun c => c.toNat - '0'.toNat) = Nat.ofDigitChars 10 cs 0 := by
  simp only [valueIn, Nat.ofDigitChars, List.foldl_map, Nat.mul_comm]

theorem ofDigits?_eq_some_iff (cs : List Char) (n : Nat) :
    ofDigits? cs = some n ↔ cs ≠ [] ∧ (∀ c ∈ cs, c.isDigit) ∧ Nat.ofDigitChars 10 cs 0 = n := by
  unfold ofDigits?
  cases cs with
  | nil => simp
  | cons c cs =>
    simp only [List.isEmpty_cons, Bool.false_eq_true, if_false, ne_eq, reduceCtorEq,
      not_false_eq_true, true_and]
    cases h : (c :: cs).mapM digitValue? with
    | none =>
      have : ¬∀ x ∈ c :: cs, x.isDigit := fun hd => by
        simp [(mapM_digitValue?_eq_some_iff _ _).2 ⟨hd, rfl⟩] at h
      simp only [Option.map_none, reduceCtorEq, false_iff, not_and]
      exact fun hd => absurd hd this
    | some ds =>
      obtain ⟨hdig, rfl⟩ := (mapM_digitValue?_eq_some_iff _ _).1 h
      simp only [Option.map_some, Option.some.injEq, valueIn_map_digit]
      exact ⟨fun hv => ⟨hdig, hv⟩, fun hv => hv.2⟩

/-! ### Unsigned numerals -/

/-- The text `cs` is an unsigned numeral of value `n` below `bound`: an optional `+`, then
one or more ASCII digits (leading zeros allowed) whose decimal value is `n`. -/
def IsUnsignedLiteral (bound : Nat) (cs : List Char) (n : Nat) : Prop :=
  ∃ ds, (cs = ds ∨ cs = '+' :: ds) ∧ ds ≠ [] ∧ (∀ c ∈ ds, c.isDigit) ∧
    Nat.ofDigitChars 10 ds 0 = n ∧ n < bound

/-- The reader takes the digits after an optional `+` and keeps a value below the bound. -/
theorem unsigned?_eq_some_iff_digits (bound : Nat) (cs : List Char) (n : Nat) :
    unsigned? bound cs = some n ↔
      ((∃ rest, cs = '+' :: rest ∧ ofDigits? rest = some n) ∨
        ((∀ rest, cs ≠ '+' :: rest) ∧ ofDigits? cs = some n)) ∧ n < bound := by
  unfold unsigned?
  -- the first split is on the leading `+`, the second on the digits read after it
  split
  · rename_i rest
    cases hd : ofDigits? rest with
    | none => simp [hd]
    | some m => by_cases hm : m < bound <;> simp [hd, hm] <;> omega
  · rename_i hplus
    have hplus' : ∀ rest, cs ≠ '+' :: rest := hplus
    cases hd : ofDigits? cs with
    | none => simp [hd, hplus']
    | some m => by_cases hm : m < bound <;> simp [hd, hm, hplus'] <;> omega

/-- **The unsigned reader accepts exactly the unsigned numerals.** -/
theorem unsigned?_eq_some_iff (bound : Nat) (cs : List Char) (n : Nat) :
    unsigned? bound cs = some n ↔ IsUnsignedLiteral bound cs n := by
  have hplus : ('+' : Char).isDigit = false := by decide
  rw [unsigned?_eq_some_iff_digits]
  constructor
  · rintro ⟨⟨rest, rfl, hd⟩ | ⟨-, hd⟩, hlt⟩ <;>
      obtain ⟨hne, hdig, hval⟩ := (ofDigits?_eq_some_iff _ _).1 hd
    · exact ⟨rest, Or.inr rfl, hne, hdig, hval, hlt⟩
    · exact ⟨cs, Or.inl rfl, hne, hdig, hval, hlt⟩
  · rintro ⟨ds, rfl | rfl, hne, hdig, hval, hlt⟩
    · -- a run of digits does not start with `+`
      refine ⟨Or.inr ⟨fun rest h => ?_, (ofDigits?_eq_some_iff _ _).2 ⟨hne, hdig, hval⟩⟩, hlt⟩
      have := hdig '+' (by simp [h])
      rw [hplus] at this
      cases this
    · exact ⟨Or.inl ⟨ds, rfl, (ofDigits?_eq_some_iff _ _).2 ⟨hne, hdig, hval⟩⟩, hlt⟩

/-- The decimal text of a number below the bound reads back to the number. -/
theorem unsigned?_decimal {bound n : Nat} (h : n < bound) :
    unsigned? bound (decimal n).toList = some n := by
  rw [unsigned?_eq_some_iff]
  refine ⟨Nat.toDigits 10 n, Or.inl (by simp [decimal]), Nat.toDigits_ne_nil,
    fun c hc => Nat.isDigit_of_mem_toDigits (by decide) (by decide) hc,
    Nat.ofDigitChars_ten_toDigits, h⟩

/-! ### Hexadecimal digits -/

theorem hexValue?_digitChar : ∀ d, d < 16 → hexValue? (Nat.digitChar d) = some d := by
  decide

theorem hexValue?_hexDigitLower : ∀ d, d < 16 → hexValue? (hexDigitLower d) = some d := by
  decide

theorem hexValue?_toUpper_hexDigitLower :
    ∀ d, d < 16 → hexValue? (hexDigitLower d).toUpper = some d := by
  decide

theorem valueIn_append_singleton (b : Nat) (ds : List Nat) (d : Nat) :
    valueIn b (ds ++ [d]) = valueIn b ds * b + d := by
  simp [valueIn, List.foldl_append]

/-- Leading zeros do not change a value. -/
theorem valueIn_replicate_zero_append (b k : Nat) (ds : List Nat) :
    valueIn b (List.replicate k 0 ++ ds) = valueIn b ds := by
  have hzeros : (List.replicate k 0).foldl (fun acc d => acc * b + d) 0 = 0 := by
    induction k with
    | zero => rfl
    | succ k ih => simpa [List.replicate_succ] using ih
  simp [valueIn, List.foldl_append, hzeros]

/-- Every character of a numeral in base `b` is the digit of a value below `b`. -/
theorem mem_toDigits {b n : Nat} (hb : 1 < b) {c : Char} (hc : c ∈ Nat.toDigits b n) :
    ∃ d < b, c = Nat.digitChar d := by
  induction n using Nat.base_induction b hb with
  | single m hm =>
    rw [Nat.toDigits_of_lt_base hm, List.mem_singleton] at hc
    exact ⟨m, hm, hc⟩
  | digit m k hk hm ih =>
    rw [← Nat.toDigits_append_toDigits hb hm hk, Nat.toDigits_of_lt_base hk] at hc
    rcases List.mem_append.1 hc with hc | hc
    · exact ih hc
    · exact ⟨k, hk, List.mem_singleton.1 hc⟩

/-- The digit values that `hexDigits` reads off a hex numeral have the numeral's value. -/
theorem valueIn_toDigits_hex (n : Nat) :
    valueIn 16 ((Nat.toDigits 16 n).map fun c => (hexValue? c).getD 0) = n := by
  induction n using Nat.base_induction 16 (by decide) with
  | single m hm => simp [Nat.toDigits_of_lt_base hm, hexValue?_digitChar m hm, valueIn]
  | digit m k hk hm ih =>
    rw [← Nat.toDigits_append_toDigits (by decide) hm hk, Nat.toDigits_of_lt_base hk,
      List.map_append, List.map_singleton, hexValue?_digitChar k hk, Option.getD_some,
      valueIn_append_singleton, ih]
    omega

theorem lt_of_mem_hexDigits {w n d : Nat} (hd : d ∈ hexDigits w n) : d < 16 := by
  simp only [hexDigits, List.mem_append, List.mem_replicate, List.mem_map] at hd
  rcases hd with ⟨-, rfl⟩ | ⟨c, hc, rfl⟩
  · decide
  · obtain ⟨d, hd, rfl⟩ := mem_toDigits (by decide) hc
    simpa [hexValue?_digitChar d hd] using hd

theorem valueIn_hexDigits (w n : Nat) : valueIn 16 (hexDigits w n) = n := by
  simp only [hexDigits]
  rw [valueIn_replicate_zero_append, valueIn_toDigits_hex]

theorem length_hexDigits {w n : Nat} (hw : 0 < w) (h : n < 16 ^ w) :
    (hexDigits w n).length = w := by
  have hlen : (Nat.toDigits 16 n).length ≤ w := (Nat.length_toDigits_le_iff (by decide) hw).2 h
  simp only [hexDigits, List.length_append, List.length_replicate, List.length_map]
  omega

/-- Hex digits written by a digit writer that reads back read back to themselves. -/
theorem mapM_hexValue?_map {f : Nat → Char} (hf : ∀ d, d < 16 → hexValue? (f d) = some d)
    (ds : List Nat) (h : ∀ d ∈ ds, d < 16) : (ds.map f).mapM hexValue? = some ds := by
  induction ds with
  | nil => rfl
  | cons d ds ih =>
    have hd := hf d (h d (by simp))
    have hds := ih fun e he => h e (by simp [he])
    simp [List.mapM_cons, hd, hds]

/-- Hex digits written in lowercase read back to themselves. -/
theorem mapM_hexValue?_map_hexDigitLower (ds : List Nat) (h : ∀ d ∈ ds, d < 16) :
    (ds.map hexDigitLower).mapM hexValue? = some ds :=
  mapM_hexValue?_map hexValue?_hexDigitLower ds h

end Numeral

namespace Uuid

/-- Text laid out as `8-4-4-4-12` reads as its 32 characters without the hyphens. -/
theorem ofHyphenated?_hyphenate (a b c d e : List Char) (ha : a.length = 8) (hb : b.length = 4)
    (hc : c.length = 4) (hd : d.length = 4) (he : e.length = 12) :
    ofHyphenated? (a ++ '-' :: b ++ '-' :: c ++ '-' :: d ++ '-' :: e) =
      ofHex? (a ++ b ++ c ++ d ++ e) := by
  unfold ofHyphenated?
  rw [if_pos]
  · congr 1
    simp [List.drop_append, List.drop_of_length_le, ha, hb, hc, hd]
  · simp [ha, hb, hc, hd, he]

theorem length_hexText (u : Uuid) : u.hexText.length = 32 := by
  have hbound : u.val < 16 ^ 32 := by
    rw [show (16 : Nat) = 2 ^ 4 from rfl, ← Nat.pow_mul]
    exact u.lt
  simp [hexText, Numeral.length_hexDigits (by decide) hbound]

/-- The 32 hex digits of a uuid read back to it. -/
theorem ofHex?_hexText (u : Uuid) : ofHex? u.hexText = some u := by
  have hdigits : u.hexText.mapM Numeral.hexValue? = some (Numeral.hexDigits 32 u.val) :=
    Numeral.mapM_hexValue?_map_hexDigitLower _ fun _ => Numeral.lt_of_mem_hexDigits
  simp only [ofHex?, length_hexText, if_true, hdigits, Option.map_some, Numeral.valueIn_hexDigits]
  obtain ⟨v, hv⟩ := u
  simp only [ofNat, Nat.mod_eq_of_lt hv]

/-- The five groups of a hyphenated layout, put back together, are the text laid out. -/
theorem groups_append (h : List Char) :
    h.take 8 ++ (h.drop 8).take 4 ++ (h.drop 12).take 4 ++ (h.drop 16).take 4 ++ h.drop 20 = h := by
  rw [← List.take_add, ← List.take_add, ← List.take_add, List.take_append_drop]

/-- **A uuid's text reads back to it.** -/
theorem parse?_toText (u : Uuid) : parse? u.toText.toList = some u := by
  have hlen := length_hexText u
  have htext : u.toText.toList = u.hexText.take 8 ++ '-' :: (u.hexText.drop 8).take 4 ++ '-' ::
      (u.hexText.drop 12).take 4 ++ '-' :: (u.hexText.drop 16).take 4 ++ '-' ::
      u.hexText.drop 20 := by
    simp [toText]
  have hlen36 : u.toText.toList.length = 36 := by
    rw [htext]
    simp [hlen]
  unfold parse?
  rw [if_neg (by omega), if_pos hlen36, htext, ofHyphenated?_hyphenate _ _ _ _ _
    (by simp [hlen]) (by simp [hlen]) (by simp [hlen]) (by simp [hlen]) (by simp [hlen]),
    groups_append, ofHex?_hexText]

end Uuid

end AddressSpace
