import Mathlib
import AddressSpace.Proofs.NumeralText
import AddressSpace.Proofs.SnapshotJson

/-!
# Attribute ids read from text

An attribute is written as its standard number or as its name. The reader tries the number
first: a text that is an unsigned 32-bit numeral (an optional `+`, ASCII digits, leading zeros
allowed, a value below `2 ^ 32`) is read by number, and only the numbers 1 to 22 name an
attribute. Any other text names the attribute whose name it spells up to the case of ASCII
letters. An unknown number is reported in decimal normal form, any other text verbatim.

* `AttributeId.exists_code_iff` — the standard numbers are exactly 1 to 22, each the number of
  one attribute;
* `AttributeId.ofCode_eq_ok_iff`, `AttributeId.ofCode_eq_error_iff` — reading by number;
* `AttributeId.find?_sameUpToAsciiCase_eq_some_iff` — the names stay distinct when lowercased,
  so the name search finds the one attribute that the text spells;
* `AttributeId.not_literal_of_spells` — no spelling of a name is a numeral, so the number path
  never hides a name;
* **`parse_attribute_text`** — when the reader succeeds and what it reports when it fails, for
  every text; numbers read by number; and names, their case variants and their numbers read
  back to the attribute.
-/

namespace AddressSpace

namespace AttributeId

/-! ### Standard numbers -/

theorem code_injective_all : ∀ a ∈ all, ∀ b ∈ all, a.code = b.code → a = b := by
  decide

theorem code_injective {a b : AttributeId} (h : a.code = b.code) : a = b :=
  code_injective_all a (mem_all a) b (mem_all b) h

/-- The standard numbers are exactly 1 to 22. -/
theorem exists_code_iff (n : UInt32) :
    (∃ a : AttributeId, a.code = n) ↔ 1 ≤ n.toNat ∧ n.toNat ≤ 22 := by
  constructor
  · rintro ⟨a, rfl⟩
    cases a <;> decide
  · rintro ⟨h1, h22⟩
    have hall : ∀ k < 23, 1 ≤ k → ∃ a ∈ all, a.code.toNat = k := by decide
    obtain ⟨a, -, ha⟩ := hall n.toNat (by omega) h1
    exact ⟨a, UInt32.toNat_inj.1 ha⟩

/-- Reading by number finds the attribute with that number. -/
theorem ofCode_eq_ok_iff (n : UInt32) (a : AttributeId) : ofCode n = .ok a ↔ a.code = n := by
  unfold ofCode
  split
  · rename_i b hb
    have hbn : b.code = n := by simpa using List.find?_some hb
    constructor
    · rintro ⟨⟩
      exact hbn
    · intro han
      rw [code_injective (hbn.trans han.symm)]
  · rename_i hnone
    refine ⟨fun h => (by cases h), fun han => ?_⟩
    exact absurd (by simpa using han) (List.find?_eq_none.1 hnone a (mem_all a))

/-- Reading by number fails exactly outside 1 to 22, with the number in decimal. -/
theorem ofCode_eq_error_iff (n : UInt32) (e : Error) :
    ofCode n = .error e ↔
      (n.toNat = 0 ∨ 22 < n.toNat) ∧ e = .unknownAttribute (Numeral.decimal n.toNat) := by
  have hrange := exists_code_iff n
  unfold ofCode
  split
  · rename_i b hb
    have hin := hrange.1 ⟨b, by simpa using List.find?_some hb⟩
    refine ⟨fun h => (by cases h), fun h => ?_⟩
    omega
  · rename_i hnone
    have hout : ¬ (1 ≤ n.toNat ∧ n.toNat ≤ 22) := fun hin => by
      obtain ⟨a, ha⟩ := hrange.2 hin
      exact List.find?_eq_none.1 hnone a (mem_all a) (by simpa using ha)
    constructor
    · rintro ⟨⟩
      exact ⟨by omega, rfl⟩
    · rintro ⟨-, rfl⟩
      rfl

/-! ### Names up to ASCII case -/

/-- The names stay distinct when lowercased. -/
theorem lowerNames_nodup : (all.map fun a => a.name.toList.map Char.toLower).Nodup := by
  decide

/-- The name search finds exactly the attribute whose name the text spells up to ASCII case. -/
theorem find?_sameUpToAsciiCase_eq_some_iff (s : String) (a : AttributeId) :
    all.find? (fun b => sameUpToAsciiCase b.name s) = some a ↔
      s.toList.map Char.toLower = a.name.toList.map Char.toLower := by
  constructor
  · intro h
    have hname := List.find?_some h
    simp only [sameUpToAsciiCase, beq_iff_eq] at hname
    exact hname.symm
  · intro hs
    cases h : all.find? (fun b => sameUpToAsciiCase b.name s) with
    | none =>
      refine absurd ?_ (List.find?_eq_none.1 h a (mem_all a))
      simp [sameUpToAsciiCase, hs]
    | some b =>
      -- the search found some `b`, and `b` spells like `a`, so `b` is `a`
      have hb := List.find?_some h
      simp only [sameUpToAsciiCase, beq_iff_eq] at hb
      rw [List.inj_on_of_nodup_map lowerNames_nodup (mem_all b) (mem_all a) (hb.trans hs)]

/-- An ASCII digit is no uppercase letter, so lowercasing leaves it alone. -/
theorem toLower_of_isDigit {c : Char} (h : c.isDigit) : c.toLower = c := by
  simp only [Char.isDigit, Bool.and_eq_true, decide_eq_true_eq] at h
  rw [Char.toLower, dif_neg]
  intro hu
  have hlt : c.val ≤ '9'.val := h.2
  have hge : c.val ≥ 'A'.val := hu.1
  simp only [UInt32.le_iff_toNat_le, ge_iff_le] at hlt hge
  have hdigits : ('9'.val).toNat < ('A'.val).toNat := by decide
  omega

/-- Every name starts with a letter, which lowercases to neither a digit nor `+`. -/
theorem head_lowerName (a : AttributeId) :
    ∃ c rest, a.name.toList.map Char.toLower = c :: rest ∧ c.isDigit = false ∧ c ≠ '+' := by
  cases a <;> exact ⟨_, _, rfl, by decide, by decide⟩

/-- A text that spells a name is no numeral: it starts with a letter, where a numeral starts
with a digit or `+`, and both lowercase to themselves. -/
theorem not_literal_of_spells {s : String} {a : AttributeId}
    (hs : s.toList.map Char.toLower = a.name.toList.map Char.toLower) (n : Nat) :
    ¬ Numeral.IsUnsignedLiteral (2 ^ 32) s.toList n := by
  rintro ⟨ds, hds, hne, hdig, -, -⟩
  obtain ⟨c, rest, hname, hc, hplus⟩ := head_lowerName a
  obtain ⟨d, ds', rfl⟩ := List.exists_cons_of_ne_nil hne
  rw [hname] at hs
  rcases hds with hds | hds
  · rw [hds, List.map_cons, List.cons.injEq] at hs
    have hd := hdig d (List.mem_cons_self)
    rw [toLower_of_isDigit hd] at hs
    rw [← hs.1, hd] at hc
    cases hc
  · rw [hds, List.map_cons, List.cons.injEq] at hs
    have hplusLower : Char.toLower '+' = '+' := by decide
    rw [hplusLower] at hs
    exact hplus hs.1.symm

/-! ### The two paths of the reader -/

section Paths

variable {s : String}

theorem literal_unique {n m : Nat} (hn : Numeral.IsUnsignedLiteral (2 ^ 32) s.toList n)
    (hm : Numeral.IsUnsignedLiteral (2 ^ 32) s.toList m) : n = m :=
  Option.some.inj (((Numeral.unsigned?_eq_some_iff _ _ _).2 hn).symm.trans
    ((Numeral.unsigned?_eq_some_iff _ _ _).2 hm))

theorem lt_of_literal {n : Nat} (h : Numeral.IsUnsignedLiteral (2 ^ 32) s.toList n) :
    n < 2 ^ 32 := by
  obtain ⟨_, _, _, _, _, hlt⟩ := h
  exact hlt

/-- A numeral is read by number. -/
theorem parse_of_literal {n : Nat} (h : Numeral.IsUnsignedLiteral (2 ^ 32) s.toList n) :
    parse s = ofCode n.toUInt32 := by
  rw [parse, (Numeral.unsigned?_eq_some_iff _ _ _).2 h]

theorem unsigned?_eq_none (h : ∀ n, ¬ Numeral.IsUnsignedLiteral (2 ^ 32) s.toList n) :
    Numeral.unsigned? (2 ^ 32) s.toList = none :=
  Option.eq_none_iff_forall_ne_some.2 fun n hn => h n ((Numeral.unsigned?_eq_some_iff _ _ _).1 hn)

/-- Any other text is read by name. -/
theorem parse_eq_ok_of_not_literal (h : ∀ n, ¬ Numeral.IsUnsignedLiteral (2 ^ 32) s.toList n)
    (a : AttributeId) :
    parse s = .ok a ↔ s.toList.map Char.toLower = a.name.toList.map Char.toLower := by
  rw [parse, unsigned?_eq_none h, ← find?_sameUpToAsciiCase_eq_some_iff]
  dsimp only
  cases all.find? (fun b => sameUpToAsciiCase b.name s) <;> simp

/-- A text that is no numeral and spells no name is reported verbatim. -/
theorem parse_eq_error_of_not_literal (h : ∀ n, ¬ Numeral.IsUnsignedLiteral (2 ^ 32) s.toList n)
    (e : Error) :
    parse s = .error e ↔
      (∀ a : AttributeId, s.toList.map Char.toLower ≠ a.name.toList.map Char.toLower) ∧
        e = .unknownAttribute s := by
  rw [parse, unsigned?_eq_none h]
  dsimp only
  split
  · rename_i b hb
    have hspells := (find?_sameUpToAsciiCase_eq_some_iff s b).1 hb
    exact ⟨fun h => (by cases h), fun h => absurd hspells (h.1 b)⟩
  · rename_i hb
    constructor
    · rintro ⟨⟩
      exact ⟨fun a ha => by simp [(find?_sameUpToAsciiCase_eq_some_iff s a).2 ha] at hb, rfl⟩
    · rintro ⟨-, rfl⟩
      rfl

end Paths

/-! ### The reader -/

section Reader

variable (s : String)

/-- On a numeral only the number path counts. -/
theorem path_iff_of_literal {n : Nat} (hn : Numeral.IsUnsignedLiteral (2 ^ 32) s.toList n)
    {R : Nat → Prop} {Q : Prop} :
    ((∃ m, Numeral.IsUnsignedLiteral (2 ^ 32) s.toList m ∧ R m) ∨
      ((∀ m, ¬ Numeral.IsUnsignedLiteral (2 ^ 32) s.toList m) ∧ Q)) ↔ R n := by
  constructor
  · rintro (⟨m, hm, hr⟩ | ⟨hno, -⟩)
    · rwa [literal_unique hn hm]
    · exact absurd hn (hno n)
  · exact fun hr => Or.inl ⟨n, hn, hr⟩

/-- On any other text only the name path counts. -/
theorem path_iff_of_not_literal (hno : ∀ m, ¬ Numeral.IsUnsignedLiteral (2 ^ 32) s.toList m)
    {R : Nat → Prop} {Q : Prop} :
    ((∃ m, Numeral.IsUnsignedLiteral (2 ^ 32) s.toList m ∧ R m) ∨
      ((∀ m, ¬ Numeral.IsUnsignedLiteral (2 ^ 32) s.toList m) ∧ Q)) ↔ Q := by
  constructor
  · rintro (⟨m, hm, -⟩ | ⟨-, hq⟩)
    · exact absurd hm (hno m)
    · exact hq
  · exact fun hq => Or.inr ⟨hno, hq⟩

theorem parse_eq_ok_iff (a : AttributeId) :
    parse s = .ok a ↔
      (∃ n, Numeral.IsUnsignedLiteral (2 ^ 32) s.toList n ∧ a.code.toNat = n) ∨
      ((∀ n, ¬ Numeral.IsUnsignedLiteral (2 ^ 32) s.toList n) ∧
        s.toList.map Char.toLower = a.name.toList.map Char.toLower) := by
  by_cases hno : ∀ n, ¬ Numeral.IsUnsignedLiteral (2 ^ 32) s.toList n
  · rw [path_iff_of_not_literal s hno, parse_eq_ok_of_not_literal hno]
  · obtain ⟨n, hn⟩ := not_forall_not.1 hno
    rw [path_iff_of_literal s hn, parse_of_literal hn, ofCode_eq_ok_iff, ← UInt32.toNat_inj,
      UInt32.toNat_ofNat_of_lt' (lt_of_literal hn)]

theorem parse_eq_error_iff (e : Error) :
    parse s = .error e ↔
      (∃ n, Numeral.IsUnsignedLiteral (2 ^ 32) s.toList n ∧ (n = 0 ∨ 22 < n) ∧
        e = .unknownAttribute (Numeral.decimal n)) ∨
      ((∀ n, ¬ Numeral.IsUnsignedLiteral (2 ^ 32) s.toList n) ∧
        (∀ a : AttributeId, s.toList.map Char.toLower ≠ a.name.toList.map Char.toLower) ∧
        e = .unknownAttribute s) := by
  by_cases hno : ∀ n, ¬ Numeral.IsUnsignedLiteral (2 ^ 32) s.toList n
  · rw [path_iff_of_not_literal s hno, parse_eq_error_of_not_literal hno]
  · obtain ⟨n, hn⟩ := not_forall_not.1 hno
    rw [path_iff_of_literal s hn, parse_of_literal hn, ofCode_eq_error_iff,
      UInt32.toNat_ofNat_of_lt' (lt_of_literal hn)]

/-- A text that spells a name up to ASCII case reads as that attribute. -/
theorem parse_of_spells {a : AttributeId}
    (hs : s.toList.map Char.toLower = a.name.toList.map Char.toLower) : parse s = .ok a :=
  (parse_eq_ok_iff s a).2 (Or.inr ⟨not_literal_of_spells hs, hs⟩)

/-- The decimal form of an attribute's number reads as the attribute. -/
theorem parse_decimal_code (a : AttributeId) : parse (Numeral.decimal a.code.toNat) = .ok a := by
  have hlit : Numeral.IsUnsignedLiteral (2 ^ 32) (Numeral.decimal a.code.toNat).toList
      a.code.toNat :=
    (Numeral.unsigned?_eq_some_iff _ _ _).1 (Numeral.unsigned?_decimal (UInt32.toNat_lt _))
  exact (parse_eq_ok_iff _ a).2 (Or.inl ⟨_, hlit, rfl⟩)

end Reader

/-- **Reading an attribute from text.** The reader succeeds exactly on a numeral whose value
is an attribute's number, or on a text that is no numeral and spells the attribute's name up to
ASCII case. It fails on a numeral outside 1 to 22, reporting the value in decimal normal form,
and on any other text that spells no name, reporting the text verbatim. By number, exactly
1 to 22 are accepted, each as the attribute with that number. A name, each of its ASCII case
variants, and the decimal form of an attribute's number all read back to the attribute. -/
theorem parse_attribute_text :
    (∀ (s : String) (a : AttributeId), parse s = .ok a ↔
      (∃ n, Numeral.IsUnsignedLiteral (2 ^ 32) s.toList n ∧ a.code.toNat = n) ∨
      ((∀ n, ¬ Numeral.IsUnsignedLiteral (2 ^ 32) s.toList n) ∧
        s.toList.map Char.toLower = a.name.toList.map Char.toLower)) ∧
    (∀ (s : String) (e : Error), parse s = .error e ↔
      (∃ n, Numeral.IsUnsignedLiteral (2 ^ 32) s.toList n ∧ (n = 0 ∨ 22 < n) ∧
        e = .unknownAttribute (Numeral.decimal n)) ∨
      ((∀ n, ¬ Numeral.IsUnsignedLiteral (2 ^ 32) s.toList n) ∧
        (∀ a : AttributeId, s.toList.map Char.toLower ≠ a.name.toList.map Char.toLower) ∧
        e = .unknownAttribute s)) ∧
    (∀ n : UInt32, ((∃ a, ofCode n = .ok a) ↔ 1 ≤ n.toNat ∧ n.toNat ≤ 22) ∧
      (∀ a, ofCode n = .ok a ↔ a.code = n) ∧
      (∀ e, ofCode n = .error e ↔
        (n.toNat = 0 ∨ 22 < n.toNat) ∧ e = .unknownAttribute (Numeral.decimal n.toNat))) ∧
    (∀ a : AttributeId, parse a.name = .ok a ∧
      (∀ s : String, s.toList.map Char.toLower = a.name.toList.map Char.toLower →
        parse s = .ok a) ∧
      parse (Numeral.decimal a.code.toNat) = .ok a) := by
  refine ⟨parse_eq_ok_iff, parse_eq_error_iff, fun n => ⟨?_, ofCode_eq_ok_iff n,
    ofCode_eq_error_iff n⟩, fun a => ⟨parse_of_spells a.name rfl, fun s => parse_of_spells s,
    parse_decimal_code a⟩⟩
  simp only [ofCode_eq_ok_iff]
  exact exists_code_iff n

/-- `browsename` spells `BrowseName` up to ASCII case, and reads as it. -/
theorem parse_attribute_text_browsename :
    "browsename".toList.map Char.toLower = AttributeId.browseName.name.toList.map Char.toLower ∧
    parse "browsename" = .ok .browseName :=
  ⟨by decide, (parse_attribute_text.2.2.2 .browseName).2.1 "browsename" (by decide)⟩

/-- `+0` and `000` are the number 0, which names no attribute. -/
example :
    parse "+0" = .error (.unknownAttribute "0") ∧ parse "000" = .error (.unknownAttribute "0") :=
  ⟨rfl, rfl⟩

end AttributeId

end AddressSpace
