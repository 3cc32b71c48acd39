import Mathlib
import AddressSpace.Limits
import AddressSpace.Proofs.ReadCommand

/-!
# Class masks

A set of node classes is a mask of their bits. The eight real classes are the bits 1 to 128,
one each, and the unspecified class has no bit; the mask 0 means "no filter" and accepts every
class. A mask built from a list of classes therefore accepts exactly the real classes of the
list, unless the list holds no real class, when it is the mask 0 and accepts everything. A mask
is valid when it sets no bit above the eight class bits.

* `or_and_eq_zero_iff`, `foldl_or_bits_and_eq_zero_iff` — a union of bits misses a set of bits
  exactly when each part misses it;
* `NodeClass.bits_and_bits_eq_zero_iff` — two classes share a bit only when they are the same
  real class;
* `NodeClassMask.ofClasses_accepts_iff` — what the mask of a list accepts;
* `validateMask_eq_ok_iff` — a mask is valid exactly when it is at most `0xFF`;
* `BrowseArguments.query_classes` — the mask that the browse command builds from class names
  and raw bits;
* **`class_masks`** — these together, as the browse command relies on them.
-/

namespace AddressSpace

/-! ### Unions of bits -/

theorem or_and_eq_zero_iff (a b k : UInt32) :
    (a ||| b) &&& k = 0 ↔ a &&& k = 0 ∧ b &&& k = 0 := by
  have hdistrib : (a ||| b) &&& k = (a &&& k) ||| (b &&& k) := by
    apply UInt32.toBitVec_inj.1
    simp [BitVec.and_or_distrib_right]
  rw [hdistrib, UInt32.or_eq_zero_iff]

/-- The union of the bits of a list of classes misses a set of bits exactly when the start and
every class of the list miss it. -/
theorem foldl_or_bits_and_eq_zero_iff (L : List NodeClass) (acc k : UInt32) :
    L.foldl (fun b c => b ||| c.bits) acc &&& k = 0 ↔
      acc &&& k = 0 ∧ ∀ c ∈ L, c.bits &&& k = 0 := by
  induction L generalizing acc with
  | nil => simp
  | cons c L ih =>
    rw [List.foldl_cons, ih, or_and_eq_zero_iff]
    simp only [List.mem_cons, forall_eq_or_imp, and_assoc]

theorem and_allOnes (x : UInt32) : x &&& ~~~0 = x := by
  apply UInt32.toBitVec_inj.1
  simp

/-! ### Class bits -/

namespace NodeClass

theorem bits_eq_zero_iff (c : NodeClass) : c.bits = 0 ↔ c = .unspecified := by
  cases c <;> decide

/-- Two classes share a bit only when they are the same real class: the bits are distinct
powers of two. -/
theorem bits_and_bits_eq_zero_iff (c d : NodeClass) :
    d.bits &&& c.bits = 0 ↔ ¬ (d = c ∧ c ≠ .unspecified) := by
  cases c <;> cases d <;> decide

/-- Every class bit is one of the eight valid ones. -/
theorem bits_and_not_valid (c : NodeClass) : c.bits &&& ~~~validClassBits = 0 := by
  cases c <;> decide

/-- A class that a name reads as is a real class. -/
theorem ne_unspecified_of_parse {s : String} {c : NodeClass} (h : parse s = .ok c) :
    c ≠ .unspecified := by
  unfold parse at h
  split at h
  · rename_i d hd
    cases h
    have hreal := List.mem_of_find?_eq_some hd
    rintro rfl
    simp [real] at hreal
  · cases h

theorem ne_unspecified_of_mapM_parse {names : List String} {L : List NodeClass}
    (h : names.mapM parse = .ok L) : ∀ c ∈ L, c ≠ .unspecified := by
  induction names generalizing L with
  | nil =>
    cases h
    simp
  | cons s names ih =>
    rw [List.mapM_cons] at h
    obtain ⟨c, hc, h⟩ := exists_of_bind_eq_ok h
    obtain ⟨L', hL', h⟩ := exists_of_bind_eq_ok h
    cases h
    intro d hd
    rcases List.mem_cons.1 hd with rfl | hd
    · exact ne_unspecified_of_parse hc
    · exact ih hL' d hd

end NodeClass

/-! ### Masks of class lists -/

namespace NodeClassMask

theorem ofClasses_bits_eq_zero_iff (L : List NodeClass) :
    (ofClasses L).bits = 0 ↔ ∀ d ∈ L, d = .unspecified := by
  rw [← and_allOnes (ofClasses L).bits, ofClasses, foldl_or_bits_and_eq_zero_iff]
  simp [NodeClass.bits_eq_zero_iff]

/-- The mask of a list shares a bit with a class exactly when the class is a real class of
the list. -/
theorem ofClasses_bits_and_ne_zero_iff (L : List NodeClass) (c : NodeClass) :
    (ofClasses L).bits &&& c.bits ≠ 0 ↔ c ≠ .unspecified ∧ c ∈ L := by
  rw [ne_eq, ofClasses, foldl_or_bits_and_eq_zero_iff]
  simp only [UInt32.zero_and, true_and, NodeClass.bits_and_bits_eq_zero_iff, not_forall,
    not_not]
  constructor
  · rintro ⟨d, hd, rfl, hc⟩
    exact ⟨hc, hd⟩
  · rintro ⟨hc, hmem⟩
    exact ⟨c, hmem, rfl, hc⟩

theorem accepts_iff_bits (m : NodeClassMask) (c : NodeClass) :
    m.accepts c = true ↔ m.bits = 0 ∨ m.bits &&& c.bits ≠ 0 := by
  simp [accepts, isUnfiltered]

/-- The mask of a list accepts every class when the list holds no real class, and otherwise
exactly the real classes of the list. -/
theorem ofClasses_accepts_iff (L : List NodeClass) (c : NodeClass) :
    (ofClasses L).accepts c = true ↔
      (∀ d ∈ L, d = .unspecified) ∨ (c ≠ .unspecified ∧ c ∈ L) := by
  rw [accepts_iff_bits, ofClasses_bits_eq_zero_iff, ofClasses_bits_and_ne_zero_iff]

end NodeClassMask

/-! ### Validation -/

/-- A word has no bit from 32 up. -/
theorem toNat_lt_two_pow_of_le (x : UInt32) {i : Nat} (hi : 32 ≤ i) : x.toNat < 2 ^ i :=
  Nat.lt_of_lt_of_le (UInt32.toNat_lt x) (Nat.pow_le_pow_right (by decide) hi)

/-- The bits outside the eight class bits are the bits 8 to 31. -/
theorem testBit_not_validClassBits (i : Nat) :
    (~~~validClassBits).toNat.testBit i = (decide (8 ≤ i) && decide (i < 32)) := by
  rcases Nat.lt_or_ge i 32 with hi | hi
  · have hlow : ∀ j < 32,
        (~~~validClassBits).toNat.testBit j = (decide (8 ≤ j) && decide (j < 32)) := by
      decide
    exact hlow i hi
  · rw [Nat.testBit_lt_two_pow (toNat_lt_two_pow_of_le _ hi)]
    simp only [Bool.false_eq, Bool.and_eq_false_iff, decide_eq_false_iff_not]
    omega

/-- A word sets no bit outside the eight class bits exactly when it is at most `0xFF`. -/
theorem and_not_validClassBits_eq_zero_iff (x : UInt32) :
    x &&& ~~~validClassBits = 0 ↔ x.toNat ≤ 0xFF := by
  rw [← UInt32.toNat_inj, UInt32.toNat_and, UInt32.toNat_zero]
  constructor
  · intro h
    -- no bit from 8 up is set
    have hlt : x.toNat < 2 ^ 8 := Nat.lt_pow_two_of_testBit _ fun i hi => by
      have hbit := congrArg (·.testBit i) h
      simp only [Nat.testBit_and, testBit_not_validClassBits, Nat.zero_testBit] at hbit
      rcases Nat.lt_or_ge i 32 with h32 | h32
      · simpa [show 8 ≤ i from hi, h32] using hbit
      · exact Nat.testBit_lt_two_pow (toNat_lt_two_pow_of_le x h32)
    omega
  · intro h
    apply Nat.eq_of_testBit_eq
    intro i
    simp only [Nat.testBit_and, testBit_not_validClassBits, Nat.zero_testBit]
    rcases Nat.lt_or_ge i 8 with h8 | h8
    · simp [Nat.not_le.2 h8]
    · -- `x` has no bit from 8 up
      have hsmall : x.toNat < 2 ^ i :=
        Nat.lt_of_le_of_lt h (Nat.lt_of_lt_of_le (by decide) (Nat.pow_le_pow_right (by decide) h8))
      simp [Nat.testBit_lt_two_pow hsmall]

theorem validateMask_eq_ok_iff (m : NodeClassMask) :
    validateMask m = .ok () ↔ m.bits.toNat ≤ 0xFF := by
  rw [← and_not_validClassBits_eq_zero_iff]
  unfold validateMask
  dsimp only
  split
  · rename_i h
    exact ⟨fun _ => h, fun _ => rfl⟩
  · rename_i h
    exact ⟨fun h' => (by cases h'), fun h' => absurd h' h⟩

/-- An invalid mask is reported with the bits it sets outside the eight class bits. -/
theorem validateMask_eq_error_iff (m : NodeClassMask) (e : ValidationError) :
    validateMask m = .error e ↔
      0xFF < m.bits.toNat ∧ e = .undefinedNodeClassBits m.bits (m.bits &&& ~~~0xFF) := by
  have hvalid := and_not_validClassBits_eq_zero_iff m.bits
  unfold validateMask
  dsimp only
  split
  · rename_i h
    exact ⟨fun h' => (by cases h'), fun h' => absurd (hvalid.1 h) (Nat.not_le.2 h'.1)⟩
  · rename_i h
    constructor
    · rintro ⟨⟩
      exact ⟨Nat.lt_of_not_le fun hle => h (hvalid.2 hle), rfl⟩
    · rintro ⟨-, rfl⟩
      rfl

theorem validateMask_ofClasses (L : List NodeClass) :
    validateMask (NodeClassMask.ofClasses L) = .ok () := by
  unfold validateMask
  dsimp only
  rw [if_pos]
  rw [NodeClassMask.ofClasses, foldl_or_bits_and_eq_zero_iff]
  exact ⟨UInt32.zero_and, fun c _ => NodeClass.bits_and_not_valid c⟩

/-- Class bits and valid raw bits together make a valid mask. -/
theorem validateMask_ofClasses_or (L : List NodeClass) {m : UInt32} (hm : m.toNat ≤ 0xFF) :
    validateMask ⟨(NodeClassMask.ofClasses L).bits ||| m⟩ = .ok () := by
  rw [validateMask_eq_ok_iff, ← and_not_validClassBits_eq_zero_iff, or_and_eq_zero_iff]
  exact ⟨(and_not_validClassBits_eq_zero_iff _).2
      ((validateMask_eq_ok_iff _).1 (validateMask_ofClasses L)),
    (and_not_validClassBits_eq_zero_iff m).2 hm⟩

/-- A real class passes the mask of real classes and raw bits when no class is named and no raw
bit is set, or it is one of the classes, or the raw bits hold its bit. -/
theorem accepts_ofClasses_or {L : List NodeClass} (hL : ∀ d ∈ L, d ≠ .unspecified)
    (m : UInt32) {c : NodeClass} (hc : c ≠ .unspecified) :
    (⟨(NodeClassMask.ofClasses L).bits ||| m⟩ : NodeClassMask).accepts c = true ↔
      (L = [] ∧ m = 0) ∨ c ∈ L ∨ m &&& c.bits ≠ 0 := by
  rw [NodeClassMask.accepts_iff_bits, UInt32.or_eq_zero_iff, ne_eq, or_and_eq_zero_iff,
    NodeClassMask.ofClasses_bits_eq_zero_iff, not_and_or, ← ne_eq,
    NodeClassMask.ofClasses_bits_and_ne_zero_iff]
  -- a list of real classes has only the unspecified class when it is empty
  have hempty : (∀ d ∈ L, d = .unspecified) ↔ L = [] :=
    ⟨fun h => List.eq_nil_iff_forall_not_mem.2 fun d hd => hL d hd (h d hd),
      fun h d hd => by simp [h] at hd⟩
  rw [hempty]
  simp only [hc, ne_eq, not_false_eq_true, true_and]

namespace CommandLine

/-- The browse command builds its query when every argument reads and the raw bits are
valid, and the query's mask holds the bits of the named classes and the raw bits. -/
theorem BrowseArguments.query_classes (a : BrowseArguments) {L : List NodeClass} {n : NodeId}
    {d : BrowseDirection} (hnode : nodeArgument a.node = .ok n)
    (hdir : BrowseDirection.parse a.direction = .ok d)
    (hclasses : a.nodeClasses.mapM NodeClass.parse = .ok L) (hmask : (a.mask.getD 0).toNat ≤ 0xFF)
    (htype : ∀ t ∈ a.referenceType, ∃ r, nodeArgument t = .ok r) :
    ∃ q, a.query = .ok q ∧
      q.nodeClassMask = ⟨(NodeClassMask.ofClasses L).bits ||| a.mask.getD 0⟩ := by
  have hvalid := validateMask_ofClasses_or L hmask
  cases hty : a.referenceType with
  | none =>
    refine ⟨⟨n, d, NodeId.null, false,
      ⟨(NodeClassMask.ofClasses L).bits ||| a.mask.getD 0⟩⟩, ?_, rfl⟩
    simp [BrowseArguments.query, hnode, hdir, hclasses, hvalid, hty, Except.mapError, bind,
      Except.bind, pure, Except.pure]
  | some t =>
    obtain ⟨r, hr⟩ := htype t (by simp [hty])
    refine ⟨⟨n, d, r, a.includeSubtypes,
      ⟨(NodeClassMask.ofClasses L).bits ||| a.mask.getD 0⟩⟩, ?_, rfl⟩
    simp [BrowseArguments.query, hnode, hdir, hclasses, hvalid, hty, hr, Except.mapError, bind,
      Except.bind, pure, Except.pure]

end CommandLine

/-- **Class masks.** The mask of a list of classes accepts a class exactly when the list holds
no real class (the mask is then 0 and accepts every class) or the class is a real class of the
list. Such a mask always passes validation; any mask passes exactly when it is at most `0xFF`,
and otherwise is reported with its bits above `0xFF`. When the browse command's arguments read
and the raw bits are at most `0xFF`, it builds a query, and a real target class passes the
query's mask exactly when no class is named and no raw bit is set, or the class is named, or
the raw bits hold its bit. -/
theorem class_masks :
    (∀ (L : List NodeClass) (c : NodeClass), (NodeClassMask.ofClasses L).accepts c = true ↔
      (∀ d ∈ L, d = .unspecified) ∨ (c ≠ .unspecified ∧ c ∈ L)) ∧
    (∀ L : List NodeClass, validateMask (NodeClassMask.ofClasses L) = .ok ()) ∧
    (∀ m : NodeClassMask, validateMask m = .ok () ↔ m.bits.toNat ≤ 0xFF) ∧
    (∀ (m : NodeClassMask) (e : ValidationError), validateMask m = .error e ↔
      0xFF < m.bits.toNat ∧ e = .undefinedNodeClassBits m.bits (m.bits &&& ~~~0xFF)) ∧
    (∀ (a : CommandLine.BrowseArguments) (L : List NodeClass) (n : NodeId) (d : BrowseDirection),
      CommandLine.nodeArgument a.node = .ok n → BrowseDirection.parse a.direction = .ok d →
      a.nodeClasses.mapM NodeClass.parse = .ok L → (a.mask.getD 0).toNat ≤ 0xFF →
      (∀ t ∈ a.referenceType, ∃ r, CommandLine.nodeArgument t = .ok r) →
      ∃ q, a.query = .ok q ∧ ∀ c, c ≠ .unspecified →
        (q.nodeClassMask.accepts c = true ↔
          (L = [] ∧ a.mask.getD 0 = 0) ∨ c ∈ L ∨ a.mask.getD 0 &&& c.bits ≠ 0)) := by
  refine ⟨NodeClassMask.ofClasses_accepts_iff, validateMask_ofClasses, validateMask_eq_ok_iff,
    validateMask_eq_error_iff, fun a L n d hnode hdir hclasses hmask htype => ?_⟩
  obtain ⟨q, hq, hmaskq⟩ :=
    CommandLine.BrowseArguments.query_classes a hnode hdir hclasses hmask htype
  refine ⟨q, hq, fun c hc => ?_⟩
  rw [hmaskq]
  exact accepts_ofClasses_or (NodeClass.ne_unspecified_of_mapM_parse hclasses) _ hc

/-- The browse arguments `RootFolder --direction both -r i=33 -s -c Object -c view`: named
classes only. -/
theorem class_masks_object_view :
    CommandLine.nodeArgument "RootFolder" = .ok (NodeId.numeric 0 84) ∧
    BrowseDirection.parse "both" = .ok .both ∧
    ["Object", "view"].mapM NodeClass.parse = .ok [.object, .view] ∧
    ((none : Option UInt32).getD 0).toNat ≤ 0xFF ∧
    (∀ t ∈ some "i=33", ∃ r, CommandLine.nodeArgument t = .ok r) ∧
    ∃ q, (⟨"RootFolder", "both", some "i=33", true, ["Object", "view"], none⟩ :
          CommandLine.BrowseArguments).query = .ok q ∧
      ∀ c, c ≠ .unspecified →
        (q.nodeClassMask.accepts c = true ↔
          ([NodeClass.object, .view] = [] ∧ (none : Option UInt32).getD 0 = 0) ∨
            c ∈ [NodeClass.object, .view] ∨
            (none : Option UInt32).getD 0 &&& c.bits ≠ 0) := by
  have htype : ∀ t ∈ some "i=33", ∃ r, CommandLine.nodeArgument t = .ok r := by
    intro t ht
    cases ht
    exact ⟨NodeId.numeric 0 33, rfl⟩
  exact ⟨rfl, rfl, rfl, by decide, htype,
    class_masks.2.2.2.2 ⟨"RootFolder", "both", some "i=33", true, ["Object", "view"], none⟩
      [.object, .view] (NodeId.numeric 0 84) .both rfl rfl rfl (by decide) htype⟩

end AddressSpace
