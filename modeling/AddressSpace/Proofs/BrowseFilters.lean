import Mathlib
import AddressSpace.Proofs.BrowseSpec
import AddressSpace.Standard

/-!
# How a browse answer depends on its filters

A browse keeps the references of one node that pass three tests, each read off one part of
the query: the direction, the reference type (with or without its subtypes), and the class
mask. The answer is a filter of the node's references, so a query whose tests are weaker
gets an answer that holds the stronger query's answer as a sub-list, in the same order.

* `browse_sublist_browse` — weaker tests on the same node give a longer answer, in order;
* `browse_withDirection` — the answer for one direction is the answer for both directions
  filtered by that direction;
* `eq_filter_append_filter_iff` — a list is the elements that pass a test followed by the
  ones that fail it exactly when no failing element comes before a passing one;
* **`browse_both_split`** — the answer for both directions interleaves the forward and the
  inverse answers, and is their concatenation exactly when no inverse reference comes
  first;
* **`browse_monotone_filters`** — a browse is monotone in each of its filters, under the
  order-preserving sub-list relation.
-/

namespace AddressSpace

open List

/-! ### Lists split by a test -/

/-- A list is its elements that pass `p` followed by those that fail it exactly when no
element that fails `p` stands before one that passes. -/
theorem eq_filter_append_filter_iff {α : Type} (l : List α) (p : α → Bool) :
    l = l.filter p ++ l.filter (fun a => !p a) ↔
      l.Pairwise fun a b => ¬ (p a = false ∧ p b = true) := by
  induction l with
  | nil => simp
  | cons a t ih =>
    cases ha : p a
    · -- `a` fails: every element after it must fail too
      simp only [filter_cons, ha, Bool.false_eq_true, if_false, Bool.not_false, if_true,
        pairwise_cons, true_and]
      constructor
      · intro h
        have hnil : t.filter p = [] := by
          cases hft : t.filter p with
          | nil => rfl
          | cons b rest =>
            -- the split would start with `b`, which passes, where the list starts with `a`
            rw [hft, cons_append, cons.injEq] at h
            have hb : p b = true := (mem_filter.1 (hft ▸ mem_cons_self : b ∈ t.filter p)).2
            exact absurd (h.1 ▸ hb) (by simp [ha])
        refine ⟨fun b hb hpb => ?_, ih.1 ?_⟩
        · exact filter_eq_nil_iff.1 hnil b hb hpb
        · rw [hnil, nil_append]
          simpa [hnil] using h
      · rintro ⟨hall, ht⟩
        have hnil : t.filter p = [] := filter_eq_nil_iff.2 fun b hb hpb => hall b hb hpb
        have hsplit := ih.2 ht
        rw [hnil, nil_append] at hsplit ⊢
        rw [← hsplit]
    · simp only [filter_cons, ha, if_true, Bool.not_true, Bool.false_eq_true, if_false,
        cons_append, cons.injEq, pairwise_cons, true_and, Bool.true_eq_false, false_and,
        not_false_eq_true, implies_true]
      exact ih

/-- Each element occurs in a list as often as in its passing and failing parts together. -/
theorem count_filter_add_count_filter {α : Type} [DecidableEq α] (l : List α) (p : α → Bool)
    (a : α) : (l.filter p).count a + (l.filter fun x => !p x).count a = l.count a := by
  cases ha : p a
  · have hnot : a ∉ l.filter p := fun h => by simp [(mem_filter.1 h).2] at ha
    rw [count_eq_zero.2 hnot, count_filter (by simp [ha]), Nat.zero_add]
  · have hnot : a ∉ l.filter fun x => !p x := fun h => by simpa [ha] using (mem_filter.1 h).2
    rw [count_eq_zero.2 hnot, count_filter ha, Nat.add_zero]

/-! ### Mask bits -/

/-- A mask whose bits all lie in `m₂` accepts only classes that `m₂` accepts, unless it is
the mask 0, which accepts every class. -/
theorem NodeClassMask.accepts_of_bits_subset {m₁ m₂ : NodeClassMask} (h₁ : m₁.bits ≠ 0)
    (hsub : m₁.bits &&& ~~~m₂.bits = 0) {c : NodeClass} (hc : m₁.accepts c = true) :
    m₂.accepts c = true := by
  simp only [NodeClassMask.accepts, NodeClassMask.isUnfiltered, Bool.or_eq_true, beq_iff_eq,
    bne_iff_ne, ne_eq] at hc ⊢
  refine Or.inr fun h₂ => ?_
  have hc : m₁.bits &&& c.bits ≠ 0 := hc.resolve_left h₁
  apply hc
  -- bit by bit: a bit of `m₁` is a bit of `m₂`, and `m₂` shares none with the class
  have hsub' := congrArg UInt32.toBitVec hsub
  have h₂' := congrArg UInt32.toBitVec h₂
  apply UInt32.toBitVec_inj.1
  simp only [UInt32.toBitVec_and, UInt32.toBitVec_not, UInt32.toBitVec_zero] at hsub' h₂' ⊢
  ext i hi
  have hbit₁ := congrArg (·.getLsbD i) hsub'
  have hbit₂ := congrArg (·.getLsbD i) h₂'
  simp only [BitVec.getLsbD_and, BitVec.getLsbD_not, BitVec.getLsbD_zero, hi,
    decide_true, Bool.true_and] at hbit₁ hbit₂ ⊢
  cases hm : m₁.bits.toBitVec.getLsbD i <;> simp_all

@[simp] theorem BrowseDirection.both_accepts (f : Bool) : BrowseDirection.both.accepts f = true :=
  rfl

@[simp] theorem NodeClassMask.all_accepts (c : NodeClass) : NodeClassMask.all.accepts c = true := by
  simp [NodeClassMask.accepts, NodeClassMask.isUnfiltered, NodeClassMask.all]

namespace ReferenceStore

/-! ### Comparing two browses of one node -/

section Compare

variable (store : ReferenceStore)

/-- A browse whose direction, type and class tests each let through at least what another
query's do, on the same node, holds that query's answer as a sub-list, in order. -/
theorem browse_sublist_browse {q q' : BrowseDescription} (hnode : q.nodeId = q'.nodeId)
    (hdir : ∀ f, q.direction.accepts f = true → q'.direction.accepts f = true)
    (htype : ∀ t, (store.typeFilter q).accepts t = true →
      (store.typeFilter q').accepts t = true)
    (hclass : ∀ c, q.nodeClassMask.accepts c = true → q'.nodeClassMask.accepts c = true) :
    store.browse q <+ store.browse q' := by
  rw [browse, browse, hnode]
  apply monotone_filter_right
  intro r hr
  simp only [Bool.and_eq_true] at hr ⊢
  obtain ⟨⟨hd, ht⟩, hc⟩ := hr
  exact ⟨⟨hdir _ hd, htype _ ht⟩, hclass _ hc⟩

/-- The type filter does not read the direction. -/
@[simp] theorem typeFilter_withDirection (q : BrowseDescription) (d : BrowseDirection) :
    store.typeFilter { q with direction := d } = store.typeFilter q := rfl

/-- The type filter does not read the class mask. -/
@[simp] theorem typeFilter_withMask (q : BrowseDescription) (m : NodeClassMask) :
    store.typeFilter { q with nodeClassMask := m } = store.typeFilter q := rfl

/-- The null type accepts every type, with subtypes or without. -/
theorem typeFilter_null {q : BrowseDescription} (h : q.referenceTypeId = NodeId.null) :
    store.typeFilter q = .any := by
  simp [typeFilter, NodeId.isNull_iff, h]

/-- With subtypes, a non-null type accepts the types of its closure. -/
theorem typeFilter_withSubtypes {q : BrowseDescription} {t : NodeId} (ht : t ≠ NodeId.null) :
    store.typeFilter { q with referenceTypeId := t, includeSubtypes := true } =
      .within (store.closure [t]) := by
  simp [typeFilter, NodeId.isNull_iff, ht]

/-- Without subtypes, a non-null type accepts itself alone. -/
theorem typeFilter_exact {q : BrowseDescription} {t : NodeId} (ht : t ≠ NodeId.null) :
    store.typeFilter { q with referenceTypeId := t, includeSubtypes := false } = .exact t := by
  simp [typeFilter, NodeId.isNull_iff, ht]

/-- A type is in its own closure. -/
theorem mem_closure_self (t : NodeId) : t ∈ store.closure [t] :=
  mem_closure.2 ⟨t, mem_singleton_self t, .refl⟩

/-- A direct subtype of a type is in its closure. -/
theorem mem_closure_of_directSubtype {t u : NodeId} (h : DirectSubtype store.entries t u) :
    u ∈ store.closure [t] :=
  mem_closure.2 ⟨t, mem_singleton_self t, .single h⟩

/-- What a closure reaches from one of its members it reaches from its seed. -/
theorem mem_closure_of_mem_closure {t t' u : NodeId} (ht' : t' ∈ store.closure [t])
    (hu : u ∈ store.closure [t']) : u ∈ store.closure [t] := by
  obtain ⟨s, hs, hst'⟩ := mem_closure.1 ht'
  obtain ⟨s', hs', hs'u⟩ := mem_closure.1 hu
  rw [mem_singleton] at hs'
  subst hs'
  exact mem_closure.2 ⟨s, hs, hst'.trans hs'u⟩

/-- The answer for a direction is the answer for both directions, filtered by that
direction: the type and class tests do not read it. -/
theorem browse_withDirection (q : BrowseDescription) (d : BrowseDirection) :
    store.browse { q with direction := d } =
      (store.browse { q with direction := .both }).filter (d.accepts ·.isForward) := by
  simp only [browse, typeFilter_withDirection, filter_filter]
  apply filter_congr
  intro r _
  simp [Bool.and_assoc]

end Compare

/-! ### Both directions -/

/-- **Both directions interleave the forward and the inverse answers.** Filtering the answer
for both directions by the direction flag gives exactly the forward answer and the inverse
answer, so its length is their sum and each reference occurs in it as often as in the two
together. It is the forward answer followed by the inverse one exactly when no inverse
reference comes before a forward one; and a store with an inverse reference inserted before
a forward one shows that it need not be. -/
theorem browse_both_split (store : ReferenceStore) (q : BrowseDescription) :
    (store.browse { q with direction := .both }).filter (·.isForward) =
      store.browse { q with direction := .forward } ∧
    (store.browse { q with direction := .both }).filter (fun r => !r.isForward) =
      store.browse { q with direction := .inverse } ∧
    (store.browse { q with direction := .both }).length =
      (store.browse { q with direction := .forward }).length +
        (store.browse { q with direction := .inverse }).length ∧
    (∀ r, (store.browse { q with direction := .both }).count r =
      (store.browse { q with direction := .forward }).count r +
        (store.browse { q with direction := .inverse }).count r) ∧
    (store.browse { q with direction := .both } =
        store.browse { q with direction := .forward } ++
          store.browse { q with direction := .inverse } ↔
      (store.browse { q with direction := .both }).Pairwise
        fun a b => ¬ (a.isForward = false ∧ b.isForward = true)) ∧
    ∃ (l : List (NodeId × ReferenceDescription)) (q : BrowseDescription),
      (ofList l).browse { q with direction := .both } ≠
        (ofList l).browse { q with direction := .forward } ++
          (ofList l).browse { q with direction := .inverse } := by
  have hforward := browse_withDirection store q .forward
  have hinverse := browse_withDirection store q .inverse
  simp only [BrowseDirection.accepts] at hforward hinverse
  refine ⟨hforward.symm, hinverse.symm, ?_, ?_, ?_, ?_⟩
  · rw [hforward, hinverse]
    exact length_eq_length_filter_add _
  · intro r
    rw [hforward, hinverse, count_filter_add_count_filter]
  · rw [hforward, hinverse]
    exact eq_filter_append_filter_iff _ _
  · -- node 84 holds an inverse reference, then a forward one
    let back : ReferenceDescription :=
      { referenceTypeId := WellKnown.organizes.nodeId, isForward := false,
        nodeId := WellKnown.objectsFolder.nodeId, browseName := ⟨0, "Objects"⟩,
        displayName := LocalizedText.plain "Objects", nodeClass := .object,
        typeDefinition := NodeId.null }
    refine ⟨[(WellKnown.rootFolder.nodeId, back),
      (WellKnown.rootFolder.nodeId, { back with isForward := true })],
      { nodeId := WellKnown.rootFolder.nodeId }, ?_⟩
    decide

/-! ### Monotone in every filter -/

/-- A `HasSubtype` reference from `References` to the null id. -/
def subtypeOfNull : NodeId × ReferenceDescription :=
  (WellKnown.references.nodeId,
    { referenceTypeId := NodeId.hasSubtype, isForward := true, nodeId := NodeId.null,
      browseName := ⟨0, ""⟩, displayName := LocalizedText.plain "", nodeClass := .referenceType,
      typeDefinition := NodeId.null })

/-- The root folder organizes the objects folder. -/
def organizesObjects : NodeId × ReferenceDescription :=
  (WellKnown.rootFolder.nodeId,
    { referenceTypeId := WellKnown.organizes.nodeId, isForward := true,
      nodeId := WellKnown.objectsFolder.nodeId, browseName := ⟨0, "Objects"⟩,
      displayName := LocalizedText.plain "Objects", nodeClass := .object,
      typeDefinition := WellKnown.folderType.nodeId })

open List in
/-- **A browse is monotone in its filters.** Under the order-preserving sub-list relation:
the exact type's answer lies in the answer with its subtypes; with subtypes, a non-null
type of the closure of `t` gives an answer that lies in `t`'s; a non-zero mask whose bits
all lie in another gives an answer that lies in the other's, and every answer lies in the
answer of the mask 0; the forward and the inverse answers lie in the answer for both
directions; and every answer lies in the node's references. The non-null condition on the
narrower type is needed: a `HasSubtype` reference into the null id puts it, which stands for
every type, into a closure. -/
theorem browse_monotone_filters (store : ReferenceStore) :
    (∀ (q : BrowseDescription) (t : NodeId), t ≠ NodeId.null →
      store.browse { q with referenceTypeId := t, includeSubtypes := false } <+
        store.browse { q with referenceTypeId := t, includeSubtypes := true }) ∧
    (∀ (q : BrowseDescription) (t t' : NodeId), t' ≠ NodeId.null →
      t' ∈ store.closure [t] →
      store.browse { q with referenceTypeId := t', includeSubtypes := true } <+
        store.browse { q with referenceTypeId := t, includeSubtypes := true }) ∧
    (∀ (q : BrowseDescription) (m₁ m₂ : NodeClassMask), m₁.bits ≠ 0 →
      m₁.bits &&& ~~~m₂.bits = 0 →
      store.browse { q with nodeClassMask := m₁ } <+
        store.browse { q with nodeClassMask := m₂ }) ∧
    (∀ q : BrowseDescription,
      store.browse q <+ store.browse { q with nodeClassMask := NodeClassMask.all }) ∧
    (∀ q : BrowseDescription,
      store.browse { q with direction := .forward } <+
        store.browse { q with direction := .both }) ∧
    (∀ q : BrowseDescription,
      store.browse { q with direction := .inverse } <+
        store.browse { q with direction := .both }) ∧
    (∀ q : BrowseDescription, store.browse q <+ store.referencesFrom q.nodeId) ∧
    ∃ (l : List (NodeId × ReferenceDescription)) (q : BrowseDescription) (t : NodeId),
      NodeId.null ∈ (ofList l).closure [t] ∧
      ¬ (ofList l).browse { q with referenceTypeId := NodeId.null, includeSubtypes := true } <+
        (ofList l).browse { q with referenceTypeId := t, includeSubtypes := true } := by
  refine ⟨?exact, ?subtype, ?mask, ?maskAll, ?forward, ?inverse, ?node, ?nullType⟩
  case exact =>
    intro q t ht
    refine browse_sublist_browse store rfl (fun _ h => h) (fun u hu => ?_) (fun _ h => h)
    -- the type itself is the first member of its closure
    rw [typeFilter_exact store ht] at hu
    rw [typeFilter_withSubtypes store ht]
    simp only [TypeFilter.accepts, beq_iff_eq, List.contains_iff_mem] at hu ⊢
    exact hu ▸ mem_closure_self store t
  case subtype =>
    intro q t t' ht' hmem
    refine browse_sublist_browse store rfl (fun _ h => h) (fun u hu => ?_) (fun _ h => h)
    rw [typeFilter_withSubtypes store ht'] at hu
    simp only [TypeFilter.accepts, List.contains_iff_mem] at hu
    by_cases ht : t = NodeId.null
    · rw [typeFilter_null store ht]
      rfl
    · rw [typeFilter_withSubtypes store ht]
      simpa [TypeFilter.accepts] using mem_closure_of_mem_closure store hmem hu
  case mask =>
    intro q m₁ m₂ h₁ hsub
    exact browse_sublist_browse store rfl (fun _ h => h) (fun _ h => h)
      fun _ hc => NodeClassMask.accepts_of_bits_subset h₁ hsub hc
  case maskAll =>
    intro q
    exact browse_sublist_browse store rfl (fun _ h => h) (fun _ h => h) (fun c _ => by simp)
  case forward =>
    intro q
    exact browse_sublist_browse store rfl (fun _ _ => rfl) (fun _ h => h) (fun _ h => h)
  case inverse =>
    intro q
    exact browse_sublist_browse store rfl (fun _ _ => rfl) (fun _ h => h) (fun _ h => h)
  case node =>
    intro q
    exact filter_sublist
  case nullType =>
    -- `References` has the null id as a direct subtype; the root folder organizes a folder
    refine ⟨[subtypeOfNull, organizesObjects], { nodeId := WellKnown.rootFolder.nodeId },
      WellKnown.references.nodeId, ?_, ?_⟩
    · exact mem_closure_of_directSubtype _ ⟨subtypeOfNull.2, by simp [subtypeOfNull], rfl, rfl⟩
    · have hclosure :
          (ofList [subtypeOfNull, organizesObjects]).closure [WellKnown.references.nodeId] =
            [NodeId.null, WellKnown.references.nodeId] := by
        cbv
      rw [browse, browse, typeFilter_null _ rfl,
        typeFilter_withSubtypes _ (t := WellKnown.references.nodeId) (by decide), hclosure]
      decide

open List in
/-- On the standard namespace: `HasSubtype` alone within `HasSubtype` and its subtypes;
`HierarchicalReferences`, a subtype of `References`, within `References` with subtypes; the
objects alone within objects and reference types. -/
theorem browse_monotone_filters_standard :
    (WellKnown.hasSubtype.nodeId ≠ NodeId.null ∧
      (ofList standardReferences).browse
          { nodeId := WellKnown.references.nodeId,
            referenceTypeId := WellKnown.hasSubtype.nodeId, includeSubtypes := false } <+
        (ofList standardReferences).browse
          { nodeId := WellKnown.references.nodeId,
            referenceTypeId := WellKnown.hasSubtype.nodeId, includeSubtypes := true }) ∧
    (WellKnown.hierarchicalReferences.nodeId ≠ NodeId.null ∧
      WellKnown.hierarchicalReferences.nodeId ∈
        (ofList standardReferences).closure [WellKnown.references.nodeId] ∧
      (ofList standardReferences).browse
          { nodeId := WellKnown.rootFolder.nodeId,
            referenceTypeId := WellKnown.hierarchicalReferences.nodeId, includeSubtypes := true } <+
        (ofList standardReferences).browse
          { nodeId := WellKnown.rootFolder.nodeId,
            referenceTypeId := WellKnown.references.nodeId, includeSubtypes := true }) ∧
    ((⟨1⟩ : NodeClassMask).bits ≠ 0 ∧
      (⟨1⟩ : NodeClassMask).bits &&& ~~~(⟨1 ||| 32⟩ : NodeClassMask).bits = 0 ∧
      (ofList standardReferences).browse
          { nodeId := WellKnown.typesFolder.nodeId, nodeClassMask := ⟨1⟩ } <+
        (ofList standardReferences).browse
          { nodeId := WellKnown.typesFolder.nodeId, nodeClassMask := ⟨1 ||| 32⟩ }) := by
  have hmem : WellKnown.hierarchicalReferences.nodeId ∈
      (ofList standardReferences).closure [WellKnown.references.nodeId] := by
    refine mem_closure_of_directSubtype _
      ⟨(Standard.subtype .references .hierarchicalReferences).2, ?_, rfl, rfl⟩
    show Standard.subtype .references .hierarchicalReferences ∈
      (ofList standardReferences).entries
    simp [standardReferences]
  refine ⟨⟨by decide, ?_⟩, ⟨by decide, hmem, ?_⟩, ⟨by decide, by decide, ?_⟩⟩
  · exact (browse_monotone_filters _).1 { nodeId := WellKnown.references.nodeId }
      WellKnown.hasSubtype.nodeId (by decide)
  · exact (browse_monotone_filters _).2.1 { nodeId := WellKnown.rootFolder.nodeId }
      WellKnown.references.nodeId WellKnown.hierarchicalReferences.nodeId (by decide) hmem
  · exact (browse_monotone_filters _).2.2.1 { nodeId := WellKnown.typesFolder.nodeId }
      ⟨1⟩ ⟨1 ||| 32⟩ (by decide) (by decide)

end ReferenceStore

end AddressSpace
