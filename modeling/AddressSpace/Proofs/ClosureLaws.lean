import Mathlib
import AddressSpace.Proofs.SubtypeClosure
import AddressSpace.Standard

/-!
# The subtype closure is a closure operator on the subtype edges

A closure is returned as a set: in node id order, without repeats. Node ids are linearly
ordered (namespace, then kind of identifier, then value), so a sorted list without repeats is
fixed by its members, and every law about the members of closures is a law about the lists
returned.

* `sortNodeIds_eq_of_mem_iff` — two lists without repeats and with the same members sort to
  the same list;
* `ReferenceStore.closure_eq_sortNodeIds` — a closure is the sorted form of any list without
  repeats that has its members;
* `ReferenceStore.closure_congr_edges` — the closure sees only which (source, target) pairs of
  subtype references are stored: neither their order, nor their repeats, nor the references
  of other types;
* **`closure_is_closure_operator`** — the closure is extensive, monotone and idempotent, the
  closure of a union is the union of the closures, and a store rebuilt from the same subtype
  pairs, in any order, with repeats and with other references added, has the same closures.
-/

namespace AddressSpace

/-! ### Node ids are linearly ordered -/

theorem Uuid.eq_of_val_eq {u v : Uuid} (h : u.val = v.val) : u = v := by
  cases u
  cases v
  simp_all

namespace Identifier

theorem compare_def (a b : Identifier) : Ord.compare a b = a.compare b := rfl

instance : Std.OrientedOrd Identifier where
  eq_swap {a b} := by
    cases a <;> cases b <;> simp only [compare_def, Identifier.compare, rank] <;>
      exact Std.OrientedCmp.eq_swap

instance : Std.TransOrd Identifier where
  isLE_trans {a b c} hab hbc := by
    -- one kind: the values decide; kinds apart: the ranks, which are fixed numbers
    cases a <;> cases b <;> cases c <;>
      simp only [compare_def, Identifier.compare, rank, Nat.isLE_compare] at hab hbc ⊢ <;>
      first | omega | exact Std.TransCmp.isLE_trans hab hbc

instance : Std.LawfulEqOrd Identifier where
  eq_of_compare {a b} h := by
    cases a <;> cases b <;>
      simp only [compare_def, Identifier.compare, rank, Std.compare_eq_iff_eq, reduceCtorEq] at h
    all_goals first | rw [h] | rw [Uuid.eq_of_val_eq h] | simp at h

end Identifier

namespace NodeId

theorem compare_def (a b : NodeId) : Ord.compare a b = a.compare b := rfl

instance : Std.TransOrd NodeId :=
  inferInstanceAs
    (Std.TransCmp (compareLex (compareOn NodeId.namespaceIndex) (compareOn NodeId.identifier)))

instance : Std.LawfulEqOrd NodeId where
  eq_of_compare {a b} h := by
    have h' : a.namespaceIndex = b.namespaceIndex ∧ a.identifier = b.identifier := by
      simpa only [compare_def, NodeId.compare, Ordering.then_eq_eq, ← Identifier.compare_def,
        Std.compare_eq_iff_eq] using h
    cases a
    cases b
    cases h'.1
    cases h'.2
    rfl

end NodeId

/-! ### Sorted lists of node ids -/

theorem sortNodeIds_perm (l : List NodeId) : (sortNodeIds l).Perm l :=
  List.mergeSort_perm _ _

theorem mem_sortNodeIds {l : List NodeId} {t : NodeId} : t ∈ sortNodeIds l ↔ t ∈ l :=
  (sortNodeIds_perm l).mem_iff

/-- Sorted: no node id comes after the next one. -/
theorem sortNodeIds_pairwise (l : List NodeId) :
    (sortNodeIds l).Pairwise fun a b => (compare a b != .gt) = true := by
  apply List.pairwise_mergeSort
  · intro a b c hab hbc
    simp only [bne_iff_ne, ne_eq, ← Ordering.isLE_iff_ne_gt] at hab hbc ⊢
    exact Std.TransCmp.isLE_trans hab hbc
  · intro a b
    by_cases hab : compare a b = .gt
    · -- then `b` comes before `a`
      have hba : compare b a = .lt := Std.OrientedCmp.gt_iff_lt.1 hab
      simp [hba]
    · simp [hab]

/-- Lists without repeats that have the same members sort to the same list. -/
theorem sortNodeIds_eq_of_mem_iff {l₁ l₂ : List NodeId} (h₁ : l₁.Nodup) (h₂ : l₂.Nodup)
    (h : ∀ t, t ∈ l₁ ↔ t ∈ l₂) : sortNodeIds l₁ = sortNodeIds l₂ := by
  have hperm : (sortNodeIds l₁).Perm (sortNodeIds l₂) :=
    (sortNodeIds_perm l₁).trans
      (((List.perm_ext_iff_of_nodup h₁ h₂).2 h).trans (sortNodeIds_perm l₂).symm)
  apply hperm.eq_of_pairwise _ (sortNodeIds_pairwise l₁) (sortNodeIds_pairwise l₂)
  intro a b _ _ hab hba
  -- neither comes after the other, so they compare equal
  simp only [bne_iff_ne, ne_eq, ← Ordering.isLE_iff_ne_gt] at hab hba
  exact Std.LawfulEqCmp.eq_of_compare (Std.OrientedCmp.isLE_antisymm hab hba)

namespace ReferenceStore

/-! ### A closure is fixed by its members -/

section Members

variable {store store' : ReferenceStore}

/-- A closure is the sorted form of any list without repeats that has its members. -/
theorem closure_eq_sortNodeIds {seeds l : List NodeId} (hl : l.Nodup)
    (h : ∀ t, t ∈ store.closure seeds ↔ t ∈ l) : store.closure seeds = sortNodeIds l := by
  have hvisited :
      ∀ t, t ∈ expand store.subtypeEdges (distinct seeds) (distinct seeds) ↔ t ∈ l :=
    fun t => (mem_sortNodeIds.symm).trans (h t)
  exact sortNodeIds_eq_of_mem_iff (nodup_expand (nodup_distinct seeds)) hl hvisited

/-- Two closures with the same members are the same list. -/
theorem closure_eq_of_mem_iff {S S' : List NodeId}
    (h : ∀ t, t ∈ store.closure S ↔ t ∈ store'.closure S') :
    store.closure S = store'.closure S' := by
  -- sorting a closure again changes nothing
  rw [closure_eq_sortNodeIds (nodup_closure store' S') h,
    ← closure_eq_sortNodeIds (nodup_closure store' S') fun _ => Iff.rfl]

end Members

/-! ### The closure laws -/

section Laws

variable {store : ReferenceStore} {S T : List NodeId}

theorem subset_closure (store : ReferenceStore) (S : List NodeId) : S ⊆ store.closure S :=
  fun s hs => mem_closure.2 ⟨s, hs, .refl⟩

theorem closure_mono (h : S ⊆ T) : store.closure S ⊆ store.closure T := by
  intro t ht
  obtain ⟨s, hs, hst⟩ := mem_closure.1 ht
  exact mem_closure.2 ⟨s, h hs, hst⟩

/-- What is reached from a node the seeds reach is reached from the seeds. -/
theorem mem_closure_closure {t : NodeId} :
    t ∈ store.closure (store.closure S) ↔ t ∈ store.closure S := by
  constructor
  · intro ht
    obtain ⟨u, hu, hut⟩ := mem_closure.1 ht
    obtain ⟨s, hs, hsu⟩ := mem_closure.1 hu
    exact mem_closure.2 ⟨s, hs, hsu.trans hut⟩
  · exact fun ht => subset_closure store _ ht

theorem closure_closure : store.closure (store.closure S) = store.closure S :=
  closure_eq_of_mem_iff fun _ => mem_closure_closure

theorem mem_closure_union {t : NodeId} :
    t ∈ store.closure (S ∪ T) ↔ t ∈ store.closure S ∨ t ∈ store.closure T := by
  simp only [mem_closure, List.mem_union_iff, or_and_right, exists_or]

/-- The closure of a union is the union of the closures, in node id order. -/
theorem closure_union :
    store.closure (S ∪ T) = sortNodeIds (store.closure S ∪ store.closure T) :=
  closure_eq_sortNodeIds ((nodup_closure store T).union _) fun _ => by
    rw [mem_closure_union, List.mem_union_iff]

end Laws

/-! ### Only the subtype pairs count -/

section Edges

variable {store store' : ReferenceStore}

theorem directSubtype_eq_of_subtypeEdges
    (h : ∀ x t, (x, t) ∈ store'.subtypeEdges ↔ (x, t) ∈ store.subtypeEdges) :
    DirectSubtype store'.entries = DirectSubtype store.entries := by
  funext x t
  exact propext (mem_subtypeEdges.symm.trans ((h x t).trans mem_subtypeEdges))

/-- Stores with the same subtype pairs have the same closures. -/
theorem closure_congr_edges
    (h : ∀ x t, (x, t) ∈ store'.subtypeEdges ↔ (x, t) ∈ store.subtypeEdges)
    (S : List NodeId) : store'.closure S = store.closure S :=
  closure_eq_of_mem_iff fun _ => by
    rw [mem_closure, mem_closure, directSubtype_eq_of_subtypeEdges h]

/-- Inserting every stored pair, in any order and any number of times, and besides them only
references of other types than `HasSubtype`, stores the same subtype pairs. -/
theorem subtypeEdges_ofList_iff {l : List (NodeId × ReferenceDescription)}
    (hsub : store.entries ⊆ l)
    (hother : ∀ e ∈ l, e ∈ store.entries ∨ e.2.referenceTypeId ≠ NodeId.hasSubtype)
    (x t : NodeId) :
    (x, t) ∈ (ofList l).subtypeEdges ↔ (x, t) ∈ store.subtypeEdges := by
  rw [mem_subtypeEdges, mem_subtypeEdges, entries_ofList]
  constructor
  · rintro ⟨r, hr, hty, ht⟩
    rcases hother _ hr with hold | hne
    · exact ⟨r, hold, hty, ht⟩
    · exact absurd hty hne
  · rintro ⟨r, hr, hty, ht⟩
    exact ⟨r, hsub hr, hty, ht⟩

end Edges

/-- **The subtype closure is a closure operator that sees only the subtype pairs.** Every seed
is in its closure; more seeds give a larger closure; the closure of a closure is itself; the
closure of a union of seeds is the union of the closures. A store that holds the same
(source, target) pairs of `HasSubtype` references has the same closures, and so has a store
rebuilt by inserting the stored pairs in any order, any number of times, with references of
other types between them. -/
theorem closure_is_closure_operator (store : ReferenceStore) :
    (∀ S, S ⊆ store.closure S) ∧
    (∀ S T, S ⊆ T → store.closure S ⊆ store.closure T) ∧
    (∀ S, store.closure (store.closure S) = store.closure S) ∧
    (∀ S T, store.closure (S ∪ T) = sortNodeIds (store.closure S ∪ store.closure T)) ∧
    (∀ store' : ReferenceStore,
      (∀ x t, (x, t) ∈ store'.subtypeEdges ↔ (x, t) ∈ store.subtypeEdges) →
      ∀ S, store'.closure S = store.closure S) ∧
    (∀ l : List (NodeId × ReferenceDescription), store.entries ⊆ l →
      (∀ e ∈ l, e ∈ store.entries ∨ e.2.referenceTypeId ≠ NodeId.hasSubtype) →
      ∀ S, (ofList l).closure S = store.closure S) :=
  ⟨subset_closure store, fun _ _ => closure_mono, fun _ => closure_closure,
    fun _ _ => closure_union, fun _ => closure_congr_edges,
    fun _ hsub hother => closure_congr_edges (subtypeEdges_ofList_iff hsub hother)⟩

/-- On the standard namespace: seeding `References` and the root folder reaches at least what
`References` reaches; and inserting the standard references backwards, then again forwards,
then one more `Organizes` reference, gives the closure of `HasChild` it had. -/
theorem closure_is_closure_operator_standard :
    [WellKnown.references.nodeId] ⊆
      [WellKnown.references.nodeId, WellKnown.rootFolder.nodeId] ∧
    (ofList standardReferences).closure [WellKnown.references.nodeId] ⊆
      (ofList standardReferences).closure
        [WellKnown.references.nodeId, WellKnown.rootFolder.nodeId] ∧
    (ofList standardReferences).entries ⊆
      standardReferences.reverse ++ standardReferences ++
        [Standard.folder .objectsFolder .viewsFolder] ∧
    (∀ e ∈ standardReferences.reverse ++ standardReferences ++
        [Standard.folder .objectsFolder .viewsFolder],
      e ∈ (ofList standardReferences).entries ∨ e.2.referenceTypeId ≠ NodeId.hasSubtype) ∧
    (ofList (standardReferences.reverse ++ standardReferences ++
        [Standard.folder .objectsFolder .viewsFolder])).closure [WellKnown.hasChild.nodeId] =
      (ofList standardReferences).closure [WellKnown.hasChild.nodeId] := by
  obtain ⟨-, hmono, -, -, -, hrebuild⟩ :=
    closure_is_closure_operator (ofList standardReferences)
  have hsub : (ofList standardReferences).entries ⊆
      standardReferences.reverse ++ standardReferences ++
        [Standard.folder .objectsFolder .viewsFolder] := by
    intro e he
    rw [entries_ofList] at he
    simp [he]
  have hother : ∀ e ∈ standardReferences.reverse ++ standardReferences ++
      [Standard.folder .objectsFolder .viewsFolder],
      e ∈ (ofList standardReferences).entries ∨ e.2.referenceTypeId ≠ NodeId.hasSubtype := by
    intro e he
    rw [entries_ofList]
    simp only [List.mem_append, List.mem_reverse, List.mem_singleton] at he
    rcases he with (he | he) | rfl
    · exact Or.inl he
    · exact Or.inl he
    · exact Or.inr (by decide)
  exact ⟨by decide, hmono _ _ (by decide), hsub, hother, hrebuild _ hsub hother _⟩

end ReferenceStore

end AddressSpace
