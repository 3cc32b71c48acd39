import Mathlib
import AddressSpace.Browse
import AddressSpace.Proofs.StoreIndex
import AddressSpace.Proofs.SubtypeClosure

/-!
# Browsing a store built by inserts

A browse reads the references of one node through the store's index, resolves the type
filter once (through the subtype closure when subtypes count), and keeps the references that
pass the direction, type and class filters. Its answer on a store built by inserts is the
naive one: the list, in insertion order, of the inserted references from the node that pass
the three tests, the type test read directly off the inserted pairs.

* `TypeSelected`, `Selected` — the three tests of a query, with the subtypes of its
  reference type taken as the types that chains of direct subtypes reach from it;
* **`browse_ofList`** — a browse equals the naive filter of the inserted pairs;
* **`browse_insert`** — one more insert only adds to a browse, keeping the order, and it
  changes the browse of another node only through a new `HasSubtype` link from a type
  already in the closure of the query's type.
-/

namespace AddressSpace

open Relation

/-- The reference types a query accepts, read off the inserted pairs: every type for the null
id, even with subtypes; otherwise the type itself, or, with subtypes, every type that chains
of direct subtypes reach from it. -/
def TypeSelected (l : List (NodeId × ReferenceDescription)) (q : BrowseDescription)
    (t : NodeId) : Prop :=
  if q.referenceTypeId = NodeId.null then True
  else if q.includeSubtypes then ReflTransGen (DirectSubtype l) q.referenceTypeId t
  else t = q.referenceTypeId

/-- The directions a query accepts: forward references, inverse ones, or both. -/
def DirectionSelected : BrowseDirection → Bool → Prop
  | .forward, isForward => isForward = true
  | .inverse, isForward => isForward = false
  | .both, _ => True

/-- The target classes a mask accepts: every class for the zero mask, otherwise the classes
whose bit it sets. -/
def ClassSelected (m : NodeClassMask) (c : NodeClass) : Prop :=
  m.bits = 0 ∨ m.bits &&& c.bits ≠ 0

/-- A reference passes the three tests of a query: direction, type (read off `l`) and the
class of its target. -/
def Selected (l : List (NodeId × ReferenceDescription)) (q : BrowseDescription)
    (r : ReferenceDescription) : Prop :=
  DirectionSelected q.direction r.isForward ∧ TypeSelected l q r.referenceTypeId ∧
    ClassSelected q.nodeClassMask r.nodeClass

theorem BrowseDirection.accepts_iff (d : BrowseDirection) (isForward : Bool) :
    d.accepts isForward = true ↔ DirectionSelected d isForward := by
  cases d <;> simp [BrowseDirection.accepts, DirectionSelected]

theorem NodeClassMask.accepts_iff (m : NodeClassMask) (c : NodeClass) :
    m.accepts c = true ↔ ClassSelected m c := by
  simp [NodeClassMask.accepts, NodeClassMask.isUnfiltered, ClassSelected]

theorem NodeId.isNull_iff {n : NodeId} : n.isNull = true ↔ n = NodeId.null := by
  simp [NodeId.isNull]

namespace ReferenceStore

/-- The type filter a browse resolves accepts exactly the types the query selects. -/
theorem typeFilter_accepts_ofList (l : List (NodeId × ReferenceDescription))
    (q : BrowseDescription) (t : NodeId) :
    ((ofList l).typeFilter q).accepts t = true ↔ TypeSelected l q t := by
  unfold typeFilter TypeSelected
  by_cases hnull : q.referenceTypeId = NodeId.null
  · simp [NodeId.isNull_iff, hnull, TypeFilter.accepts]
  · have hnull' : q.referenceTypeId.isNull = false := by
      rw [Bool.eq_false_iff]
      exact mt NodeId.isNull_iff.1 hnull
    cases hsub : q.includeSubtypes
    · simp [hnull, hnull', TypeFilter.accepts]
    · -- the closure of the one type holds exactly what chains of direct subtypes reach
      simp [hnull, hnull', TypeFilter.accepts, mem_closure]

open Classical in
/-- **A browse is the naive filter of the inserted pairs.** On the store that a list of
inserts builds, a browse returns, in insertion order, the references inserted from the
query's node that pass the direction test, the type test (the subtypes of the query's type
being the types that chains of direct subtypes reach from it), and the class test. -/
theorem browse_ofList (l : List (NodeId × ReferenceDescription)) (q : BrowseDescription) :
    (ofList l).browse q =
      (l.filter fun e => e.1 = q.nodeId ∧ Selected l q e.2).map Prod.snd := by
  rw [browse, referencesFrom_ofList, List.filter_map, List.filter_filter]
  congr 1
  apply List.filter_congr
  intro e _
  simp only [Function.comp, Selected, ← typeFilter_accepts_ofList l q,
    ← BrowseDirection.accepts_iff, ← NodeClassMask.accepts_iff]
  by_cases he : e.1 = q.nodeId <;> simp [he, Bool.and_assoc]

/-- The closure of one type in a store built by inserts holds what chains of direct
subtypes reach from it. -/
theorem mem_closure_ofList_singleton {l : List (NodeId × ReferenceDescription)} {a t : NodeId} :
    t ∈ (ofList l).closure [a] ↔ ReflTransGen (DirectSubtype l) a t := by
  simp [mem_closure]

/-! ### One more insert -/

section Insert

variable {l : List (NodeId × ReferenceDescription)} {s : NodeId} {r : ReferenceDescription}
  {q : BrowseDescription}

theorem TypeSelected.append {t : NodeId} (l' : List (NodeId × ReferenceDescription))
    (h : TypeSelected l q t) : TypeSelected (l ++ l') q t := by
  unfold TypeSelected at h ⊢
  -- the null type accepts everything on both sides; the other two tests are read off `l`
  split_ifs at h ⊢
  · exact reaches_append l' h
  · exact h

theorem Selected.append {r' : ReferenceDescription} (l' : List (NodeId × ReferenceDescription))
    (h : Selected l q r') : Selected (l ++ l') q r' :=
  ⟨h.1, TypeSelected.append l' h.2.1, h.2.2⟩

/-- The type test reads the same on two lists of pairs when the query does not consult the
closure, or when its type reaches the same nodes in both. -/
theorem typeSelected_iff_of_reaches {l' : List (NodeId × ReferenceDescription)} {t : NodeId}
    (h : q.referenceTypeId = NodeId.null ∨ q.includeSubtypes = false ∨
      ∀ u, ReflTransGen (DirectSubtype l') q.referenceTypeId u ↔
        ReflTransGen (DirectSubtype l) q.referenceTypeId u) :
    TypeSelected l' q t ↔ TypeSelected l q t := by
  unfold TypeSelected
  rcases h with hnull | hsub | hreach
  · simp [hnull]
  · simp [hsub]
  · split_ifs
    · exact Iff.rfl
    · exact hreach t
    · exact Iff.rfl

open List in
/-- One more insert keeps every earlier answer of a browse, in order: the type test only
grows with the pairs. -/
theorem browse_sublist_insert (l : List (NodeId × ReferenceDescription)) (s : NodeId)
    (r : ReferenceDescription) (q : BrowseDescription) :
    (ofList l).browse q <+ ((ofList l).insert s r).browse q := by
  classical
  rw [← ofList_append_singleton, browse_ofList, browse_ofList]
  apply List.Sublist.map
  -- the old pairs pass the grown test, and the new pair can only add to the end
  have hgrown : l.filter (fun e => e.1 = q.nodeId ∧ Selected l q e.2) <+
      l.filter (fun e => e.1 = q.nodeId ∧ Selected (l ++ [(s, r)]) q e.2) := by
    apply List.monotone_filter_right
    intro e he
    simp only [decide_eq_true_eq] at he ⊢
    exact ⟨he.1, Selected.append _ he.2⟩
  rw [List.filter_append]
  exact hgrown.trans (List.sublist_append_left _ _)

/-- An insert from another node leaves a browse as it was when the type test does not
change. -/
theorem browse_insert_eq (hne : q.nodeId ≠ s)
    (h : ∀ t, TypeSelected (l ++ [(s, r)]) q t ↔ TypeSelected l q t) :
    ((ofList l).insert s r).browse q = (ofList l).browse q := by
  classical
  rw [← ofList_append_singleton, browse_ofList, browse_ofList, List.filter_append]
  -- the new pair is from another node, so the filter drops it
  have hnew : [(s, r)].filter (fun e => e.1 = q.nodeId ∧ Selected (l ++ [(s, r)]) q e.2) = [] := by
    simp [Ne.symm hne]
  rw [hnew, List.append_nil]
  congr 1
  apply List.filter_congr
  intro e _
  rw [decide_eq_decide]
  simp only [Selected, h]

/-- An insert from another node leaves a browse as it was when the query does not consult
the subtype closure, or when its type reaches the same nodes before and after. -/
theorem browse_insert_eq_of_reaches (hne : q.nodeId ≠ s)
    (h : q.referenceTypeId = NodeId.null ∨ q.includeSubtypes = false ∨
      ∀ u, ReflTransGen (DirectSubtype (l ++ [(s, r)])) q.referenceTypeId u ↔
        ReflTransGen (DirectSubtype l) q.referenceTypeId u) :
    ((ofList l).insert s r).browse q = (ofList l).browse q :=
  browse_insert_eq hne fun _ => typeSelected_iff_of_reaches h

open List in
/-- **How one insert changes a browse.** The earlier answer is a sub-list of the new one, in
the same order. When the insert is from another node, the answer stays as it was if the
query does not consult the subtype closure or the closure of its type does not change; so
an answer on another node changes only when the query reads the closure of a non-null type
and the insert is a `HasSubtype` link from a type already in that closure. -/
theorem browse_insert (l : List (NodeId × ReferenceDescription)) (s : NodeId)
    (r : ReferenceDescription) (q : BrowseDescription) :
    (ofList l).browse q <+ ((ofList l).insert s r).browse q ∧
    (q.nodeId ≠ s →
      (q.referenceTypeId = NodeId.null ∨ q.includeSubtypes = false ∨
        ∀ t, t ∈ ((ofList l).insert s r).closure [q.referenceTypeId] ↔
          t ∈ (ofList l).closure [q.referenceTypeId]) →
      ((ofList l).insert s r).browse q = (ofList l).browse q) ∧
    (q.nodeId ≠ s → ((ofList l).insert s r).browse q ≠ (ofList l).browse q →
      q.referenceTypeId ≠ NodeId.null ∧ q.includeSubtypes = true ∧
        r.referenceTypeId = NodeId.hasSubtype ∧ s ∈ (ofList l).closure [q.referenceTypeId]) := by
  refine ⟨browse_sublist_insert l s r q, fun hne h => browse_insert_eq_of_reaches hne ?_, ?_⟩
  · rcases h with hnull | hsub | hclosure
    · exact Or.inl hnull
    · exact Or.inr (Or.inl hsub)
    · refine Or.inr (Or.inr fun u => ?_)
      rw [← mem_closure_ofList_singleton, ofList_append_singleton, hclosure,
        mem_closure_ofList_singleton]
  · intro hne hchanged
    -- each condition, when it fails, leaves the answer as it was
    refine ⟨fun hnull => hchanged (browse_insert_eq_of_reaches hne (Or.inl hnull)), ?_, ?_, ?_⟩
    · cases hsub : q.includeSubtypes
      · exact absurd (browse_insert_eq_of_reaches hne (Or.inr (Or.inl hsub))) hchanged
      · rfl
    · by_contra hty
      apply hchanged (browse_insert_eq_of_reaches hne (Or.inr (Or.inr fun u => ?_)))
      rw [directSubtype_append_of_ne hty]
    · by_contra hs
      apply hchanged (browse_insert_eq_of_reaches hne (Or.inr (Or.inr fun u => ?_)))
      exact reaches_append_iff (mt mem_closure_ofList_singleton.2 hs)

end Insert

end ReferenceStore

end AddressSpace
