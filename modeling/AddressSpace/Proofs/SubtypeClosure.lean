import Mathlib
import AddressSpace.Store.Subtypes
import AddressSpace.Proofs.StoreIndex

/-!
# The subtype closure is the set of reachable types

The closure of a set of seeds is computed in passes: each pass follows the `HasSubtype`
references of the nodes that the pass before it found, keeps the targets not yet visited,
and the passes stop when one finds nothing. Only the newest nodes are expanded, so the
argument that nothing is missed rests on an invariant between passes: every visited node
that is not on the frontier has already had all its successors visited
(`PassInvariant`). When a pass finds nothing, the frontier's successors are visited too,
and the visited nodes are closed.

* `DirectSubtype` — `t` is a direct subtype of `x`: a stored `HasSubtype` reference from `x`
  targets `t`, whatever its direction flag; on a store built by inserts these are the
  targets that `referencesFrom x` yields (`directSubtype_iff_referencesFrom`);
* `mem_expand` — the passes visit exactly the nodes reachable from the visited ones;
* `ReferenceStore.mem_closure` — the closure holds exactly the nodes that chains of direct
  subtypes reach from the seeds;
* **`closure_least_closed`** — the closure, without repeats, is the least set that holds the
  seeds and is closed under direct subtypes.

The last section compares the closures of a store before and after one more insert.
-/

namespace AddressSpace

open Relation

/-! ### Direct subtypes -/

/-- `t` is a direct subtype of `x` in a list of stored pairs: a reference from `x` of type
`HasSubtype`, in either direction, targets `t`. -/
def DirectSubtype (entries : List (NodeId × ReferenceDescription)) (x t : NodeId) : Prop :=
  ∃ r, (x, r) ∈ entries ∧ r.referenceTypeId = NodeId.hasSubtype ∧ r.nodeId = t

theorem ReferenceStore.mem_subtypeEdges {store : ReferenceStore} {x t : NodeId} :
    (x, t) ∈ store.subtypeEdges ↔ DirectSubtype store.entries x t := by
  simp only [ReferenceStore.subtypeEdges, List.mem_filterMap, DirectSubtype]
  constructor
  · rintro ⟨⟨y, r⟩, he, hr⟩
    by_cases hty : r.referenceTypeId = NodeId.hasSubtype
    · simp only [hty, if_true, Option.some.injEq, Prod.mk.injEq] at hr
      obtain ⟨rfl, rfl⟩ := hr
      exact ⟨r, he, hty, rfl⟩
    · simp [hty] at hr
  · rintro ⟨r, he, hty, rfl⟩
    exact ⟨(x, r), he, by simp [hty]⟩

/-- On a store built by inserts, the direct subtypes of `x` are the targets of the `HasSubtype`
references that the index yields for `x`: the closure follows exactly what a walk over
`referencesFrom` reads. -/
theorem ReferenceStore.directSubtype_iff_referencesFrom {l : List (NodeId × ReferenceDescription)}
    {x t : NodeId} :
    DirectSubtype l x t ↔
      ∃ r ∈ (ofList l).referencesFrom x, r.referenceTypeId = NodeId.hasSubtype ∧ r.nodeId = t := by
  rw [ReferenceStore.referencesFrom_ofList]
  constructor
  · rintro ⟨r, hr, hty, ht⟩
    exact ⟨r, List.mem_map.2 ⟨(x, r), List.mem_filter.2 ⟨hr, by simp⟩, rfl⟩, hty, ht⟩
  · rintro ⟨r, hr, hty, ht⟩
    obtain ⟨⟨y, r'⟩, he, rfl⟩ := List.mem_map.1 hr
    obtain ⟨hmem, hy⟩ := List.mem_filter.1 he
    have hyx : y = x := by simpa using hy
    subst hyx
    exact ⟨r', hmem, hty, ht⟩

/-! ### Sets without repeats -/

theorem nodup_foldl_addNew {l acc : List NodeId} (h : acc.Nodup) : (l.foldl addNew acc).Nodup := by
  induction l generalizing acc with
  | nil => exact h
  | cons x xs ih =>
    apply ih
    unfold addNew
    split
    · exact h
    · rename_i hx
      refine List.nodup_append.2 ⟨h, List.nodup_cons.2 ⟨List.not_mem_nil, List.nodup_nil⟩, ?_⟩
      simpa using fun a ha (hax : a = x) => hx (hax ▸ ha)

theorem nodup_distinct (l : List NodeId) : (distinct l).Nodup :=
  nodup_foldl_addNew List.nodup_nil

/-! ### The passes -/

section Passes

variable {edges : List (NodeId × NodeId)}

/-- What holds between two passes: the frontier has been visited, and every visited node off
the frontier has had all its successors visited. -/
structure PassInvariant (edges : List (NodeId × NodeId)) (visited frontier : List NodeId) :
    Prop where
  frontier_visited : ∀ x ∈ frontier, x ∈ visited
  expanded : ∀ x ∈ visited, x ∉ frontier → ∀ t, (x, t) ∈ edges → t ∈ visited

/-- Before the first pass every visited node is on the frontier. -/
theorem passInvariant_start (visited : List NodeId) : PassInvariant edges visited visited :=
  ⟨fun _ hx => hx, fun _ hx hnx => absurd hx hnx⟩

/-- A successor of a frontier node is visited already or found by the pass. -/
theorem mem_of_frontier_edge {visited frontier : List NodeId} {x t : NodeId}
    (hx : x ∈ frontier) (he : (x, t) ∈ edges) :
    t ∈ visited ∨ t ∈ discover edges visited frontier := by
  by_cases ht : t ∈ visited
  · exact Or.inl ht
  · exact Or.inr (mem_discover.2 ⟨x, hx, he, ht⟩)

/-- **One pass keeps the invariant.** The old frontier leaves it with all its successors
visited or found, and the found nodes are the new frontier. -/
theorem PassInvariant.next {visited frontier : List NodeId}
    (h : PassInvariant edges visited frontier) :
    PassInvariant edges (visited ++ discover edges visited frontier)
      (discover edges visited frontier) := by
  constructor
  · intro x hx
    exact List.mem_append_right _ hx
  · intro x hx hnx t he
    rcases List.mem_append.1 hx with hv | hd
    · by_cases hf : x ∈ frontier
      · -- a node of the old frontier: this pass expanded it
        rcases mem_of_frontier_edge hf he with ht | ht
        · exact List.mem_append_left _ ht
        · exact List.mem_append_right _ ht
      · exact List.mem_append_left _ (h.expanded x hv hf t he)
    · exact absurd hd hnx

/-- When a pass finds nothing, the visited nodes are closed under the edges. -/
theorem PassInvariant.closed {visited frontier : List NodeId}
    (h : PassInvariant edges visited frontier) (hnil : discover edges visited frontier = []) :
    ∀ x ∈ visited, ∀ t, (x, t) ∈ edges → t ∈ visited := by
  intro x hx t he
  by_cases hf : x ∈ frontier
  · rcases mem_of_frontier_edge hf he with ht | ht
    · exact ht
    · rw [hnil] at ht
      exact absurd ht List.not_mem_nil
  · exact h.expanded x hx hf t he

theorem subset_expand (visited frontier : List NodeId) :
    ∀ x ∈ visited, x ∈ expand edges visited frontier := by
  fun_induction expand edges visited frontier with
  | case1 visited frontier found hnil => exact fun _ hx => hx
  | case2 visited frontier found hfound ih => exact fun x hx => ih x (List.mem_append_left _ hx)

/-- The passes stop with the visited nodes closed under the edges. -/
theorem expand_closed {visited frontier : List NodeId} (h : PassInvariant edges visited frontier) :
    ∀ x ∈ expand edges visited frontier, ∀ t, (x, t) ∈ edges →
      t ∈ expand edges visited frontier := by
  fun_induction expand edges visited frontier with
  | case1 visited frontier found hnil => exact h.closed hnil
  | case2 visited frontier found hfound ih => exact ih h.next

/-- Every node the passes visit is reached by edges from a node visited at the start. -/
theorem reaches_of_mem_expand {visited frontier : List NodeId}
    (h : PassInvariant edges visited frontier) {t : NodeId} :
    t ∈ expand edges visited frontier →
      ∃ v ∈ visited, ReflTransGen (fun x y => (x, y) ∈ edges) v t := by
  fun_induction expand edges visited frontier with
  | case1 visited frontier found hnil => exact fun ht => ⟨t, ht, ReflTransGen.refl⟩
  | case2 visited frontier found hfound ih =>
    intro ht
    obtain ⟨v, hv, hvt⟩ := ih h.next ht
    rcases List.mem_append.1 hv with hv | hd
    · exact ⟨v, hv, hvt⟩
    · -- a found node is a successor of the frontier, which was visited
      obtain ⟨x, hx, he, -⟩ := mem_discover.1 hd
      exact ⟨x, h.frontier_visited x hx, ReflTransGen.head he hvt⟩

/-- The passes visit exactly the nodes that edges reach from the nodes visited at the
start. -/
theorem mem_expand {visited frontier : List NodeId} (h : PassInvariant edges visited frontier)
    {t : NodeId} :
    t ∈ expand edges visited frontier ↔
      ∃ v ∈ visited, ReflTransGen (fun x y => (x, y) ∈ edges) v t := by
  constructor
  · exact reaches_of_mem_expand h
  · rintro ⟨v, hv, hvt⟩
    induction hvt with
    | refl => exact subset_expand visited frontier v hv
    | tail _ he ih => exact expand_closed h _ ih _ he

/-- A pass adds each node it finds once, and only nodes not yet visited. -/
theorem nodup_expand {visited frontier : List NodeId} (h : visited.Nodup) :
    (expand edges visited frontier).Nodup := by
  fun_induction expand edges visited frontier with
  | case1 visited frontier found hnil => exact h
  | case2 visited frontier found hfound ih =>
    apply ih
    refine List.nodup_append.2 ⟨h, nodup_distinct _, ?_⟩
    intro a ha b hb hab
    subst hab
    obtain ⟨_, _, _, hnew⟩ := mem_discover.1 hb
    exact hnew ha

end Passes

/-! ### The closure -/

namespace ReferenceStore

/-- The closure holds exactly the nodes that chains of direct subtypes reach from a seed. -/
theorem mem_closure {store : ReferenceStore} {seeds : List NodeId} {t : NodeId} :
    t ∈ store.closure seeds ↔ ∃ s ∈ seeds, ReflTransGen (DirectSubtype store.entries) s t := by
  have hrel : (fun x y => (x, y) ∈ store.subtypeEdges) = DirectSubtype store.entries := by
    funext x y
    exact propext mem_subtypeEdges
  simp only [closure, sortNodeIds, List.mem_mergeSort, mem_expand (passInvariant_start _), hrel,
    mem_distinct]

theorem nodup_closure (store : ReferenceStore) (seeds : List NodeId) :
    (store.closure seeds).Nodup :=
  (List.mergeSort_perm _ _).nodup_iff.2 (nodup_expand (nodup_distinct seeds))

/-- **The subtype closure is the least closed set above the seeds.** It has no repeats; it
holds exactly the nodes reached from a seed by direct subtypes; it holds the seeds; it is
closed under direct subtypes, whatever the direction flag of the reference; and every set
that holds the seeds and is closed under direct subtypes holds all of it. -/
theorem closure_least_closed (store : ReferenceStore) (seeds : List NodeId) :
    (store.closure seeds).Nodup ∧
    (∀ t, t ∈ store.closure seeds ↔
      ∃ s ∈ seeds, ReflTransGen (DirectSubtype store.entries) s t) ∧
    (∀ s ∈ seeds, s ∈ store.closure seeds) ∧
    (∀ x ∈ store.closure seeds, ∀ t, DirectSubtype store.entries x t →
      t ∈ store.closure seeds) ∧
    ∀ X : Set NodeId, (∀ s ∈ seeds, s ∈ X) →
      (∀ x ∈ X, ∀ t, DirectSubtype store.entries x t → t ∈ X) →
      ∀ t ∈ store.closure seeds, t ∈ X := by
  refine ⟨nodup_closure store seeds, fun t => mem_closure, ?_, ?_, ?_⟩
  · intro s hs
    exact mem_closure.2 ⟨s, hs, ReflTransGen.refl⟩
  · intro x hx t hxt
    obtain ⟨s, hs, hsx⟩ := mem_closure.1 hx
    exact mem_closure.2 ⟨s, hs, hsx.tail hxt⟩
  · intro X hseeds hclosed t ht
    obtain ⟨s, hs, hst⟩ := mem_closure.1 ht
    clear ht
    -- follow the chain from its seed; each link stays in `X`
    induction hst with
    | refl => exact hseeds s hs
    | tail _ hlink ih => exact hclosed _ ih _ hlink

end ReferenceStore

/-! ### One more insert -/

section Insert

variable {l : List (NodeId × ReferenceDescription)} {s : NodeId} {r : ReferenceDescription}

theorem DirectSubtype.append {x t : NodeId} (l' : List (NodeId × ReferenceDescription))
    (h : DirectSubtype l x t) : DirectSubtype (l ++ l') x t := by
  obtain ⟨r, hr, hty, ht⟩ := h
  exact ⟨r, List.mem_append_left _ hr, hty, ht⟩

/-- More pairs reach at least as far. -/
theorem reaches_append {a t : NodeId} (l' : List (NodeId × ReferenceDescription))
    (h : ReflTransGen (DirectSubtype l) a t) : ReflTransGen (DirectSubtype (l ++ l')) a t :=
  ReflTransGen.mono (fun _ _ hlink => DirectSubtype.append l' hlink) _ _ h

/-- The direct subtypes after one more insert: the old ones, and the target of the new
reference when it is a `HasSubtype` reference. -/
theorem directSubtype_append_singleton {x t : NodeId} :
    DirectSubtype (l ++ [(s, r)]) x t ↔
      DirectSubtype l x t ∨ (x = s ∧ r.referenceTypeId = NodeId.hasSubtype ∧ r.nodeId = t) := by
  constructor
  · rintro ⟨r', hr', hty, ht⟩
    rcases List.mem_append.1 hr' with hl | hnew
    · exact Or.inl ⟨r', hl, hty, ht⟩
    · simp only [List.mem_singleton, Prod.mk.injEq] at hnew
      obtain ⟨rfl, rfl⟩ := hnew
      exact Or.inr ⟨rfl, hty, ht⟩
  · rintro (h | ⟨rfl, hty, ht⟩)
    · exact h.append _
    · exact ⟨r, by simp, hty, ht⟩

/-- An insert of a reference of another type than `HasSubtype` adds no direct subtype. -/
theorem directSubtype_append_of_ne (hr : r.referenceTypeId ≠ NodeId.hasSubtype) :
    DirectSubtype (l ++ [(s, r)]) = DirectSubtype l := by
  funext x t
  apply propext
  rw [directSubtype_append_singleton]
  constructor
  · rintro (h | ⟨-, hty, -⟩)
    · exact h
    · exact absurd hty hr
  · exact Or.inl

/-- A new link from a node that `a` does not reach changes nothing that `a` reaches. -/
theorem reaches_append_iff {a t : NodeId} (hs : ¬ ReflTransGen (DirectSubtype l) a s) :
    ReflTransGen (DirectSubtype (l ++ [(s, r)])) a t ↔ ReflTransGen (DirectSubtype l) a t := by
  constructor
  · intro h
    induction h with
    | refl => exact ReflTransGen.refl
    | tail _ hlink ih =>
      rcases directSubtype_append_singleton.1 hlink with hold | ⟨rfl, -, -⟩
      · exact ih.tail hold
      · -- the new link starts at `s`, which `a` does not reach
        exact absurd ih hs
  · exact reaches_append _

end Insert

end AddressSpace
