import AddressSpace.Store
import AddressSpace.NodeId.WellKnown

/-!
# The subtype closure

The reference types below a type are found by following `HasSubtype` references from it,
whatever their direction flag. The closure of a set of seeds is the seeds and every node
that such references reach from them.

It is computed in passes: each pass collects, once each, the targets of subtype edges
from the nodes found by the pass before that are not yet visited, and the passes stop
when one finds nothing. Each pass that goes on visits at least one more target of a
subtype edge, so the number of unvisited targets is the measure that ends the loop, on
cyclic data too.

* `ReferenceStore.subtypeEdges` — the (source, target) pairs of the subtype references;
* `ReferenceStore.closure` — the closure, sorted in node id order, without repeats.
-/

namespace AddressSpace

/-- Append `t` unless it is already there. -/
def addNew (acc : List NodeId) (t : NodeId) : List NodeId :=
  if t ∈ acc then acc else acc ++ [t]

/-- The members of a list, once each, in order of first occurrence. -/
def distinct (l : List NodeId) : List NodeId := l.foldl addNew []

theorem mem_foldl_addNew {l acc : List NodeId} {t : NodeId} :
    t ∈ l.foldl addNew acc ↔ t ∈ acc ∨ t ∈ l := by
  induction l generalizing acc with
  | nil => simp
  | cons x xs ih =>
    simp only [List.foldl_cons, ih, addNew, List.mem_cons]
    by_cases hx : x ∈ acc
    · simp only [hx, if_true]
      constructor
      · rintro (h | h)
        · exact Or.inl h
        · exact Or.inr (Or.inr h)
      · rintro (h | h | h)
        · exact Or.inl h
        · exact Or.inl (h ▸ hx)
        · exact Or.inr h
    · simp only [hx, if_false, List.mem_append, List.mem_singleton]
      constructor
      · rintro ((h | h) | h)
        · exact Or.inl h
        · exact Or.inr (Or.inl h)
        · exact Or.inr (Or.inr h)
      · rintro (h | h | h)
        · exact Or.inl (Or.inl h)
        · exact Or.inl (Or.inr h)
        · exact Or.inr h

@[simp] theorem mem_distinct {l : List NodeId} {t : NodeId} : t ∈ distinct l ↔ t ∈ l := by
  simp [distinct, mem_foldl_addNew]

/-- Filtering by a stronger test keeps fewer members, and strictly fewer when a member
passes the weaker test only. -/
theorem length_filter_lt {l : List NodeId} {p q : NodeId → Bool} (hqp : ∀ a, q a → p a)
    {t : NodeId} (ht : t ∈ l) (hp : p t) (hq : q t = false) :
    (l.filter q).length < (l.filter p).length := by
  induction l with
  | nil => simp at ht
  | cons x xs ih =>
    have hle : ∀ m : List NodeId, (m.filter q).length ≤ (m.filter p).length := by
      intro m
      induction m with
      | nil => simp
      | cons y ys ihm =>
        by_cases hy : q y
        · simp [hy, hqp y hy, ihm]
        · by_cases hpy : p y
          · simp only [List.filter_cons, hy, hpy, if_true, List.length_cons]
            simp only [Bool.false_eq_true, if_false]
            omega
          · simp [hy, hpy, ihm]
    rcases List.mem_cons.1 ht with rfl | hxs
    · simp only [List.filter_cons, hq, hp]
      simp only [Bool.false_eq_true, if_false, if_true, List.length_cons]
      have := hle xs
      omega
    · have := ih hxs
      by_cases hqx : q x
      · simp [hqx, hqp x hqx]
        omega
      · by_cases hpx : p x
        · simp only [List.filter_cons, hqx, hpx, if_true, List.length_cons]
          simp only [Bool.false_eq_true, if_false]
          omega
        · simp [hqx, hpx]
          omega

namespace ReferenceStore

/-- The (source, target) pairs of the `HasSubtype` references, in insertion order. -/
def subtypeEdges (store : ReferenceStore) : List (NodeId × NodeId) :=
  store.entries.filterMap fun e =>
    if e.2.referenceTypeId = NodeId.hasSubtype then some (e.1, e.2.nodeId) else none

end ReferenceStore

/-- One pass: the targets of edges from the frontier that are not yet visited, once each. -/
def discover (edges : List (NodeId × NodeId)) (visited frontier : List NodeId) : List NodeId :=
  distinct ((edges.filter fun e => e.1 ∈ frontier ∧ e.2 ∉ visited).map (·.2))

theorem mem_discover {edges : List (NodeId × NodeId)} {visited frontier : List NodeId}
    {t : NodeId} :
    t ∈ discover edges visited frontier ↔
      ∃ x ∈ frontier, (x, t) ∈ edges ∧ t ∉ visited := by
  simp only [discover, mem_distinct, List.mem_map, List.mem_filter, decide_eq_true_eq]
  constructor
  · rintro ⟨⟨x, y⟩, ⟨he, hx, hy⟩, rfl⟩
    exact ⟨x, hx, he, hy⟩
  · rintro ⟨x, hx, he, ht⟩
    exact ⟨(x, t), ⟨he, hx, ht⟩, rfl⟩

/-- The number of edge targets, with repeats, not yet visited. -/
def unvisited (edges : List (NodeId × NodeId)) (visited : List NodeId) : Nat :=
  ((edges.map (·.2)).filter fun t => t ∉ visited).length

theorem unvisited_lt {edges : List (NodeId × NodeId)} {visited frontier : List NodeId}
    (h : discover edges visited frontier ≠ []) :
    unvisited edges (visited ++ discover edges visited frontier) < unvisited edges visited := by
  obtain ⟨t, ht⟩ := List.exists_mem_of_ne_nil _ h
  obtain ⟨x, _, he, hv⟩ := mem_discover.1 ht
  unfold unvisited
  apply length_filter_lt (t := t)
  · intro a ha
    simp only [List.mem_append, not_or, decide_eq_true_eq] at ha ⊢
    exact ha.1
  · exact List.mem_map.2 ⟨(x, t), he, rfl⟩
  · simpa using hv
  · simp [ht]

/-- Visit passes until one finds nothing new; the visited nodes at that point. -/
def expand (edges : List (NodeId × NodeId)) (visited frontier : List NodeId) : List NodeId :=
  let found := discover edges visited frontier
  if found = [] then visited else expand edges (visited ++ found) found
termination_by unvisited edges visited
decreasing_by exact unvisited_lt (by assumption)

/-- Node ids in ascending order. -/
def sortNodeIds (l : List NodeId) : List NodeId :=
  l.mergeSort fun a b => compare a b != .gt

namespace ReferenceStore

/-- The seeds and every node that subtype references reach from them, in ascending
node id order, without repeats. -/
def closure (store : ReferenceStore) (seeds : List NodeId) : List NodeId :=
  let start := distinct seeds
  sortNodeIds (expand store.subtypeEdges start start)

end ReferenceStore

end AddressSpace
