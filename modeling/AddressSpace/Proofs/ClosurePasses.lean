import Mathlib
import AddressSpace.Proofs.ClosureLaws
import AddressSpace.Standard

/-!
# The passes of the subtype closure

The closure is computed by a loop over two lists: the nodes visited so far and the frontier,
the nodes found by the last pass. While the frontier is not empty, a pass follows the subtype
edges out of the frontier and keeps, once each, the targets not yet visited; they are visited
and form the next frontier. This module runs that loop one pass at a time, as a state machine,
and proves what its termination rests on: a pass only finds new nodes, so no node is on two
frontiers, and each pass that is not the last one visits a node of the closure that was not
visited before.

* `PassState`, `PassState.next` — the state between passes, and one pass;
* `PassState.run` — the state after `k` passes from the seeds;
* `PassState.unseen` — the seeds and subtype targets not yet visited, whose number every pass
  that does not stop the loop lowers;
* `PassState.expand_run` — every pass leaves the result of the remaining passes unchanged, so
  the visited nodes at the stop are the closure (`PassState.sortNodeIds_visited_run`);
* **`closure_passes`** — a pass finds distinct, new nodes; no node is on two frontiers; the
  measure falls; and the loop stops, after at most one pass more than the closure has nodes
  besides the seeds (none for no seeds), with the closure visited.
-/

namespace AddressSpace

/-- One pass from an empty frontier finds nothing. -/
theorem discover_nil (edges : List (NodeId × NodeId)) (visited : List NodeId) :
    discover edges visited [] = [] :=
  List.eq_nil_iff_forall_not_mem.2 fun _ ht => by
    obtain ⟨x, hx, -⟩ := mem_discover.1 ht
    exact List.not_mem_nil hx

theorem expand_nil (edges : List (NodeId × NodeId)) (visited : List NodeId) :
    expand edges visited [] = visited := by
  rw [expand, if_pos (discover_nil edges visited)]

theorem distinct_eq_nil_iff {l : List NodeId} : distinct l = [] ↔ l = [] := by
  constructor
  · intro h
    exact List.eq_nil_iff_forall_not_mem.2 fun s hs => by simpa [h] using mem_distinct.2 hs
  · rintro rfl
    rfl

theorem length_distinct (l : List NodeId) : (distinct l).length = l.toFinset.card := by
  rw [← List.toFinset_card_of_nodup (nodup_distinct l)]
  congr 1
  ext t
  simp

/-- The loop's state between two passes. -/
structure PassState where
  /-- The nodes visited so far, in the order they were found. -/
  visited : List NodeId
  /-- The nodes found by the last pass, whose edges the next pass follows. -/
  frontier : List NodeId

namespace PassState

variable (edges : List (NodeId × NodeId))

/-- Before the first pass: the seeds, once each, are visited and on the frontier. -/
def start (seeds : List NodeId) : PassState := ⟨distinct seeds, distinct seeds⟩

/-- One pass: the targets found from the frontier are visited and form the next frontier.
From an empty frontier it finds nothing and changes nothing: the loop has stopped. -/
def next (st : PassState) : PassState :=
  ⟨st.visited ++ discover edges st.visited st.frontier, discover edges st.visited st.frontier⟩

/-- The state after `k` passes from the seeds. -/
def run (seeds : List NodeId) (k : Nat) : PassState := (next edges)^[k] (start seeds)

/-- The seeds and the subtype targets that are not visited yet. -/
def unseen (seeds : List NodeId) (st : PassState) : Finset NodeId :=
  (seeds ++ edges.map Prod.snd).toFinset \ st.visited.toFinset

variable {edges} {st : PassState} {seeds : List NodeId}

@[simp] theorem start_visited : (start seeds).visited = distinct seeds := rfl

@[simp] theorem start_frontier : (start seeds).frontier = distinct seeds := rfl

@[simp] theorem next_visited :
    (next edges st).visited = st.visited ++ (next edges st).frontier := rfl

@[simp] theorem next_frontier :
    (next edges st).frontier = discover edges st.visited st.frontier := rfl

@[simp] theorem run_zero : run edges seeds 0 = start seeds := rfl

theorem run_succ (k : Nat) : run edges seeds (k + 1) = next edges (run edges seeds k) :=
  Function.iterate_succ_apply' _ _ _

/-! ### One pass -/

/-- A pass finds each node once. -/
theorem nodup_frontier_next : (next edges st).frontier.Nodup :=
  nodup_distinct _

/-- A pass finds only nodes that were not visited before it. -/
theorem not_mem_visited_of_mem_frontier_next {t : NodeId} (ht : t ∈ (next edges st).frontier) :
    t ∉ st.visited := by
  obtain ⟨_, _, _, hnew⟩ := mem_discover.1 ht
  exact hnew

theorem nodup_visited_next (h : st.visited.Nodup) : (next edges st).visited.Nodup := by
  rw [next_visited]
  refine List.nodup_append.2 ⟨h, nodup_frontier_next, ?_⟩
  rintro a ha b hb rfl
  exact not_mem_visited_of_mem_frontier_next hb ha

/-- A pass that finds something visits a seed or subtype target that was not visited. -/
theorem card_unseen_next_lt (hne : (next edges st).frontier ≠ []) :
    (unseen edges seeds (next edges st)).card < (unseen edges seeds st).card := by
  obtain ⟨t, ht⟩ := List.exists_mem_of_ne_nil _ hne
  obtain ⟨x, _, hedge, hnew⟩ := mem_discover.1 ht
  apply Finset.card_lt_card
  -- the visited nodes only grow, and `t` is visited now and was not before
  have hsub : unseen edges seeds (next edges st) ⊆ unseen edges seeds st := by
    intro u hu
    simp only [unseen, Finset.mem_sdiff, List.mem_toFinset, next_visited, List.mem_append,
      not_or] at hu ⊢
    exact ⟨hu.1, hu.2.1⟩
  refine (Finset.ssubset_iff_of_subset hsub).2 ⟨t, ?_, ?_⟩
  · simp only [unseen, Finset.mem_sdiff, List.mem_toFinset, List.mem_append, List.mem_map]
    exact ⟨Or.inr ⟨(x, t), hedge, rfl⟩, hnew⟩
  · intro hu
    simp only [unseen, Finset.mem_sdiff, List.mem_toFinset, next_visited, List.mem_append] at hu
    exact hu.2 (Or.inr ht)

/-- A pass leaves the result of the passes after it unchanged. -/
theorem expand_next :
    expand edges (next edges st).visited (next edges st).frontier =
      expand edges st.visited st.frontier := by
  rw [expand.eq_1 edges st.visited st.frontier]
  split
  · -- the pass found nothing: the loop stops on both sides
    rename_i hnil
    rw [next_visited, next_frontier, hnil, List.append_nil, expand_nil]
  · rfl

/-! ### The passes from the seeds -/

theorem nodup_visited_run (k : Nat) : (run edges seeds k).visited.Nodup := by
  induction k with
  | zero => exact nodup_distinct seeds
  | succ k ih => rw [run_succ]; exact nodup_visited_next ih

theorem frontier_subset_visited_run (k : Nat) :
    (run edges seeds k).frontier ⊆ (run edges seeds k).visited := by
  cases k with
  | zero => exact fun _ h => h
  | succ k =>
    rw [run_succ, next_visited]
    exact List.subset_append_right _ _

theorem visited_run_mono {j k : Nat} (h : j ≤ k) :
    (run edges seeds j).visited ⊆ (run edges seeds k).visited := by
  induction k, h using Nat.le_induction with
  | base => exact fun _ h => h
  | succ k _ ih =>
    rw [run_succ, next_visited]
    exact List.Subset.trans ih (List.subset_append_left _ _)

/-- No node is on the frontiers of two passes. -/
theorem eq_of_mem_frontier_run {j k : Nat} {t : NodeId} (hj : t ∈ (run edges seeds j).frontier)
    (hk : t ∈ (run edges seeds k).frontier) : j = k := by
  -- a node on a later frontier was not visited by the pass before, which saw the earlier one
  have hlater : ∀ {a b : Nat}, a < b → t ∈ (run edges seeds a).frontier →
      t ∉ (run edges seeds b).frontier := by
    intro a b hab ha hb
    obtain ⟨c, rfl⟩ : ∃ c, b = c + 1 := ⟨b - 1, by omega⟩
    rw [run_succ] at hb
    exact not_mem_visited_of_mem_frontier_next hb
      (visited_run_mono (by omega) (frontier_subset_visited_run a ha))
  rcases Nat.lt_trichotomy j k with hjk | rfl | hkj
  · exact absurd hk (hlater hjk hj)
  · rfl
  · exact absurd hj (hlater hkj hk)

/-- Each pass keeps the result of the whole loop. -/
theorem expand_run (k : Nat) :
    expand edges (run edges seeds k).visited (run edges seeds k).frontier =
      expand edges (distinct seeds) (distinct seeds) := by
  induction k with
  | zero => rfl
  | succ k ih => rw [run_succ, expand_next, ih]

/-- The nodes a run visits lie in the closure. -/
theorem visited_run_subset_closure {store : ReferenceStore} (k : Nat) :
    (run store.subtypeEdges seeds k).visited ⊆ store.closure seeds := by
  intro t ht
  have hmem : t ∈ expand store.subtypeEdges (run store.subtypeEdges seeds k).visited
      (run store.subtypeEdges seeds k).frontier :=
    subset_expand _ _ t ht
  rw [expand_run] at hmem
  exact mem_sortNodeIds.2 hmem

/-- Once the loop has stopped, the nodes it visited are the closure. -/
theorem sortNodeIds_visited_run {store : ReferenceStore} {k : Nat}
    (hstop : (run store.subtypeEdges seeds k).frontier = []) :
    sortNodeIds (run store.subtypeEdges seeds k).visited = store.closure seeds := by
  -- the loop's result does not change from pass to pass, and at the stop it is the visited list
  have hvisited : (run store.subtypeEdges seeds k).visited =
      expand store.subtypeEdges (distinct seeds) (distinct seeds) := by
    rw [← expand_run k, hstop, expand_nil]
  rw [hvisited]
  rfl

/-- Passes that all find something visit one node more each. -/
theorem length_visited_run (k : Nat)
    (hfound : ∀ i, 1 ≤ i → i ≤ k → (run edges seeds i).frontier ≠ []) :
    (distinct seeds).length + k ≤ (run edges seeds k).visited.length := by
  induction k with
  | zero => simp
  | succ k ih =>
    have hold := ih fun i h1 h2 => hfound i h1 (by omega)
    have hnew := List.length_pos_of_ne_nil (hfound (k + 1) (by omega) le_rfl)
    rw [run_succ] at hnew ⊢
    rw [next_visited, List.length_append]
    omega

/-- While every pass after the first finds something, the passes are no more than the nodes
of the closure besides the seeds. -/
theorem le_card_of_frontier_run (store : ReferenceStore) {k : Nat}
    (hfound : ∀ i, 1 ≤ i → i ≤ k → (run store.subtypeEdges seeds i).frontier ≠ []) :
    k ≤ ((store.closure seeds).toFinset \ seeds.toFinset).card := by
  -- count the visited nodes as a set: the seeds and `k` more, all in the closure
  have hlen := length_visited_run k hfound
  rw [length_distinct] at hlen
  have hvisited : (run store.subtypeEdges seeds k).visited.toFinset.card =
      (run store.subtypeEdges seeds k).visited.length :=
    List.toFinset_card_of_nodup (nodup_visited_run k)
  have hle : (run store.subtypeEdges seeds k).visited.toFinset.card ≤
      (store.closure seeds).toFinset.card :=
    Finset.card_le_card fun t ht =>
      List.mem_toFinset.2 (visited_run_subset_closure k (List.mem_toFinset.1 ht))
  have hsub : seeds.toFinset ⊆ (store.closure seeds).toFinset := fun t ht =>
    List.mem_toFinset.2 (ReferenceStore.subset_closure store seeds (List.mem_toFinset.1 ht))
  rw [Finset.card_sdiff_of_subset hsub]
  omega

/-- The loop stops: some pass leaves the frontier empty. -/
theorem exists_frontier_run_eq_nil (store : ReferenceStore) (seeds : List NodeId) :
    ∃ n, (run store.subtypeEdges seeds n).frontier = [] := by
  by_contra hnone
  -- otherwise every pass finds something, more passes than the closure has room for
  have hle := le_card_of_frontier_run store
    (k := ((store.closure seeds).toFinset \ seeds.toFinset).card + 1) fun i _ _ hi =>
      hnone ⟨i, hi⟩
  omega

end PassState

namespace ReferenceStore

open PassState

/-- **The passes of the subtype closure.** Each pass finds nodes once each, none of them
visited before it, so no node is on two frontiers; each pass after which the loop goes on
visits one more of the seeds and subtype targets; and the loop stops after `n` passes, the
first `n` with an empty frontier, with `n` at most one more than the number of closure nodes
that are not seeds, `n = 0` exactly for no seeds, and the closure visited. -/
theorem closure_passes (store : ReferenceStore) (seeds : List NodeId) :
    (∀ k, (run store.subtypeEdges seeds (k + 1)).frontier.Nodup ∧
      ∀ t ∈ (run store.subtypeEdges seeds (k + 1)).frontier,
        t ∉ (run store.subtypeEdges seeds k).visited) ∧
    (∀ j k t, t ∈ (run store.subtypeEdges seeds j).frontier →
      t ∈ (run store.subtypeEdges seeds k).frontier → j = k) ∧
    (∀ k, (run store.subtypeEdges seeds (k + 1)).frontier ≠ [] →
      (unseen store.subtypeEdges seeds (run store.subtypeEdges seeds (k + 1))).card <
        (unseen store.subtypeEdges seeds (run store.subtypeEdges seeds k)).card) ∧
    ∃ n, (run store.subtypeEdges seeds n).frontier = [] ∧
      (∀ k < n, (run store.subtypeEdges seeds k).frontier ≠ []) ∧
      n ≤ ((store.closure seeds).toFinset \ seeds.toFinset).card + 1 ∧
      (n = 0 ↔ seeds = []) ∧
      sortNodeIds (run store.subtypeEdges seeds n).visited = store.closure seeds := by
  have hex := exists_frontier_run_eq_nil store seeds
  have hstop := Nat.find_spec hex
  refine ⟨fun k => ?_, fun j k t => eq_of_mem_frontier_run, fun k => ?_, Nat.find hex, hstop,
    fun k hk => Nat.find_min hex hk, ?_, ?_, ?_⟩
  · rw [run_succ]
    exact ⟨nodup_frontier_next, fun t => not_mem_visited_of_mem_frontier_next⟩
  · rw [run_succ]
    exact card_unseen_next_lt
  · -- every pass before the last one found something
    cases hn : Nat.find hex with
    | zero => omega
    | succ m =>
      have hle := le_card_of_frontier_run store (k := m) fun i _ _ =>
        Nat.find_min hex (by omega)
      omega
  · -- no pass at all exactly when the seeds give an empty frontier
    rw [Nat.find_eq_zero hex, run_zero, start_frontier]
    exact distinct_eq_nil_iff
  · exact sortNodeIds_visited_run hstop

/-- On the standard namespace from `References`: the first pass finds the two direct subtypes,
so the loop goes on, having visited one more of the seeds and subtype targets. -/
theorem closure_passes_standard :
    (run (ofList standardReferences).subtypeEdges [WellKnown.references.nodeId] 1).frontier ≠
      [] ∧
    (unseen (ofList standardReferences).subtypeEdges [WellKnown.references.nodeId]
        (run (ofList standardReferences).subtypeEdges [WellKnown.references.nodeId] 1)).card <
      (unseen (ofList standardReferences).subtypeEdges [WellKnown.references.nodeId]
        (run (ofList standardReferences).subtypeEdges [WellKnown.references.nodeId] 0)).card := by
  have hfound :
      (run (ofList standardReferences).subtypeEdges [WellKnown.references.nodeId] 1).frontier ≠
        [] := by
    decide
  exact ⟨hfound, (closure_passes _ _).2.2.1 0 hfound⟩

end ReferenceStore

end AddressSpace
