import Mathlib
import AddressSpace.Store

/-!
# The index of the reference store stays exact

A reference store keeps two structures in step: the list of every inserted pair, and an
index from each source to the positions of its references. Every read goes through the
index, so the store answers correctly only while the index is exact: for every source it
holds, in ascending order, precisely the positions whose pair has that source. An insert
reads the position before it appends the pair, and the two updates have to agree on it.

* `ReferenceStore.sourcePositions` — the positions of one source's pairs, read off the pairs
  alone;
* `ReferenceStore.IndexExact` — the index agrees with `sourcePositions` for every source;
* `indexExact_ofList` — every store built by inserts has an exact index, since the empty
  store has one and an insert keeps it;
* **`ofList_index_exact`** — for a store built by inserts: the index lists, strictly
  ascending, exactly the in-bounds positions of each source; the store keeps every pair in
  insertion order and counts them; `referencesFrom` yields the references of one source in
  insertion order, empty exactly for a source never inserted; and one more insert appends to
  its own source and leaves every other source as it was.
-/

namespace AddressSpace

namespace ReferenceStore

/-! ### What one insert does -/

@[simp] theorem entries_insert (store : ReferenceStore) (s : NodeId) (r : ReferenceDescription) :
    (store.insert s r).entries = store.entries ++ [(s, r)] := rfl

@[simp] theorem size_insert (store : ReferenceStore) (s : NodeId) (r : ReferenceDescription) :
    (store.insert s r).size = store.size + 1 := by
  simp [size]

@[simp] theorem ofList_nil : ofList [] = empty := rfl

theorem ofList_append_singleton (l : List (NodeId × ReferenceDescription)) (s : NodeId)
    (r : ReferenceDescription) : ofList (l ++ [(s, r)]) = (ofList l).insert s r := by
  simp [ofList, List.foldl_append]

/-- Recording position `i` under `s` adds it last among the positions of `s`, and changes no
other source. -/
theorem lookup_indexInsert (idx : List (NodeId × List Nat)) (s t : NodeId) (i : Nat) :
    (((indexInsert idx s i).find? (·.1 == t)).map (·.2)).getD [] =
      ((idx.find? (·.1 == t)).map (·.2)).getD [] ++ if t = s then [i] else [] := by
  induction idx with
  | nil =>
    by_cases h : t = s
    · simp [indexInsert, h]
    · simp [indexInsert, h, Ne.symm h]
  | cons e rest ih =>
    obtain ⟨u, ps⟩ := e
    by_cases hu : u = s
    · -- the entry of `s` is the one that grows
      subst hu
      by_cases ht : t = u
      · simp [indexInsert, ht]
      · simp [indexInsert, Ne.symm ht, ht]
    · by_cases ht : u = t
      · subst ht
        simp [indexInsert, hu]
      · simp [indexInsert, hu, ht, ih]

theorem positions_insert (store : ReferenceStore) (s : NodeId) (r : ReferenceDescription)
    (t : NodeId) :
    (store.insert s r).positions t =
      store.positions t ++ if t = s then [store.entries.length] else [] :=
  lookup_indexInsert store.index s t store.entries.length

/-! ### The exact index -/

/-- The positions, ascending, of the pairs whose source is `t`. -/
def sourcePositions (entries : List (NodeId × ReferenceDescription)) (t : NodeId) : List Nat :=
  (List.range entries.length).filter fun i => entries[i]?.map Prod.fst == some t

theorem mem_sourcePositions {entries : List (NodeId × ReferenceDescription)} {t : NodeId}
    {i : Nat} :
    i ∈ sourcePositions entries t ↔ i < entries.length ∧ entries[i]?.map Prod.fst = some t := by
  simp [sourcePositions, List.mem_filter, List.mem_range]

theorem sourcePositions_pairwise (entries : List (NodeId × ReferenceDescription)) (t : NodeId) :
    (sourcePositions entries t).Pairwise (· < ·) :=
  List.pairwise_lt_range.filter _

/-- Appending a pair from `s` adds its position last among those of `s`. -/
theorem sourcePositions_append_singleton (entries : List (NodeId × ReferenceDescription))
    (s t : NodeId) (r : ReferenceDescription) :
    sourcePositions (entries ++ [(s, r)]) t =
      sourcePositions entries t ++ if t = s then [entries.length] else [] := by
  unfold sourcePositions
  rw [List.length_append, List.length_singleton, List.range_succ, List.filter_append]
  congr 1
  · -- below the new position the pairs are the old ones
    apply List.filter_congr
    intro i hi
    rw [List.getElem?_append_left (List.mem_range.1 hi)]
  · by_cases h : t = s
    · simp [h]
    · simp [Ne.symm h, h]

/-- The index of a store is exact: for every source it holds the positions of that source's
pairs, ascending. -/
def IndexExact (store : ReferenceStore) : Prop :=
  ∀ t, store.positions t = sourcePositions store.entries t

theorem indexExact_empty : empty.IndexExact := by
  intro t
  simp [empty, positions, sourcePositions]

/-- **An insert keeps the index exact.** The position it records is the length of the pairs
before the append, which is where the appended pair lands. -/
theorem IndexExact.insert {store : ReferenceStore} (h : store.IndexExact) (s : NodeId)
    (r : ReferenceDescription) : (store.insert s r).IndexExact := by
  intro t
  rw [positions_insert, h t, entries_insert, sourcePositions_append_singleton]

theorem indexExact_ofList (l : List (NodeId × ReferenceDescription)) : (ofList l).IndexExact := by
  induction l using List.reverseRecOn with
  | nil => exact indexExact_empty
  | append_singleton l e ih =>
    rw [ofList_append_singleton]
    exact ih.insert e.1 e.2

@[simp] theorem entries_ofList (l : List (NodeId × ReferenceDescription)) :
    (ofList l).entries = l := by
  induction l using List.reverseRecOn with
  | nil => rfl
  | append_singleton l e ih => rw [ofList_append_singleton, entries_insert, ih]

theorem IndexExact.lt_length {store : ReferenceStore} (h : store.IndexExact) {t : NodeId}
    {i : Nat} (hi : i ∈ store.positions t) : i < store.entries.length := by
  rw [h t] at hi
  exact (mem_sourcePositions.1 hi).1

/-! ### Reading through the index -/

/-- Under an exact index, an insert from `s` appends its reference to the references of `s`
and to no other source's. -/
theorem IndexExact.referencesFrom_insert {store : ReferenceStore} (h : store.IndexExact)
    (s : NodeId) (r : ReferenceDescription) (t : NodeId) :
    (store.insert s r).referencesFrom t = store.referencesFrom t ++ if t = s then [r] else [] := by
  unfold referencesFrom
  rw [positions_insert, List.filterMap_append]
  congr 1
  · -- every recorded position is in bounds, so the append does not move what it reads
    apply List.filterMap_congr
    intro i hi
    rw [entries_insert, List.getElem?_append_left (h.lt_length hi)]
  · by_cases ht : t = s <;> simp [ht]

/-- The references of a source, read through the index, are the references inserted with it,
in insertion order. -/
theorem referencesFrom_ofList (l : List (NodeId × ReferenceDescription)) (t : NodeId) :
    (ofList l).referencesFrom t = (l.filter (·.1 == t)).map Prod.snd := by
  induction l using List.reverseRecOn with
  | nil => simp [referencesFrom, empty]
  | append_singleton l e ih =>
    obtain ⟨s, r⟩ := e
    rw [ofList_append_singleton, (indexExact_ofList l).referencesFrom_insert, ih]
    by_cases ht : t = s
    · simp [ht]
    · simp [ht, Ne.symm ht]

/-- **The index invariant of a store built by inserts.** For each source the index holds,
strictly ascending, exactly the in-bounds positions of that source's pairs. The store keeps
every pair in insertion order and counts them. The references of a source are the ones
inserted with it, in insertion order and with repeats, and there are none exactly when the
source was never inserted. One more insert from `s` appends its reference to `s` and changes
no other source. -/
theorem ofList_index_exact (l : List (NodeId × ReferenceDescription)) :
    (∀ t, ((ofList l).positions t).Pairwise (· < ·) ∧
      ∀ i, i ∈ (ofList l).positions t ↔ i < l.length ∧ l[i]?.map Prod.fst = some t) ∧
    (ofList l).entries = l ∧ (ofList l).size = l.length ∧
    (∀ t, (ofList l).referencesFrom t = (l.filter (·.1 == t)).map Prod.snd) ∧
    (∀ t, (ofList l).referencesFrom t = [] ↔ ∀ e ∈ l, e.1 ≠ t) ∧
    ∀ s r t, ((ofList l).insert s r).referencesFrom t =
      (ofList l).referencesFrom t ++ if t = s then [r] else [] := by
  have hexact := indexExact_ofList l
  -- the index holds `sourcePositions`, which is ascending and in bounds by construction
  have hpositions : ∀ t, ((ofList l).positions t).Pairwise (· < ·) ∧
      ∀ i, i ∈ (ofList l).positions t ↔ i < l.length ∧ l[i]?.map Prod.fst = some t := by
    intro t
    rw [hexact t, entries_ofList]
    exact ⟨sourcePositions_pairwise l t, fun i => mem_sourcePositions⟩
  have hsize : (ofList l).size = l.length := by
    rw [size, entries_ofList]
  have hempty : ∀ t, (ofList l).referencesFrom t = [] ↔ ∀ e ∈ l, e.1 ≠ t := by
    intro t
    rw [referencesFrom_ofList]
    simp
  exact ⟨hpositions, entries_ofList l, hsize, referencesFrom_ofList l, hempty,
    fun s r t => hexact.referencesFrom_insert s r t⟩

end ReferenceStore

end AddressSpace
