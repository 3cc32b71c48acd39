import AddressSpace.Reference

/-!
# The reference store

References live in one list in insertion order, each with its source; an index maps each
source to the positions of its references, ascending. Nothing is deduplicated or
validated, so targets may dangle.

* `ReferenceStore.insert` — append a reference and record its position under its source;
* `ReferenceStore.referencesFrom` — the references of a source in insertion order, read
  through the index; empty for a source never seen;
* `ReferenceStore.ofList` — the store that a list of inserts builds.
-/

namespace AddressSpace

/-- References in insertion order, indexed by source. -/
structure ReferenceStore where
  /-- Every inserted pair of source and reference, oldest first. -/
  entries : List (NodeId × ReferenceDescription)
  /-- For each source met so far, the positions of its references in `entries`. -/
  index : List (NodeId × List Nat)

namespace ReferenceStore

/-- The store with no references. -/
def empty : ReferenceStore := ⟨[], []⟩

/-- Record position `i` as the newest one of source `s`. -/
def indexInsert : List (NodeId × List Nat) → NodeId → Nat → List (NodeId × List Nat)
  | [], s, i => [(s, [i])]
  | (t, ps) :: rest, s, i =>
    if t = s then (t, ps ++ [i]) :: rest else (t, ps) :: indexInsert rest s i

/-- The positions that the index holds for source `s`. -/
def positions (store : ReferenceStore) (s : NodeId) : List Nat :=
  ((store.index.find? (·.1 == s)).map (·.2)).getD []

/-- Append a reference from `s`. -/
def insert (store : ReferenceStore) (s : NodeId) (r : ReferenceDescription) : ReferenceStore :=
  ⟨store.entries ++ [(s, r)], indexInsert store.index s store.entries.length⟩

/-- The references from `s`, in insertion order. -/
def referencesFrom (store : ReferenceStore) (s : NodeId) : List ReferenceDescription :=
  (store.positions s).filterMap fun i => store.entries[i]?.map (·.2)

/-- The number of references stored. -/
def size (store : ReferenceStore) : Nat := store.entries.length

/-- The store built by inserting the pairs of a list in order. -/
def ofList (l : List (NodeId × ReferenceDescription)) : ReferenceStore :=
  l.foldl (fun st e => st.insert e.1 e.2) empty

end ReferenceStore

end AddressSpace
