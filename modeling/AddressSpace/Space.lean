import AddressSpace.Browse
import AddressSpace.AttributeStore

/-!
# Address spaces

An address space holds a reference store and an attribute store, and answers the four
services: browse, browse-next, read and write. Its snapshot lists every reference with
its source in insertion order, then every attribute record in the order it was added.
-/

namespace AddressSpace

/-- A populated address space. -/
structure Space where
  /-- The references. -/
  references : ReferenceStore
  /-- The attribute records. -/
  attributes : AttributeStore

/-- A reference together with its source node. -/
structure SnapshotReference where
  /-- The source node. -/
  source : NodeId
  /-- The reference. -/
  reference : ReferenceDescription
deriving DecidableEq

/-- The image of an address space: references and attribute records in order. -/
structure Snapshot where
  /-- Every reference with its source, in insertion order. -/
  references : List SnapshotReference
  /-- Every attribute record, in the order added. -/
  attributes : List AttributeRecord
deriving DecidableEq

namespace Space

/-- The space with no references and no attributes. -/
def empty : Space := ⟨ReferenceStore.empty, AttributeStore.empty⟩

/-- Add a reference from `s`. -/
def insert (sp : Space) (s : NodeId) (r : ReferenceDescription) : Space :=
  { sp with references := sp.references.insert s r }

/-- Add a good value for `(n, a)`. -/
def addValue (sp : Space) (n : NodeId) (a : AttributeId) (v : Variant) : Space :=
  { sp with attributes := sp.attributes.addValue n a v }

/-- The references of a node that pass the query's filters. -/
def browse (sp : Space) (q : BrowseDescription) : List ReferenceDescription :=
  sp.references.browse q

/-- The continuation of a paged browse: paging is not done, so nothing is left. -/
def browseNext (_sp : Space) : List ReferenceDescription := []

/-- Read attributes; one result per request. -/
def read (sp : Space) (reqs : List ReadValueId) : List DataValue :=
  sp.attributes.read reqs

/-- Write attributes; one status per request. -/
def write (sp : Space) (ws : List WriteValue) : List StatusCode :=
  sp.attributes.write ws

/-- The snapshot of the space. -/
def snapshot (sp : Space) : Snapshot :=
  ⟨sp.references.entries.map fun e => ⟨e.1, e.2⟩, sp.attributes.records⟩

end Space

end AddressSpace
