import AddressSpace.Attribute
import AddressSpace.Value

/-!
# Attribute records and the read and write services

Attribute values live in a flat list of records. A read of `(node, attribute)` returns the
value of the earliest record for exactly that pair, so later records for the pair are
shadowed; a pair without a record reads as `BadNotReadable`. Writing is not supported:
every write request is answered with `BadWriteNotSupported` and nothing changes.
-/

namespace AddressSpace

/-- One stored value of one attribute of one node. -/
structure AttributeRecord where
  /-- The node. -/
  nodeId : NodeId
  /-- The attribute. -/
  attributeId : AttributeId
  /-- The stored result. -/
  value : DataValue
deriving DecidableEq

/-- A request to read one attribute of one node. -/
structure ReadValueId where
  /-- The node. -/
  nodeId : NodeId
  /-- The attribute. -/
  attributeId : AttributeId
deriving DecidableEq

/-- A request to write one attribute of one node. -/
structure WriteValue where
  /-- The node. -/
  nodeId : NodeId
  /-- The attribute. -/
  attributeId : AttributeId
  /-- The value to write. -/
  value : DataValue
deriving DecidableEq

/-- Attribute records in the order they were added. -/
structure AttributeStore where
  /-- The records, oldest first. -/
  records : List AttributeRecord

namespace AttributeStore

/-- The store with no records. -/
def empty : AttributeStore := ⟨[]⟩

/-- Add a good value for `(n, a)`. -/
def addValue (st : AttributeStore) (n : NodeId) (a : AttributeId) (v : Variant) :
    AttributeStore :=
  ⟨st.records ++ [⟨n, a, .value v⟩]⟩

/-- The value of the earliest record for `(n, a)`, or `BadNotReadable`. -/
def getValue (st : AttributeStore) (n : NodeId) (a : AttributeId) : DataValue :=
  match st.records.find? (fun r => r.nodeId == n && r.attributeId == a) with
  | some r => r.value
  | none => DataValue.notReadable

/-- One result per request, in request order. -/
def read (st : AttributeStore) (reqs : List ReadValueId) : List DataValue :=
  reqs.map fun q => st.getValue q.nodeId q.attributeId

/-- One `BadWriteNotSupported` per request; the store is left as it is. -/
def write (_st : AttributeStore) (ws : List WriteValue) : List StatusCode :=
  ws.map fun _ => StatusCode.badWriteNotSupported

/-- The number of records. -/
def size (st : AttributeStore) : Nat := st.records.length

end AttributeStore

end AddressSpace
