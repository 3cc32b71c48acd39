import AddressSpace.NodeClass
import AddressSpace.Value

/-!
# References

A reference is a typed, directed edge from a source node to a target node. The source is
not part of the description: a store keys references by their source. Inverse edges are
never materialised, so a reference seen from its source is either forward or inverse.
-/

namespace AddressSpace

/-- A typed, directed reference, as seen from its source. -/
structure ReferenceDescription where
  /-- The reference type node, such as `Organizes` or `HasSubtype`. -/
  referenceTypeId : NodeId
  /-- Whether the edge points away from the source. -/
  isForward : Bool
  /-- The target node. -/
  nodeId : NodeId
  /-- The browse name of the target. -/
  browseName : QualifiedName
  /-- The display name of the target. -/
  displayName : LocalizedText
  /-- The class of the target, which class masks test. -/
  nodeClass : NodeClass
  /-- The type definition of the target, or the null id. -/
  typeDefinition : NodeId
deriving DecidableEq

end AddressSpace
