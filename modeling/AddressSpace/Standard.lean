import AddressSpace.Space

/-!
# The standard namespace

The bootstrap taxonomy every server shares: the root folder and its children, and the
reference-type hierarchy below `References`. The order of the inserts is fixed, since a
snapshot shows it.

* `standardReferences` — the fifteen references in order;
* `rootAttributes` — the seven attribute records of the root folder;
* `Space.standard` — the namespace, with or without the root attributes.
-/

namespace AddressSpace

namespace Standard

/-- A forward reference between well-known nodes, both names the given one. -/
def link (source type target : WellKnown) (name : String) (cls : NodeClass)
    (typeDefinition : NodeId) : NodeId × ReferenceDescription :=
  (source.nodeId,
    { referenceTypeId := type.nodeId, isForward := true, nodeId := target.nodeId,
      browseName := ⟨0, name⟩, displayName := LocalizedText.plain name, nodeClass := cls,
      typeDefinition := typeDefinition })

/-- The node `source` has the folder type as its type definition, under the given browse name. -/
def folderTypeOf (source : WellKnown) (name : String) : NodeId × ReferenceDescription :=
  link source .hasTypeDefinition .folderType name .objectType NodeId.null

/-- The node `source` organizes the folder `target`. -/
def folder (source target : WellKnown) : NodeId × ReferenceDescription :=
  link source .organizes target target.browseName .object WellKnown.folderType.nodeId

/-- The node `target` is a subtype of the reference type `source`. -/
def subtype (source target : WellKnown) : NodeId × ReferenceDescription :=
  link source .hasSubtype target target.browseName .referenceType NodeId.null

end Standard

open Standard in
/-- The fifteen references of the standard namespace, in insertion order. -/
def standardReferences : List (NodeId × ReferenceDescription) :=
  [ folderTypeOf .rootFolder WellKnown.folderType.browseName,
    folder .rootFolder .objectsFolder,
    folder .rootFolder .typesFolder,
    folder .rootFolder .viewsFolder,
    folderTypeOf .typesFolder WellKnown.folderType.browseName,
    folder .typesFolder .referenceTypesFolder,
    -- the browse name is the folder's own here, not the folder type's
    folderTypeOf .referenceTypesFolder WellKnown.referenceTypesFolder.browseName,
    link .referenceTypesFolder .organizes .references WellKnown.references.browseName
      .referenceType NodeId.null,
    subtype .references .hierarchicalReferences,
    subtype .references .nonHierarchicalReferences,
    subtype .hierarchicalReferences .hasChild,
    subtype .hierarchicalReferences .hasEventSource,
    subtype .hierarchicalReferences .organizes,
    subtype .hasChild .aggregates,
    subtype .hasChild .hasSubtype ]

/-- The attribute records of the root folder, in the order they are added. -/
def rootAttributes : List AttributeRecord :=
  let root := WellKnown.rootFolder.nodeId
  [ ⟨root, .nodeId, .value (.nodeId root)⟩,
    ⟨root, .nodeClass, .value (.uint32 NodeClass.object.bits)⟩,
    ⟨root, .browseName, .value (.qualifiedName ⟨0, "root"⟩)⟩,
    ⟨root, .displayName, .value (.localizedText (LocalizedText.plain "root"))⟩,
    ⟨root, .description, .value (.localizedText (LocalizedText.plain "root"))⟩,
    ⟨root, .writeMask, .value (.uint32 0)⟩,
    ⟨root, .userWriteMask, .value (.uint32 0)⟩ ]

/-- The standard namespace, with the root folder's attributes when asked for. -/
def Space.standard (withRootAttributes : Bool) : Space :=
  ⟨ReferenceStore.ofList standardReferences,
    ⟨if withRootAttributes then rootAttributes else []⟩⟩

end AddressSpace
