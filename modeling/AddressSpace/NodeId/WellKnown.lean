import AddressSpace.NodeId.Basic

/-!
# Well-known nodes

The fifteen nodes of namespace 0 that the bootstrap taxonomy is built from: the root
folder and its children, the folder type, and the reference types from `References` down
to `HasSubtype`. Each has a number, a symbolic name, and a browse name (folders drop the
`Folder` suffix).

* `WellKnown.all` — the fifteen in their standard order;
* `WellKnown.ofName?` — by exact, case-sensitive symbolic name;
* `WellKnown.ofNodeId?` — only numeric ids of namespace 0 can name one.
-/

namespace AddressSpace

/-- A well-known node of the standard namespace. -/
inductive WellKnown where
  | references
  | nonHierarchicalReferences
  | hierarchicalReferences
  | hasChild
  | organizes
  | hasEventSource
  | hasTypeDefinition
  | aggregates
  | hasSubtype
  | folderType
  | rootFolder
  | objectsFolder
  | typesFolder
  | viewsFolder
  | referenceTypesFolder
deriving DecidableEq

namespace WellKnown

/-- The standard number of a well-known node. -/
def code : WellKnown → UInt32
  | .references => 31
  | .nonHierarchicalReferences => 32
  | .hierarchicalReferences => 33
  | .hasChild => 34
  | .organizes => 35
  | .hasEventSource => 36
  | .hasTypeDefinition => 40
  | .aggregates => 44
  | .hasSubtype => 45
  | .folderType => 61
  | .rootFolder => 84
  | .objectsFolder => 85
  | .typesFolder => 86
  | .viewsFolder => 87
  | .referenceTypesFolder => 91

/-- The symbolic name used in the standard node set. -/
def name : WellKnown → String
  | .references => "References"
  | .nonHierarchicalReferences => "NonHierarchicalReferences"
  | .hierarchicalReferences => "HierarchicalReferences"
  | .hasChild => "HasChild"
  | .organizes => "Organizes"
  | .hasEventSource => "HasEventSource"
  | .hasTypeDefinition => "HasTypeDefinition"
  | .aggregates => "Aggregates"
  | .hasSubtype => "HasSubtype"
  | .folderType => "FolderType"
  | .rootFolder => "RootFolder"
  | .objectsFolder => "ObjectsFolder"
  | .typesFolder => "TypesFolder"
  | .viewsFolder => "ViewsFolder"
  | .referenceTypesFolder => "ReferenceTypesFolder"

/-- The browse name of the node; folders drop the `Folder` suffix. -/
def browseName : WellKnown → String
  | .rootFolder => "Root"
  | .objectsFolder => "Objects"
  | .typesFolder => "Types"
  | .viewsFolder => "Views"
  | .referenceTypesFolder => "ReferenceTypes"
  | w => w.name

/-- The fifteen well-known nodes in their standard order. -/
def all : List WellKnown :=
  [.references, .nonHierarchicalReferences, .hierarchicalReferences, .hasChild, .organizes,
    .hasEventSource, .hasTypeDefinition, .aggregates, .hasSubtype, .folderType, .rootFolder,
    .objectsFolder, .typesFolder, .viewsFolder, .referenceTypesFolder]

/-- The node id of a well-known node: numeric, in namespace 0. -/
def nodeId (w : WellKnown) : NodeId := NodeId.numeric 0 w.code

/-- The well-known node with this exact symbolic name. -/
def ofName? (s : String) : Option WellKnown := all.find? (·.name == s)

/-- The well-known node that this node id names, if any. -/
def ofNodeId? (n : NodeId) : Option WellKnown := all.find? (·.nodeId == n)

end WellKnown

namespace NodeId

/-- The node id of the `HasSubtype` reference type. -/
def hasSubtype : NodeId := WellKnown.hasSubtype.nodeId

/-- The symbolic name of a well-known node, and the canonical text of any other. -/
def label (n : NodeId) : String :=
  match WellKnown.ofNodeId? n with
  | some w => w.name
  | none => n.toText

end NodeId

end AddressSpace
