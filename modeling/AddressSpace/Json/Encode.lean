import AddressSpace.Json.Basic
import AddressSpace.Space

/-!
# The JSON forms of the library's types

Each type has one JSON form, and the members of an object follow the fields of the type:

* node ids are their canonical text; enumerations are their names (the browse direction
  in lowercase); status codes and class masks are bare numbers;
* a variant is an object with one member, named for its shape;
* a data value is `{"value": variant}` or `{"status": code}`;
* a localized text leaves out `locale` when it has none;
* a snapshot reference is `source` followed by the members of its reference.
-/

namespace AddressSpace

namespace NodeId

/-- The JSON form of a node id: its text. -/
def toJson (n : NodeId) : Json := .str n.toText

end NodeId

/-- The JSON form of a qualified name. -/
def QualifiedName.toJson (q : QualifiedName) : Json :=
  .obj [("namespace_index", .num q.namespaceIndex.toNat), ("name", .str q.name)]

/-- The JSON form of a localized text; `locale` only when there is one. -/
def LocalizedText.toJson (t : LocalizedText) : Json :=
  .obj ((match t.locale with
    | some l => [("locale", .str l)]
    | none => []) ++ [("text", .str t.text)])

/-- The JSON form of a status code: the number. -/
def StatusCode.toJson (s : StatusCode) : Json := .num s.code.toNat

/-- The names of the variant shapes, in declaration order. -/
def Variant.tags : List String :=
  ["Boolean", "Int32", "UInt32", "String", "NodeId", "QualifiedName", "LocalizedText"]

/-- The JSON form of a variant: one member named for its shape. -/
def Variant.toJson : Variant → Json
  | .boolean b => .obj [("Boolean", .bool b)]
  | .int32 v => .obj [("Int32", .num v.toInt)]
  | .uint32 v => .obj [("UInt32", .num v.toNat)]
  | .string s => .obj [("String", .str s)]
  | .nodeId n => .obj [("NodeId", n.toJson)]
  | .qualifiedName q => .obj [("QualifiedName", q.toJson)]
  | .localizedText t => .obj [("LocalizedText", t.toJson)]

/-- The JSON form of a data value. -/
def DataValue.toJson : DataValue → Json
  | .value v => .obj [("value", v.toJson)]
  | .status s => .obj [("status", s.toJson)]

/-- The members of a reference's JSON form, in field order. -/
def ReferenceDescription.members (r : ReferenceDescription) : List (String × Json) :=
  [("reference_type_id", r.referenceTypeId.toJson), ("is_forward", .bool r.isForward),
    ("node_id", r.nodeId.toJson), ("browse_name", r.browseName.toJson),
    ("display_name", r.displayName.toJson), ("node_class", .str r.nodeClass.name),
    ("type_definition", r.typeDefinition.toJson)]

/-- The JSON form of a reference. -/
def ReferenceDescription.toJson (r : ReferenceDescription) : Json := .obj r.members

/-- The JSON form of a reference with its source: `source`, then the reference's members. -/
def SnapshotReference.toJson (s : SnapshotReference) : Json :=
  .obj (("source", s.source.toJson) :: s.reference.members)

/-- The JSON form of an attribute record. -/
def AttributeRecord.toJson (r : AttributeRecord) : Json :=
  .obj [("node_id", r.nodeId.toJson), ("attribute_id", .str r.attributeId.name),
    ("value", r.value.toJson)]

/-- The JSON form of a read request. -/
def ReadValueId.toJson (r : ReadValueId) : Json :=
  .obj [("node_id", r.nodeId.toJson), ("attribute_id", .str r.attributeId.name)]

/-- The JSON form of a write request. -/
def WriteValue.toJson (w : WriteValue) : Json :=
  .obj [("node_id", w.nodeId.toJson), ("attribute_id", .str w.attributeId.name),
    ("value", w.value.toJson)]

/-- The JSON form of a snapshot. -/
def Snapshot.toJson (s : Snapshot) : Json :=
  .obj [("references", .arr (s.references.map SnapshotReference.toJson)),
    ("attributes", .arr (s.attributes.map AttributeRecord.toJson))]

/-- The pretty JSON text of a snapshot. -/
def Snapshot.toText (s : Snapshot) : String := s.toJson.pretty

/-- The JSON form of a browse query. -/
def BrowseDescription.toJson (q : BrowseDescription) : Json :=
  .obj [("node_id", q.nodeId.toJson), ("browse_direction", .str q.direction.name),
    ("reference_type_id", q.referenceTypeId.toJson), ("include_subtypes", .bool q.includeSubtypes),
    ("node_class_mask", .num q.nodeClassMask.bits.toNat)]

end AddressSpace
