import AddressSpace.Json.Encode
import AddressSpace.Table

/-!
# Output formats

Results are shown as a table or as pretty JSON.

* `OutputFormat.ofText` — `json` in any ASCII case chooses JSON, anything else a table
  (lowercasing ASCII letters decides this as a full Unicode lowercasing would: no other
  character lowercases to one of the letters of `json`);
* `formatReferences`, `formatValues`, `formatStatuses` — the three kinds of result; a read
  result is shown through its rows (`formatRows`).
-/

namespace AddressSpace

/-- How results are shown. -/
inductive OutputFormat where
  | table
  | json
deriving DecidableEq

/-- The format a text names: `json` in any case, else a table. -/
def OutputFormat.ofText (s : String) : OutputFormat :=
  if s.toList.map Char.toLower = "json".toList then .json else .table

/-- The table cells of a reference; reference types and type definitions show the
symbolic name of a well-known node. -/
def referenceCells (r : ReferenceDescription) : List String :=
  [r.referenceTypeId.label, if r.isForward then "forward" else "inverse", r.nodeId.toText,
    r.browseName.toText, r.nodeClass.name,
    if r.typeDefinition.isNull then "" else r.typeDefinition.label]

/-- A list of references, as a JSON array or a table. -/
def formatReferences (refs : List ReferenceDescription) : OutputFormat → String
  | .json => (Json.arr (refs.map ReferenceDescription.toJson)).pretty
  | .table =>
    if refs.isEmpty then "No references found."
    else Table.render ["REFERENCE", "DIRECTION", "TARGET", "BROWSE NAME", "CLASS", "TYPE DEFINITION"]
      (refs.map referenceCells)

/-- One row of a read result: node, attribute, status, and the value if there is one. -/
structure ReadRow where
  /-- The node read. -/
  nodeId : NodeId
  /-- The attribute's name. -/
  attributeName : String
  /-- The status display. -/
  status : String
  /-- The value display, when there is a value. -/
  value : Option String

/-- The row of a request and its result. -/
def ReadRow.of (q : ReadValueId) (v : DataValue) : ReadRow :=
  ⟨q.nodeId, q.attributeId.name, v.statusCode.toText, v.value?.map Variant.toText⟩

/-- The JSON form of a row; `value` only when there is one. -/
def ReadRow.toJson (r : ReadRow) : Json :=
  .obj ([("node_id", r.nodeId.toJson), ("attribute", .str r.attributeName), ("status", .str r.status)] ++
    match r.value with
    | some v => [("value", .str v)]
    | none => [])

/-- Read rows, as a JSON array or a table. -/
def formatRows (rows : List ReadRow) : OutputFormat → String
  | .json => (Json.arr (rows.map ReadRow.toJson)).pretty
  | .table =>
    Table.render ["NODE", "ATTRIBUTE", "STATUS", "VALUE"]
      (rows.map fun r => [r.nodeId.toText, r.attributeName, r.status, r.value.getD ""])

/-- Requests and their results, paired in order (extra items of either list are dropped),
as a JSON array or a table. -/
def formatValues (reqs : List ReadValueId) (values : List DataValue) (format : OutputFormat) :
    String :=
  formatRows (List.zipWith ReadRow.of reqs values) format

/-- Status codes, as a JSON array of their displays or one display per line. -/
def formatStatuses (statuses : List StatusCode) : OutputFormat → String
  | .json => (Json.arr (statuses.map fun s => .str s.toText)).pretty
  | .table => "\n".intercalate (statuses.map StatusCode.toText)

end AddressSpace
