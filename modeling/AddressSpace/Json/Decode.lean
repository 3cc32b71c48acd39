import AddressSpace.Json.Encode
import AddressSpace.NodeId.Parse
import AddressSpace.Text.Escaped

/-!
# Reading the library's types from JSON

The inverse of the JSON forms, with the errors a reader reports when a value does not
fit. The rules that fix which error is reported:

* an object's members are visited in the byte order of their names; members that no field
  names are skipped unread;
* a record may also be written as an array of its fields in order; fields with a default
  may then be left off the end, and extra items are an error;
* a field that is absent is reported only after every present field was read, in the
  order of the fields;
* an enumeration is its name, or an object with that name as its only member;
* a node id that does not parse reports the node id error itself.

The main parts: `DecodeError` and its `message`; `Reading`, which keeps the failure met
first; `Record.field`; and one reader per type.
-/

namespace AddressSpace

-- `^` on naturals and integers is `Nat.pow` and `Int.pow` in this file, ahead of any other
-- power in scope.
attribute [local instance (high)] instPowNat

/-- What a reader found where it expected something else. -/
inductive Unexpected where
  | null
  | bool (b : Bool)
  | unsigned (n : Nat)
  | signed (i : Int)
  | float (x : Binary64)
  | str (s : String)
  | seq
  | map
  | unitVariant

/-- The kind of a JSON value, as an error names it. -/
def Unexpected.ofJson : Json → Unexpected
  | .null => .null
  | .bool b => .bool b
  | .num n => if n < 0 then .signed n else .unsigned n.toNat
  | .float x => .float x
  | .str s => .str s
  | .arr _ => .seq
  | .obj _ => .map

/-- The words for what was found. -/
def Unexpected.describe : Unexpected → String
  | .null => "null"
  | .bool b => "boolean `" ++ (if b then "true" else "false") ++ "`"
  | .unsigned n => "integer `" ++ Numeral.decimal n ++ "`"
  | .signed i => "integer `" ++ Numeral.signedDecimal i ++ "`"
  | .float x => "floating point `" ++ Json.floatText x ++ "`"
  | .str s => "string " ++ Text.escapedQuote s
  | .seq => "sequence"
  | .map => "map"
  | .unitVariant => "unit variant"

/-- Why a JSON value could not be read. -/
inductive DecodeError where
  /-- A value of the wrong kind. -/
  | invalidType (found : Unexpected) (expected : String)
  /-- A value of the right kind but out of range. -/
  | invalidValue (found : Unexpected) (expected : String)
  /-- An array of the wrong length. -/
  | invalidLength (length : Nat) (expected : String)
  /-- A name that is not one of the enumeration's. -/
  | unknownVariant (name : String) (expected : List String)
  /-- A record field that is not there. -/
  | missingField (name : String)
  /-- A text that does not read as the library type. -/
  | core (e : Error)

/-- A name between backticks. -/
def ticked (s : String) : String := "`" ++ s ++ "`"

/-- The names an enumeration expects: one, two joined by `or`, or a list. -/
def expectedNames : List String → String
  | [a] => ticked a
  | [a, b] => ticked a ++ " or " ++ ticked b
  | names => "one of " ++ ", ".intercalate (names.map ticked)

/-- The sentence that reports a reading error. -/
def DecodeError.message : DecodeError → String
  | .invalidType u e => "invalid type: " ++ u.describe ++ ", expected " ++ e
  | .invalidValue u e => "invalid value: " ++ u.describe ++ ", expected " ++ e
  | .invalidLength n e => "invalid length " ++ Numeral.decimal n ++ ", expected " ++ e
  | .unknownVariant v [] => "unknown variant " ++ ticked v ++ ", there are no variants"
  | .unknownVariant v names => "unknown variant " ++ ticked v ++ ", expected " ++ expectedNames names
  | .missingField f => "missing field " ++ ticked f
  | .core e => e.message

/-- Where a value is read from: a JSON value itself, or the copy of one that a record kept
while it picked its own fields out of a larger object's members. The two report an array
that is too long in different words, and a kept copy also takes an empty object for the
null that stands for a case without payload. -/
inductive Source where
  | direct
  | kept
deriving DecidableEq

namespace Decode

/-- A reader of one type. -/
abbrev Reader (α : Type) := Json → Except DecodeError α

/-- A string. -/
def string : Reader String
  | .str s => .ok s
  | j => .error (.invalidType (Unexpected.ofJson j) "a string")

/-- A boolean. -/
def bool : Reader Bool
  | .bool b => .ok b
  | j => .error (.invalidType (Unexpected.ofJson j) "a boolean")

/-- An integer in `[lo, hi]`, named `name` in errors. -/
def integer (name : String) (lo hi : Int) : Reader Int
  | .num n =>
    if lo ≤ n ∧ n ≤ hi then .ok n else .error (.invalidValue (Unexpected.ofJson (.num n)) name)
  | j => .error (.invalidType (Unexpected.ofJson j) name)

/-- An unsigned 16-bit integer. -/
def uint16 (j : Json) : Except DecodeError UInt16 :=
  (integer "u16" 0 (2 ^ (16 : Nat) - 1) j).map fun n => n.toNat.toUInt16

/-- An unsigned 32-bit integer. -/
def uint32 (j : Json) : Except DecodeError UInt32 :=
  (integer "u32" 0 (2 ^ (32 : Nat) - 1) j).map fun n => n.toNat.toUInt32

/-- A signed 32-bit integer. -/
def int32 (j : Json) : Except DecodeError Int32 :=
  (integer "i32" (-2 ^ (31 : Nat)) (2 ^ (31 : Nat) - 1) j).map Int.toInt32

/-- A value or null. -/
def option (r : Reader α) : Reader (Option α)
  | .null => .ok none
  | j => (r j).map some

/-- An array of values. -/
def list (r : Reader α) : Reader (List α)
  | .arr xs => xs.mapM r
  | j => .error (.invalidType (Unexpected.ofJson j) "a sequence")

/-- A node id: its text, parsed. -/
def nodeId (j : Json) : Except DecodeError NodeId := do
  let s ← string j
  match NodeId.parse s with
  | .ok n => .ok n
  | .error e => .error (.core e)

/-- The payload of a case that has none: null, or from a kept copy also an empty object. -/
def unit (src : Source) : Reader Unit
  | .null => .ok ()
  | .obj [] => if src = .kept then .ok () else .error (.invalidType .map "unit")
  | j => .error (.invalidType (Unexpected.ofJson j) "unit")

/-- An enumeration without payloads: the name, or an object with the name as its only
member and no payload as its value. -/
def unitEnumIn (src : Source) (cases : List (String × α)) : Reader α
  | .str s =>
    match cases.lookup s with
    | some a => .ok a
    | none => .error (.unknownVariant s (cases.map (·.1)))
  | .obj [(k, v)] =>
    match cases.lookup k with
    | some a => (unit src v).map fun _ => a
    | none => .error (.unknownVariant k (cases.map (·.1)))
  | .obj _ => .error (.invalidValue .map "map with a single key")
  | j => .error (.invalidType (Unexpected.ofJson j) "string or map")

/-- An enumeration without payloads, read from a JSON value itself. -/
def unitEnum (cases : List (String × α)) : Reader α := unitEnumIn .direct cases

/-- An enumeration whose cases each carry one value: an object with the case's name as
its only member. -/
def tagged (cases : List (String × Reader α)) : Reader α
  | .str s =>
    match cases.lookup s with
    | some _ => .error (.invalidType .unitVariant "newtype variant")
    | none => .error (.unknownVariant s (cases.map (·.1)))
  | .obj [(k, v)] =>
    match cases.lookup k with
    | some r => r v
    | none => .error (.unknownVariant k (cases.map (·.1)))
  | .obj _ => .error (.invalidValue .map "map with a single key")
  | j => .error (.invalidType (Unexpected.ofJson j) "string or map")

end Decode

/-- A value being read from a record, or the failure met first with the place where it was
met: the position of the member or item, or a place after all of them for an absent field. -/
structure Reading (α : Type) where
  /-- The value, or the earliest failure. -/
  result : Except (Nat × DecodeError) α

namespace Reading

instance : Functor Reading where
  map f r := ⟨r.result.map f⟩

instance : Pure Reading where
  pure a := ⟨.ok a⟩

/-- Both readings' values, or the failure met first. -/
def both (a : Reading α) (b : Reading β) : Reading (α × β) :=
  match a.result, b.result with
  | .ok x, .ok y => ⟨.ok (x, y)⟩
  | .error e, .ok _ => ⟨.error e⟩
  | .ok _, .error f => ⟨.error f⟩
  | .error e, .error f => ⟨.error (if f.1 < e.1 then f else e)⟩

instance : Seq Reading where
  seq rf rx := (fun p => p.1 p.2) <$> both rf (rx ())

instance : SeqLeft Reading where
  seqLeft ra rb := Prod.fst <$> both ra (rb ())

/-- The value, or the failure met first. -/
def run (r : Reading α) : Except DecodeError α := r.result.mapError (·.2)

end Reading

/-- Where a record's fields are read from. -/
inductive Fields where
  /-- An object's members, in the order they are visited. -/
  | members (ms : List (String × Json))
  /-- An array's items, in field order. -/
  | items (xs : List Json)

/-- How a record treats a field that is not there. -/
inductive Absent (α : Type) where
  /-- It is an error. -/
  | required
  /-- Absent from an object it is the given value; short in an array it is an error. -/
  | optional (d : α)
  /-- It is the given value. -/
  | default (d : α)

/-- Object members in the byte order of their names. -/
def sortMembers (ms : List (String × Json)) : List (String × Json) :=
  ms.mergeSort fun a b => compare a.1 b.1 != .gt

/-- The first member with this name and its position. -/
def findMember (name : String) : List (String × Json) → Nat → Option (Nat × Json)
  | [], _ => none
  | (k, v) :: rest, p => if k = name then some (p, v) else findMember name rest (p + 1)

/-- A record being read: its name, its fields in declaration order, and where they come from. -/
structure Record where
  /-- The record's name, as errors say it. -/
  name : String
  /-- The names of the fields, in declaration order. -/
  fieldNames : List String
  /-- The members or items holding the fields. -/
  fields : Fields
  /-- Where the record is read from. -/
  source : Source

namespace Record

/-- Open a record: an object or an array; any other value is an error. -/
def ofJson (name : String) (fieldNames : List String) (src : Source) :
    Json → Except DecodeError Record
  | .obj ms => .ok ⟨name, fieldNames, .members (sortMembers ms), src⟩
  | .arr xs => .ok ⟨name, fieldNames, .items xs, src⟩
  | j => .error (.invalidType (Unexpected.ofJson j) ("struct " ++ name))

/-- What an array is expected to hold: `struct Name with N elements`. -/
def expectedItems (r : Record) : String :=
  let n := r.fieldNames.length
  "struct " ++ r.name ++ " with " ++ Numeral.decimal n ++ (if n = 1 then " element" else " elements")

/-- Read the field `name` with `read`. -/
def field (r : Record) (name : String) (absent : Absent α) (read : Decode.Reader α) :
    Reading α :=
  let i := r.fieldNames.idxOf name
  match r.fields with
  | .members ms =>
    match findMember name ms 0 with
    | some (p, v) => ⟨(read v).mapError fun e => (p, e)⟩
    | none =>
      match absent with
      | .required => ⟨.error (ms.length + i, .missingField name)⟩
      | .optional d => ⟨.ok d⟩
      | .default d => ⟨.ok d⟩
  | .items xs =>
    match xs[i]? with
    | some v => ⟨(read v).mapError fun e => (i, e)⟩
    | none =>
      match absent with
      | .default d => ⟨.ok d⟩
      | _ => ⟨.error (i, .invalidLength i r.expectedItems)⟩

/-- What an array that is too long was expected to hold. -/
def expectedLength (r : Record) : String :=
  match r.source with
  | .direct => "fewer elements in array"
  | .kept =>
    let n := r.fieldNames.length
    Numeral.decimal n ++ (if n = 1 then " element in sequence" else " elements in sequence")

/-- An array may not hold more items than the record has fields. -/
def finish (r : Record) : Reading Unit :=
  match r.fields with
  | .members _ => ⟨.ok ()⟩
  | .items xs =>
    if xs.length > r.fieldNames.length then
      ⟨.error (r.fieldNames.length, .invalidLength xs.length r.expectedLength)⟩
    else ⟨.ok ()⟩

end Record

namespace Decode

/-- A qualified name. -/
def qualifiedNameIn (src : Source) (j : Json) : Except DecodeError QualifiedName := do
  let r ← Record.ofJson "QualifiedName" ["namespace_index", "name"] src j
  (QualifiedName.mk <$> r.field "namespace_index" .required uint16 <*>
    r.field "name" .required string <* r.finish).run

/-- A qualified name, read from a JSON value itself. -/
def qualifiedName : Reader QualifiedName := qualifiedNameIn .direct

/-- A localized text; the locale may be absent or null. -/
def localizedTextIn (src : Source) (j : Json) : Except DecodeError LocalizedText := do
  let r ← Record.ofJson "LocalizedText" ["locale", "text"] src j
  (LocalizedText.mk <$> r.field "locale" (.optional none) (option string) <*>
    r.field "text" .required string <* r.finish).run

/-- A localized text, read from a JSON value itself. -/
def localizedText : Reader LocalizedText := localizedTextIn .direct

/-- A node class, by its exact name. -/
def nodeClassIn (src : Source) : Reader NodeClass :=
  unitEnumIn src (NodeClass.all.map fun c => (c.name, c))

/-- A node class, read from a JSON value itself. -/
def nodeClass : Reader NodeClass := nodeClassIn .direct

/-- An attribute, by its exact name. -/
def attributeId : Reader AttributeId :=
  unitEnum (AttributeId.all.map fun a => (a.name, a))

/-- A well-known node, by its exact symbolic name. -/
def wellKnown : Reader WellKnown :=
  unitEnum (WellKnown.all.map fun w => (w.name, w))

/-- A browse direction, by its lowercase name. -/
def direction : Reader BrowseDirection :=
  unitEnum ([BrowseDirection.forward, .inverse, .both].map fun d => (d.name, d))

/-- A status code: the bare number. -/
def statusCode (j : Json) : Except DecodeError StatusCode := StatusCode.mk <$> uint32 j

/-- A class mask: the bare number. -/
def nodeClassMask (j : Json) : Except DecodeError NodeClassMask := NodeClassMask.mk <$> uint32 j

/-- A variant: one member named for its shape. -/
def variant : Reader Variant :=
  tagged [("Boolean", fun j => Variant.boolean <$> bool j),
    ("Int32", fun j => Variant.int32 <$> int32 j),
    ("UInt32", fun j => Variant.uint32 <$> uint32 j),
    ("String", fun j => Variant.string <$> string j),
    ("NodeId", fun j => Variant.nodeId <$> nodeId j),
    ("QualifiedName", fun j => Variant.qualifiedName <$> qualifiedName j),
    ("LocalizedText", fun j => Variant.localizedText <$> localizedText j)]

/-- A data value: `value` with a variant, or `status` with a code. -/
def dataValue : Reader DataValue :=
  tagged [("value", fun j => DataValue.value <$> variant j),
    ("status", fun j => DataValue.status <$> statusCode j)]

/-- The field names of a reference, in declaration order. -/
def referenceFields : List String :=
  ["reference_type_id", "is_forward", "node_id", "browse_name", "display_name", "node_class",
    "type_definition"]

/-- The fields of a reference, read from a record; its nested values come from where the
record does. -/
def referenceOf (r : Record) : Reading ReferenceDescription :=
  ReferenceDescription.mk <$> r.field "reference_type_id" .required nodeId <*>
    r.field "is_forward" .required bool <*> r.field "node_id" .required nodeId <*>
    r.field "browse_name" .required (qualifiedNameIn r.source) <*>
    r.field "display_name" .required (localizedTextIn r.source) <*>
    r.field "node_class" .required (nodeClassIn r.source) <*>
    r.field "type_definition" .required nodeId <* r.finish

/-- A reference. -/
def reference (j : Json) : Except DecodeError ReferenceDescription := do
  let r ← Record.ofJson "ReferenceDescription" referenceFields .direct j
  (referenceOf r).run

/-- A reference with its source: an object whose `source` member is read first, and
whose other members are the reference's, read from the copy kept of them. -/
def snapshotReference : Reader SnapshotReference
  | .obj ms => do
    let sorted := sortMembers ms
    let source ← match findMember "source" sorted 0 with
      | some (_, v) => nodeId v
      | none => .error (.missingField "source")
    let r : Record :=
      ⟨"SnapshotReference", referenceFields, .members (sorted.filter (·.1 != "source")), .kept⟩
    let reference ← (referenceOf r).run
    pure ⟨source, reference⟩
  | j => .error (.invalidType (Unexpected.ofJson j) "struct SnapshotReference")

/-- An attribute record. -/
def attributeRecord (j : Json) : Except DecodeError AttributeRecord := do
  let r ← Record.ofJson "AttributeRecord" ["node_id", "attribute_id", "value"] .direct j
  (AttributeRecord.mk <$> r.field "node_id" .required nodeId <*>
    r.field "attribute_id" .required attributeId <*>
    r.field "value" .required dataValue <* r.finish).run

/-- A read request. -/
def readValueId (j : Json) : Except DecodeError ReadValueId := do
  let r ← Record.ofJson "ReadValueId" ["node_id", "attribute_id"] .direct j
  (ReadValueId.mk <$> r.field "node_id" .required nodeId <*>
    r.field "attribute_id" .required attributeId <* r.finish).run

/-- A write request. -/
def writeValue (j : Json) : Except DecodeError WriteValue := do
  let r ← Record.ofJson "WriteValue" ["node_id", "attribute_id", "value"] .direct j
  (WriteValue.mk <$> r.field "node_id" .required nodeId <*>
    r.field "attribute_id" .required attributeId <*>
    r.field "value" .required dataValue <* r.finish).run

/-- A snapshot. -/
def snapshot (j : Json) : Except DecodeError Snapshot := do
  let r ← Record.ofJson "NamespaceSnapshot" ["references", "attributes"] .direct j
  (Snapshot.mk <$> r.field "references" .required (list snapshotReference) <*>
    r.field "attributes" .required (list attributeRecord) <* r.finish).run

/-- A browse query; every field but the node has a default. -/
def browseDescription (j : Json) : Except DecodeError BrowseDescription := do
  let r ← Record.ofJson "BrowseDescription"
    ["node_id", "browse_direction", "reference_type_id", "include_subtypes", "node_class_mask"]
    .direct j
  (BrowseDescription.mk <$> r.field "node_id" .required nodeId <*>
    r.field "browse_direction" (.default .forward) direction <*>
    r.field "reference_type_id" (.default NodeId.null) nodeId <*>
    r.field "include_subtypes" (.default false) bool <*>
    r.field "node_class_mask" (.default NodeClassMask.all) nodeClassMask <* r.finish).run

end Decode

end AddressSpace
