import AddressSpace.Uuid

/-!
# Node ids

Every node of an address space is named by a node id: the index of the namespace that
defines it and an identifier that is a number, a string or a uuid.

* `Identifier`, `NodeId` — the id and its parts; `NodeId.null` is `i=0`, meaning "no node";
* `NodeId.toText` — the canonical text: `ns=N;` only when `N ≠ 0`, then `i=`, `s=` or `g=`;
* `NodeId.compare` — namespace first, then the kind of identifier (numeric before string
  before uuid), then the value: numbers by size, strings by code points (which is the
  order of their UTF-8 bytes), uuids by their bytes.
-/

namespace AddressSpace

/-- The identifier part of a node id. -/
inductive Identifier where
  /-- A 32-bit number. -/
  | numeric (value : UInt32)
  /-- Any string, kept verbatim. -/
  | string (value : String)
  /-- A uuid. -/
  | guid (value : Uuid)
deriving DecidableEq

/-- A node id: a namespace index and an identifier. -/
structure NodeId where
  /-- The namespace that defines the node. -/
  namespaceIndex : UInt16
  /-- The node within its namespace. -/
  identifier : Identifier
deriving DecidableEq

namespace Identifier

/-- The kinds of identifier in their order: numeric, string, uuid. -/
def rank : Identifier → Nat
  | .numeric _ => 0
  | .string _ => 1
  | .guid _ => 2

/-- Identifiers ordered by kind, then by value. -/
def compare : Identifier → Identifier → Ordering
  | .numeric a, .numeric b => Ord.compare a b
  | .string a, .string b => Ord.compare a b
  | .guid a, .guid b => Ord.compare a.val b.val
  | a, b => Ord.compare a.rank b.rank

instance : Ord Identifier := ⟨compare⟩

/-- The text of an identifier: `i=`, `s=` or `g=` and the value. -/
def toText : Identifier → String
  | .numeric v => "i=" ++ Numeral.decimal v.toNat
  | .string s => "s=" ++ s
  | .guid g => "g=" ++ g.toText

end Identifier

namespace NodeId

/-- The null node id `i=0`, meaning "no node". -/
def null : NodeId := ⟨0, .numeric 0⟩

/-- A numeric node id. -/
def numeric (ns : UInt16) (v : UInt32) : NodeId := ⟨ns, .numeric v⟩

/-- Whether this is the null node id. -/
def isNull (n : NodeId) : Bool := n == null

/-- Node ids ordered by namespace, then by identifier. -/
def compare (a b : NodeId) : Ordering :=
  (Ord.compare a.namespaceIndex b.namespaceIndex).then (a.identifier.compare b.identifier)

instance : Ord NodeId := ⟨compare⟩

/-- The canonical text of a node id. -/
def toText (n : NodeId) : String :=
  (if n.namespaceIndex = 0 then "" else "ns=" ++ Numeral.decimal n.namespaceIndex.toNat ++ ";") ++
    n.identifier.toText

end NodeId

end AddressSpace
