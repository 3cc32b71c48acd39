import AddressSpace.Store.Subtypes

/-!
# Browsing

A browse lists the references of one node that pass three filters, in insertion order:
the direction, the reference type, and the class of the target.

* `BrowseDirection` and its reading from text: lowercase, then `forward`, `inverse` or
  `both`;
* `BrowseDescription` — the query: node, direction, reference type (the null id means any
  type), whether subtypes count, class mask;
* `ReferenceStore.browse` — the filter; an unknown node has no references.
-/

namespace AddressSpace

/-- Which directions of reference a browse returns. -/
inductive BrowseDirection where
  | forward
  | inverse
  | both
deriving DecidableEq

namespace BrowseDirection

/-- Whether a reference with this direction flag passes. -/
def accepts : BrowseDirection → Bool → Bool
  | .forward, f => f
  | .inverse, f => !f
  | .both, _ => true

/-- The lowercase name of a direction. -/
def name : BrowseDirection → String
  | .forward => "forward"
  | .inverse => "inverse"
  | .both => "both"

/-- Read a direction, ignoring case. Lowercasing ASCII letters is enough: the only
characters outside ASCII whose lowercase form holds an ASCII letter are U+212A (`k`) and
U+0130 (`i` and a combining dot), and neither can complete one of the three names. -/
def parse (s : String) : Except Error BrowseDirection :=
  let lower := s.toList.map Char.toLower
  if lower = "forward".toList then .ok .forward
  else if lower = "inverse".toList then .ok .inverse
  else if lower = "both".toList then .ok .both
  else .error (.unknownDirection s)

end BrowseDirection

/-- A browse query. -/
structure BrowseDescription where
  /-- The node whose references are listed. -/
  nodeId : NodeId
  /-- The directions returned. -/
  direction : BrowseDirection := .forward
  /-- The reference type; the null id means any type. -/
  referenceTypeId : NodeId := NodeId.null
  /-- Whether subtypes of the reference type count. -/
  includeSubtypes : Bool := false
  /-- The classes of target returned; 0 means every class. -/
  nodeClassMask : NodeClassMask := NodeClassMask.all
deriving DecidableEq

/-- The reference types a query accepts. -/
inductive TypeFilter where
  /-- Every type. -/
  | any
  /-- Exactly this type. -/
  | exact (t : NodeId)
  /-- The types in this list. -/
  | within (ts : List NodeId)

/-- Whether a reference type passes the filter. -/
def TypeFilter.accepts : TypeFilter → NodeId → Bool
  | .any, _ => true
  | .exact t, r => r == t
  | .within ts, r => ts.contains r

namespace ReferenceStore

/-- The type filter of a query, resolved once: the null id accepts every type, even with
subtypes; otherwise the type itself, or its subtype closure. -/
def typeFilter (store : ReferenceStore) (q : BrowseDescription) : TypeFilter :=
  if q.referenceTypeId.isNull then .any
  else if q.includeSubtypes then .within (store.closure [q.referenceTypeId])
  else .exact q.referenceTypeId

/-- The references of the query's node that pass its direction, type and class filters,
in insertion order. -/
def browse (store : ReferenceStore) (q : BrowseDescription) : List ReferenceDescription :=
  let types := store.typeFilter q
  (store.referencesFrom q.nodeId).filter fun r =>
    q.direction.accepts r.isForward && types.accepts r.referenceTypeId &&
      q.nodeClassMask.accepts r.nodeClass

end ReferenceStore

end AddressSpace
