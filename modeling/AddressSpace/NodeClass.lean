import AddressSpace.Error

/-!
# Node classes and class masks

What kind of entity a node is. The eight real classes are single bits, so a set of
classes is a bit mask; the mask 0 means "no filter" and accepts every class, the
unspecified class included.

* `NodeClass.parse` — the eight real classes by name, up to ASCII case (the unspecified
  class has no text);
* `NodeClassMask.ofClasses`, `NodeClassMask.accepts`.
-/

namespace AddressSpace

/-- The kind of entity a node represents. -/
inductive NodeClass where
  | unspecified
  | object
  | variable
  | method
  | objectType
  | variableType
  | referenceType
  | dataType
  | view
deriving DecidableEq

namespace NodeClass

/-- The bit of a class; the unspecified class has none. -/
def bits : NodeClass → UInt32
  | .unspecified => 0
  | .object => 1
  | .variable => 2
  | .method => 4
  | .objectType => 8
  | .variableType => 16
  | .referenceType => 32
  | .dataType => 64
  | .view => 128

/-- The standard name of a class. -/
def name : NodeClass → String
  | .unspecified => "Unspecified"
  | .object => "Object"
  | .variable => "Variable"
  | .method => "Method"
  | .objectType => "ObjectType"
  | .variableType => "VariableType"
  | .referenceType => "ReferenceType"
  | .dataType => "DataType"
  | .view => "View"

/-- The eight real classes, in the order of their bits. -/
def real : List NodeClass :=
  [.object, .variable, .method, .objectType, .variableType, .referenceType, .dataType, .view]

/-- All nine classes, the unspecified one first. -/
def all : List NodeClass := .unspecified :: real

/-- Read a real class from its name, up to ASCII case. -/
def parse (s : String) : Except Error NodeClass :=
  match real.find? (fun c => c.name.toList.map Char.toLower == s.toList.map Char.toLower) with
  | some c => .ok c
  | none => .error (.unknownNodeClass s)

end NodeClass

/-- A set of node classes as a bit mask; 0 means every class. -/
structure NodeClassMask where
  /-- The class bits. -/
  bits : UInt32
deriving DecidableEq

namespace NodeClassMask

/-- The mask that accepts every class. -/
def all : NodeClassMask := ⟨0⟩

/-- The mask of a list of classes: the union of their bits. -/
def ofClasses (cs : List NodeClass) : NodeClassMask :=
  ⟨cs.foldl (fun b c => b ||| c.bits) 0⟩

/-- Whether the mask filters nothing. -/
def isUnfiltered (m : NodeClassMask) : Bool := m.bits == 0

/-- Whether a target of class `c` passes the mask. -/
def accepts (m : NodeClassMask) (c : NodeClass) : Bool :=
  m.isUnfiltered || (m.bits &&& c.bits) != 0

end NodeClassMask

end AddressSpace
