import AddressSpace.Error
import AddressSpace.NodeId.WellKnown

/-!
# Reading node ids

A node id is read from the symbolic name of a well-known node, or from its text:

```text
text       ::= [ "ns=" u16 ";" ] identifier
identifier ::= "i=" u32 | "s=" any text | "g=" uuid
```

The namespace part ends at the first `;`; numbers are unsigned numerals (an optional `+`,
decimal digits, leading zeros allowed, no overflow). Nothing is trimmed, and a failure
reports the whole text.

* `Identifier.parse?`, `NodeId.parseText?` — the grammar above;
* `NodeId.parse` — the symbolic names first, then the grammar.
-/

namespace AddressSpace

-- `^` on naturals and integers is `Nat.pow` and `Int.pow` in this file, ahead of any other
-- power in scope.
attribute [local instance (high)] instPowNat

/-- Read an identifier: `i=` and a u32, `s=` and any text, or `g=` and a uuid. -/
def Identifier.parse? : List Char → Option Identifier
  | 'i' :: '=' :: v => (Numeral.unsigned? (2 ^ (32 : Nat)) v).map fun n => .numeric n.toUInt32
  | 's' :: '=' :: v => some (.string (String.ofList v))
  | 'g' :: '=' :: v => (Uuid.parse? v).map .guid
  | _ => none

namespace NodeId

/-- Split a text at its first `;`, dropping the `;`. -/
def splitAtSemicolon (cs : List Char) : Option (List Char × List Char) :=
  match cs.span (· ≠ ';') with
  | (before, _ :: after) => some (before, after)
  | (_, []) => none

/-- Read the text form of a node id. -/
def parseText? : List Char → Option NodeId
  | 'n' :: 's' :: '=' :: tail => do
    let (d, rest) ← splitAtSemicolon tail
    let ns ← Numeral.unsigned? (2 ^ (16 : Nat)) d
    let id ← Identifier.parse? rest
    pure ⟨ns.toUInt16, id⟩
  | cs => (Identifier.parse? cs).map fun id => ⟨0, id⟩

/-- Read a node id: a well-known symbolic name, or the text form. -/
def parse (s : String) : Except Error NodeId :=
  match WellKnown.ofName? s with
  | some w => .ok w.nodeId
  | none =>
    match parseText? s.toList with
    | some n => .ok n
    | none => .error (.invalidNodeId s)

end NodeId

end AddressSpace
