import AddressSpace.NodeId.Basic

/-!
# Values and status codes

The values an attribute holds and the codes that report the outcome of a service.

* `QualifiedName` — a name and the namespace that defines it; shown as `name`, or
  `ns:name` outside namespace 0;
* `LocalizedText` — a text and an optional locale; shown as the text alone;
* `StatusCode` — severity in the top two bits: good when both are clear, bad when the
  top one is set; three codes have names, the others are shown as `0x` and eight
  uppercase hex digits;
* `Variant` — the value shapes an attribute can hold;
* `DataValue` — a value, or only a status; a value's status is good.
-/

namespace AddressSpace

/-- A name qualified by the namespace that defines it. -/
structure QualifiedName where
  /-- The defining namespace. -/
  namespaceIndex : UInt16
  /-- The name. -/
  name : String
deriving DecidableEq

/-- The display of a qualified name: `ns:name`, or `name` in namespace 0. -/
def QualifiedName.toText (q : QualifiedName) : String :=
  (if q.namespaceIndex = 0 then "" else Numeral.decimal q.namespaceIndex.toNat ++ ":") ++ q.name

/-- Human-readable text with an optional locale. -/
structure LocalizedText where
  /-- The locale, if one is given. -/
  locale : Option String
  /-- The text. -/
  text : String
deriving DecidableEq

/-- A text without a locale. -/
def LocalizedText.plain (text : String) : LocalizedText := ⟨none, text⟩

/-- The outcome code of a service. -/
structure StatusCode where
  /-- The 32-bit code. -/
  code : UInt32
deriving DecidableEq

namespace StatusCode

/-- The operation succeeded. -/
def good : StatusCode := ⟨0⟩

/-- The attribute cannot be read: there is no such value. -/
def badNotReadable : StatusCode := ⟨0x803A0000⟩

/-- Writing is not supported. -/
def badWriteNotSupported : StatusCode := ⟨0x80730000⟩

/-- Good: the two severity bits are clear. -/
def isGood (s : StatusCode) : Bool := s.code &&& 0xC0000000 == 0

/-- Bad: the top severity bit is set. -/
def isBad (s : StatusCode) : Bool := s.code &&& 0x80000000 != 0

/-- The symbolic name of the three named codes. -/
def name? (s : StatusCode) : Option String :=
  if s = good then some "Good"
  else if s = badNotReadable then some "BadNotReadable"
  else if s = badWriteNotSupported then some "BadWriteNotSupported"
  else none

/-- The display of a status: its name, or `0x` and eight uppercase hex digits. -/
def toText (s : StatusCode) : String :=
  match s.name? with
  | some n => n
  | none => "0x" ++ Numeral.hexUpper 8 s.code.toNat

end StatusCode

/-- The value shapes an attribute can hold. -/
inductive Variant where
  | boolean (value : Bool)
  | int32 (value : Int32)
  | uint32 (value : UInt32)
  | string (value : String)
  | nodeId (value : NodeId)
  | qualifiedName (value : QualifiedName)
  | localizedText (value : LocalizedText)
deriving DecidableEq

/-- The display of a value. -/
def Variant.toText : Variant → String
  | .boolean b => if b then "true" else "false"
  | .int32 v => Numeral.signedDecimal v.toInt
  | .uint32 v => Numeral.decimal v.toNat
  | .string s => s
  | .nodeId n => n.toText
  | .qualifiedName q => q.toText
  | .localizedText t => t.text

/-- The result of reading one attribute: a value, or only a status. -/
inductive DataValue where
  | value (v : Variant)
  | status (code : StatusCode)
deriving DecidableEq

namespace DataValue

/-- The result of reading an attribute that is not there. -/
def notReadable : DataValue := .status StatusCode.badNotReadable

/-- The status of a result; a value is good. -/
def statusCode : DataValue → StatusCode
  | .value _ => StatusCode.good
  | .status s => s

/-- The value of a result, if it has one. -/
def value? : DataValue → Option Variant
  | .value v => some v
  | .status _ => none

/-- The display of a result: the value, or the status in angle brackets. -/
def toText : DataValue → String
  | .value v => v.toText
  | .status s => "<" ++ s.toText ++ ">"

end DataValue

end AddressSpace
