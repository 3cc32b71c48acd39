import AddressSpace.Error
import AddressSpace.NodeClass
import AddressSpace.Text.Numeral

/-!
# Request limits

Checks that requests from outside pass before they reach the address space: a class
mask may use only the eight class bits, and a read or write batch holds 1 to 1000 items.

* `ValidationError` and its `message`; `ValidationError.toError` wraps it as a core error;
* `validateMask`, `validateReadBatch`, `validateWriteBatch`.
-/

namespace AddressSpace

/-- The bits of the eight real classes. -/
def validClassBits : UInt32 := 0xFF

/-- The most items a read or a write may hold. -/
def maxBatch : Nat := 1000

/-- Why a request failed validation. -/
inductive ValidationError where
  /-- The mask sets bits that name no class. -/
  | undefinedNodeClassBits (mask undefined : UInt32)
  /-- A read asks for more than `maxBatch` attributes. -/
  | tooManyReads (count : Nat)
  /-- A write holds more than `maxBatch` values. -/
  | tooManyWrites (count : Nat)
  /-- The request is empty. -/
  | emptyRequest
deriving DecidableEq

namespace ValidationError

/-- The sentence that reports a validation failure. -/
def message : ValidationError → String
  | .undefinedNodeClassBits m u =>
    "Node class mask 0x" ++ Numeral.hexUpper 0 m.toNat ++ " sets undefined bits 0x" ++
      Numeral.hexUpper 0 u.toNat ++ " (valid bits 0x" ++ Numeral.hexUpper 0 validClassBits.toNat ++ ")"
  | .tooManyReads n =>
    "Too many attributes in read: " ++ Numeral.decimal n ++ " (max " ++ Numeral.decimal maxBatch ++ ")"
  | .tooManyWrites n =>
    "Too many values in write: " ++ Numeral.decimal n ++ " (max " ++ Numeral.decimal maxBatch ++ ")"
  | .emptyRequest => "Request cannot be empty"

/-- A validation failure as a core error. -/
def toError (e : ValidationError) : Error := .validation e.message

end ValidationError

/-- A mask passes when it sets no bit outside the eight class bits. -/
def validateMask (m : NodeClassMask) : Except ValidationError Unit :=
  let undefined := m.bits &&& ~~~validClassBits
  if undefined = 0 then .ok () else .error (.undefinedNodeClassBits m.bits undefined)

/-- A read of `count` attributes passes when it holds 1 to 1000 of them. -/
def validateReadBatch (count : Nat) : Except ValidationError Unit :=
  if count = 0 then .error .emptyRequest
  else if count > maxBatch then .error (.tooManyReads count)
  else .ok ()

/-- A write of `count` values passes when it holds 1 to 1000 of them. -/
def validateWriteBatch (count : Nat) : Except ValidationError Unit :=
  if count = 0 then .error .emptyRequest
  else if count > maxBatch then .error (.tooManyWrites count)
  else .ok ()

end AddressSpace
