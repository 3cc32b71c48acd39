import AddressSpace.Error
import AddressSpace.Text.Numeral

/-!
# Attribute ids

The named properties of a node, numbered 1 to 22 as in the standard.

* `AttributeId.ofCode` — by number; only 1 to 22 name an attribute;
* `AttributeId.parse` — text that is an unsigned numeral is read by number (an unknown
  number is reported in decimal normal form, so `+0` and `000` report `0`); any other
  text is matched against the names up to ASCII case, and reported verbatim if none fits.
-/

namespace AddressSpace

-- `^` on naturals and integers is `Nat.pow` and `Int.pow` in this file, ahead of any other
-- power in scope.
attribute [local instance (high)] instPowNat

/-- A named property of a node. -/
inductive AttributeId where
  | nodeId
  | nodeClass
  | browseName
  | displayName
  | description
  | writeMask
  | userWriteMask
  | isAbstract
  | symmetric
  | inverseName
  | containsNoLoops
  | eventNotifier
  | value
  | dataType
  | valueRank
  | arrayDimensions
  | accessLevel
  | userAccessLevel
  | minimumSamplingInterval
  | historizing
  | executable
  | userExecutable
deriving DecidableEq

namespace AttributeId

/-- The standard number of an attribute. -/
def code : AttributeId → UInt32
  | .nodeId => 1
  | .nodeClass => 2
  | .browseName => 3
  | .displayName => 4
  | .description => 5
  | .writeMask => 6
  | .userWriteMask => 7
  | .isAbstract => 8
  | .symmetric => 9
  | .inverseName => 10
  | .containsNoLoops => 11
  | .eventNotifier => 12
  | .value => 13
  | .dataType => 14
  | .valueRank => 15
  | .arrayDimensions => 16
  | .accessLevel => 17
  | .userAccessLevel => 18
  | .minimumSamplingInterval => 19
  | .historizing => 20
  | .executable => 21
  | .userExecutable => 22

/-- The standard name of an attribute. -/
def name : AttributeId → String
  | .nodeId => "NodeId"
  | .nodeClass => "NodeClass"
  | .browseName => "BrowseName"
  | .displayName => "DisplayName"
  | .description => "Description"
  | .writeMask => "WriteMask"
  | .userWriteMask => "UserWriteMask"
  | .isAbstract => "IsAbstract"
  | .symmetric => "Symmetric"
  | .inverseName => "InverseName"
  | .containsNoLoops => "ContainsNoLoops"
  | .eventNotifier => "EventNotifier"
  | .value => "Value"
  | .dataType => "DataType"
  | .valueRank => "ValueRank"
  | .arrayDimensions => "ArrayDimensions"
  | .accessLevel => "AccessLevel"
  | .userAccessLevel => "UserAccessLevel"
  | .minimumSamplingInterval => "MinimumSamplingInterval"
  | .historizing => "Historizing"
  | .executable => "Executable"
  | .userExecutable => "UserExecutable"

/-- The 22 attributes in the order of their numbers. -/
def all : List AttributeId :=
  [.nodeId, .nodeClass, .browseName, .displayName, .description, .writeMask, .userWriteMask,
    .isAbstract, .symmetric, .inverseName, .containsNoLoops, .eventNotifier, .value, .dataType,
    .valueRank, .arrayDimensions, .accessLevel, .userAccessLevel, .minimumSamplingInterval,
    .historizing, .executable, .userExecutable]

/-- The attribute with this number. -/
def ofCode (n : UInt32) : Except Error AttributeId :=
  match all.find? (·.code == n) with
  | some a => .ok a
  | none => .error (.unknownAttribute (Numeral.decimal n.toNat))

/-- Two texts equal up to the case of ASCII letters. -/
def sameUpToAsciiCase (a b : String) : Bool :=
  a.toList.map Char.toLower == b.toList.map Char.toLower

/-- Read an attribute from its number or its name. -/
def parse (s : String) : Except Error AttributeId :=
  match Numeral.unsigned? (2 ^ (32 : Nat)) s.toList with
  | some n => ofCode n.toUInt32
  | none =>
    match all.find? (fun a => sameUpToAsciiCase a.name s) with
    | some a => .ok a
    | none => .error (.unknownAttribute s)

end AttributeId

end AddressSpace
