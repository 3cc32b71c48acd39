/-!
# Errors of reading outside text

The services of an address space are total; an error arises only when text from outside
(a node id, an attribute, a node class, a direction) is read into a library type, or when
a request fails validation.

* `Error` — the five causes, each carrying the text it concerns;
* `Error.message` — the one place where their wording lives.
-/

namespace AddressSpace

/-- Why outside text could not be read into the library's types. -/
inductive Error where
  /-- The text is not a node id. -/
  | invalidNodeId (text : String)
  /-- The text names no attribute (a number is shown in decimal normal form). -/
  | unknownAttribute (text : String)
  /-- The text names no node class. -/
  | unknownNodeClass (text : String)
  /-- The text names no browse direction. -/
  | unknownDirection (text : String)
  /-- A request failed validation; the text says how. -/
  | validation (text : String)
deriving DecidableEq, Repr

/-- The sentence that reports an error. -/
def Error.message : Error → String
  | .invalidNodeId s => "Invalid node id: " ++ s
  | .unknownAttribute s => "Unknown attribute: " ++ s
  | .unknownNodeClass s => "Unknown node class: " ++ s
  | .unknownDirection s => "Unknown browse direction: " ++ s
  | .validation s => "Validation error: " ++ s

end AddressSpace
