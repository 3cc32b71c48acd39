import AddressSpace.Limits

/-!
# Failures of a command

A command that cannot finish reports one failure: an error of the address space, a
request that failed validation, or another failure with a message and the causes
beneath it.

* `Failure`, its `message` and `causes`;
* `Failure.report` — the text written for it: `Error: ` and the message, then the causes
  under `Caused by:`, one indented line each, numbered when there are several.
-/

namespace AddressSpace

/-- Why a command could not finish. -/
inductive Failure where
  /-- Text from outside did not parse. -/
  | core (e : Error)
  /-- A request failed validation. -/
  | validation (e : ValidationError)
  /-- Any other failure: its message and the causes beneath it, outermost first. -/
  | other (message : String) (causes : List String)
deriving DecidableEq

namespace Failure

/-- The failure's sentence. -/
def message : Failure → String
  | .core e => e.message
  | .validation e => e.message
  | .other m _ => m

/-- The causes beneath the failure, outermost first. -/
def causes : Failure → List String
  | .other _ cs => cs
  | _ => []

/-- The lines that list the causes: one indented cause, or several numbered from 0. -/
def causeLines : List String → List String
  | [c] => ["    " ++ c]
  | cs => (List.range cs.length).zipWith (fun i c => "    " ++ Numeral.decimal i ++ ": " ++ c) cs

/-- The report of a failure, ending with a line break. -/
def report (f : Failure) : String :=
  "Error: " ++ f.message ++
    (if f.causes.isEmpty then "" else "\n\nCaused by:\n" ++ "\n".intercalate (causeLines f.causes)) ++ "\n"

end Failure

end AddressSpace
