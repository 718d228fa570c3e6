/-
This file defines faults: what goes wrong when a client looks at something that is not there.
-/

namespace Polyglot

/-- What a client looked at in vain. -/
inductive Fault where
  /-- An operation was looked into that is gone. -/
  | erasedOperation
  /-- A result was looked at that the operation does not have. -/
  | missingResult
  deriving DecidableEq

/-- The wording of a fault. -/
def Fault.message : Fault → String
  | erasedOperation => "Dangling Ptr: pointee was deallocated"
  | missingResult => "index out of bounds"

end Polyglot
