/-
This file defines what the steps of a script answer.
-/

import Polyglot.Household

namespace Polyglot.Script

/-- The verifiers that scripts bring along. -/
inductive ScriptVerifier where
  /-- Reject the operation. -/
  | reject
  /-- Emit an error with a note and a warning, and accept the operation. -/
  | emitAndAccept
  /-- Emit an error with a note and a warning, and reject the operation. -/
  | emitAndReject
  /-- Verify the operations that define the operands, in order, up to the first error. -/
  | verifyOperands
  deriving DecidableEq

/-- What there is to see of an operation. -/
structure OperationReport where
  text : String
  id : OpId
  operands : List String
  /-- The types of the operands, and one more entry for the operand behind the last. -/
  operandTypes : List (Option Ty)
  results : List String
  resultTypes : List Ty
  attributes : String
  location : Location
  isRegistered : Bool

/-- What there is to see of a value. -/
structure ValueReport where
  text : String
  ty : Option Ty
  index : Nat
  isAlive : Bool

/-- What there is to see of a module. -/
structure ModuleReport where
  path : String
  dialectClass : Option DialectClass
  dialect : Option DialectName

/-- What a step answers. -/
inductive Answer where
  /-- It is done, and there is nothing to say. -/
  | done
  | flag (value : Bool)
  | flags (values : List Bool)
  | count (value : Nat)
  | text (value : String)
  | optionalText (value : Option String)
  | texts (values : List String)
  | location (value : Location)
  | dialectClass (value : Option DialectClass)
  | dialectModule (value : Option ModuleReport)
  | dialect (value : Option (Dialect ScriptVerifier))
  | descriptor (value : Descriptor) (isLoaded : Bool) (dialect : Dialect ScriptVerifier)
  | view (value : DialectView)
  | operation (value : OperationReport)
  | value (value : ValueReport)
  /-- There is nothing of that name. -/
  | noHandle (name : String)
  /-- The library reports an error; its full text is shown if there is a session to show it in. -/
  | failure (error : Error) (shown : Bool)
  /-- The library broke off. -/
  | fault (fault : Fault)
  /-- Calls would have nested deeper than the script allows. -/
  | unfinished

end Polyglot.Script
