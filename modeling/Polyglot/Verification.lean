/-
This file defines what is examined when an operation is verified.

Its operands must be alive. If its dialect is loaded and has a schema for it, the schema decides:
first the number of operands, then the number of results, then the required attributes in their
order, then the verifier. A loaded dialect without a schema for it decides by whether it accepts
unknown operations, and the session decides about dialects that are not loaded.
-/

import Polyglot.Visit
import Polyglot.Workspace.Creation

namespace Polyglot

variable {Custom Handler Note : Type}

/-! ### Schemas -/

/-- The first required attribute that the operation lacks. -/
def Schema.missing? (schema : Schema Custom) (operation : Operation) : Option String :=
  schema.required.find? fun name => !operation.attributes.contains name

/-- The first thing wrong with the counts and the required attributes. -/
def Schema.misshape? (schema : Schema Custom) (operation : Operation) : Option Cause :=
  let operands := operation.operands.length
  let results := operation.resultTypes.length
  if !schema.operands.accepts operands then
    some (.wrongArity operation.id .operands schema.operands operands)
  else if !schema.results.accepts results then
    some (.wrongArity operation.id .results schema.results results)
  else (schema.missing? operation).map (.missingAttribute operation.id)

/-! ### Standard verifiers -/

/-- The verdict that something is wrong with the operation. -/
def Operation.reject (operation : Operation) (cause : Cause) : Verdict :=
  .rejected (.verification operation.location cause)

/-- The verdict that a condition holds, or else that something is wrong with the operation. -/
def Operation.demand (operation : Operation) (holds : Bool) (cause : Cause) : Verdict :=
  if holds then .accepted else operation.reject cause

/-- Have all operands the given type? -/
def Operations.allOperandsHave (operations : Operations) (operation : Operation) (ty : Ty) :
    Bool :=
  operation.operands.all fun operand => operations.tyOf? operand = some ty

/-- The verdict of arithmetic on types of a class. It relies on the first result. -/
def Operations.sameTypesVerdict (operations : Operations) (operation : Operation)
    (inClass : Ty → Bool) (className : String) : Verdict :=
  match operation.resultTypes with
  | [] => .brokenOff .missingResult
  | ty :: _ =>
    operation.demand (inClass ty && operations.allOperandsHave operation ty)
      (.mixedTypes operation.id className)

/-- The verdict on a constant. It relies on the first result. -/
def Operation.constantVerdict (operation : Operation) : Verdict :=
  match operation.resultTypes with
  | [] => .brokenOff .missingResult
  | ty :: _ =>
    operation.demand ((operation.attributes.find? "value").bind Attribute.ty? = some ty)
      (.constantType ty)

/-- The verdict on a function. -/
def Operation.functionVerdict (operation : Operation) : Verdict :=
  match operation.attributes.find? "sym_name" with
  | some (.string _) =>
    match operation.attributes.find? "function_type" with
    | some (.type (.function _ _)) => .accepted
    | _ => operation.reject .functionTypeMissing
  | _ => operation.reject .functionNameNotString

/-- The verdict on a call. -/
def Operation.callVerdict (operation : Operation) : Verdict :=
  match operation.attributes.find? "callee" with
  | some (.symbol _) => .accepted
  | _ => operation.reject .calleeNotSymbol

/-- The verdict on an operation whose first operand is a condition. -/
def Operations.conditionVerdict (operations : Operations) (operation : Operation) : Verdict :=
  operation.demand (operations.operandTy? operation 0 = some (.integer 1))
    (.conditionType operation.id)

/-- What a verifier does with an operation. -/
def Verifier.inspect (conduct : Conduct Custom Handler Note) (operations : Operations)
    (operation : Operation) : Verifier Custom → Visit Custom Handler Note Verdict
  | .sameIntegers =>
    .done (operations.sameTypesVerdict operation Ty.isIntegerOrIndex "integer")
  | .sameFloats => .done (operations.sameTypesVerdict operation Ty.isFloat "float")
  | .constant => .done operation.constantVerdict
  | .function => .done operation.functionVerdict
  | .call => .done operation.callVerdict
  | .condition => .done (operations.conditionVerdict operation)
  | .custom verifier => conduct.inspect verifier operation

/-! ### Examinations -/

/-- Check an operation against a schema. -/
def Schema.examine (schema : Schema Custom) (conduct : Conduct Custom Handler Note)
    (operations : Operations) (operation : Operation) : Visit Custom Handler Note Verdict :=
  match schema.misshape? operation with
  | some cause => .done (operation.reject cause)
  | none =>
    match schema.verifier with
    | some verifier => verifier.inspect conduct operations operation
    | none => .done .accepted

/-- Examine an operation in a session. -/
def Session.examine (session : Session Custom) (conduct : Conduct Custom Handler Note)
    (operation : Operation) : Visit Custom Handler Note Verdict :=
  match session.operations.danglingIndex? operation.operands with
  | some index => .done (operation.reject (.danglingOperand operation.id index))
  | none =>
    match session.dialect? operation.id.dialect with
    | none =>
      .done (operation.demand session.allowsUnregistered (.unregisteredDialect operation.id))
    | some dialect =>
      match dialect.schema? operation.id.name with
      | some schema => schema.examine conduct session.operations operation
      | none => .done (operation.demand dialect.allowsUnknown (.unregisteredOp operation.id))

end Polyglot
