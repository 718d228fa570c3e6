/-
This file defines the store of the operations that are alive, in the order of their creation,
and what can be read off a value or an operation with its help: types and texts.
-/

import Polyglot.Error
import Polyglot.Operation

namespace Polyglot

/-- The operations that are alive, and how many were ever created. -/
structure Operations where
  live : List Operation
  created : Nat

namespace Operations

/-- A store in which nothing was created yet. -/
def empty : Operations := ⟨[], 0⟩

/-- The operation behind a reference, if it is alive. -/
def find? (operations : Operations) (ref : OpRef) : Option Operation :=
  operations.live.find? fun operation => operation.ref = ref

/-- Is the operation behind the reference alive? -/
def isAlive (operations : Operations) (ref : OpRef) : Bool :=
  (operations.find? ref).isSome

/-- The number of operations that are alive. -/
def size (operations : Operations) : Nat :=
  operations.live.length

/-- The reference that the next operation gets. -/
def nextRef (operations : Operations) : OpRef :=
  ⟨operations.created⟩

/-- The store with one more operation, which must carry the next reference. -/
def insert (operations : Operations) (operation : Operation) : Operations :=
  ⟨operations.live ++ [operation], operations.created + 1⟩

/-- The store without an operation. -/
def remove (operations : Operations) (ref : OpRef) : Operations :=
  { operations with live := operations.live.filter fun operation => operation.ref ≠ ref }

/-- The store with one operation changed. -/
def modify (operations : Operations) (ref : OpRef) (change : Operation → Operation) :
    Operations :=
  { operations with live := operations.live.map fun operation =>
      if operation.ref = ref then change operation else operation }

/-- The store with an attribute of one operation set. -/
def setAttribute (operations : Operations) (ref : OpRef) (name : Identifier)
    (value : Attribute) : Operations :=
  operations.modify ref fun operation =>
    { operation with attributes := operation.attributes.set name value }

/-- The store with the location of one operation set. -/
def setLocation (operations : Operations) (ref : OpRef) (location : Location) : Operations :=
  operations.modify ref fun operation => { operation with location := location }

/-- Has some operation an operand that the referred operation defines? -/
def isUsed (operations : Operations) (ref : OpRef) : Bool :=
  operations.live.any fun operation =>
    operation.operands.any fun operand => operand.definer = ref

/-- Erase an operation that is alive and whose results nobody uses, not even itself. -/
def erase (operations : Operations) (ref : OpRef) : Except Error Operations :=
  match operations.find? ref with
  | none => .error (.argument .unknown .erasedTwice)
  | some operation =>
    if operations.isUsed ref then
      .error (.argument operation.location (.erasedWhileUsed operation.id))
    else .ok (operations.remove ref)

/-! ### Types and texts -/

/-- The type of a value, if its operation is alive and has that many results. -/
def tyOf? (operations : Operations) (value : Value) : Option Ty :=
  match operations.find? value.definer with
  | some operation => operation.resultTypes[value.index]?
  | none => none

/-- The type of the operand at an index, if it is there and alive. -/
def operandTy? (operations : Operations) (operation : Operation) (index : Nat) : Option Ty :=
  match operation.operands[index]? with
  | some operand => operations.tyOf? operand
  | none => none

/-- The text of a value. The index is left out for the only result of an operation. -/
def valueText (operations : Operations) (value : Value) : String :=
  match operations.find? value.definer with
  | some operation =>
    if operation.resultTypes.length = 1 then "%" ++ toString operation.ref.number
    else "%" ++ toString operation.ref.number ++ "#" ++ toString value.index
  | none => "%<erased>"

/-- The types of an operation's operands, with the type of nothing for a value that is gone. -/
def operandTypes (operations : Operations) (operation : Operation) : List Ty :=
  operation.operands.map fun operand => (operations.tyOf? operand).getD .nothing

/-- The generic form of an operation: its results, its name between quotes, its operands, its
attributes if it has any, and its type. -/
def opText (operations : Operations) (operation : Operation) : String :=
  operation.header ++ "\"" ++ operation.id.text ++ "\"(" ++
    ", ".intercalate (operation.operands.map operations.valueText) ++ ")" ++
    (if operation.attributes.isEmpty then "" else " " ++ operation.attributes.text) ++ " : " ++
    (Ty.function (operations.operandTypes operation) operation.resultTypes).text

theorem ref_of_find? (operations : Operations) (ref : OpRef) (operation : Operation)
    (found : operations.find? ref = some operation) : operation.ref = ref := by
  simpa using List.find?_some found

theorem mem_of_find? (operations : Operations) (ref : OpRef) (operation : Operation)
    (found : operations.find? ref = some operation) : operation ∈ operations.live :=
  List.mem_of_find?_eq_some found

/-- An operation that was removed is not found. -/
theorem find?_remove_self (operations : Operations) (ref : OpRef) :
    (operations.remove ref).find? ref = none := by
  simp [find?, remove]

end Operations

end Polyglot
