/-
This file defines how operations are created.

A draft is admitted if its name is well formed, the module of its dialect loads or is missing,
the operation is registered or unregistered dialects are allowed, its operands are alive, and
the names of its attributes are identifiers. The first of these that fails is the error. An
operation that is admitted without being registered comes with a warning.
-/

import Polyglot.Diagnostic
import Polyglot.Workspace

namespace Polyglot

/-- Where the first operand stands that refers to an operation that is gone. -/
def Operations.danglingIndex? (operations : Operations) (operands : List Value) : Option Nat :=
  operands.findIdx? fun operand => !operations.isAlive operand.definer

/-- The attributes of a draft by name, if all names are identifiers. -/
def AttributeDict.setAll (attributes : AttributeDict) :
    List (String × Attribute) → Except Error AttributeDict
  | [] => .ok attributes
  | (name, value) :: rest =>
    match Identifier.parse name with
    | .ok identifier => (attributes.set identifier value).setAll rest
    | .error error => .error error

namespace Session

variable {Custom : Type}

/-- The operation that a draft describes, if the session admits it under a name. -/
def accept (session : Session Custom) (draft : Draft) (id : OpId) : Except Error Operation :=
  if !session.isRegistered id && !session.allowsUnregistered then
    .error (.of .unregisteredDialect draft.location (.unregisteredDialect id))
  else
    match session.operations.danglingIndex? draft.operands with
    | some index => .error (.argument draft.location (.danglingOperand id index))
    | none =>
      match AttributeDict.empty.setAll draft.attributes with
      | .error error => .error (error.locatedAt draft.location)
      | .ok attributes =>
        .ok ⟨session.operations.nextRef, id, draft.operands, draft.resultTypes, attributes,
          draft.location⟩

/-- The warning that comes with an operation, unless it is registered. -/
def creationWarning? (session : Session Custom) (operation : Operation) : Option Diagnostic :=
  let id := operation.id
  if session.isRegistered id then none
  else if (session.dialect? id.dialect).isSome then
    some (.warning operation.location ("'" ++ id.text ++
      "' op created as unknown operation of dialect '" ++ id.dialect.text ++ "'"))
  else
    some (.warning operation.location ("'" ++ id.text ++
      "' op created with unregistered dialect '" ++ id.dialect.text ++ "'"))

/-- The session with one more operation. -/
def add (session : Session Custom) (operation : Operation) : Session Custom :=
  { session with operations := session.operations.insert operation }

/-- Erase an operation whose results nobody uses. -/
def erase (session : Session Custom) (ref : OpRef) : Except Error (Session Custom) :=
  match session.operations.erase ref with
  | .ok operations => .ok { session with operations := operations }
  | .error error => .error error

/-- Set an attribute of an operation. -/
def setAttribute (session : Session Custom) (ref : OpRef) (name : Identifier)
    (value : Attribute) : Session Custom :=
  { session with operations := session.operations.setAttribute ref name value }

/-- Set the location of an operation. -/
def setLocation (session : Session Custom) (ref : OpRef) (location : Location) :
    Session Custom :=
  { session with operations := session.operations.setLocation ref location }

end Session

/-- An operation that was created, and the warning that comes with it. -/
structure Creation where
  operation : Operation
  warning : Option Diagnostic

namespace Workspace

variable {Custom : Type}

/-- Create the operation that a draft describes. -/
def create (workspace : Workspace Custom) (draft : Draft) :
    Attempt (Workspace Custom) Creation :=
  match OpId.parse draft.name with
  | .error error => .idle workspace (.error (error.locatedAt draft.location))
  | .ok id =>
    (workspace.loadModule id.dialect).andThen fun _ after =>
      match after.session.accept draft id with
      | .error error => .idle after (.error error)
      | .ok operation =>
        .idle { after with session := after.session.add operation }
          (.ok ⟨operation, after.session.creationWarning? operation⟩)

/-- Create an operation through a builder. -/
def build (workspace : Workspace Custom) (opClass : OpClass) (draft : Draft) :
    Attempt (Workspace Custom) Creation :=
  match opClass.prepare workspace.session.operations draft with
  | .error error => .idle workspace (.error error)
  | .ok prepared => workspace.create prepared

/-- Create an operation through the builder that a view has for it. -/
def buildFrom (workspace : Workspace Custom) (view : DialectView) (op : String)
    (draft : Draft) : Attempt (Workspace Custom) Creation :=
  match view.opClass op with
  | .error error => .idle workspace (.error error)
  | .ok opClass => workspace.build opClass draft

end Workspace

end Polyglot
