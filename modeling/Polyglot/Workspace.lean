/-
This file defines workspaces, a session together with the environment it shares, and the lookups
that load dialects on the way.

A handle is looked for among the loaded dialects, then among the available ones, and then by
loading the module of the namespace, which may make the dialect available. A view also has the
class of the module. The module comes first, so a module that is broken keeps its dialect from
being loaded.
-/

import Polyglot.Session

namespace Polyglot

/-- A session and the environment it shares. -/
structure Workspace (Custom : Type) where
  environment : Environment Custom
  session : Session Custom

/-- How something was asked for, which decides how a miss is reported. -/
inductive Access where
  | byAttribute
  | byIndex
  deriving DecidableEq

/-- The kind of error for a miss. -/
def Access.missKind : Access → ErrorKind
  | byAttribute => .attributeNotFound
  | byIndex => .indexOutOfRange

namespace Workspace

variable {Custom : Type}

/-- Load a dialect into the session. -/
def load (workspace : Workspace Custom) (dialect : Dialect Custom) :
    Attempt (Workspace Custom) Descriptor :=
  (workspace.session.load dialect).lift fun session => { workspace with session := session }

/-- Load the available dialect of a name. -/
def loadAvailable (workspace : Workspace Custom) (name : DialectName) :
    Attempt (Workspace Custom) Descriptor :=
  match workspace.environment.dialect? name with
  | some dialect => workspace.load dialect
  | none => .idle workspace (.error (.unknownDialect name))

/-- Load the module of a namespace into the environment. -/
def loadModule (workspace : Workspace Custom) (name : DialectName) :
    Attempt (Workspace Custom) Bool :=
  (workspace.environment.loadModule name).lift fun environment =>
    { workspace with environment := environment }

/-- A handle on the dialect of a name, which is loaded if need be. -/
def descriptor (workspace : Workspace Custom) (name : DialectName) :
    Attempt (Workspace Custom) Descriptor :=
  if !name.isValid then .idle workspace (.error (.unknownDialect name))
  else
    match workspace.session.descriptor? name with
    | some descriptor => .idle workspace (.ok descriptor)
    | none =>
      if (workspace.environment.dialect? name).isSome then workspace.loadAvailable name
      else
        (workspace.loadModule name).andThen fun found after =>
          if found then after.loadAvailable name
          else .idle after (.error (.unknownDialect name))

/-- The view that was handed out for a name, if it has a class. A view without a class is looked
up anew each time, as there may be a module by now. -/
def settledView? (workspace : Workspace Custom) (name : DialectName) : Option DialectView :=
  (workspace.session.view? name).filter fun view => view.loadedClass.isSome

/-- Look a view up without regard to those handed out before. -/
def freshView (workspace : Workspace Custom) (name : DialectName) :
    Attempt (Workspace Custom) DialectView :=
  ((workspace.environment.classOf name).lift fun environment =>
    { workspace with environment := environment }).andThen fun loadedClass after =>
      (after.descriptor name).andThen fun descriptor last =>
        let view : DialectView := ⟨descriptor, loadedClass⟩
        .idle { last with session := last.session.keepView view } (.ok view)

/-- The view of a dialect. -/
def lookUp (workspace : Workspace Custom) (name : DialectName) :
    Attempt (Workspace Custom) DialectView :=
  match workspace.settledView? name with
  | some view => .idle workspace (.ok view)
  | none => workspace.freshView name

/-- An error in which a miss is reported as one of this way of asking. -/
def reportMiss (access : Access) (error : Error) : Error :=
  if error.kind = .unknownDialect then { error with kind := access.missKind } else error

/-- The view of a dialect, asked for in some way. -/
def view (workspace : Workspace Custom) (access : Access) (name : DialectName) :
    Attempt (Workspace Custom) DialectView :=
  (workspace.lookUp name).mapError (reportMiss access)

/-! ### Loading several dialects -/

/-- Load dialects one by one. -/
def loadEach (workspace : Workspace Custom) :
    List (Dialect Custom) → Attempt (Workspace Custom) Unit
  | [] => .idle workspace (.ok ())
  | dialect :: rest =>
    let attempt := workspace.load dialect
    (attempt.state.loadEach rest).after attempt.log

/-- Load every available dialect that is not loaded yet. -/
def loadAll (workspace : Workspace Custom) : Attempt (Workspace Custom) Unit :=
  workspace.loadEach workspace.environment.available

/-- Look names up one by one, up to the first that fails. -/
def demandEach (workspace : Workspace Custom) : List String → Attempt (Workspace Custom) Unit
  | [] => .idle workspace (.ok ())
  | name :: rest =>
    (workspace.view .byIndex ⟨name⟩).andThen fun _ after => after.demandEach rest

/-- Look names up one by one, skipping those that fail. -/
def tryEach (workspace : Workspace Custom) : List String → Attempt (Workspace Custom) Unit
  | [] => .idle workspace (.ok ())
  | name :: rest =>
    let attempt := workspace.view .byIndex ⟨name⟩
    let skipped := match attempt.answer with
      | .ok _ => []
      | .error error => [.startDialectSkipped name error]
    (attempt.state.tryEach rest).after (attempt.log ++ skipped)

/-! ### Starting a session -/

/-- How a session starts: the names it must load, if they are listed, and whether operations of
unregistered dialects are allowed. -/
structure Start where
  names : Option (List String)
  allowsUnregistered : Bool

/-- What a new session loads by itself: all that is available, or else the start names of the
environment as far as they can be loaded. -/
def loadByDefault (workspace : Workspace Custom) : Attempt (Workspace Custom) Unit :=
  if workspace.environment.loadsAll then workspace.loadAll
  else workspace.tryEach workspace.environment.startNames

/-- Allow operations of unregistered dialects, or no longer. -/
def setAllowsUnregistered (workspace : Workspace Custom) (allow : Bool) : Workspace Custom :=
  { workspace with session := { workspace.session with allowsUnregistered := allow } }

/-- A new session in an environment. It fails if a listed name cannot be loaded. -/
def start (environment : Environment Custom) (options : Start) :
    Attempt (Workspace Custom) Unit :=
  let fresh : Workspace Custom := ⟨environment, Session.empty⟩
  let loading := match options.names with
    | some names => fresh.demandEach names
    | none => fresh.loadByDefault
  (loading.andThen fun _ after =>
    .idle (after.setAllowsUnregistered options.allowsUnregistered) (.ok ())).after
    [.sessionCreated]

end Workspace

end Polyglot
