/-
This file defines scripts: steps that make environments, search paths and sessions under names,
and use them by their names.
-/

import Polyglot.Script.Client

namespace Polyglot.Script

/-- The loaders, modules and dialects of scripts. -/
abbrev ScriptLoader : Type := Loader ScriptVerifier

/-- The module that scripts have linked besides the standard ones: a class with one builder, and
no dialect. -/
def linkedExtra : DialectModule ScriptVerifier :=
  ⟨"custom_dialect.custom", some ((DialectClass.ofName ⟨"custom"⟩).insert "op" .plain), none⟩

/-- The loader of the modules that scripts have linked. -/
def linked : ScriptLoader :=
  .linked (Standard.modules ++ [linkedExtra])

/-- The builders that scripts give to their classes. -/
inductive ScriptBuilder where
  /-- Create the operation as it is. -/
  | create
  /-- Give an operation without results one of type `f32`. -/
  | giveResult
  /-- Refuse. -/
  | refuse

/-- How a builder prepares a draft. -/
def ScriptBuilder.prepare : ScriptBuilder → Builder
  | create => .plain
  | giveResult => fun _ draft => .ok (draft.inferResult (some (.float .f32)))
  | refuse => fun _ draft =>
    .error (.argument draft.location (.custom ("builder for '" ++ draft.name ++ "' failed")))

/-- A draft whose operands are named. -/
structure NamedDraft where
  name : String
  operands : List ValueName
  resultTypes : List Ty
  attributes : List (String × Attribute)
  location : Location

/-- The draft with the given operands. -/
def NamedDraft.withOperands (draft : NamedDraft) (operands : List Value) : Draft :=
  ⟨draft.name, operands, draft.resultTypes, draft.attributes, draft.location⟩

/-- Where a shared environment comes from. -/
inductive Share where
  | named (environment : String)
  | ofSession (session : String)

/-- What is asked of an environment. -/
inductive EnvironmentRequest where
  | register (dialect : Dialect ScriptVerifier)
  | availableNames
  | appendRoot (root : String)
  | roots
  | startNames
  | appendStartName (name : String)
  | loadsAll
  | setLoadsAll (choice : Bool)
  | isModuleLoaded (name : String)
  | loadModule (name : String)
  | classOf (name : String)
  /-- Look up the builder of a qualified name and keep it under a name. -/
  | opClassOf (qualified name : String)

/-- What is asked of a search path. -/
inductive SearchRequest where
  | append (root : String)
  | roots
  | resolve (name : String)
  | isLoaded (name : String)
  | module (name : String)

/-- What is asked of a session and may change it. -/
inductive SessionRequest where
  | close
  | loadAll
  | setAllowsUnregistered (choice : Bool)
  /-- Look up a handle on a dialect and keep it under a name. -/
  | descriptor (dialect name : String)
  | isLoaded (descriptor : String)
  /-- Look up a view of a dialect and keep it under a name. -/
  | view (access : Access) (dialect name : String)
  /-- Create an operation and keep it under a name. -/
  | create (name : String) (draft : NamedDraft)
  /-- Build an operation through a view and keep it under a name. -/
  | buildFrom (name view op : String) (draft : NamedDraft)
  /-- Build an operation through a builder and keep it under a name. -/
  | buildBy (name opClass : String) (draft : NamedDraft)
  | erase (op : String)
  | setAttribute (op name : String) (value : Attribute)
  | setLocation (op : String) (location : Location)
  /-- Do something that is no more than a visit. -/
  | visit (action : Action)

/-- What is asked of the things that scripts keep. -/
inductive KeptRequest where
  | sameDescriptor (first second : String)
  | showView (view : String)
  | sameView (first second : String)
  /-- Look up the builder that a view has for an operation and keep it under a name. -/
  | opClass (view op name : String)

/-- A step of a script. -/
inductive Command where
  | newEnvironment (name : String) (loader : ScriptLoader)
  | shareEnvironment (name : String) (source : Share)
  | environment (name : String) (request : EnvironmentRequest)
  | load (loader : ScriptLoader) (path : String)
  | newSearchPath (name : String) (loader : ScriptLoader)
  | searchPath (name : String) (request : SearchRequest)
  | openSession (name environment : String) (options : Workspace.Start)
  | countLive
  | session (request : SessionRequest)
  | kept (request : KeptRequest)

/-- A command, with the name of the session that it is about or that its errors are shown in. -/
structure Step where
  session : String
  command : Command

/-- How many actions are written in a command. -/
def Command.size : Command → Nat
  | .session (.visit action) => action.size
  | _ => 1

end Polyglot.Script

namespace Polyglot

/-- A script: its steps, and whether the log is part of its events. -/
structure Script where
  steps : List Script.Step
  traced : Bool

end Polyglot
