/-
This file defines environments, which hold what sessions share: the dialects that are available,
the search path for dialect modules, and what a new session loads by itself.

A dialect becomes available by being registered, or because its module is loaded; the first
dialect of a name stays.
-/

import Polyglot.Module.SearchPath
import Polyglot.Name.Parse
import Polyglot.Standard

namespace Polyglot

/-- What sessions share. -/
structure Environment (Custom : Type) where
  /-- The number that tells this environment from others. -/
  stamp : Nat
  searchPath : SearchPath Custom
  /-- The dialects that can be loaded without a search, in the order of registration. -/
  available : List (Dialect Custom)
  /-- The names that a new session loads if it does not load all that is available. -/
  startNames : List String
  /-- Does a new session load all that is available? -/
  loadsAll : Bool

/-- The class of builders that a module brought to an environment. A namespace gets its module
once, so two loaded classes of one namespace are the same exactly if their environments are. -/
structure LoadedClass where
  environment : Nat
  dialectClass : DialectClass

namespace Environment

variable {Custom : Type}

/-- An environment with the standard dialects, whose modules are searched for under the
standard root. -/
def ofLoader (stamp : Nat) (loader : Loader Custom) : Environment Custom :=
  { stamp := stamp
    searchPath := ((SearchPath.ofLoader loader).append Standard.root).state
    available := Standard.dialects
    startNames := []
    loadsAll := true }

/-- What happens while an environment is set up. -/
def setupLog : List LogEvent :=
  .rootAppended Standard.root ::
    (Standard.dialects : List (Dialect Empty)).map fun dialect => .dialectRegistered dialect.name

/-- The available dialect of a name. -/
def dialect? (environment : Environment Custom) (name : DialectName) :
    Option (Dialect Custom) :=
  environment.available.find? fun dialect => dialect.name = name

/-- The names of the available dialects, in the order of registration. -/
def availableNames (environment : Environment Custom) : List DialectName :=
  environment.available.map Dialect.name

/-- Make a dialect available, unless there is one of that name; the answer says whether it is
new. -/
def register (environment : Environment Custom) (dialect : Dialect Custom) :
    Attempt (Environment Custom) Bool :=
  if (environment.dialect? dialect.name).isSome then .idle environment (.ok false)
  else ⟨.ok true, { environment with available := environment.available ++ [dialect] },
    [.dialectRegistered dialect.name]⟩

/-- Append a root to the search path. -/
def appendRoot (environment : Environment Custom) (root : String) :
    Attempt (Environment Custom) Bool :=
  (environment.searchPath.append root).lift fun searchPath =>
    { environment with searchPath := searchPath }

/-- Append a name to those that a new session loads, unless it is there. -/
def appendStartName (environment : Environment Custom) (name : String) : Environment Custom :=
  if environment.startNames.contains name then environment
  else { environment with startNames := environment.startNames ++ [name] }

/-- Make the dialect of a loaded module available, if it has one. -/
def adopt (environment : Environment Custom) (loaded : Option (LoadedModule Custom)) :
    Attempt (Environment Custom) Bool :=
  match loaded.bind LoadedModule.dialect with
  | some dialect => { environment.register dialect with answer := .ok true }
  | none => .idle environment (.ok true)

/-- Load the module of a namespace, unless it is loaded; the answer says whether there is one.
If the module brings a dialect, that dialect becomes available. -/
def loadModule (environment : Environment Custom) (name : DialectName) :
    Attempt (Environment Custom) Bool :=
  if environment.searchPath.isLoaded name then .idle environment (.ok true)
  else
    ((environment.searchPath.resolve name).lift fun searchPath =>
      { environment with searchPath := searchPath }).andThen fun found resolved =>
        if found then resolved.adopt (resolved.searchPath.module? name)
        else .idle resolved (.ok false)

/-- The class of a namespace, whose module is loaded if need be. -/
def classOf (environment : Environment Custom) (name : DialectName) :
    Attempt (Environment Custom) (Option LoadedClass) :=
  (environment.loadModule name).andThen fun found after =>
    .idle after (.ok (if found then
      ((after.searchPath.module? name).bind LoadedModule.dialectClass).map
        fun dialectClass => ⟨after.stamp, dialectClass⟩
    else none))

/-- The builder for a qualified name, whose dialect's module is loaded if need be. -/
def opClassOf (environment : Environment Custom) (qualified : String) :
    Attempt (Environment Custom) (Option OpClass) :=
  match OpId.parse qualified with
  | .error error => .idle environment (.error error)
  | .ok id =>
    (environment.classOf id.dialect).andThen fun found after =>
      .idle after (.ok (found.bind fun loaded => loaded.dialectClass.find? id.name))

theorem available_register (environment : Environment Custom) (dialect : Dialect Custom) :
    environment.available <+: (environment.register dialect).state.available := by
  unfold register
  split
  · exact List.prefix_refl _
  · exact List.prefix_append _ _

end Environment

end Polyglot
