/-
This file defines search paths, by which the module of a namespace is found. A search path is a
list of roots; the module of a namespace is looked for at `root.namespace`, root by root. What
was loaded once is kept, and what was not found is looked for again the next time.

The list of the roots stands for their order and for the set of them, by which a root that is there
is known. The two change together, and only where a root is appended, so that one list tells both.
-/

import Polyglot.Attempt
import Polyglot.Module.Loader

namespace Polyglot

/-- The roots in the order of the search, the modules loaded so far, and the loader. -/
structure SearchPath (Custom : Type) where
  roots : List String
  loaded : List (DialectName × LoadedModule Custom)
  loader : Loader Custom

/-- What a search comes upon first. -/
inductive SearchEnd (Custom : Type) where
  /-- No root has a module. -/
  | exhausted
  /-- There is a module that cannot be loaded. -/
  | failed (error : Error)
  /-- There is a module at a path. -/
  | found (path : String) (dialectModule : DialectModule Custom)

namespace SearchPath

variable {Custom : Type}

/-- A search path without roots. -/
def ofLoader (loader : Loader Custom) : SearchPath Custom :=
  ⟨[], [], loader⟩

/-- Append a root to the search path, unless it is there; the answer says whether it was new. -/
def append (searchPath : SearchPath Custom) (root : String) : Attempt (SearchPath Custom) Bool :=
  if searchPath.roots.contains root then .idle searchPath (.ok false)
  else ⟨.ok true, { searchPath with roots := searchPath.roots ++ [root] }, [.rootAppended root]⟩

/-- The module that was loaded for a namespace. -/
def module? (searchPath : SearchPath Custom) (name : DialectName) :
    Option (LoadedModule Custom) :=
  (searchPath.loaded.find? fun entry => entry.1 = name).map Prod.snd

/-- Was a module loaded for the namespace? -/
def isLoaded (searchPath : SearchPath Custom) (name : DialectName) : Bool :=
  (searchPath.module? name).isSome

/-- The path of a namespace's module under a root. -/
def modulePath (root : String) (name : DialectName) : String :=
  root ++ "." ++ name.text

/-- Ask the loader root by root, up to the first path that is not missing. -/
def search (loader : Loader Custom) (name : DialectName) : List String → SearchEnd Custom
  | [] => .exhausted
  | root :: rest =>
    match loader (modulePath root name) with
    | .missing => search loader name rest
    | .failed error => .failed error
    | .found dialectModule => .found (modulePath root name) dialectModule

/-- The paths that the search finds missing before it ends. -/
def missed (loader : Loader Custom) (name : DialectName) : List String → List String
  | [] => []
  | root :: rest =>
    match loader (modulePath root name) with
    | .missing => modulePath root name :: missed loader name rest
    | _ => []

/-- Keep a loaded module for a namespace. -/
def keep (searchPath : SearchPath Custom) (name : DialectName)
    (loaded : LoadedModule Custom) : SearchPath Custom :=
  { searchPath with loaded := searchPath.loaded ++ [(name, loaded)] }

/-- Make sure that the module of a namespace is loaded; the answer says whether there is one. -/
def resolve (searchPath : SearchPath Custom) (name : DialectName) :
    Attempt (SearchPath Custom) Bool :=
  if searchPath.isLoaded name then .idle searchPath (.ok true)
  else if !name.isValid then .idle searchPath (.ok false)
  else
    let log := (missed searchPath.loader name searchPath.roots).map .moduleMissing
    match search searchPath.loader name searchPath.roots with
    | .exhausted => ⟨.ok false, searchPath, log⟩
    | .failed error => ⟨.error error, searchPath, log⟩
    | .found path dialectModule =>
      ⟨.ok true, searchPath.keep name (dialectModule.load path), log ++ [.moduleLoaded path]⟩

/-- A namespace that is loaded stays as it is. -/
theorem resolve_of_isLoaded (searchPath : SearchPath Custom) (name : DialectName)
    (loaded : searchPath.isLoaded name = true) :
    searchPath.resolve name = .idle searchPath (.ok true) := by
  simp [resolve, loaded]

end SearchPath

end Polyglot
