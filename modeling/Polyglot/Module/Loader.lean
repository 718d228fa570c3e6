/-
This file defines loaders, which say what there is at a module path: nothing, a module, or a
module that cannot be loaded and the error that says why. The modules linked into a program form
one loader; a table of modules is another, and a table may fall back on a further loader for paths
it does not mention.
-/

import Polyglot.Error
import Polyglot.Module

namespace Polyglot

/-- What a loader says about a path. -/
inductive Finding (Custom : Type) where
  | missing
  /-- There is a module, but it cannot be loaded. -/
  | failed (error : Error)
  | found (dialectModule : DialectModule Custom)

/-- How a path turns into a module. -/
abbrev Loader (Custom : Type) : Type := String → Finding Custom

variable {Custom : Type}

/-- The loader that knows nothing. -/
def Loader.empty : Loader Custom := fun _ => .missing

/-- The loader of linked modules: of several at one path the first counts. -/
def Loader.linked (modules : List (DialectModule Custom)) : Loader Custom := fun path =>
  match modules.find? fun linked => linked.path = path with
  | some linked => .found linked
  | none => .missing

/-- Modules by path, paths whose modules are broken, and a loader for all other paths. -/
structure ModuleTable (Custom : Type) where
  modules : Dictionary (DialectModule Custom)
  broken : Dictionary String
  fallback : Loader Custom

namespace ModuleTable

/-- The table that mentions no path. -/
def ofFallback (fallback : Loader Custom) : ModuleTable Custom :=
  ⟨Dictionary.empty, Dictionary.empty, fallback⟩

/-- Put a module at its path, in place of any other. -/
def insert (table : ModuleTable Custom) (dialectModule : DialectModule Custom) :
    ModuleTable Custom :=
  { table with modules := table.modules.insert dialectModule.path dialectModule }

/-- Let loading a path fail for a reason. -/
def insertBroken (table : ModuleTable Custom) (path reason : String) : ModuleTable Custom :=
  { table with broken := table.broken.insert path reason }

/-- The loader of a table. A path that is marked broken is broken even if there is a module. -/
def load (table : ModuleTable Custom) : Loader Custom := fun path =>
  match table.broken.find? path with
  | some reason => .failed (.brokenModule path reason)
  | none =>
    match table.modules.find? path with
    | some dialectModule => .found dialectModule
    | none => table.fallback path

theorem load_of_broken (table : ModuleTable Custom) (path reason : String)
    (marked : table.broken.find? path = some reason) :
    table.load path = .failed (.brokenModule path reason) := by
  simp [load, marked]

end ModuleTable

end Polyglot
