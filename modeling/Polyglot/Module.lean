/-
This file defines dialect modules. A module sits at a path and brings what a namespace needs
beyond its dialect: a class with builders and, for a dialect that is not available by itself,
the dialect.
-/

import Polyglot.Builder
import Polyglot.Dialect

namespace Polyglot

/-- A module that can be loaded. -/
structure DialectModule (Custom : Type) where
  path : String
  dialectClass : Option DialectClass
  dialect : Option (Dialect Custom)

/-- What is kept of a module once it is loaded. Its class bears the path. -/
structure LoadedModule (Custom : Type) where
  path : String
  dialectClass : Option DialectClass
  dialect : Option (Dialect Custom)

/-- Load a module that was found at a path. -/
def DialectModule.load {Custom : Type} (dialectModule : DialectModule Custom) (path : String) :
    LoadedModule Custom :=
  { path := path
    dialectClass := dialectModule.dialectClass.map fun found => { found with path := path }
    dialect := dialectModule.dialect }

end Polyglot
