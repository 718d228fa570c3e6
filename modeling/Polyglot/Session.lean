/-
This file defines sessions: the dialects that are loaded, in the order of their loading, the
operations, the views handed out so far, and whether operations of unregistered dialects may be
created. Dialects are never unloaded, so the position of a dialect identifies it.

The list of the loaded dialects stands for three things: the arena in which they are, the index in
which they are found by name, and the order in which they were loaded. All three change together,
and only where a dialect is loaded, so that one list tells them.
-/

import Polyglot.Dialect
import Polyglot.Environment
import Polyglot.Operation.Store

namespace Polyglot

/-- A handle on a loaded dialect: its name and its position among the loaded dialects. -/
structure Descriptor where
  name : DialectName
  position : Nat
  deriving DecidableEq

/-- The text of a handle. -/
def Descriptor.text (descriptor : Descriptor) : String :=
  "<DialectDescriptor " ++ descriptor.name.text ++ ">"

/-- A loaded dialect as clients see it: its handle and, if its module brings builders, its
class. -/
structure DialectView where
  descriptor : Descriptor
  loadedClass : Option LoadedClass

namespace DialectView

/-- The name of the dialect. -/
def name (view : DialectView) : DialectName := view.descriptor.name

/-- The class of the dialect. -/
def dialectClass (view : DialectView) : Option DialectClass :=
  view.loadedClass.map LoadedClass.dialectClass

/-- The text of a view. -/
def text (view : DialectView) : String :=
  match view.dialectClass with
  | some dialectClass =>
    "<Dialect " ++ view.name.text ++ " (class " ++ dialectClass.path ++ ")>"
  | none => "<Dialect " ++ view.name.text ++ " (generic)>"

/-- Are two views views of one dialect with one and the same class? -/
def same (first second : DialectView) : Bool :=
  first.descriptor = second.descriptor &&
    match first.loadedClass, second.loadedClass with
    | some firstClass, some secondClass => firstClass.environment = secondClass.environment
    | none, none => true
    | _, _ => false

/-- The builder of an operation. -/
def opClass (view : DialectView) (op : String) : Except Error OpClass :=
  match view.dialectClass.bind fun dialectClass => dialectClass.find? op with
  | some opClass => .ok opClass
  | none => .error (.of .attributeNotFound .unknown (.noBuilder view.name op))

end DialectView

/-- The state of one session. -/
structure Session (Custom : Type) where
  loaded : List (Dialect Custom)
  operations : Operations
  /-- The views handed out, each under the name of its dialect. -/
  views : List (DialectName × DialectView)
  allowsUnregistered : Bool

namespace Session

variable {Custom : Type}

/-- A session in which nothing happened yet. -/
def empty : Session Custom := ⟨[], Operations.empty, [], false⟩

/-- The loaded dialect of a name. -/
def dialect? (session : Session Custom) (name : DialectName) : Option (Dialect Custom) :=
  session.loaded.find? fun dialect => dialect.name = name

/-- The handle on the loaded dialect of a name. -/
def descriptor? (session : Session Custom) (name : DialectName) : Option Descriptor :=
  (session.loaded.findIdx? fun dialect => dialect.name = name).map fun position =>
    ⟨name, position⟩

/-- The dialect behind a handle. -/
def dialectAt? (session : Session Custom) (descriptor : Descriptor) : Option (Dialect Custom) :=
  session.loaded[descriptor.position]?

/-- Is this the handle that the session gives out for the name? -/
def isLoaded (session : Session Custom) (descriptor : Descriptor) : Bool :=
  session.descriptor? descriptor.name = some descriptor

/-- The names of the loaded dialects, in the order of their loading. -/
def loadedNames (session : Session Custom) : List DialectName :=
  session.loaded.map Dialect.name

/-- The schema of an operation, if its dialect is loaded and has one. -/
def schema? (session : Session Custom) (id : OpId) : Option (Schema Custom) :=
  (session.dialect? id.dialect).bind fun dialect => dialect.schema? id.name

/-- Is the operation known to a loaded dialect? -/
def isRegistered (session : Session Custom) (id : OpId) : Bool :=
  (session.schema? id).isSome

/-- Is this the written name of a registered operation? Malformed names are not. -/
def isRegisteredName (session : Session Custom) (qualified : String) : Bool :=
  match OpId.ofString? qualified with
  | some id => session.isRegistered id
  | none => false

/-- Load a dialect, unless one of its name is loaded. -/
def load (session : Session Custom) (dialect : Dialect Custom) :
    Attempt (Session Custom) Descriptor :=
  match session.descriptor? dialect.name with
  | some descriptor => .idle session (.ok descriptor)
  | none =>
    ⟨.ok ⟨dialect.name, session.loaded.length⟩,
      { session with loaded := session.loaded ++ [dialect] }, [.dialectLoaded dialect.name]⟩

/-- The view last handed out for a name. -/
def view? (session : Session Custom) (name : DialectName) : Option DialectView :=
  (session.views.find? fun entry => entry.1 = name).map Prod.snd

/-- Keep a view under the name of its dialect, in place of an earlier one. -/
def keepView (session : Session Custom) (view : DialectView) : Session Custom :=
  { session with
    views := (view.name, view) :: session.views.filter fun entry => entry.1 ≠ view.name }

theorem loaded_load (session : Session Custom) (dialect : Dialect Custom) :
    session.loaded <+: (session.load dialect).state.loaded := by
  unfold load
  split
  · exact List.prefix_refl _
  · exact List.prefix_append _ _

end Session

end Polyglot
