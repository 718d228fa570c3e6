/-
This file defines builders. A builder prepares a draft, looking at the operations there are,
and the prepared draft is then created. The class of a dialect holds its builders by operation
name, and all of them are for operations of that dialect; a class that was loaded as part of a
module knows the path of the module.
-/

import Polyglot.Operation.Store

namespace Polyglot

/-- How a draft is prepared before it is created. -/
abbrev Builder : Type := Operations → Draft → Except Error Draft

namespace Builder

/-- The builder that leaves the draft as it is. -/
def plain : Builder := fun _ draft => .ok draft

/-- The builder that takes a missing result type from the `value` attribute. -/
def resultFromValue : Builder := fun _ draft =>
  .ok (draft.inferResult ((draft.attribute? "value").bind Attribute.ty?))

/-- The builder that takes a missing result type from the first operand. -/
def resultFromOperand : Builder := fun operations draft =>
  .ok (draft.inferResult (draft.operands.head?.bind operations.tyOf?))

end Builder

/-- A builder together with the name of the operations it builds. -/
structure OpClass where
  id : OpId
  builder : Builder

/-- Prepare a draft for this operation. Whatever name the draft has is replaced. -/
def OpClass.prepare (opClass : OpClass) (operations : Operations) (draft : Draft) :
    Except Error Draft :=
  opClass.builder operations { draft with name := opClass.id.text }

/-- Every builder is for an operation of the dialect, and stands under the name of that
operation. -/
def DialectClass.Labelled (name : DialectName) (builders : Dictionary OpClass) : Prop :=
  ∀ op opClass, builders.find? op = some opClass → opClass.id = ⟨name, op⟩

theorem DialectClass.labelled_empty (name : DialectName) : Labelled name Dictionary.empty := by
  intro op opClass found
  rw [Dictionary.find?_empty] at found
  cases found

theorem DialectClass.Labelled.insert {name : DialectName} {builders : Dictionary OpClass}
    (labelled : Labelled name builders) (op : String) (builder : Builder) :
    Labelled name (builders.insert op ⟨⟨name, op⟩, builder⟩) := by
  intro probe opClass found
  rw [Dictionary.find?_insert] at found
  by_cases same : probe = op
  · rw [if_pos same] at found
    cases found
    exact congrArg (OpId.mk name) same.symm
  · rw [if_neg same] at found
    exact labelled probe opClass found

/-- The builders of a dialect. -/
structure DialectClass where
  name : DialectName
  /-- The path of the module the class was loaded from, empty before that. -/
  path : String
  builders : Dictionary OpClass
  labelled : DialectClass.Labelled name builders

namespace DialectClass

/-- A class without builders. -/
def ofName (name : DialectName) : DialectClass :=
  ⟨name, "", Dictionary.empty, labelled_empty name⟩

/-- The class with a builder for an operation of its dialect. -/
def insert (dialectClass : DialectClass) (op : String) (builder : Builder) : DialectClass :=
  { dialectClass with
    builders := dialectClass.builders.insert op ⟨⟨dialectClass.name, op⟩, builder⟩
    labelled := dialectClass.labelled.insert op builder }

/-- The class with builders for operations of its dialect. -/
def insertAll (dialectClass : DialectClass) (entries : List (String × Builder)) :
    DialectClass :=
  entries.foldl (fun result (op, builder) => result.insert op builder) dialectClass

/-- The builder of an operation. -/
def find? (dialectClass : DialectClass) (op : String) : Option OpClass :=
  dialectClass.builders.find? op

/-- The names of the operations with builders, sorted. -/
def opNames (dialectClass : DialectClass) : List String :=
  dialectClass.builders.keys

end DialectClass

end Polyglot
