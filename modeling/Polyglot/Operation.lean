/-
This file defines operations, the values they produce, and drafts, which hold everything that
is needed to create an operation.

An operation is referred to by the number it got when it was created. Numbers are never given
out twice, so a reference to an operation that is gone stays a reference to nothing.
-/

import Polyglot.Attribute
import Polyglot.Location
import Polyglot.Name.OpId

namespace Polyglot

/-- A reference to an operation by its number. -/
structure OpRef where
  number : Nat
  deriving DecidableEq

/-- A result of an operation. -/
structure Value where
  definer : OpRef
  index : Nat
  deriving DecidableEq

/-- Everything that is needed to create an operation. -/
structure Draft where
  /-- The qualified name in its written form. -/
  name : String
  operands : List Value
  resultTypes : List Ty
  /-- Named attributes; a name may occur again, and the last attribute counts. -/
  attributes : List (String × Attribute)
  location : Location

/-- The attribute that counts for a name. -/
def Draft.attribute? (draft : Draft) (name : String) : Option Attribute :=
  (draft.attributes.reverse.find? fun entry => entry.1 = name).map Prod.snd

/-- Give a draft that names no result types the given one, if there is one. -/
def Draft.inferResult (draft : Draft) (ty : Option Ty) : Draft :=
  if draft.resultTypes.isEmpty then { draft with resultTypes := ty.toList } else draft

/-- An operation. -/
structure Operation where
  ref : OpRef
  id : OpId
  operands : List Value
  resultTypes : List Ty
  attributes : AttributeDict
  location : Location

namespace Operation

/-- The results of an operation. -/
def results (operation : Operation) : List Value :=
  (List.range operation.resultTypes.length).map fun index => ⟨operation.ref, index⟩

/-- What stands before the name: the results that the operation defines. -/
def header (operation : Operation) : String :=
  match operation.resultTypes.length with
  | 0 => ""
  | 1 => "%" ++ toString operation.ref.number ++ " = "
  | count => "%" ++ toString operation.ref.number ++ ":" ++ toString count ++ " = "

end Operation

end Polyglot
