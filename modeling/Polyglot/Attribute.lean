/-
This file defines attributes, the constants that operations carry, with their text and their
equality, and the attribute dictionaries of operations.

Numbers keep their equality inside attributes: an attribute that holds no number at all differs
from itself, and zeros of both signs are equal.
-/

import Polyglot.Decimal.Binary64
import Polyglot.Dictionary
import Polyglot.Name.Identifier
import Polyglot.Text.Quoted
import Polyglot.Ty

namespace Polyglot

/-- Constants attached to operations. -/
inductive Attribute where
  /-- An attribute that says all by being there. -/
  | unit
  | bool (value : Bool)
  | integer (value : Int) (ty : Ty)
  | float (value : Decimal.Binary64) (ty : Ty)
  | string (value : String)
  /-- A reference to a symbol. -/
  | symbol (name : String)
  | type (ty : Ty)
  | array (elements : List Attribute)

namespace Attribute

/-- The type of a typed attribute: an integer, a float, or a type itself. -/
def ty? : Attribute → Option Ty
  | .integer _ ty => some ty
  | .float _ ty => some ty
  | .type ty => some ty
  | _ => none

mutual

/-- The text of an attribute. -/
def text : Attribute → String
  | .unit => "unit"
  | .bool value => if value then "true" else "false"
  | .integer value ty => toString value ++ " : " ++ ty.text
  | .float value ty => value.text ++ " : " ++ ty.text
  | .string value => Text.quoted value
  | .symbol name => "@" ++ name
  | .type ty => ty.text
  | .array elements => "[" ++ ", ".intercalate (texts elements) ++ "]"

/-- The texts of attributes, one by one. -/
def texts : List Attribute → List String
  | [] => []
  | first :: rest => first.text :: texts rest

end

theorem texts_eq_map (attributes : List Attribute) : texts attributes = attributes.map text := by
  induction attributes with
  | nil => rfl
  | cons first rest inductionHypothesis => rw [texts, inductionHypothesis, List.map_cons]

mutual

/-- Are two attributes equal, their numbers compared as numbers? -/
def same : Attribute → Attribute → Bool
  | .unit, .unit => true
  | .bool first, .bool second => first == second
  | .integer first firstTy, .integer second secondTy => first == second && firstTy == secondTy
  | .float first firstTy, .float second secondTy => first.same second && firstTy == secondTy
  | .string first, .string second => first == second
  | .symbol first, .symbol second => first == second
  | .type first, .type second => first == second
  | .array first, .array second => sameAll first second
  | _, _ => false

/-- Are two lists of attributes equal, their numbers compared as numbers? -/
def sameAll : List Attribute → List Attribute → Bool
  | [], [] => true
  | first :: rest, other :: others => same first other && sameAll rest others
  | _, _ => false

end

end Attribute

/-- The attributes of an operation, in the order of their names. -/
structure AttributeDict where
  entries : Dictionary Attribute

namespace AttributeDict

/-- No attributes. -/
def empty : AttributeDict := ⟨Dictionary.empty⟩

/-- The attribute of a name. -/
def find? (attributes : AttributeDict) (name : String) : Option Attribute :=
  attributes.entries.find? name

/-- Is there an attribute of that name? -/
def contains (attributes : AttributeDict) (name : String) : Bool :=
  (attributes.find? name).isSome

/-- Set the attribute of a name, which is an identifier. -/
def set (attributes : AttributeDict) (name : Identifier) (value : Attribute) : AttributeDict :=
  ⟨attributes.entries.insert name.text value⟩

/-- Are there no attributes? -/
def isEmpty (attributes : AttributeDict) : Bool :=
  attributes.entries.isEmpty

/-- The text of one entry. A unit attribute is written by its name alone. -/
def entryText : String × Attribute → String
  | (name, .unit) => name
  | (name, value) => name ++ " = " ++ value.text

/-- The text of the attributes, between braces. -/
def text (attributes : AttributeDict) : String :=
  "\x7b" ++ ", ".intercalate (attributes.entries.entries.map entryText) ++ "\x7d"

/-- Setting an attribute changes that name and no other. -/
theorem find?_set (attributes : AttributeDict) (name : Identifier) (value : Attribute)
    (probe : String) :
    (attributes.set name value).find? probe =
      if probe = name.text then some value else attributes.find? probe :=
  Dictionary.find?_insert attributes.entries name.text probe value

end AttributeDict

end Polyglot
