/-
This file defines the types of values, and their text.

Types are compared by structure. A function type is written with its inputs in parentheses and
an arrow; its results stand in parentheses too, unless there is exactly one of them and that one
is no function type itself.
-/

namespace Polyglot

/-- The formats of floating point types. -/
inductive FloatKind where
  | f16
  | f32
  | f64
  deriving DecidableEq

/-- The types of values. -/
inductive Ty where
  /-- Integers of a width in bits, without a sign of their own. -/
  | integer (width : Nat)
  /-- Floating point numbers. -/
  | float (kind : FloatKind)
  /-- Sizes and positions. -/
  | index
  /-- Functions from inputs to results. -/
  | function (inputs results : List Ty)
  /-- The type of nothing. -/
  | nothing
  /-- A type that belongs to some dialect and is kept as text. -/
  | foreign (dialect data : String)

/-- The name of a format. -/
def FloatKind.text : FloatKind → String
  | f16 => "f16"
  | f32 => "f32"
  | f64 => "f64"

namespace Ty

/-- Are these results written without parentheses? -/
def standAlone : List Ty → Bool
  | [.function _ _] => false
  | [_] => true
  | _ => false

mutual

/-- The text of a type. -/
def text : Ty → String
  | .integer width => "i" ++ toString width
  | .float kind => kind.text
  | .index => "index"
  | .function inputs results =>
    "(" ++ ", ".intercalate (texts inputs) ++ ") -> " ++
      (if standAlone results then ", ".intercalate (texts results)
      else "(" ++ ", ".intercalate (texts results) ++ ")")
  | .nothing => "none"
  | .foreign dialect data => "!" ++ dialect ++ "." ++ data

/-- The texts of types, one by one. -/
def texts : List Ty → List String
  | [] => []
  | first :: rest => first.text :: texts rest

end

theorem texts_eq_map (types : List Ty) : texts types = types.map text := by
  induction types with
  | nil => rfl
  | cons first rest inductionHypothesis => rw [texts, inductionHypothesis, List.map_cons]

/-! ### Equality -/

mutual

/-- Have two types the same structure? -/
def same : Ty → Ty → Bool
  | .integer first, .integer second => first == second
  | .float first, .float second => first == second
  | .index, .index => true
  | .function inputs results, .function otherInputs otherResults =>
    sameAll inputs otherInputs && sameAll results otherResults
  | .nothing, .nothing => true
  | .foreign dialect data, .foreign otherDialect otherData =>
    dialect == otherDialect && data == otherData
  | _, _ => false

/-- Have two lists of types the same structure? -/
def sameAll : List Ty → List Ty → Bool
  | [], [] => true
  | first :: rest, other :: others => same first other && sameAll rest others
  | _, _ => false

end

mutual

theorem same_iff : (first second : Ty) → (same first second = true ↔ first = second)
  | .integer _, second => by cases second <;> simp [same]
  | .float _, second => by cases second <;> simp [same]
  | .index, second => by cases second <;> simp [same]
  | .function inputs results, second => by
    cases second <;> simp [same, sameAll_iff inputs, sameAll_iff results]
  | .nothing, second => by cases second <;> simp [same]
  | .foreign _ _, second => by cases second <;> simp [same]

theorem sameAll_iff : (first second : List Ty) → (sameAll first second = true ↔ first = second)
  | [], second => by cases second <;> simp [sameAll]
  | head :: rest, second => by
    cases second <;> simp [sameAll, same_iff head, sameAll_iff rest]

end

instance : DecidableEq Ty := fun first second =>
  decidable_of_iff (same first second = true) (same_iff first second)

/-! ### Classes of types -/

/-- Is it a type of integers of some width? -/
def isInteger : Ty → Bool
  | .integer _ => true
  | _ => false

/-- Is it a floating point type? -/
def isFloat : Ty → Bool
  | .float _ => true
  | _ => false

/-- Is it a type of integers or the index type? -/
def isIntegerOrIndex : Ty → Bool
  | .integer _ => true
  | .index => true
  | _ => false

end Ty

end Polyglot
