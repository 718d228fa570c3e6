/-
This file defines source locations, which operations, diagnostics and errors carry, with their
text and the way several of them are fused into one.
-/

namespace Polyglot

/-- A place in a source, or several places taken together. -/
inductive Location where
  /-- Nothing is known. -/
  | unknown
  /-- A line and a column of a file. -/
  | file (name : String) (line column : Nat)
  /-- Several places at once. -/
  | fused (parts : List Location)
  /-- A place with a name. -/
  | named (name : String) (place : Location)
  /-- A place in a callee together with the place of the call. -/
  | call (callee caller : Location)

namespace Location

mutual

/-- The text of a location. -/
def text : Location → String
  | .unknown => "?"
  | .file name line column => name ++ ":" ++ toString line ++ ":" ++ toString column
  | .fused parts => "fused[" ++ ", ".intercalate (texts parts) ++ "]"
  | .named name place => name ++ "(" ++ place.text ++ ")"
  | .call callee caller => "callsite(" ++ callee.text ++ " at " ++ caller.text ++ ")"

/-- The texts of locations, one by one. -/
def texts : List Location → List String
  | [] => []
  | first :: rest => first.text :: texts rest

end

theorem texts_eq_map (locations : List Location) : texts locations = locations.map text := by
  induction locations with
  | nil => rfl
  | cons first rest inductionHypothesis => rw [texts, inductionHypothesis, List.map_cons]

/-- Is nothing known about the place? -/
def isUnknown : Location → Bool
  | .unknown => true
  | _ => false

/-- Fuse locations. Unknown ones are left out; of none the result is unknown, and of a single
one it is that one. -/
def fuse (locations : List Location) : Location :=
  match locations.filter (fun location => !location.isUnknown) with
  | [] => .unknown
  | [single] => single
  | several => .fused several

/-! ### Equality -/

mutual

/-- Have two locations the same structure? -/
def same : Location → Location → Bool
  | .unknown, .unknown => true
  | .file name line column, .file otherName otherLine otherColumn =>
    name == otherName && line == otherLine && column == otherColumn
  | .fused parts, .fused otherParts => sameAll parts otherParts
  | .named name place, .named otherName otherPlace => name == otherName && same place otherPlace
  | .call callee caller, .call otherCallee otherCaller =>
    same callee otherCallee && same caller otherCaller
  | _, _ => false

/-- Have two lists of locations the same structure? -/
def sameAll : List Location → List Location → Bool
  | [], [] => true
  | first :: rest, other :: others => same first other && sameAll rest others
  | _, _ => false

end

mutual

theorem same_iff : (first second : Location) → (same first second = true ↔ first = second)
  | .unknown, second => by cases second <;> simp [same]
  | .file _ _ _, second => by cases second <;> simp [same, and_assoc]
  | .fused parts, second => by cases second <;> simp [same, sameAll_iff parts]
  | .named _ place, second => by cases second <;> simp [same, same_iff place]
  | .call callee caller, second => by
    cases second <;> simp [same, same_iff callee, same_iff caller]

theorem sameAll_iff :
    (first second : List Location) → (sameAll first second = true ↔ first = second)
  | [], second => by cases second <;> simp [sameAll]
  | head :: rest, second => by
    cases second <;> simp [sameAll, same_iff head, sameAll_iff rest]

end

instance : DecidableEq Location := fun first second =>
  decidable_of_iff (same first second = true) (same_iff first second)

end Location

end Polyglot
