/-
This file defines diagnostics: messages of some severity about a place, with notes that travel
along with them.
-/

import Polyglot.Location

namespace Polyglot

/-- How serious a diagnostic is, from the mildest to the gravest. -/
inductive Severity where
  | note
  | remark
  | warning
  | error
  deriving DecidableEq

namespace Severity

/-- The word for a severity. -/
def text : Severity → String
  | note => "note"
  | remark => "remark"
  | warning => "warning"
  | error => "error"

/-- The place of a severity in their order. -/
def rank : Severity → Nat
  | note => 0
  | remark => 1
  | warning => 2
  | error => 3

/-- The order of severities. -/
def compare (first second : Severity) : Ordering :=
  Ord.compare first.rank second.rank

/-- Is the first severity as grave as the second, or graver? -/
def reaches (first second : Severity) : Bool :=
  second.rank ≤ first.rank

end Severity

/-- A message about a place. -/
structure Diagnostic where
  severity : Severity
  message : String
  location : Location
  notes : List Diagnostic

namespace Diagnostic

/-- A diagnostic without notes. -/
def plain (severity : Severity) (location : Location) (message : String) : Diagnostic :=
  ⟨severity, message, location, []⟩

/-- An error without notes. -/
def error (location : Location) (message : String) : Diagnostic :=
  plain .error location message

/-- A warning without notes. -/
def warning (location : Location) (message : String) : Diagnostic :=
  plain .warning location message

/-- The diagnostic with one more note behind the ones it has. -/
def withNote (diagnostic : Diagnostic) (location : Location) (message : String) : Diagnostic :=
  { diagnostic with notes := diagnostic.notes ++ [plain .note location message] }

/-- Is the diagnostic an error? -/
def isError (diagnostic : Diagnostic) : Bool :=
  diagnostic.severity = .error

mutual

/-- The text of a diagnostic. Each note starts a line of its own, indented by two spaces. -/
def text : Diagnostic → String
  | ⟨severity, message, location, notes⟩ =>
    location.text ++ ": " ++ severity.text ++ ": " ++ message ++ textOfNotes notes

/-- The text of notes. -/
def textOfNotes : List Diagnostic → String
  | [] => ""
  | first :: rest => "\n  " ++ first.text ++ textOfNotes rest

end

/-! ### Equality -/

mutual

/-- Have two diagnostics the same structure? -/
def same : Diagnostic → Diagnostic → Bool
  | ⟨severity, message, location, notes⟩,
      ⟨otherSeverity, otherMessage, otherLocation, otherNotes⟩ =>
    severity == otherSeverity && message == otherMessage && location == otherLocation &&
      sameAll notes otherNotes

/-- Have two lists of diagnostics the same structure? -/
def sameAll : List Diagnostic → List Diagnostic → Bool
  | [], [] => true
  | first :: rest, other :: others => same first other && sameAll rest others
  | _, _ => false

end

mutual

theorem same_iff : (first second : Diagnostic) → (same first second = true ↔ first = second)
  | ⟨_, _, _, notes⟩, ⟨_, _, _, _⟩ => by simp [same, sameAll_iff notes, and_assoc]

theorem sameAll_iff :
    (first second : List Diagnostic) → (sameAll first second = true ↔ first = second)
  | [], second => by cases second <;> simp [sameAll]
  | head :: rest, second => by
    cases second <;> simp [sameAll, same_iff head, sameAll_iff rest]

end

instance : DecidableEq Diagnostic := fun first second =>
  decidable_of_iff (same first second = true) (same_iff first second)

end Diagnostic

end Polyglot
