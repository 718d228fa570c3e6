/-
This file defines qualified operation names: the name of a dialect, a dot, and the name of the
operation in its dialect. The second part may hold dots of its own, the first may not, so the
first dot of a written name is the one between the parts.
-/

import Polyglot.Name.Identifier

namespace Polyglot

/-- The name of an operation together with the name of its dialect. -/
structure OpId where
  dialect : DialectName
  name : String
  deriving DecidableEq

namespace OpId

/-- The written form. -/
def text (id : OpId) : String :=
  id.dialect.text ++ "." ++ id.name

/-- The characters before the first dot and those behind it, if there is a dot. -/
def splitAtDot : List Char → Option (List Char × List Char)
  | [] => none
  | first :: rest =>
    if first = '.' then some ([], rest)
    else (splitAtDot rest).map fun (before, behind) => (first :: before, behind)

/-- The qualified name with the given written form, if both parts are well formed. -/
def ofString? (written : String) : Option OpId :=
  match splitAtDot written.toList with
  | some (before, behind) =>
    let dialect := String.ofList before
    let name := String.ofList behind
    if DialectName.isWellFormed dialect && Identifier.isValid name then some ⟨⟨dialect⟩, name⟩
    else none
  | none => none

/-- Splitting puts the dot back where it was. -/
theorem eq_of_splitAtDot (characters before behind : List Char)
    (split : splitAtDot characters = some (before, behind)) :
    characters = before ++ '.' :: behind := by
  induction characters generalizing before with
  | nil => simp [splitAtDot] at split
  | cons first rest inductionHypothesis =>
    rw [splitAtDot] at split
    split at split
    · next dot =>
      cases split
      rw [dot, List.nil_append]
    · obtain ⟨⟨front, back⟩, found, pair⟩ := Option.map_eq_some_iff.1 split
      cases pair
      rw [inductionHypothesis front found, List.cons_append]

/-- Characters without a dot are kept together. -/
theorem splitAtDot_append (before behind : List Char) (noDot : '.' ∉ before) :
    splitAtDot (before ++ '.' :: behind) = some (before, behind) := by
  induction before with
  | nil => simp [splitAtDot]
  | cons first rest inductionHypothesis =>
    have firstOther : first ≠ '.' := fun same => noDot (same ▸ List.mem_cons_self)
    have restOther : '.' ∉ rest := fun member => noDot (List.mem_cons_of_mem _ member)
    rw [List.cons_append, splitAtDot, if_neg firstOther, inductionHypothesis restOther]
    rfl

end OpId

end Polyglot
