/-
This file proves how names are read from texts. An identifier is read from its own text. A qualified
operation name is split at its first dot, which its dialect name cannot have: it is read from its
written form, and what is read has valid parts and the text as its written form.
-/

import Polyglot.Name.Parse

namespace Polyglot

/-! ### Identifiers -/

theorem Identifier.parse_of_valid (text : String) (valid : isValid text = true) :
    parse text = .ok ⟨text, valid⟩ := by
  simp [parse, ofString?, valid]

theorem Identifier.parse_of_invalid (text : String) (invalid : isValid text = false) :
    parse text = .error (.argument .unknown (.malformedIdentifier text)) := by
  simp [parse, ofString?, invalid]

theorem Identifier.text_of_parse {text : String} {identifier : Identifier}
    (parsed : parse text = .ok identifier) : identifier.text = text := by
  unfold parse ofString? at parsed
  by_cases valid : isValid text = true
  · rw [dif_pos valid] at parsed
    exact Except.ok.inj parsed ▸ rfl
  · rw [dif_neg valid] at parsed
    cases parsed

/-! ### Qualified names -/

theorem DialectName.not_mem_dot (name : DialectName) (valid : name.isValid = true) :
    '.' ∉ name.text.toList := by
  rw [isValid, isWellFormed, Bool.and_eq_true] at valid
  simpa using valid.2

namespace OpId

/-- A qualified name is read from its text. -/
theorem ofString?_text (id : OpId) (dialect : id.dialect.isValid = true)
    (name : Identifier.isValid id.name = true) : ofString? id.text = some id := by
  have split : splitAtDot id.text.toList = some (id.dialect.text.toList, id.name.toList) := by
    rw [text, String.toList_append, String.toList_append, List.append_assoc]
    exact splitAtDot_append _ _ (id.dialect.not_mem_dot dialect)
  rw [ofString?, split]
  simp only [String.ofList_toList]
  exact if_pos (Bool.and_eq_true_iff.mpr ⟨dialect, name⟩)

/-- What is read has valid parts, and it is read from its written form alone. -/
theorem ofString?_eq_some_iff {written : String} {id : OpId} :
    ofString? written = some id ↔
      id.text = written ∧ id.dialect.isValid = true ∧ Identifier.isValid id.name = true := by
  constructor
  · intro named
    unfold ofString? at named
    split at named
    next before behind found =>
      dsimp only at named
      split at named
      next valid =>
        cases named
        refine ⟨?_, Bool.and_eq_true_iff.mp valid⟩
        rw [← String.toList_inj, eq_of_splitAtDot _ _ _ found, text, String.toList_append,
          String.toList_append, List.append_assoc]
        simp only [String.toList_ofList]
        rfl
      next => cases named
    next => cases named
  · rintro ⟨rfl, dialect, name⟩
    exact ofString?_text id dialect name

/-- Two operations of one name have the same text exactly if their dialects have. -/
theorem text_eq_text_iff (first second : DialectName) (op : String) :
    text ⟨first, op⟩ = text ⟨second, op⟩ ↔ first = second := by
  refine ⟨fun same => ?_, fun same => congrArg (fun dialect => text ⟨dialect, op⟩) same⟩
  rw [← String.toList_inj, text, text, String.toList_append, String.toList_append,
    String.toList_append, String.toList_append] at same
  cases first
  cases second
  exact congrArg DialectName.mk (String.toList_inj.mp
    (List.append_cancel_right (List.append_cancel_right same)))

/-- Operation names whose dialects are well formed are told apart by their texts. -/
theorem eq_of_text_eq {first second : OpId} (valid : first.dialect.isValid = true)
    (secondValid : second.dialect.isValid = true) (same : first.text = second.text) :
    first = second := by
  have characters : first.dialect.text.toList ++ '.' :: first.name.toList =
      second.dialect.text.toList ++ '.' :: second.name.toList := by
    simpa [text] using congrArg String.toList same
  have split := splitAtDot_append _ first.name.toList (first.dialect.not_mem_dot valid)
  rw [characters, splitAtDot_append _ _ (second.dialect.not_mem_dot secondValid)] at split
  obtain ⟨dialects, names⟩ := Prod.mk.inj (Option.some.inj split)
  obtain ⟨⟨_⟩, _⟩ := first
  obtain ⟨⟨_⟩, _⟩ := second
  cases String.toList_inj.mp dialects
  cases String.toList_inj.mp names
  rfl

end OpId

end Polyglot
