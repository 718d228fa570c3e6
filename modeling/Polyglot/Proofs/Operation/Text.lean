/-
This file proves what the texts of a store tell. Two values of live operations are written in the
same way only if they are the same value, as the number of the definer is part of the text. An
operation that defines results is told by that number, too. One that defines none is told up to
another that has the same name, operands and attributes; nothing else is left to differ, since its
types follow from its operands.
-/

import Polyglot.Proofs.Operation.DefUse
import Polyglot.Proofs.Text.Attributes

namespace Polyglot

open Text

/-- The name of the operation and the names of its attributes are well formed. -/
structure Operation.Named (operation : Operation) : Prop where
  dialect : operation.id.dialect.isValid = true
  name : Identifier.isValid operation.id.name = true
  attributes : operation.attributes.Named

namespace Operations

variable {operations : Operations}

/-! ### Values -/

theorem Sound.mem_values_iff (sound : operations.Sound) (value : Value) :
    value ∈ operations.values ↔ ∃ definer, operations.find? value.definer = some definer ∧
      value.index < definer.resultTypes.length := by
  constructor
  · intro member
    obtain ⟨definer, live, produced⟩ := List.mem_flatMap.mp member
    obtain ⟨index, bounded, rfl⟩ := List.mem_map.mp produced
    exact ⟨definer, sound.find?_ref definer live, List.mem_range.mp bounded⟩
  · rintro ⟨definer, found, bounded⟩
    obtain ⟨ref, index⟩ := value
    cases operations.ref_of_find? _ definer found
    exact List.mem_flatMap.mpr ⟨definer, operations.mem_of_find? _ definer found,
      List.mem_map.mpr ⟨index, List.mem_range.mpr bounded, rfl⟩⟩

theorem Sound.operands_produced (sound : operations.Sound) (operation : Operation)
    (member : operation ∈ operations.live) :
    ∀ operand ∈ operation.operands, operand ∈ operations.values := by
  intro operand taken
  obtain ⟨definer, found, bounded, _⟩ := sound.defined operation member operand taken
  exact (sound.mem_values_iff operand).mpr ⟨definer, found, bounded⟩

/-- What stands behind the number of a value's definer. -/
def indexText (definer : Operation) (index : Nat) : List Char :=
  if definer.resultTypes.length = 1 then [] else '#' :: (toString index).toList

theorem toList_valueText (value : Value) (definer : Operation)
    (found : operations.find? value.definer = some definer) :
    (operations.valueText value).toList =
      '%' :: ((toString definer.ref.number).toList ++ indexText definer value.index) := by
  rw [valueText, found, indexText]
  dsimp only
  split <;> simp

theorem stops_indexText (definer : Operation) (index : Nat) {rest : List Char} (ends : Ends rest) :
    Stops Char.isDigit (indexText definer index ++ rest) := by
  unfold indexText
  split
  · exact ends.stops (by decide)
  · exact stops_cons rfl _

theorem indexText_append_eq {definer : Operation} {index other : Nat}
    (bounded : index < definer.resultTypes.length)
    (boundedOther : other < definer.resultTypes.length)
    {rest more : List Char} (ends : Ends rest) (endsOther : Ends more)
    (same : indexText definer index ++ rest = indexText definer other ++ more) :
    index = other ∧ rest = more := by
  unfold indexText at same
  split at same
  next only => exact ⟨by omega, same⟩
  next =>
    exact number_append_eq (ends.stops (by decide)) (endsOther.stops (by decide))
      (List.cons.inj same).2

theorem starts_valueText (sound : operations.Sound) (value : Value)
    (member : value ∈ operations.values) : Starts (operations.valueText value) := by
  obtain ⟨definer, found, _⟩ := (sound.mem_values_iff value).mp member
  exact starts_of_first (toList_valueText value definer found) (by decide)

/-- A value of a live operation is told by its text, as an item of a list. -/
theorem Sound.legible_value (sound : operations.Sound) (value : Value)
    (member : value ∈ operations.values) :
    Legible operations.valueText (· ∈ operations.values) value := by
  intro other memberOther rest more ends endsOther same
  obtain ⟨definer, found, bounded⟩ := (sound.mem_values_iff value).mp member
  obtain ⟨otherDefiner, foundOther, boundedOther⟩ := (sound.mem_values_iff other).mp memberOther
  rw [toList_valueText value definer found, toList_valueText other otherDefiner foundOther] at same
  simp only [List.cons_append, List.append_assoc, List.cons.injEq, true_and] at same
  obtain ⟨sameNumber, behind⟩ := number_append_eq (stops_indexText definer value.index ends)
    (stops_indexText otherDefiner other.index endsOther) same
  have sameRef : value.definer = other.definer := by
    rw [← operations.ref_of_find? _ definer found, ← operations.ref_of_find? _ _ foundOther]
    exact congrArg OpRef.mk sameNumber
  rw [sameRef, foundOther] at found
  cases found
  obtain ⟨sameIndex, sameRest⟩ := indexText_append_eq bounded boundedOther ends endsOther behind
  exact ⟨congrArg₂ Value.mk sameRef sameIndex, sameRest⟩

/-! ### Operations -/

/-- What stands between the operands and the types: nothing if there are no attributes. -/
def attributesText (attributes : AttributeDict) : List Char :=
  if attributes.isEmpty then [] else ' ' :: attributes.text.toList

theorem toList_opText (operation : Operation) : (operations.opText operation).toList =
    operation.header.toList ++ '"' :: (operation.id.text.toList ++ '"' :: '(' ::
      ((", ".intercalate (operation.operands.map operations.valueText)).toList ++ ')' ::
        (attributesText operation.attributes ++ ' ' :: ':' :: ' ' ::
          (Ty.function (operations.operandTypes operation)
            operation.resultTypes).text.toList))) := by
  unfold opText attributesText
  split <;> simp

/-- What is behind the operands starts with a brace or a colon, behind a space. -/
theorem attributesText_append_eq {attributes other : AttributeDict} (named : attributes.Named)
    (plain : attributes.isPlain = true) (namedOther : other.Named)
    (plainOther : other.isPlain = true) {rest more : List Char}
    (same : attributesText attributes ++ ' ' :: ':' :: rest =
      attributesText other ++ ' ' :: ':' :: more) : attributes = other := by
  have braced (attributes : AttributeDict) (before behind : List Char) :
      ' ' :: attributes.text.toList ++ before ≠ ' ' :: ':' :: behind := by
    intro equal
    rw [AttributeDict.text] at equal
    simp at equal
  unfold attributesText at same
  split at same
  next empty =>
    split at same
    next emptyOther =>
      rw [AttributeDict.isEmpty, Dictionary.isEmpty, List.isEmpty_iff] at empty emptyOther
      obtain ⟨⟨entries, ordered⟩⟩ := attributes
      obtain ⟨⟨otherEntries, otherOrdered⟩⟩ := other
      cases empty
      cases emptyOther
      rfl
    next => exact absurd same.symm (braced other _ _)
  next =>
    split at same
    next => exact absurd same (braced attributes _ _)
    next =>
      exact (AttributeDict.text_append_eq named plain namedOther plainOther
        (List.cons.inj same).2).1

/-- An operation without results has no header, and the header of any other operation starts with
its number. -/
theorem header_cases (operation : Operation) : operation.resultTypes = [] ∧ operation.header = "" ∨
    ∃ behind, operation.header.toList = '%' :: ((toString operation.ref.number).toList ++ behind) ∧
      ∀ rest, Stops Char.isDigit (behind ++ rest) := by
  unfold Operation.header
  cases count : operation.resultTypes.length with
  | zero => exact .inl ⟨List.length_eq_zero_iff.mp count, rfl⟩
  | succ others =>
    cases others with
    | zero => exact .inr ⟨[' ', '=', ' '], by simp, fun rest => stops_cons rfl _⟩
    | succ others =>
      exact .inr ⟨':' :: ((toString (others + 2)).toList ++ [' ', '=', ' ']), by simp,
        fun rest => stops_cons rfl _⟩

theorem resultTypes_of_header {operation : Operation} (none : operation.header = "") :
    operation.resultTypes = [] := by
  rcases header_cases operation with ⟨noResults, _⟩ | ⟨behind, written, _⟩
  · exact noResults
  · rw [none] at written
    cases written

/-- An operation with results is told by the number in front. -/
theorem Sound.eq_of_header (sound : operations.Sound) {first second : Operation}
    (member : first ∈ operations.live) (memberOther : second ∈ operations.live)
    (defines : first.header ≠ "")
    (same : operations.opText first = operations.opText second) : first = second := by
  have characters := congrArg String.toList same
  rw [toList_opText, toList_opText] at characters
  rcases header_cases first with ⟨_, none⟩ | ⟨behind, written, stops⟩
  · exact absurd none defines
  · rcases header_cases second with ⟨_, none⟩ | ⟨behindOther, writtenOther, stopsOther⟩
    · rw [written, none] at characters
      exact absurd (List.cons.inj characters).1 (by decide)
    · rw [written, writtenOther] at characters
      simp only [List.cons_append, List.append_assoc, List.cons.injEq, true_and] at characters
      obtain ⟨sameNumber, _⟩ := number_append_eq (stops _) (stopsOther _) characters
      have found := sound.find?_ref first member
      rw [show first.ref = second.ref from congrArg OpRef.mk sameNumber,
        sound.find?_ref second memberOther] at found
      exact (Option.some.inj found).symm

/-- Operations with plain attributes that are written in the same way are of one kind: they have
the same name, operands, attributes and types. -/
theorem Sound.parts_eq (sound : operations.Sound) {first second : Operation}
    (member : first ∈ operations.live) (memberOther : second ∈ operations.live)
    (named : first.Named) (namedOther : second.Named) (plain : first.attributes.isPlain = true)
    (plainOther : second.attributes.isPlain = true)
    (same : operations.opText first = operations.opText second) :
    first.id = second.id ∧ first.operands = second.operands ∧
      first.attributes = second.attributes ∧
      operations.operandTypes first = operations.operandTypes second ∧
      first.resultTypes = second.resultTypes := by
  by_cases defines : first.header ≠ ""
  · cases sound.eq_of_header member memberOther defines same
    exact ⟨rfl, rfl, rfl, rfl, rfl⟩
  by_cases definesOther : second.header ≠ ""
  · cases sound.eq_of_header memberOther member definesOther same.symm
    exact ⟨rfl, rfl, rfl, rfl, rfl⟩
  rw [not_ne_iff] at defines definesOther
  have values := sound.operands_produced first member
  have characters := congrArg String.toList same
  rw [toList_opText, toList_opText, defines, definesOther] at characters
  obtain ⟨sameId, behindId⟩ := qualified_append_eq first.id second.id named.dialect named.name
    namedOther.dialect namedOther.name (stops_cons rfl _) (stops_cons rfl _)
    (List.cons.inj characters).2
  simp only [List.cons.injEq, true_and] at behindId
  obtain ⟨sameOperands, behindOperands⟩ := listing_append_eq (by decide)
    (starts_valueText sound) values
    (fun operand taken => sound.legible_value operand (values operand taken))
    (sound.operands_produced second memberOther) behindId
  have sameAttributes := attributesText_append_eq named.attributes plain namedOther.attributes
    plainOther behindOperands
  have sameTypes : operations.operandTypes first = operations.operandTypes second := by
    rw [operandTypes, operandTypes, sameOperands]
  refine ⟨sameId, sameOperands, sameAttributes, sameTypes, ?_⟩
  rw [resultTypes_of_header defines, resultTypes_of_header definesOther]

end Operations

end Polyglot
