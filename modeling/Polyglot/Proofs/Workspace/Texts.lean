/-
This file proves that the texts of a session are unambiguous at any time of its life. The store of
its operations is sound, and the operations and their attributes have the well formed names that
creation asks for, so values can be told by their texts, and so can operations as far as their texts
go.
-/

import Polyglot.Proofs.Operation.Text
import Polyglot.Proofs.Workspace.Admission

namespace Polyglot

/-! ### Well formed names -/

namespace AttributeDict

theorem named_empty : empty.Named := fun _ member => absurd member List.not_mem_nil

theorem Named.set {attributes : AttributeDict} (named : attributes.Named) (name : Identifier)
    (value : Attribute) : (attributes.set name value).Named := by
  intro entry member
  rcases Dictionary.key_of_mem_insertEntry name.text value _ entry member with same | old
  · exact same ▸ name.valid
  · exact named entry old

theorem Named.setAll {attributes result : AttributeDict} (named : attributes.Named)
    {entries : List (String × Attribute)} (set : attributes.setAll entries = .ok result) :
    result.Named := by
  induction entries generalizing attributes with
  | nil => exact Except.ok.inj set ▸ named
  | cons entry rest inductionHypothesis =>
    obtain ⟨name, value⟩ := entry
    rw [AttributeDict.setAll] at set
    split at set
    next identifier _ => exact inductionHypothesis (named.set identifier value) set
    next => cases set

end AttributeDict

namespace Operations

/-- All operations alive, and their attributes, have well formed names. -/
def Named (operations : Operations) : Prop :=
  ∀ operation ∈ operations.live, operation.Named

variable {operations : Operations}

theorem Named.modify (named : operations.Named) (ref : OpRef) (change : Operation → Operation)
    (keeps : ∀ operation, operation.Named → (change operation).Named) :
    (operations.modify ref change).Named := by
  intro changed member
  obtain ⟨operation, old, rfl⟩ := List.mem_map.mp member
  split
  · exact keeps operation (named operation old)
  · exact named operation old

end Operations

namespace Workspace

variable {Custom : Type}

/-! ### What a life keeps -/

theorem Creates.named {workspace : Workspace Custom} {draft : Draft}
    {answer : Except Error Creation} {after : Session Custom}
    (creates : workspace.Creates draft answer after)
    (named : workspace.session.operations.Named) : after.operations.Named := by
  cases creates with
  | refused => exact named
  | admitted id admits attributes set operation described =>
    obtain ⟨_, wellFormed, valid⟩ := OpId.ofString?_eq_some_iff.1 admits.named
    intro other member
    rcases List.mem_append.mp member with old | new
    · exact named other old
    · rw [List.mem_singleton.mp new, described]
      exact ⟨wellFormed, valid, AttributeDict.named_empty.setAll set⟩

theorem named_build (workspace : Workspace Custom) (opClass : OpClass) (draft : Draft)
    (named : workspace.session.operations.Named) :
    (workspace.build opClass draft).state.session.operations.Named := by
  unfold build
  cases opClass.prepare workspace.session.operations draft with
  | error error => exact named
  | ok prepared => exact (workspace.creates prepared).named named

theorem named_eraseOrKeep (workspace : Workspace Custom) (ref : OpRef)
    (named : workspace.session.operations.Named) :
    (workspace.eraseOrKeep ref).session.operations.Named := by
  unfold eraseOrKeep Session.erase Operations.erase
  cases workspace.session.operations.find? ref with
  | none => exact named
  | some operation =>
    dsimp only
    by_cases used : workspace.session.operations.isUsed ref = true
    · rw [if_pos used]
      exact named
    · rw [if_neg used]
      exact fun other member => named other (List.mem_filter.mp member).1

/-- Names are asked for when operations are created, and do not change. -/
theorem named_perform (workspace : Workspace Custom) (deed : Deed Custom)
    (named : workspace.session.operations.Named) :
    (workspace.perform deed).session.operations.Named := by
  cases deed with
  | create draft => exact (workspace.creates draft).named named
  | build opClass draft => exact workspace.named_build opClass draft named
  | buildFrom view op draft =>
    dsimp only [perform, buildFrom]
    cases view.opClass op with
    | error error => exact named
    | ok opClass => exact workspace.named_build opClass draft named
  | erase ref => exact workspace.named_eraseOrKeep ref named
  | setAttribute ref name value =>
    exact named.modify ref _ fun _ same => ⟨same.dialect, same.name, same.attributes.set name value⟩
  | setLocation ref location =>
    exact named.modify ref _ fun _ same => ⟨same.dialect, same.name, same.attributes⟩
  | descriptor name =>
    rw [perform, operations_descriptor]
    exact named
  | view access name =>
    rw [perform, operations_view]
    exact named
  | loadAll =>
    rw [perform, loadAll, operations_loadEach]
    exact named
  | setAllowsUnregistered allow => exact named
  | share deed => exact named

theorem Life.named {workspace : Workspace Custom} {past : List (Workspace Custom)}
    (life : Life (workspace :: past)) : workspace.session.operations.Named := by
  generalize course : workspace :: past = lived at life
  induction life generalizing workspace past with
  | started environment options _ _ =>
    obtain ⟨rfl, rfl⟩ := List.cons.inj course
    rw [operations_start environment options]
    exact fun _ member => absurd member List.not_mem_nil
  | performed before earlierPast deed _ _ inductionHypothesis =>
    obtain ⟨rfl, rfl⟩ := List.cons.inj course
    exact before.named_perform deed (inductionHypothesis rfl)

/-! ### Unambiguous texts -/

/-- At any time of the life of a session, values of live operations are written in the same way
only if they are the same value. Live operations that are written in the same way, and whose
attributes hold no floating point numbers and give symbols and dialect types proper names, have the
same name, the same operands in the same order, equal attributes, and equal types of operands and of
results; and if results are written, they are the same operation. -/
theorem Life.texts_unambiguous {workspace : Workspace Custom} {past : List (Workspace Custom)}
    (life : Life (workspace :: past)) :
    (∀ first ∈ workspace.session.operations.values,
      ∀ second ∈ workspace.session.operations.values,
        workspace.session.operations.valueText first =
          workspace.session.operations.valueText second ↔ first = second) ∧
    ∀ first ∈ workspace.session.operations.live, ∀ second ∈ workspace.session.operations.live,
      first.attributes.isPlain = true → second.attributes.isPlain = true →
      workspace.session.operations.opText first = workspace.session.operations.opText second →
      first.id = second.id ∧ first.operands = second.operands ∧
        first.attributes = second.attributes ∧
        workspace.session.operations.operandTypes first =
          workspace.session.operations.operandTypes second ∧
        first.resultTypes = second.resultTypes ∧ (first.header ≠ "" → first = second) := by
  have sound := life.sound.1
  have named := life.named
  refine ⟨fun first produced second producedOther => ⟨fun same => ?_, fun same => same ▸ rfl⟩,
    fun first member second memberOther plain plainOther same => ?_⟩
  · have characters := congrArg (fun text => text.toList ++ []) same
    exact (sound.legible_value first produced second producedOther [] [] Text.ends_nil
      Text.ends_nil characters).1
  · obtain ⟨sameId, sameOperands, sameAttributes, sameTypes, sameResults⟩ := sound.parts_eq member
      memberOther (named first member) (named second memberOther) plain plainOther same
    exact ⟨sameId, sameOperands, sameAttributes, sameTypes, sameResults,
      fun defines => sound.eq_of_header member memberOther defines same⟩

/-- What both twins are written as. -/
def twinText : String :=
  "\"t.note\"(%0#1, %0#0) \x7babout = [\"a \\\"pair\\\"]\", @f, unit, -3 : (index) -> ()], " ++
    "flag\x7d : ((index) -> i32, index) -> ()"

theorem texts_unambiguous_withTwins :
    Life [withTwins, withNote, withPair, blank] ∧
      withTwins.session.operations.valueText ⟨⟨0⟩, 0⟩ ≠
        withTwins.session.operations.valueText ⟨⟨0⟩, 1⟩ ∧
      ∃ first second, withTwins.session.operations.find? ⟨1⟩ = some first ∧
        withTwins.session.operations.find? ⟨2⟩ = some second ∧
        first.attributes.isPlain = true ∧ second.attributes.isPlain = true ∧
        withTwins.session.operations.opText first = twinText ∧
        withTwins.session.operations.opText second = twinText ∧
        first.operands = second.operands ∧ first.attributes = second.attributes := by
  have twin : ∀ ref ∈ [OpRef.mk 1, ⟨2⟩], (withTwins.session.operations.find? ref).map
      (fun operation => (withTwins.session.operations.opText operation,
        operation.attributes.isPlain)) = some (twinText, true) := by
    decide +kernel
  obtain ⟨first, found, told⟩ := Option.map_eq_some_iff.mp (twin ⟨1⟩ (by decide))
  obtain ⟨second, foundOther, toldOther⟩ := Option.map_eq_some_iff.mp (twin ⟨2⟩ (by decide))
  obtain ⟨written, plain⟩ := Prod.mk.inj told
  obtain ⟨writtenOther, plainOther⟩ := Prod.mk.inj toldOther
  obtain ⟨values, operations⟩ := life_withTwins.texts_unambiguous
  obtain ⟨_, sameOperands, sameAttributes, _⟩ :=
    operations first (Operations.mem_of_find? _ _ _ found) second
      (Operations.mem_of_find? _ _ _ foundOther) plain plainOther (written.trans writtenOther.symm)
  have produced : withTwins.session.operations.values = [⟨⟨0⟩, 0⟩, ⟨⟨0⟩, 1⟩] := by decide +kernel
  refine ⟨life_withTwins, fun same => ?_, first, second, found, foundOther, plain, plainOther,
    written, writtenOther, sameOperands, sameAttributes⟩
  cases (values ⟨⟨0⟩, 0⟩ (by simp [produced]) ⟨⟨0⟩, 1⟩ (by simp [produced])).mp same

end Workspace

end Polyglot
