/-
This file proves that the attributes of a created operation are those of its draft. The draft has
them in a list, in which a name may occur several times and the last occurrence counts; the
operation has them in a dictionary, filled entry by entry. Both give the same attribute for every
name, so two drafts that agree on every name make equal dictionaries, with the same text, whatever
the order of their lists and the repetitions in them.
-/

import Polyglot.Proofs.Lookup
import Polyglot.Proofs.Workspace.Admission

namespace Polyglot.Workspace

variable {Custom : Type}

/-- An operation that was created has the attributes that were set one by one. -/
theorem setAll_of_create {workspace : Workspace Custom} {draft : Draft} {creation : Creation}
    (accepted : (workspace.create draft).answer = .ok creation) :
    AttributeDict.empty.setAll draft.attributes = .ok creation.operation.attributes := by
  have creates := workspace.creates draft
  rw [accepted] at creates
  generalize (workspace.create draft).state.session = after at creates
  cases creates with
  | admitted id admits attributes set operation described =>
    rw [described]
    exact set

/-- **The attributes of a created operation are those of its draft.** Every name has the same
attribute in both, and the names in the dictionary are strictly increasing. If another draft that
was accepted somewhere agrees on every name, then the dictionaries are equal and have the same text.
If it only agrees up to some relation, such as the equality of numbers, which takes zeros of both
signs for equal, then the dictionaries have the same names and agree up to the relation entry by
entry. -/
theorem attributes_exact {workspace : Workspace Custom} {draft : Draft} {creation : Creation}
    (accepted : (workspace.create draft).answer = .ok creation) :
    let attributes := creation.operation.attributes
    (∀ name, attributes.find? name = draft.attribute? name) ∧
    attributes.entries.keys.Pairwise (· < ·) ∧
    ∀ (elsewhere : Workspace Custom) (other : Draft) (twin : Creation),
      (elsewhere.create other).answer = .ok twin →
      ((∀ name, draft.attribute? name = other.attribute? name) →
        attributes = twin.operation.attributes ∧
        attributes.text = twin.operation.attributes.text) ∧
      ∀ Agrees : Attribute → Attribute → Prop,
        (∀ name, Option.Rel Agrees (draft.attribute? name) (other.attribute? name)) →
        List.Forall₂ (fun entry twinEntry => entry.1 = twinEntry.1 ∧ Agrees entry.2 twinEntry.2)
          attributes.entries.entries twin.operation.attributes.entries.entries := by
  intro attributes
  have own := Draft.attribute?_eq (setAll_of_create accepted)
  refine ⟨own, List.pairwise_map.2 attributes.entries.ordered, ?_⟩
  intro elsewhere other twin twinAccepted
  have others := Draft.attribute?_eq (setAll_of_create twinAccepted)
  constructor
  · intro agree
    have entries : attributes.entries = twin.operation.attributes.entries :=
      Dictionary.ext_of_find? fun name => (own name).trans ((agree name).trans (others name).symm)
    have same : attributes = twin.operation.attributes := congrArg AttributeDict.mk entries
    exact ⟨same, congrArg AttributeDict.text same⟩
  · intro Agrees agree
    refine Dictionary.forall₂_of_related attributes.entries.ordered
      twin.operation.attributes.entries.ordered fun name => ?_
    have related := agree name
    rw [← own name, ← others name] at related
    exact related

/-- The draft of an operation with some attributes. -/
def carrier (attributes : List (String × Attribute)) : Draft :=
  ⟨"t.carrier", [], [], attributes, .unknown⟩

theorem admits_carrier {attributes : List (String × Attribute)}
    (valid : ∀ entry ∈ attributes, Identifier.isValid entry.1 = true) :
    blank.Admits (carrier attributes) ⟨⟨"t"⟩, "carrier"⟩ := by
  have named : OpId.ofString? "t.carrier" = some ⟨⟨"t"⟩, "carrier"⟩ := by decide +kernel
  exact ⟨⟨named, ⟨false, rfl⟩, by decide +kernel⟩, fun _ member => absurd member List.not_mem_nil,
    valid⟩

/-- A list that repeats a name agrees with a list in another order that does not. -/
theorem attributes_exact_carrier :
    let repeating := [("b", Attribute.unit), ("a", .bool true), ("b", .string "x")]
    let plain := [("a", Attribute.bool true), ("b", .string "x")]
    ∃ creation twin,
      (blank.create (carrier repeating)).answer = .ok creation ∧
      (blank.create (carrier plain)).answer = .ok twin ∧
      creation.operation.attributes.find? "b" = some (.string "x") ∧
      creation.operation.attributes = twin.operation.attributes := by
  intro repeating plain
  obtain ⟨creation, accepted⟩ := (blank.creates (carrier repeating)).exists_ok_iff.2
    ⟨_, admits_carrier (by decide +kernel)⟩
  obtain ⟨twin, twinAccepted⟩ := (blank.creates (carrier plain)).exists_ok_iff.2
    ⟨_, admits_carrier (by decide +kernel)⟩
  have agree (name : String) :
      (carrier repeating).attribute? name = (carrier plain).attribute? name := by
    change lastUnder repeating name = lastUnder plain name
    simp only [repeating, plain, lastUnder_cons]
    by_cases last : "b" = name
    · simp [last, lastUnder]
    · simp [last, lastUnder]
  obtain ⟨own, _, others⟩ := attributes_exact accepted
  exact ⟨creation, twin, accepted, twinAccepted, own "b",
    ((others blank _ twin twinAccepted).1 agree).1⟩

end Polyglot.Workspace
