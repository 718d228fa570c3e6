/-
This file proves which drafts become operations. Five conditions are asked of a draft, one after
the other, and the first that does not hold gives the error. A draft that is refused leaves the
session as it was, and one that is admitted adds an operation.

Whatever comes of it, all that is left behind in the environment is that the module of the
draft's dialect was asked for.
-/

import Polyglot.Proofs.Workspace.DefUse

namespace Polyglot

/-! ### The last two conditions -/

/-- Attributes are set if all their names are identifiers, and else the first that is none is
reported. -/
theorem AttributeDict.setAll_cases (attributes : AttributeDict)
    (entries : List (String × Attribute)) :
    ((∀ entry ∈ entries, Identifier.isValid entry.1 = true) ∧
      ∃ result, attributes.setAll entries = .ok result) ∨
    ∃ front name value back, entries = front ++ (name, value) :: back ∧
      (∀ entry ∈ front, Identifier.isValid entry.1 = true) ∧ Identifier.isValid name = false ∧
      attributes.setAll entries = .error (.argument .unknown (.malformedIdentifier name)) := by
  induction entries generalizing attributes with
  | nil => exact .inl ⟨fun _ member => absurd member List.not_mem_nil, attributes, rfl⟩
  | cons entry rest inductionHypothesis =>
    obtain ⟨name, value⟩ := entry
    rw [setAll]
    cases valid : Identifier.isValid name with
    | false =>
      rw [Identifier.parse_of_invalid name valid]
      exact .inr ⟨[], name, value, rest, rfl, fun _ member => absurd member List.not_mem_nil, valid,
        rfl⟩
    | true =>
      rw [Identifier.parse_of_valid name valid]
      have cover {entries : List (String × Attribute)}
          (others : ∀ entry ∈ entries, Identifier.isValid entry.1 = true) :
          ∀ entry ∈ (name, value) :: entries, Identifier.isValid entry.1 = true :=
        List.forall_mem_cons.mpr ⟨valid, others⟩
      rcases inductionHypothesis (attributes.set ⟨name, valid⟩ value) with ⟨others, set⟩ |
        ⟨front, bad, other, back, split, others, invalid, failed⟩
      · exact .inl ⟨cover others, set⟩
      · exact .inr ⟨(name, value) :: front, bad, other, back, by rw [split, List.cons_append],
          cover others, invalid, failed⟩

theorem Operations.danglingIndex?_eq_some_iff (operations : Operations) (operands : List Value)
    (index : Nat) : operations.danglingIndex? operands = some index ↔
      ∃ bounded : index < operands.length, operations.isAlive operands[index].definer = false ∧
        ∀ earlier, (smaller : earlier < index) →
          operations.isAlive operands[earlier].definer = true := by
  simp [danglingIndex?, List.findIdx?_eq_some_iff_getElem]

namespace Workspace

variable {Custom : Type}

/-! ### The conditions -/

/-- The name of the draft is well formed, the module of its dialect is loaded or missing, and the
operation is registered or unregistered dialects are allowed. -/
structure Permits (workspace : Workspace Custom) (draft : Draft) (id : OpId) : Prop where
  named : OpId.ofString? draft.name = some id
  resolved : ∃ found, (workspace.environment.loadModule id.dialect).answer = .ok found
  admitted : workspace.session.isRegistered id = true ∨ workspace.session.allowsUnregistered = true

/-- All conditions on the draft hold. -/
structure Admits (workspace : Workspace Custom) (draft : Draft) (id : OpId) : Prop
    extends workspace.Permits draft id where
  alive : ∀ operand ∈ draft.operands,
    workspace.session.operations.isAlive operand.definer = true
  valid : ∀ entry ∈ draft.attributes, Identifier.isValid entry.1 = true

/-- A condition on the draft does not hold though all before it do, and this is the error that
says so. -/
inductive Refuses (workspace : Workspace Custom) (draft : Draft) : Error → Prop where
  | malformedName (unnamed : OpId.ofString? draft.name = none) :
      Refuses workspace draft (.argument draft.location (.malformedOpName draft.name))
  | unresolved (id : OpId) (named : OpId.ofString? draft.name = some id) (error : Error)
      (failed : (workspace.environment.loadModule id.dialect).answer = .error error) :
      Refuses workspace draft error
  | unregistered (id : OpId) (named : OpId.ofString? draft.name = some id) (found : Bool)
      (resolved : (workspace.environment.loadModule id.dialect).answer = .ok found)
      (unknown : workspace.session.isRegistered id = false)
      (disallowed : workspace.session.allowsUnregistered = false) :
      Refuses workspace draft (.of .unregisteredDialect draft.location (.unregisteredDialect id))
  | danglingOperand (id : OpId) (permits : workspace.Permits draft id) (index : Nat)
      (bounded : index < draft.operands.length)
      (gone : workspace.session.operations.isAlive draft.operands[index].definer = false)
      (alive : ∀ earlier, (smaller : earlier < index) →
        workspace.session.operations.isAlive draft.operands[earlier].definer = true) :
      Refuses workspace draft (.argument draft.location (.danglingOperand id index))
  | malformedAttribute (id : OpId) (permits : workspace.Permits draft id)
      (alive : ∀ operand ∈ draft.operands,
        workspace.session.operations.isAlive operand.definer = true)
      (front : List (String × Attribute)) (name : String) (value : Attribute)
      (back : List (String × Attribute)) (split : draft.attributes = front ++ (name, value) :: back)
      (valid : ∀ entry ∈ front, Identifier.isValid entry.1 = true)
      (malformed : Identifier.isValid name = false) :
      Refuses workspace draft (.argument draft.location (.malformedIdentifier name))

theorem Admits.not_refuses {workspace : Workspace Custom} {draft : Draft} {id : OpId}
    (admits : workspace.Admits draft id) (error : Error) : ¬ workspace.Refuses draft error := by
  have same {other : OpId} (named : OpId.ofString? draft.name = some other) : other = id :=
    Option.some.inj (named.symm.trans admits.named)
  intro refuses
  cases refuses with
  | malformedName unnamed =>
    rw [admits.named] at unnamed
    cases unnamed
  | unresolved other named _ failed =>
    obtain ⟨found, resolved⟩ := admits.resolved
    rw [same named, resolved] at failed
    cases failed
  | unregistered other named _ _ unknown disallowed =>
    rw [same named] at unknown
    rcases admits.admitted with known | allowed
    · exact Bool.false_ne_true (unknown.symm.trans known)
    · exact Bool.false_ne_true (disallowed.symm.trans allowed)
  | danglingOperand _ _ index bounded gone _ =>
    exact Bool.false_ne_true (gone.symm.trans (admits.alive _ (List.getElem_mem bounded)))
  | malformedAttribute _ _ _ front name value back split _ malformed =>
    have member : (name, value) ∈ draft.attributes := by simp [split]
    exact Bool.false_ne_true (malformed.symm.trans (admits.valid _ member))

/-- What comes of an attempt to create an operation. -/
inductive Creates (workspace : Workspace Custom) (draft : Draft) :
    Except Error Creation → Session Custom → Prop where
  | refused (error : Error) (refuses : workspace.Refuses draft error) :
      Creates workspace draft (.error error) workspace.session
  | admitted (id : OpId) (admits : workspace.Admits draft id) (attributes : AttributeDict)
      (set : AttributeDict.empty.setAll draft.attributes = .ok attributes) (operation : Operation)
      (described : operation = ⟨workspace.session.operations.nextRef, id, draft.operands,
        draft.resultTypes, attributes, draft.location⟩) :
      Creates workspace draft (.ok ⟨operation, workspace.session.creationWarning? operation⟩)
        (workspace.session.add operation)

theorem Creates.exists_ok_iff {workspace : Workspace Custom} {draft : Draft}
    {answer : Except Error Creation} {after : Session Custom}
    (creates : workspace.Creates draft answer after) :
    (∃ creation, answer = .ok creation) ↔ ∃ id, workspace.Admits draft id := by
  cases creates with
  | refused error refuses =>
    exact iff_of_false nofun fun ⟨_, admits⟩ => admits.not_refuses error refuses
  | admitted id admits => exact iff_of_true ⟨_, rfl⟩ ⟨id, admits⟩

/-- A session whose environment had no objection accepts the draft, or an error says which of its
own conditions does not hold. -/
theorem accept_cases (workspace : Workspace Custom) (draft : Draft) (id : OpId)
    (named : OpId.ofString? draft.name = some id) (found : Bool)
    (resolved : (workspace.environment.loadModule id.dialect).answer = .ok found) :
    (∃ error, workspace.session.accept draft id = .error error ∧ workspace.Refuses draft error) ∨
    ∃ operation, workspace.session.accept draft id = .ok operation ∧
      workspace.Admits draft id := by
  unfold Session.accept
  by_cases admitted :
    workspace.session.isRegistered id = true ∨ workspace.session.allowsUnregistered = true
  · have permits : workspace.Permits draft id := ⟨named, ⟨found, resolved⟩, admitted⟩
    have passes :
        (!workspace.session.isRegistered id && !workspace.session.allowsUnregistered) = false := by
      rcases admitted with known | allowed
      · simp [known]
      · simp [allowed]
    rw [passes, if_neg Bool.false_ne_true]
    cases dangling : workspace.session.operations.danglingIndex? draft.operands with
    | some index =>
      obtain ⟨bounded, gone, alive⟩ :=
        (workspace.session.operations.danglingIndex?_eq_some_iff _ _).mp dangling
      exact .inl ⟨_, rfl, .danglingOperand id permits index bounded gone alive⟩
    | none =>
      have alive := (workspace.session.operations.danglingIndex?_eq_none_iff _).mp dangling
      rcases AttributeDict.empty.setAll_cases draft.attributes with ⟨valid, attributes, set⟩ |
        ⟨front, name, value, back, split, valid, malformed, failed⟩
      · rw [set]
        exact .inr ⟨_, rfl, permits, alive, valid⟩
      · rw [failed]
        exact .inl ⟨_, rfl, .malformedAttribute id permits alive front name value back split valid
          malformed⟩
  · simp only [not_or, Bool.not_eq_true] at admitted
    obtain ⟨unknown, disallowed⟩ := admitted
    rw [unknown, disallowed]
    exact .inl ⟨_, rfl, .unregistered id named found resolved unknown disallowed⟩

theorem creates (workspace : Workspace Custom) (draft : Draft) :
    workspace.Creates draft (workspace.create draft).answer
      (workspace.create draft).state.session := by
  unfold create OpId.parse
  cases named : OpId.ofString? draft.name with
  | none => exact .refused _ (.malformedName named)
  | some id =>
    cases resolved : (workspace.loadModule id.dialect).answer with
    | error error =>
      dsimp only
      rw [Attempt.andThen_of_error _ _ error resolved]
      exact .refused error (.unresolved id named error resolved)
    | ok found =>
      dsimp only
      rw [Attempt.andThen_of_ok _ _ found resolved]
      have untouched : (workspace.loadModule id.dialect).state.session = workspace.session := rfl
      rw [untouched]
      rcases workspace.accept_cases draft id named found resolved with
        ⟨error, refused, refuses⟩ | ⟨operation, accepted, admits⟩
      · rw [refused]
        exact .refused error refuses
      · rw [accepted]
        obtain ⟨_, _, attributes, set, described⟩ :=
          (workspace.session.accept_eq_ok_iff draft id operation).mp accepted
        exact .admitted id admits attributes set operation described

/-- The environment is left as the request for the module of the draft's dialect leaves it. -/
theorem environment_create (workspace : Workspace Custom) (draft : Draft) :
    (workspace.create draft).state.environment =
      match OpId.ofString? draft.name with
      | some id => (workspace.environment.loadModule id.dialect).state
      | none => workspace.environment := by
  unfold create OpId.parse
  cases OpId.ofString? draft.name with
  | none => rfl
  | some id =>
    refine Attempt.state_andThen (motive := fun after : Workspace Custom =>
      after.environment = (workspace.environment.loadModule id.dialect).state) _ _ rfl fun _ => ?_
    split <;> rfl

end Workspace

end Polyglot
