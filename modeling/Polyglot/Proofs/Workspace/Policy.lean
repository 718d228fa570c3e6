/-
This file proves the policy for creating operations, at every time of a session. A draft that is
admitted adds one operation under a number that was never used, and a warning is emitted exactly
if the operation is not registered. A draft that is refused leaves the session and its channel as
they were.

That the number is unused is what the ledger of the session says; everything else is seen from the
one attempt.
-/

import Polyglot.Proofs.Channel.Announcement
import Polyglot.Proofs.Channel.Reached
import Polyglot.Proofs.Workspace.Ledger

namespace Polyglot

open History

namespace Workspace

variable {Custom : Type}

/-! ### Warnings -/

/-- A registered operation comes without a warning, and any other with one about its place. -/
theorem creationWarning?_cases (session : Session Custom) (operation : Operation) :
    session.isRegistered operation.id = true ∧ session.creationWarning? operation = none ∨
    session.isRegistered operation.id = false ∧
      ∃ message,
        session.creationWarning? operation = some (.warning operation.location message) := by
  unfold Session.creationWarning?
  dsimp only
  cases session.isRegistered operation.id with
  | true => exact .inl ⟨rfl, rfl⟩
  | false =>
    refine .inr ⟨rfl, ?_⟩
    rw [if_neg Bool.false_ne_true]
    split
    · exact ⟨_, rfl⟩
    · exact ⟨_, rfl⟩

/-- What is emitted after an operation was created. -/
theorem afterCreation_cases {Handler Note : Type} (conduct : Conduct Custom Handler Note)
    (session : Session Custom) (operation : Operation) (channel : Channel Handler Note) :
    let answer : Except Error Creation := .ok ⟨operation, session.creationWarning? operation⟩
    (session.isRegistered operation.id = true → conduct.afterCreation answer channel = channel) ∧
      (session.isRegistered operation.id = false → ∃ message,
        emissions (conduct.afterCreation answer channel).history =
          .emitted (.warning operation.location message) :: emissions channel.history) := by
  dsimp only [Conduct.afterCreation]
  rcases creationWarning?_cases session operation with ⟨known, none⟩ | ⟨unknown, message, warning⟩
  · rw [none]
    exact ⟨fun _ => rfl, fun unknown => absurd (unknown.symm.trans known) Bool.false_ne_true⟩
  · rw [warning]
    exact ⟨fun known => absurd (unknown.symm.trans known) Bool.false_ne_true,
      fun _ => ⟨message, conduct.emissions_announce _ channel⟩⟩

/-! ### The policy -/

/-- At every time of a session, a draft becomes an operation exactly if all conditions on it hold,
and else the first that does not hold gives the error. A creation adds the operation that the
draft describes, under the next number, and nothing else; one warning about its place is emitted
if the operation is not registered, and nothing is emitted if it is. A refusal leaves the session
and its channel as they were. The environment at most got the module of the draft's dialect. -/
theorem creation_policy (environment : Environment Custom) (options : Start)
    (deeds : List (Deed Custom)) {Handler Note : Type} (conduct : Conduct Custom Handler Note)
    (channel : Channel Handler Note) (draft : Draft) :
    let workspace := (start environment options).state.performAll deeds
    let before := workspace.session
    let attempt := workspace.create draft
    let after := attempt.state.session
    let heard := conduct.afterCreation attempt.answer channel
    ((∃ creation, attempt.answer = .ok creation) ↔ ∃ id, workspace.Admits draft id) ∧
    (∀ creation, attempt.answer = .ok creation → ∃ id attributes,
      OpId.ofString? draft.name = some id ∧
      AttributeDict.empty.setAll draft.attributes = .ok attributes ∧
      creation.operation = ⟨before.operations.nextRef, id, draft.operands, draft.resultTypes,
        attributes, draft.location⟩ ∧
      after = { before with operations := before.operations.insert creation.operation } ∧
      before.operations.find? creation.operation.ref = none ∧
      after.operations.find? creation.operation.ref = some creation.operation ∧
      (∀ ref, ref ≠ creation.operation.ref →
        after.operations.find? ref = before.operations.find? ref) ∧
      (before.isRegistered id = true → heard = channel) ∧
      (before.isRegistered id = false → ∃ message, emissions heard.history =
        .emitted (.warning draft.location message) :: emissions channel.history)) ∧
    (∀ error, attempt.answer = .error error →
      workspace.Refuses draft error ∧ after = before ∧ heard = channel) ∧
    attempt.state.environment =
      match OpId.ofString? draft.name with
      | some id => (workspace.environment.loadModule id.dialect).state
      | none => workspace.environment := by
  intro workspace before attempt after heard
  have creates : workspace.Creates draft attempt.answer after := workspace.creates draft
  refine ⟨creates.exists_ok_iff, fun creation answered => ?_, fun error answered => ?_,
    workspace.environment_create draft⟩
  · rw [show heard = conduct.afterCreation attempt.answer channel from rfl]
    rw [answered] at creates ⊢
    generalize after = session at creates ⊢
    cases creates with
    | admitted id admits attributes set operation described =>
      have fresh : operation.ref = before.operations.nextRef := by rw [described]
      have absent := (replays_start environment options deeds).find?_nextRef
      obtain ⟨quiet, warned⟩ := afterCreation_cases conduct before operation channel
      have sameId : operation.id = id := by rw [described]
      have samePlace : operation.location = draft.location := by rw [described]
      rw [sameId] at quiet warned
      rw [samePlace] at warned
      refine ⟨id, attributes, admits.named, set, described, rfl, fresh ▸ absent, ?_,
        fun ref other => ?_, quiet, warned⟩
      · show (before.operations.insert operation).find? operation.ref = some operation
        rw [Operations.find?_insert, if_pos rfl, fresh, absent, Option.none_or]
      · show (before.operations.insert operation).find? ref = before.operations.find? ref
        rw [Operations.find?_insert, if_neg (Ne.symm other), Option.or_none]
  · rw [show heard = conduct.afterCreation attempt.answer channel from rfl]
    rw [answered] at creates ⊢
    generalize after = session at creates ⊢
    cases creates with
    | refused error refuses => exact ⟨refuses, rfl, rfl⟩

/-- A draft of an operation that is not registered. -/
def userDraft (operands : List Value) (attributes : List (String × Attribute)) : Draft :=
  ⟨"t.user", operands, [], attributes, .named "here" .unknown⟩

theorem creation_policy_withDefiner :
    let channel : Channel Plan Unit := (Channel.empty.attach (.answer true)).2
    let good := withDefiner.create (userDraft [⟨⟨0⟩, 0⟩] [("key", .unit)])
    let bad := withDefiner.create (userDraft [⟨⟨0⟩, 0⟩, ⟨⟨7⟩, 0⟩] [("no key", .unit)])
    withDefiner.Admits (userDraft [⟨⟨0⟩, 0⟩] [("key", .unit)]) ⟨⟨"t"⟩, "user"⟩ ∧
      (∃ creation message, good.answer = .ok creation ∧
        good.state.session.operations.find? ⟨1⟩ = some creation.operation ∧
        emissions (Plan.conduct.afterCreation good.answer channel).history =
          [.emitted (.warning (.named "here" .unknown) message)]) ∧
      bad.answer =
        .error (.argument (.named "here" .unknown) (.danglingOperand ⟨⟨"t"⟩, "user"⟩ 1)) ∧
      bad.state.session = withDefiner.session ∧
      Plan.conduct.afterCreation bad.answer channel = channel := by
  intro channel good bad
  have admits : withDefiner.Admits (userDraft [⟨⟨0⟩, 0⟩] [("key", .unit)]) ⟨⟨"t"⟩, "user"⟩ :=
    ⟨⟨by decide +kernel, ⟨false, rfl⟩, by decide +kernel⟩, by decide +kernel,
      fun entry member => List.mem_singleton.mp member ▸ by decide +kernel⟩
  have policy := creation_policy (.ofLoader 0 Loader.empty) ⟨some [], true⟩
    [.create ⟨"t.definer", [], [.index], [], .unknown⟩] Plan.conduct channel
  obtain ⟨succeeds, adds, _⟩ := policy (userDraft [⟨⟨0⟩, 0⟩] [("key", .unit)])
  obtain ⟨creation, answered⟩ := succeeds.mpr ⟨_, admits⟩
  obtain ⟨id, _, named, _, described, _, _, found, _, _, warned⟩ := adds creation answered
  obtain ⟨message, emitted⟩ := warned (by
    rw [Option.some.inj (named.symm.trans admits.named)]
    decide +kernel)
  have next : withDefiner.session.operations.nextRef = ⟨1⟩ := by decide +kernel
  have first : creation.operation.ref = ⟨1⟩ := (congrArg Operation.ref described).trans next
  have failed : bad.answer =
      .error (.argument (.named "here" .unknown) (.danglingOperand ⟨⟨"t"⟩, "user"⟩ 1)) := rfl
  obtain ⟨_, same, unheard⟩ :=
    (policy (userDraft [⟨⟨0⟩, 0⟩, ⟨⟨7⟩, 0⟩] [("no key", .unit)])).2.2.1 _ failed
  exact ⟨admits, ⟨creation, message, answered, first ▸ found, emitted⟩, failed, same, unheard⟩

end Workspace

end Polyglot
