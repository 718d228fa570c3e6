/-
This file proves that operations which are alive are insulated from the rest of the session. What
others do, be it that they succeed or fail, changes neither the text of an operation nor the types
of its operands and results, as long as the operation is not erased and not changed itself.

The verdict on the operation depends on a little more: on its dialect, which stays once it is
loaded, and on whether unregistered dialects are allowed. If no client decides, it depends on
nothing else.
-/

import Polyglot.Proofs.Household.Impartial
import Polyglot.Proofs.Workspace.Verdicts

namespace Polyglot

variable {Custom Handler Note : Type}

/-! ### Verdicts that agree -/

namespace Verdict.Agrees

variable {verdict ruling opinion : Verdict}

theorem symm (agrees : verdict.Agrees ruling) : ruling.Agrees verdict := by
  cases agrees with
  | accepted => exact .accepted
  | rejected kind cause location => exact .rejected kind.symm cause.symm location.symm
  | brokenOff fault => exact .brokenOff fault

theorem trans (agrees : verdict.Agrees ruling) (next : ruling.Agrees opinion) :
    verdict.Agrees opinion := by
  cases agrees with
  | accepted => exact next
  | rejected kind cause location =>
    cases next with
    | rejected kindNext causeNext locationNext =>
      exact .rejected (kind.trans kindNext) (cause.trans causeNext) (location.trans locationNext)
  | brokenOff fault => exact next

end Verdict.Agrees

/-- A verification ends in what its examination came to, up to what was captured. -/
theorem Concludes.agrees {emit : Diagnostic → Turn Handler Note Unit} {ref : OpRef}
    {examined after : Channel Handler Note} {opinion verdict : Verdict}
    (concludes : Concludes emit ref examined opinion verdict after) : verdict.Agrees opinion := by
  cases concludes with
  | accepted => exact .accepted
  | rejected error => exact .rejected rfl rfl rfl
  | brokenOff fault => exact .brokenOff fault

namespace Workspace

/-! ### What verification depends on -/

/-- The operation has the same dialect later if none was loaded for it meanwhile. -/
theorem Evolves.dialect?_eq {before after : Workspace Custom} (evolves : before.Evolves after)
    {name : DialectName}
    (unloaded : before.session.dialect? name = none → after.session.dialect? name = none) :
    before.session.dialect? name = after.session.dialect? name := by
  cases loaded : before.session.dialect? name with
  | none => exact (unloaded loaded).symm
  | some dialect => exact (Session.dialect?_of_grown evolves.loaded loaded).symm

/-- An operation that is alive keeps its text and the types of its operands and results, whatever
is done that neither erases it nor sets its attributes or its location. If moreover its dialect is
not newly loaded, the permission for unregistered dialects is what it was, and no verifier of a
client decides, then all verifications of the operation, before and after, and whoever takes part
in them, accept it or reject it with the same kind of error, for the same cause and about the same
place. -/
theorem operations_insulated (environment : Environment Custom) (options : Start)
    (past later : List (Deed Custom)) {ref : OpRef} {operation : Operation}
    (found : ((start environment options).state.performAll past).session.operations.find? ref =
      some operation)
    (unerased : .erased ref ∉ ((start environment options).state.performAll past).ledger later)
    (spared : ∀ deed ∈ later, ¬ deed.Alters ref) :
    let before := (start environment options).state.performAll past
    let after := before.performAll later
    let operations := before.session.operations
    let operationsAfter := after.session.operations
    operationsAfter.find? ref = some operation ∧
    operationsAfter.opText operation = operations.opText operation ∧
    (∀ index, operationsAfter.operandTy? operation index = operations.operandTy? operation index) ∧
    (∀ index, operationsAfter.tyOf? ⟨ref, index⟩ = operations.tyOf? ⟨ref, index⟩) ∧
    ((before.session.dialect? operation.id.dialect = none →
        after.session.dialect? operation.id.dialect = none) →
      after.session.allowsUnregistered = before.session.allowsUnregistered →
      (∀ schema custom, before.session.schema? operation.id = some schema →
        schema.verifier ≠ some (.custom custom)) →
      ∀ {Handler Note Listener Remark : Type} (conduct : Conduct Custom Handler Note)
        (other : Conduct Custom Listener Remark) (depth level : Nat)
        (channel : Channel Handler Note) (line : Channel Listener Remark),
        ((∃ last, conduct.run before (depth + 1) (.verify ref .done) channel =
            some (.accepted, last)) ↔
          ∃ last, other.run after (level + 1) (.verify ref .done) line = some (.accepted, last)) ∧
        ∀ verdict last ruling final,
          conduct.run before (depth + 1) (.verify ref .done) channel = some (verdict, last) →
          other.run after (level + 1) (.verify ref .done) line = some (ruling, final) →
          verdict.Agrees ruling) := by
  intro before after operations operationsAfter
  have anchored : operations.Anchored := anchored_start environment options past
  have anchoredAfter : operationsAfter.Anchored := before.anchored_performAll anchored later
  obtain ⟨foundAfter, agrees⟩ := before.find?_performAll anchored found later unerased spared
  refine ⟨foundAfter, agrees.opText_eq.symm, fun index => (agrees.operandTy?_eq index).symm,
    fun index => ?_, fun unloaded permission standard => ?_⟩
  · rw [Operations.tyOf?, Operations.tyOf?, foundAfter, found]
  · have sameJudgement : before.session.judgement operation = after.session.judgement operation :=
      Session.judgement_congr ((before.evolves_performAll later).dialect?_eq unloaded)
        permission.symm
    obtain ⟨opinion, ruled⟩ : ∃ opinion,
        (before.session.judgement operation).verdict? operations operation = some opinion :=
      Session.exists_verdict_of_unasked fun custom asks => by
        obtain ⟨schema, has, _, own⟩ := asks
        exact standard schema custom has own
    have ruledAfter : (after.session.judgement operation).verdict? operationsAfter operation =
        some opinion := by
      rw [← sameJudgement, ← Judgement.verdict?_eq agrees, ruled]
    intro Handler Note Listener Remark conduct other depth level channel line
    refine ⟨?_, fun verdict last ruling final ran ranAfter => ?_⟩
    · exact (conduct.passes_iff_of_ruled depth channel found anchored ruled).trans
        (other.passes_iff_of_ruled level line foundAfter anchoredAfter ruledAfter).symm
    · have concludes :=
        (conduct.run_verify_of_ruled depth channel found anchored ruled _ _).mp ran
      have concludesAfter := (other.run_verify_of_ruled level line foundAfter anchoredAfter
        ruledAfter _ _).mp ranAfter
      exact concludes.agrees.trans concludesAfter.agrees.symm

/-- An operation with a result, and a sum of this result with itself. -/
def doubling : List (Deed Empty) :=
  [.create ⟨"t.one", [], [.index], [], .unknown⟩,
    .create ⟨"arith.addi", [⟨⟨0⟩, 0⟩, ⟨⟨0⟩, 0⟩], [.index], [], .unknown⟩]

/-- What goes on around the sum: its result is used for a while, its definer is changed and almost
erased, and a dialect is loaded. -/
def turmoil : List (Deed Empty) :=
  [.create ⟨"t.user", [⟨⟨1⟩, 0⟩], [.index], [], .unknown⟩, .erase ⟨1⟩, .erase ⟨0⟩,
    .setAttribute ⟨0⟩ ⟨"odd", rfl⟩ .unit, .setLocation ⟨0⟩ (.named "there" .unknown),
    .descriptor ⟨"cf"⟩, .descriptor ⟨"missing"⟩, .erase ⟨2⟩]

/-- The session with the sum. -/
def withDoubling : Workspace Empty :=
  (start (.ofLoader 0 Loader.empty) ⟨some ["arith"], true⟩).state.performAll doubling

theorem ledger_turmoil : withDoubling.ledger turmoil = [.created ⟨2⟩, .erased ⟨2⟩] := by
  decide +kernel

theorem operations_insulated_turmoil :
    (∃ operation, (withDoubling.performAll turmoil).session.operations.find? ⟨1⟩ =
        some operation ∧
      (withDoubling.performAll turmoil).session.operations.opText operation =
        withDoubling.session.operations.opText operation) ∧
      ∃ last, Plan.conduct.run (withDoubling.performAll turmoil) 1 (.verify ⟨1⟩ .done) .empty =
        some (.accepted, last) := by
  have found : withDoubling.session.operations.find? ⟨1⟩ = some ⟨⟨1⟩, ⟨⟨"arith"⟩, "addi"⟩,
      [⟨⟨0⟩, 0⟩, ⟨⟨0⟩, 0⟩], [.index], .empty, .unknown⟩ := rfl
  have unerased : .erased ⟨1⟩ ∉ withDoubling.ledger turmoil := by
    rw [ledger_turmoil]
    decide
  have spared (deed : Deed Empty) (member : deed ∈ turmoil) : ¬ deed.Alters ⟨1⟩ := by
    intro alters
    cases alters <;> simp [turmoil] at member
  obtain ⟨foundAfter, sameText, _, _, verdicts⟩ := operations_insulated _ _ doubling turmoil found
    unerased spared
  have loaded : withDoubling.session.dialect? ⟨"arith"⟩ = some Standard.arith := rfl
  have permission : (withDoubling.performAll turmoil).session.allowsUnregistered =
      withDoubling.session.allowsUnregistered := by decide +kernel
  have accepted : (Plan.conduct.run withDoubling 1 (.verify ⟨1⟩ .done) .empty).map Prod.fst =
      some .accepted := by decide +kernel
  obtain ⟨⟨_, last⟩, ran, rfl⟩ := Option.map_eq_some_iff.mp accepted
  obtain ⟨passes, _⟩ := verdicts (fun unloaded => by cases loaded.symm.trans unloaded) permission
    (fun _ custom => custom.elim) Plan.conduct Plan.conduct 0 0 .empty .empty
  exact ⟨⟨_, foundAfter, sameText⟩, passes.mp ⟨last, ran⟩⟩

end Workspace

end Polyglot
