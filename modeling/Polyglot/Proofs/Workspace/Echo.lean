/-
This file proves how often a failure is reported that is passed on from verification to
verification. Let verifiers either check without emitting anything, or have the operations verified
that define the operands, and pass the first error on. Every verification that fails reports its
error in a scope of its own, and adds what is in this scope to the error. So a failure is reported
once for every operation on the way to the one that it began with: the error carries as many copies
of one and the same diagnostic as there are operations on the way.

Only the place and the cause of an error make its diagnostic, and passing it on changes neither.
-/

import Polyglot.Proofs.Channel.Silence
import Polyglot.Proofs.Workspace.Recursion

namespace Polyglot

variable {Custom Handler Note : Type}

/-! ### Errors that are reported again -/

/-- The error after it was reported a number of times, each time to itself. -/
def Error.echoed (error : Error) (count : Nat) : Error :=
  error.withDiagnostics (List.replicate count error.diagnostic)

theorem Error.echoed_succ (error : Error) (count : Nat) :
    (error.echoed count).withDiagnostics [(error.echoed count).diagnostic] =
      error.echoed (count + 1) := by
  have same : (error.echoed count).diagnostic = error.diagnostic := rfl
  rw [same, echoed, echoed, withDiagnostics, withDiagnostics, withDiagnostics, List.append_assoc,
    ← List.replicate_succ']

namespace Conduct

variable (conduct : Conduct Custom Handler Note) (workspace : Workspace Custom)

/-! ### Operations that pass failures on -/

/-- The operation is alive, and examining it either emits nothing, or is to have the operations
verified that define its operands, and these pass failures on as well. -/
inductive Forwards : OpRef → Prop where
  | checks (ref : OpRef) (operation : Operation)
      (found : workspace.session.operations.find? ref = some operation)
      (mute : (workspace.session.examine conduct operation).Mute conduct workspace) : Forwards ref
  | relays (ref : OpRef) (operation : Operation)
      (found : workspace.session.operations.find? ref = some operation)
      (relays : workspace.session.examine conduct operation =
        Visit.verifyEach operation.operands)
      (operands : ∀ operand ∈ operation.operands, Forwards operand.definer) : Forwards ref

/-- The verification of the operation, begun on a channel, meets a failure: its own, in a check that
emits nothing, or that of the first operand that is not accepted. The operations on the way are
listed from the outermost to the one whose failure it is. -/
inductive Blames : OpRef → Channel Handler Note → List OpRef → Error → Prop where
  | own (ref : OpRef) (operation : Operation)
      (found : workspace.session.operations.find? ref = some operation)
      (mute : (workspace.session.examine conduct operation).Mute conduct workspace)
      (before examined : Channel Handler Note) (failure : Error)
      (comes : conduct.ComesTo workspace (workspace.session.examine conduct operation)
        (before.enter ref) (.rejected failure) examined) : Blames ref before [ref] failure
  | passed (ref : OpRef) (operation : Operation)
      (found : workspace.session.operations.find? ref = some operation)
      (relays : workspace.session.examine conduct operation =
        Visit.verifyEach operation.operands)
      (front : List Value) (value : Value) (back : List Value)
      (split : operation.operands = front ++ value :: back)
      (before between : Channel Handler Note)
      (accepted : conduct.ComesTo workspace (Visit.verifyEach front) (before.enter ref) .accepted
        between)
      (way : List OpRef) (failure : Error) (blames : Blames value.definer between way failure) :
      Blames ref before (ref :: way) failure

/-- The error is a failure that was met and reported once for every operation on the way. -/
def Passed (ref : OpRef) (before : Channel Handler Note) (error : Error) : Prop :=
  ∃ way failure, conduct.Blames workspace ref before way failure ∧
    error = failure.echoed way.length

end Conduct

/-! ### Outcomes -/

/-- The channel is left undisturbed unless there was a fault, and there is a reason for an error. -/
inductive Outcome (reason : Error → Prop) (before : Channel Handler Note) :
    Verdict → Channel Handler Note → Prop where
  | accepted (after : Channel Handler Note) (undisturbed : before.Undisturbed after) :
      Outcome reason before .accepted after
  | rejected (error : Error) (after : Channel Handler Note)
      (undisturbed : before.Undisturbed after) (because : reason error) :
      Outcome reason before (.rejected error) after
  | brokenOff (fault : Fault) (after : Channel Handler Note) :
      Outcome reason before (.brokenOff fault) after

namespace Outcome

variable {reason other : Error → Prop} {before between after : Channel Handler Note}
  {verdict : Verdict}

theorem of_undisturbed (undisturbed : before.Undisturbed after) :
    Outcome (fun error => verdict = .rejected error) before verdict after := by
  cases verdict with
  | accepted => exact .accepted after undisturbed
  | rejected error => exact .rejected error after undisturbed rfl
  | brokenOff fault => exact .brokenOff fault after

theorem imp (outcome : Outcome reason before verdict after)
    (implies : ∀ error, reason error → other error) : Outcome other before verdict after := by
  cases outcome with
  | accepted _ undisturbed => exact .accepted after undisturbed
  | rejected error _ undisturbed because =>
    exact .rejected error after undisturbed (implies error because)
  | brokenOff fault => exact .brokenOff fault after

theorem behind (outcome : Outcome reason between verdict after)
    (undisturbed : before.Undisturbed between) : Outcome reason before verdict after := by
  cases outcome with
  | accepted _ further => exact .accepted after (undisturbed.trans further)
  | rejected error _ further because =>
    exact .rejected error after (undisturbed.trans further) because
  | brokenOff fault => exact .brokenOff fault after

theorem undisturbed (outcome : Outcome reason before verdict after)
    (unbroken : ∀ fault, verdict ≠ .brokenOff fault) : before.Undisturbed after := by
  cases outcome with
  | accepted _ undisturbed | rejected _ _ undisturbed => exact undisturbed
  | brokenOff fault => exact absurd rfl (unbroken fault)

end Outcome

namespace Conduct

variable {conduct : Conduct Custom Handler Note} {workspace : Workspace Custom}

/-! ### Verifying operands in turn -/

/-- Verifying the values in turn, the first that is not accepted gives an error for this reason. -/
def PassedBy (conduct : Conduct Custom Handler Note) (workspace : Workspace Custom)
    (values : List Value) (before : Channel Handler Note) (error : Error) : Prop :=
  ∃ front value back between, values = front ++ value :: back ∧
    conduct.ComesTo workspace (Visit.verifyEach front) before .accepted between ∧
    conduct.Passed workspace value.definer between error

theorem comesTo_verifyEach_cons {value : Value} {rest : List Value} {verdict : Verdict}
    {before between after : Channel Handler Note}
    (first : conduct.ComesTo workspace (.verify value.definer .done) before .accepted between)
    (others : conduct.ComesTo workspace (Visit.verifyEach rest) between verdict after) :
    conduct.ComesTo workspace (Visit.verifyEach (value :: rest)) before verdict after :=
  first.verify others

/-- A verdict that is not to accept is passed on. -/
theorem comesTo_verifyEach_of_first {value : Value} {rest : List Value} {verdict : Verdict}
    {before after : Channel Handler Note} (refused : verdict ≠ .accepted)
    (first : conduct.ComesTo workspace (.verify value.definer .done) before verdict after) :
    conduct.ComesTo workspace (Visit.verifyEach (value :: rest)) before verdict after := by
  refine first.verify ?_
  cases verdict with
  | accepted => exact absurd rfl refused
  | rejected | brokenOff => exact conduct.comesTo_done workspace _ after

theorem comesTo_verifyEach_append {front rest : List Value} {verdict : Verdict}
    {before between after : Channel Handler Note}
    (accepted : conduct.ComesTo workspace (Visit.verifyEach front) before .accepted between)
    (others : conduct.ComesTo workspace (Visit.verifyEach rest) between verdict after) :
    conduct.ComesTo workspace (Visit.verifyEach (front ++ rest)) before verdict after := by
  induction front generalizing before with
  | nil =>
    obtain ⟨_, rfl⟩ := (conduct.comesTo_done workspace Verdict.accepted before).unique accepted
    exact others
  | cons value front inductionHypothesis =>
    obtain ⟨depth, ran⟩ := accepted
    obtain ⟨verdict, middle, ranFirst, ranRest⟩ := run_bind_eq_some ran
    have first : conduct.ComesTo workspace (.verify value.definer .done) before verdict middle :=
      ⟨depth, (run_bind_of_eq_some ranFirst).trans rfl⟩
    cases verdict with
    | accepted => exact comesTo_verifyEach_cons first (inductionHypothesis ⟨depth, ranRest⟩)
    | rejected | brokenOff => cases ranRest

/-- The induction goes along the values, and the channel between two of them is undisturbed. -/
theorem exists_outcome_verifyEach {values : List Value}
    (settles : ∀ value ∈ values, ∀ before : Channel Handler Note, before.emitsErrors = false →
      ∃ verdict after,
        conduct.ComesTo workspace (.verify value.definer .done) before verdict after ∧
          Outcome (conduct.Passed workspace value.definer before) before verdict after)
    (before : Channel Handler Note) (silent : before.emitsErrors = false) :
    ∃ verdict after, conduct.ComesTo workspace (Visit.verifyEach values) before verdict after ∧
      Outcome (conduct.PassedBy workspace values before) before verdict after := by
  induction values generalizing before with
  | nil =>
    exact ⟨.accepted, before, conduct.comesTo_done workspace _ before, .accepted before (.refl _)⟩
  | cons value rest inductionHypothesis =>
    obtain ⟨settlesFirst, settlesRest⟩ := List.forall_mem_cons.mp settles
    obtain ⟨verdict, between, first, outcome⟩ := settlesFirst before silent
    cases outcome with
    | accepted _ undisturbed =>
      obtain ⟨last, after, others, outcomeRest⟩ :=
        inductionHypothesis settlesRest between (undisturbed.silent silent)
      refine ⟨last, after, comesTo_verifyEach_cons first others,
        (outcomeRest.imp fun error because => ?_).behind undisturbed⟩
      obtain ⟨front, next, back, middle, rfl, accepted, passed⟩ := because
      exact ⟨value :: front, next, back, middle, rfl, comesTo_verifyEach_cons first accepted,
        passed⟩
    | rejected error _ undisturbed passed =>
      exact ⟨.rejected error, between,
        comesTo_verifyEach_of_first (fun same => by cases same) first,
        .rejected error between undisturbed
          ⟨[], value, rest, before, rfl, conduct.comesTo_done workspace _ before, passed⟩⟩
    | brokenOff fault =>
      exact ⟨.brokenOff fault, between,
        comesTo_verifyEach_of_first (fun same => by cases same) first, .brokenOff fault between⟩

/-! ### Verifications -/

/-- A verification concludes what the examination has come to, and reports an error once more. -/
theorem exists_outcome_verify {ref : OpRef} {operation : Operation}
    (found : workspace.session.operations.find? ref = some operation)
    {before examined : Channel Handler Note} {opinion : Verdict} {reason : Error → Prop}
    (comes : conduct.ComesTo workspace (workspace.session.examine conduct operation)
      (before.enter ref) opinion examined)
    (outcome : Outcome reason (before.enter ref) opinion examined)
    (silent : before.emitsErrors = false) :
    ∃ verdict after, conduct.ComesTo workspace (.verify ref .done) before verdict after ∧
      Outcome (fun error => ∃ failure, reason failure ∧
        error = failure.withDiagnostics [failure.diagnostic]) before verdict after := by
  cases outcome with
  | accepted _ undisturbed =>
    exact ⟨_, _, comesTo_verify_of_accepted found comes, .accepted _ undisturbed.leave⟩
  | rejected error _ undisturbed because =>
    obtain ⟨after, verifies, still⟩ := comesTo_verify_of_rejected found comes undisturbed silent
    exact ⟨_, after, verifies, .rejected _ after still ⟨error, because, rfl⟩⟩
  | brokenOff fault =>
    exact ⟨_, _, comesTo_verify_of_brokenOff found comes, .brokenOff fault examined⟩

theorem Forwards.exists_outcome {ref : OpRef} (forwards : conduct.Forwards workspace ref)
    (before : Channel Handler Note) (silent : before.emitsErrors = false) :
    ∃ verdict after, conduct.ComesTo workspace (.verify ref .done) before verdict after ∧
      Outcome (conduct.Passed workspace ref before) before verdict after := by
  induction forwards generalizing before with
  | checks ref operation found mute =>
    obtain ⟨opinion, examined, comes, undisturbed⟩ := mute.comesTo (before.enter ref)
    obtain ⟨verdict, after, verifies, outcome⟩ :=
      exists_outcome_verify found comes (.of_undisturbed undisturbed) silent
    refine ⟨verdict, after, verifies, outcome.imp fun error because => ?_⟩
    obtain ⟨failure, rfl, rfl⟩ := because
    exact ⟨[ref], failure, .own ref operation found mute before examined failure comes, rfl⟩
  | relays ref operation found relays _ inductionHypothesis =>
    obtain ⟨opinion, examined, comes, outcomeEach⟩ :=
      exists_outcome_verifyEach inductionHypothesis (before.enter ref) silent
    obtain ⟨verdict, after, verifies, outcome⟩ :=
      exists_outcome_verify found (relays ▸ comes) outcomeEach silent
    refine ⟨verdict, after, verifies, outcome.imp fun error because => ?_⟩
    obtain ⟨_, ⟨front, value, back, between, split, accepted, way, failure, blames, rfl⟩, rfl⟩ :=
      because
    exact ⟨ref :: way, failure, .passed ref operation found relays front value back split before
      between accepted way failure blames, failure.echoed_succ way.length⟩

/-- A verification that comes to a verdict other than a fault leaves the channel undisturbed. -/
theorem Forwards.undisturbed {ref : OpRef} (forwards : conduct.Forwards workspace ref)
    {before after : Channel Handler Note} (silent : before.emitsErrors = false) {verdict : Verdict}
    (comes : conduct.ComesTo workspace (.verify ref .done) before verdict after)
    (unbroken : ∀ fault, verdict ≠ .brokenOff fault) : before.Undisturbed after := by
  obtain ⟨other, elsewhere, comesToo, outcome⟩ := forwards.exists_outcome before silent
  obtain ⟨rfl, rfl⟩ := comes.unique comesToo
  exact outcome.undisturbed unbroken

theorem not_mute_verifyEach {front back : List Value} {value : Value} :
    ¬ (Visit.verifyEach (front ++ value :: back)).Mute conduct workspace := by
  cases front with
  | nil | cons =>
    intro mute
    cases mute

/-- What is blamed is what the verification comes to, after it was reported along the way. -/
theorem Blames.comesTo {ref : OpRef} {before : Channel Handler Note} {way : List OpRef}
    {failure : Error} (blames : conduct.Blames workspace ref before way failure)
    (forwards : conduct.Forwards workspace ref) (silent : before.emitsErrors = false) :
    ∃ after, conduct.ComesTo workspace (.verify ref .done) before
      (.rejected (failure.echoed way.length)) after := by
  induction blames with
  | own ref operation found mute before examined failure comes =>
    obtain ⟨opinion, other, comesToo, undisturbed⟩ := mute.comesTo (before.enter ref)
    obtain ⟨rfl, rfl⟩ := comes.unique comesToo
    obtain ⟨after, verifies, _⟩ := comesTo_verify_of_rejected found comes undisturbed silent
    exact ⟨after, verifies⟩
  | passed ref operation found relays front value back split before between accepted way failure _
    inductionHypothesis =>
    have operands : ∀ operand ∈ operation.operands, conduct.Forwards workspace operand.definer := by
      cases forwards with
      | checks _ other there mute =>
        cases found.symm.trans there
        rw [relays, split] at mute
        exact absurd mute not_mute_verifyEach
      | relays _ other there _ operands =>
        cases found.symm.trans there
        exact operands
    rw [split, List.forall_mem_append, List.forall_mem_cons] at operands
    obtain ⟨frontForwards, valueForwards, _⟩ := operands
    obtain ⟨_, _, acceptedToo, outcome⟩ := exists_outcome_verifyEach
      (fun operand member => (frontForwards operand member).exists_outcome) (before.enter ref)
      silent
    obtain ⟨rfl, rfl⟩ := accepted.unique acceptedToo
    have first := outcome.undisturbed fun fault same => by cases same
    obtain ⟨after, verifies⟩ := inductionHypothesis valueForwards (first.silent silent)
    have second := valueForwards.undisturbed (first.silent silent) verifies
      fun fault same => by cases same
    have examines : conduct.ComesTo workspace (workspace.session.examine conduct operation)
        (before.enter ref) (.rejected (failure.echoed way.length)) after := by
      rw [relays, split]
      exact comesTo_verifyEach_append accepted
        (comesTo_verifyEach_of_first (fun same => by cases same) verifies)
    obtain ⟨last, verifiesOuter, _⟩ :=
      comesTo_verify_of_rejected found examines (first.trans second) silent
    rw [failure.echoed_succ way.length] at verifiesOuter
    exact ⟨last, verifiesOuter⟩

/-! ### Sessions -/

/-- Every verifier of a client that is asked about an operation that is alive either emits nothing
or has the operations verified that define the operands. -/
def PassesOn (conduct : Conduct Custom Handler Note) (workspace : Workspace Custom) : Prop :=
  ∀ operation ∈ workspace.session.operations.live, ∀ custom,
    workspace.session.Asks operation (.custom custom) →
      (conduct.inspect custom operation).Mute conduct workspace ∨
        conduct.inspect custom operation = Visit.verifyEach operation.operands

/-- The induction is on the number of the operation, as operands are defined by operations with
smaller numbers. Checks that are not a client's say what they have to say and nothing else. -/
theorem PassesOn.forwards (passesOn : conduct.PassesOn workspace)
    (anchored : workspace.session.operations.Anchored)
    (founded : workspace.session.operations.Founded) {ref : OpRef}
    (alive : workspace.session.operations.isAlive ref = true) : conduct.Forwards workspace ref := by
  induction number : ref.number using Nat.strongRecOn generalizing ref with
  | ind count inductionHypothesis =>
    subst number
    obtain ⟨operation, found⟩ := (Operations.isAlive_iff _ ref).1 alive
    have member := workspace.session.operations.mem_of_find? ref operation found
    have own : operation.ref = ref := workspace.session.operations.ref_of_find? ref operation found
    have examine := Session.examine_eq (anchored.danglingIndex?_eq_none found) conduct
    by_cases asked : ∃ custom, workspace.session.Asks operation (.custom custom)
    · obtain ⟨custom, asks⟩ := asked
      rw [(Session.judgement_eq_deferred_iff _).2 asks] at examine
      rcases passesOn operation member custom asks with mute | relays
      · exact .checks ref operation found (examine ▸ mute)
      · refine .relays ref operation found (examine.trans relays) fun operand operandMember => ?_
        exact inductionHypothesis operand.definer.number
          (own ▸ founded.earlier operation member operand operandMember)
          (anchored operation member operand operandMember) rfl
    · obtain ⟨verdict, ruled⟩ := Session.exists_verdict_of_unasked (not_exists.1 asked)
      refine .checks ref operation found ?_
      rw [examine, Judgement.visit_of_verdict? ruled conduct]
      exact .done verdict

end Conduct

namespace Workspace

/-- **A failure is reported once for every operation that it passes.** Let an operation that is
alive either be checked without a word, or have the operations verified that define its operands and
pass their first error on, and let these do likewise, at any depth. Then its verification comes to a
verdict while errors are not emitted. If it fails, then because of a failure of one of these
operations, and the error is this failure with one diagnostic more for every operation on the way
from the outermost to this one, and all of them are the same: the diagnostic of the failure. -/
theorem failure_echoed {conduct : Conduct Custom Handler Note} {workspace : Workspace Custom}
    {ref : OpRef} (forwards : conduct.Forwards workspace ref) {channel : Channel Handler Note}
    (silent : channel.emitsErrors = false) :
    (∃ verdict after, conduct.ComesTo workspace (.verify ref .done) channel verdict after) ∧
    ∀ error,
      (∃ after, conduct.ComesTo workspace (.verify ref .done) channel (.rejected error) after) ↔
        ∃ way failure, conduct.Blames workspace ref channel way failure ∧
          error = failure.withDiagnostics (List.replicate way.length failure.diagnostic) := by
  obtain ⟨verdict, after, comes, outcome⟩ := forwards.exists_outcome channel silent
  refine ⟨⟨verdict, after, comes⟩, fun error => ⟨?_, ?_⟩⟩
  · rintro ⟨elsewhere, comesToo⟩
    obtain ⟨rfl, rfl⟩ := comesToo.unique comes
    cases outcome with
    | rejected _ _ _ passed => exact passed
  · rintro ⟨way, failure, blames, rfl⟩
    exact blames.comesTo forwards silent

/-- A link with one result too many, a link to it, and a link to that one. -/
def faulty : List (Deed Unit) :=
  [.create ⟨"chain.link", [], [.index, .index], [], .unknown⟩, .create (link [⟨⟨0⟩, 0⟩]),
    .create (link [⟨⟨1⟩, 0⟩])]

/-- The session with these links. -/
def tower : Workspace Unit := (start linking ⟨some ["chain"], false⟩).state.performAll faulty

/-- What is wrong with the first link. -/
def mistake : Error :=
  .verification .unknown (.wrongArity ⟨⟨"chain"⟩, "link"⟩ .results (.exactly 1) 2)

theorem forwards_tower : relaying.Forwards tower ⟨2⟩ := by
  have passesOn : relaying.PassesOn tower := fun _ _ _ _ => .inr rfl
  exact passesOn.forwards (anchored_start linking _ faulty) (founded_start linking _ faulty)
    (by decide +kernel)

/-- The last link is blamed on the one before, and this one on the first. -/
theorem blames_tower : relaying.Blames tower ⟨2⟩ .empty [⟨2⟩, ⟨1⟩, ⟨0⟩] mistake := by
  let stored (number : Nat) (operands : List Value) (resultTypes : List Ty) : Operation :=
    ⟨⟨number⟩, ⟨⟨"chain"⟩, "link"⟩, operands, resultTypes, .empty, .unknown⟩
  have accepts (before : Channel Bool Unit) :
      relaying.ComesTo tower (Visit.verifyEach []) before .accepted before :=
    relaying.comesTo_done tower _ before
  refine .passed ⟨2⟩ (stored 2 [⟨⟨1⟩, 0⟩] [.index]) rfl rfl [] _ [] rfl _ _ (accepts _) _ _ ?_
  refine .passed ⟨1⟩ (stored 1 [⟨⟨0⟩, 0⟩] [.index]) rfl rfl [] _ [] rfl _ _ (accepts _) _ _ ?_
  have examined : tower.session.examine relaying (stored 0 [] [.index, .index]) =
      .done (.rejected mistake) := rfl
  have comes (before : Channel Bool Unit) :
      relaying.ComesTo tower (tower.session.examine relaying (stored 0 [] [.index, .index])) before
        (.rejected mistake) before :=
    examined ▸ relaying.comesTo_done tower _ before
  exact .own ⟨0⟩ (stored 0 [] [.index, .index]) rfl (examined ▸ .done _) _ _ mistake (comes _)

/-- The last link is not accepted, and the error holds the diagnostic of the first three times. -/
theorem failure_echoed_tower :
    ∃ after, relaying.ComesTo tower (.verify ⟨2⟩ .done) .empty
      (.rejected (mistake.withDiagnostics
        [mistake.diagnostic, mistake.diagnostic, mistake.diagnostic])) after :=
  ((failure_echoed forwards_tower rfl).2 _).mpr ⟨_, mistake, blames_tower, rfl⟩

/-- The verification of the last link meets one failure, that of the first, which is checked without
a word. Yet the error does not hold one diagnostic, but three. -/
theorem failure_repeated :
    tower = (start linking ⟨some ["chain"], false⟩).state.performAll faulty ∧
    relaying.Forwards tower ⟨2⟩ ∧ (Channel.empty : Channel Bool Unit).emitsErrors = false ∧
    relaying.Blames tower ⟨2⟩ .empty [⟨2⟩, ⟨1⟩, ⟨0⟩] mistake ∧ mistake.diagnostics = [] ∧
    ∃ error after, relaying.ComesTo tower (.verify ⟨2⟩ .done) .empty (.rejected error) after ∧
      error.diagnostics.length = 3 ∧ error.diagnostics ≠ [mistake.diagnostic] := by
  obtain ⟨after, comes⟩ := blames_tower.comesTo forwards_tower rfl
  exact ⟨rfl, forwards_tower, rfl, blames_tower, rfl, _, after, comes, rfl,
    fun same => by cases congrArg List.length same⟩

end Workspace

end Polyglot
