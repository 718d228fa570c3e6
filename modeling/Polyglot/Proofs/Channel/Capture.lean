/-
This file proves what the capture of errors does for a verification. While errors are not emitted,
nobody receives an error in the course of it, and if it fails, its own error is the last of those
that it hands out. Whatever its verifier and the handlers do, the scopes of the verifications
around it are left alone, and if no verification breaks off, all scopes that were opened are
closed.
-/

import Polyglot.Proofs.Channel.Candid

namespace Polyglot

deriving instance DecidableEq for Verdict

open History

variable {Custom Handler Note Result : Type}

/-! ### Verifications that do not break off -/

/-- Every result that the visit may come to is good, whatever it is answered on the way. -/
def Visit.EndsIn (good : Result → Prop) : Visit Custom Handler Note Result → Prop
  | .done result => good result
  | .look next => ∀ workspace, (next workspace).EndsIn good
  | .remember next => ∀ history, (next history).EndsIn good
  | .note _ next => next.EndsIn good
  | .attach _ next => ∀ token, (next token).EndsIn good
  | .detach _ next => ∀ answer, (next answer).EndsIn good
  | .count next => ∀ answer, (next answer).EndsIn good
  | .emit _ next => next.EndsIn good
  | .emitsErrors next => ∀ answer, (next answer).EndsIn good
  | .setEmitsErrors _ next => next.EndsIn good
  | .verify _ next => ∀ verdict, (next verdict).EndsIn good
  | .check _ _ next => ∀ verdict, (next verdict).EndsIn good

theorem Visit.EndsIn.of_run {good : Result → Prop} {workspace : Workspace Custom}
    {service : Service Custom Handler Note} {visit : Visit Custom Handler Note Result}
    (ends : visit.EndsIn good) {before after : Channel Handler Note} {result : Result}
    (ran : (visit.play workspace service).run before = some (result, after)) : good result := by
  induction visit generalizing before with
  | done other =>
    cases ran
    exact ends
  | look next inductionHypothesis => exact inductionHypothesis _ (ends _) ran
  | remember next inductionHypothesis | count next inductionHypothesis
  | emitsErrors next inductionHypothesis | attach _ next inductionHypothesis
  | detach _ next inductionHypothesis | verify _ next inductionHypothesis
  | check _ _ next inductionHypothesis =>
    obtain ⟨_, _, _, ranRest⟩ := run_bind_eq_some ran
    exact inductionHypothesis _ (ends _) ranRest
  | note _ next inductionHypothesis | emit _ next inductionHypothesis
  | setEmitsErrors _ next inductionHypothesis =>
    obtain ⟨_, _, _, ranRest⟩ := run_bind_eq_some ran
    exact inductionHypothesis ends ranRest

/-- What a run of a verification has done: it examined the operation and concluded, unless the
operation was gone. -/
theorem Conduct.run_verify {conduct : Conduct Custom Handler Note} {workspace : Workspace Custom}
    {depth : Nat} {ref : OpRef} {channel after : Channel Handler Note} {verdict : Verdict}
    (ran : conduct.run workspace depth (.verify ref .done) channel = some (verdict, after)) :
    (workspace.session.operations.find? ref = none ∧ verdict = .brokenOff .erasedOperation ∧
        after = channel) ∨
      ∃ operation inner opinion examined,
        workspace.session.operations.find? ref = some operation ∧
        ((workspace.session.examine conduct operation).play workspace
          (conduct.service workspace inner)).run (channel.enter ref) = some (opinion, examined) ∧
        Concludes (conduct.service workspace inner).emit ref examined opinion verdict after := by
  obtain ⟨_, _, ranVerify, ranRest⟩ := run_bind_eq_some ran
  cases ranRest
  cases depth with
  | zero => cases ranVerify
  | succ inner =>
    cases found : workspace.session.operations.find? ref with
    | none =>
      rw [conduct.verify_of_dead workspace inner found] at ranVerify
      cases ranVerify
      exact .inl ⟨rfl, rfl, rfl⟩
    | some operation =>
      rw [conduct.verify_of_alive workspace inner found] at ranVerify
      obtain ⟨opinion, examined, ranExamine, concludes⟩ := concludes_of_run ranVerify
      exact .inr ⟨operation, inner, opinion, examined, rfl, ranExamine, concludes⟩

/-- If no examination ends in breaking off, no verification does. -/
theorem Conduct.unbroken_of_examinations {conduct : Conduct Custom Handler Note}
    {workspace : Workspace Custom}
    (ends : ∀ ref operation, workspace.session.operations.find? ref = some operation →
      (workspace.session.examine conduct operation).EndsIn
        fun verdict => ∀ fault, verdict ≠ .brokenOff fault) : conduct.Unbroken workspace := by
  intro depth ref channel fault after alive ran
  rcases run_verify ran with ⟨gone, _⟩ | ⟨operation, _, _, _, found, ranExamine, concludes⟩
  · rw [Operations.isAlive, gone] at alive
    cases alive
  · cases concludes with
    | brokenOff => exact (ends ref operation found).of_run ranExamine fault rfl

namespace Channel

/-! ### The end of a verification -/

/-- An error that is diverted is the last that its capture scope hands out. -/
theorem closeScope_of_diverts {call : Call Handler Note Option}
    {channel after : Channel Handler Note} {diagnostic : Diagnostic}
    (diverted : channel.diverts diagnostic = true)
    (ran : (emit call diagnostic).run channel = some ((), after)) :
    after.closeScope.1.getLast? = some diagnostic := by
  rcases emit_eq_some ran with ⟨_, rfl⟩ | ⟨undiverted, _⟩
  · rw [diverts, Bool.and_eq_true, Bool.and_eq_true, isCapturing] at diverted
    cases found : channel.scopes with
    | nil => simp [found] at diverted
    | cons scope outer => simp [capture, record, closeScope, found]
  · cases diverted.symm.trans undiverted

/-- What has happened when a verification comes to its end, and how it ends. -/
structure Verification (whole : Prop) (channel : Channel Handler Note) (ref : OpRef)
    (verdict : Verdict) (after during : Channel Handler Note) (later : List (Event Note)) :
    Prop where
  candid : during.Candid
  history : during.history = later ++ .verifying ref :: channel.history
  told : Told whole True (.verifying ref :: channel.history) later
  ends : after = during.leave ref ∨ after = during ∧ ¬whole
  rejected : ∀ error, verdict = .rejected error → ∃ found : Error,
    error = found.withDiagnostics during.closeScope.1 ∧
      (emitting channel.history = false → .switched true ∉ later →
        during.closeScope.1.getLast? = some found.diagnostic)

/-- In the course of a verification an error is diverted unless errors are emitted. -/
theorem Candid.diverts_during {channel examined : Channel Handler Note} {ref : OpRef}
    {later : List (Event Note)} (candid : examined.Candid)
    (history : examined.history = later ++ .verifying ref :: channel.history)
    (inside : Inside (.verifying ref :: channel.history) later)
    (silent : emitting channel.history = false) (unswitched : .switched true ∉ later)
    (error : Error) : examined.diverts error.diagnostic = true := by
  refine (candid.diverts_iff error.diagnostic).mpr ⟨rfl, fun none => ?_, ?_⟩
  · have suffix := inside.suffix
    rw [← history, none] at suffix
    exact absurd (List.suffix_nil.mp suffix) (List.cons_ne_nil _ _)
  · rw [history]
    exact emitting_append unswitched silent

theorem Candid.verification {channel after : Channel Handler Note} (candid : channel.Candid)
    {conduct : Conduct Custom Handler Note} {workspace : Workspace Custom} {depth : Nat}
    {ref : OpRef} {verdict : Verdict}
    (ran : conduct.run workspace depth (.verify ref .done) channel = some (verdict, after)) :
    (verdict = .brokenOff .erasedOperation ∧ after = channel) ∨ ∃ during later,
      Verification (conduct.Unbroken workspace) channel ref verdict after during later := by
  rcases Conduct.run_verify ran with ⟨_, gone⟩ | ⟨operation, inner, opinion, examined, found,
    ranExamine, concludes⟩
  · exact .inl gone
  have routing := routing_service conduct workspace inner
  obtain ⟨⟨candidExamined, front, history, told⟩, _⟩ :=
    routes_play routing workspace _ _ _ _ (candid.enter ref) ranExamine
  refine .inr ?_
  cases concludes with
  | accepted =>
    exact ⟨examined, front, candidExamined, history, told, .inl rfl, fun _ rejects => by
      cases rejects⟩
  | brokenOff fault =>
    have alive : workspace.session.operations.isAlive ref = true := by
      rw [Operations.isAlive, found]
      rfl
    exact ⟨after, front, candidExamined, history, told,
      .inr ⟨rfl, fun unbroken => unbroken _ _ _ _ _ alive ran⟩, fun _ rejects => by cases rejects⟩
  | rejected error reported ranEmit =>
    obtain ⟨⟨candidReported, more, historyMore, toldMore⟩, _⟩ :=
      routing.emit error.diagnostic examined () reported candidExamined ranEmit
    rw [history] at historyMore toldMore
    refine ⟨reported, more ++ front, candidReported,
      historyMore.trans (List.append_assoc ..).symm, told.append toldMore, .inl rfl,
      fun other same => ⟨error, (Verdict.rejected.inj same).symm,
        fun silent unswitched => ?_⟩⟩
    have diverted := candidExamined.diverts_during history told.inside silent
      (fun switched => unswitched (List.mem_append_right _ switched)) error
    cases inner with
    | zero => cases ranEmit
    | succ inner => exact closeScope_of_diverts diverted ranEmit

namespace Verification

variable {whole : Prop} {channel after during : Channel Handler Note} {ref : OpRef}
  {verdict : Verdict} {later : List (Event Note)}
  (verification : Verification whole channel ref verdict after during later)
include verification

/-- In the course of a verification the scopes around it stay as they were. Its own scope holds
what was captured when no verification inside it was in progress. -/
theorem scopes_eq (candid : channel.Candid) : ∃ inner, during.scopes =
      inner ++ captures (.verifying ref :: channel.history) later :: channel.scopes ∧
    (whole → inner = []) := by
  have start : History.scopes (.verifying ref :: channel.history) = [] :: channel.scopes :=
    congrArg (List.cons []) candid.scopes.symm
  obtain ⟨inner, found⟩ := verification.told.inside.scopes_eq start
  refine ⟨inner, ?_, fun holds => ?_⟩
  · rw [verification.candid.scopes, verification.history, found, List.nil_append]
  · have same := congrArg List.length found
    rw [length_scopes, verification.told.whole holds, ← length_scopes, start] at same
    simpa using same

/-- What happened in the course of a verification lies between its beginning and its end. -/
theorem history_eq : ∃ last : List (Event Note), (last = [] ∨ last = [.verified ref]) ∧
    after.history = last ++ (later ++ [Event.verifying ref]) ++ channel.history := by
  have split : during.history = later ++ [Event.verifying ref] ++ channel.history := by
    rw [verification.history, List.append_assoc]
    rfl
  rcases verification.ends with rfl | ⟨rfl, _⟩
  · refine ⟨[.verified ref], .inr rfl, ?_⟩
    show .verified ref :: during.history = _
    rw [split]
    rfl
  · exact ⟨[], .inl rfl, split⟩

end Verification

/-- The verification of an operation on a channel where a client may act, whatever verifiers and
handlers do on the way. The scopes of the verifications around it are as before, and they are all
the scopes there are if no verification breaks off. If errors are not emitted when it begins, and
this is not chosen before it ends, then no handler and no default sink receives an error, and an
error that it comes to has itself as the last of its diagnostics. -/
theorem Reached.errors_captured {channel after : Channel Handler Note}
    (reached : Reached Custom channel) {conduct : Conduct Custom Handler Note}
    {workspace : Workspace Custom} {depth : Nat} {ref : OpRef} {verdict : Verdict}
    (ran : conduct.run workspace depth (.verify ref .done) channel = some (verdict, after)) :
    ∃ later, after.history = later ++ channel.history ∧
      channel.scopes <:+ after.scopes ∧
      (conduct.Unbroken workspace → after.scopes = channel.scopes) ∧
      (channel.emitsErrors = false → .switched true ∉ later →
        (∀ event ∈ later, ∀ diagnostic, event.received? = some diagnostic →
          diagnostic.isError = false) ∧
        ∀ error, verdict = .rejected error → error.diagnostics.getLast? =
          some ⟨.error, error.cause.message, error.location, []⟩) := by
  have candid := reached.candid
  rcases candid.verification ran with ⟨rfl, rfl⟩ | ⟨during, inside, verification⟩
  · exact ⟨[], rfl, List.suffix_refl _, fun _ => rfl, fun _ _ =>
      ⟨fun _ member => absurd member List.not_mem_nil, fun _ rejects => by cases rejects⟩⟩
  obtain ⟨last, latest, history⟩ := verification.history_eq
  obtain ⟨inner, scopes, none⟩ := verification.scopes_eq candid
  refine ⟨_, history, ?_, fun unbroken => ?_, fun silent unswitched =>
    ⟨fun event member diagnostic received => ?_, fun error rejects => ?_⟩⟩
  · rcases verification.ends with rfl | ⟨rfl, _⟩
    · show channel.scopes <:+ during.scopes.tail
      rw [scopes]
      cases inner with
      | nil => exact List.suffix_refl _
      | cons first others => exact (List.suffix_cons _ _).trans (List.suffix_append _ _)
    · rw [scopes]
      exact (List.suffix_cons _ _).trans (List.suffix_append _ _)
  · rcases verification.ends with rfl | ⟨_, broken⟩
    · show during.scopes.tail = channel.scopes
      rw [scopes, none unbroken]
      rfl
    · exact absurd unbroken broken
  · rw [candid.emitsErrors] at silent
    rw [List.mem_append, List.mem_append, List.mem_singleton] at member
    rcases member with inLast | inside | rfl
    · rcases latest with rfl | rfl
      · exact absurd inLast List.not_mem_nil
      · rw [List.mem_singleton.mp inLast] at received
        cases received
    · exact verification.told.discreet trivial (List.cons_ne_nil _ _) silent
        (fun switched => unswitched (by simp [switched])) event inside diagnostic received
    · cases received
  · rw [candid.emitsErrors] at silent
    obtain ⟨found, rfl, own⟩ := verification.rejected error rejects
    have captured := own silent fun switched => unswitched (by simp [switched])
    show (found.diagnostics ++ during.closeScope.1).getLast? = _
    rw [List.getLast?_append, captured]
    rfl

end Channel

/-! ### A client that reviews -/

/-- The verifiers of a client. -/
inductive Reviewer where
  /-- Complains twice and finds fault. -/
  | stern
  /-- Complains and finds no fault. -/
  | mild

namespace Reviewer

/-- An error that the verifiers emit. -/
def complaint : Diagnostic := .error .unknown "complaint"

/-- A warning that the stern verifier emits. -/
def advice : Diagnostic := .warning .unknown "advice"

/-- What the verifiers do. -/
def inspect : Reviewer → Operation → Visit Reviewer Unit Unit Verdict
  | stern, operation =>
    .emit complaint (.emit advice (.done (operation.reject (.custom "unfit"))))
  | mild, _ => .emit complaint (.done .accepted)

/-- The client, whose handler verifies an operation whenever it is called. -/
def conduct : Conduct Reviewer Unit Unit where
  inspect := inspect
  react _ _ := .verify ⟨1⟩ fun _ => .done (false, ())
  listen _ _ := ([], false, ())

/-- A dialect with an operation for each verifier. -/
def dialect : Dialect Reviewer :=
  (Dialect.ofName ⟨"review"⟩).insertAll [{ name := "stern", verifier := some (.custom stern) },
    { name := "mild", verifier := some (.custom mild) }]

/-- A workspace with an operation for each verifier. -/
def desk : Workspace Reviewer :=
  let environment := ((Environment.ofLoader 0 Loader.empty).register dialect).state
  let started := (Workspace.start environment ⟨some ["review"], false⟩).state
  ((started.create ⟨"review.stern", [], [], [], .unknown⟩).state.create
    ⟨"review.mild", [], [], [], .unknown⟩).state

/-- A channel with one handler. -/
def attended : Channel Unit Unit := (Channel.empty.attach ()).2

theorem reached_attended : attended.Reached Reviewer := by
  have ran : conduct.run desk 0 (.attach () fun _ => .done ()) .empty = some ((), attended) := rfl
  exact .visited .empty ran

theorem unbroken : conduct.Unbroken desk := by
  refine Conduct.unbroken_of_examinations fun ref operation found => ?_
  have live : desk.session.operations.live =
      [⟨⟨0⟩, ⟨⟨"review"⟩, "stern"⟩, [], [], .empty, .unknown⟩,
        ⟨⟨1⟩, ⟨⟨"review"⟩, "mild"⟩, [], [], .empty, .unknown⟩] := rfl
  have member := List.mem_of_find?_eq_some found
  rw [live] at member
  rcases List.mem_cons.mp member with rfl | last
  · exact fun fault broken => by cases broken
  · rw [List.mem_singleton.mp last]
    exact fun fault broken => by cases broken

/-- What happens when the operation of the stern verifier is verified. -/
def sternLater : List (Event Unit) :=
  [.verified ⟨0⟩, .captured (.error .unknown "unfit"), .emitted (.error .unknown "unfit"),
    .settled advice false, .answered ⟨0⟩ false, .verified ⟨1⟩, .captured complaint,
    .emitted complaint, .verifying ⟨1⟩, .called ⟨0⟩ advice, .dispatched advice, .emitted advice,
    .captured complaint, .emitted complaint, .verifying ⟨0⟩]

/-- The error that comes of it. -/
def unfit : Error :=
  ⟨.verificationFailed, .custom "unfit", .unknown, [complaint, .error .unknown "unfit"]⟩

theorem run_stern : ∃ after, conduct.run desk 4 (.verify ⟨0⟩ .done) attended =
    some (.rejected unfit, after) ∧ after.history = sternLater ++ attended.history := by
  have computed : (conduct.run desk 4 (.verify ⟨0⟩ .done) attended).map (fun outcome =>
      (outcome.1, outcome.2.history)) =
        some (.rejected unfit, sternLater ++ attended.history) := by
    decide +kernel
  obtain ⟨⟨verdict, after⟩, ran, same⟩ := Option.map_eq_some_iff.mp computed
  obtain ⟨rfl, history⟩ := Prod.mk.inj same
  exact ⟨after, ran, history⟩

theorem errors_captured_stern : ∃ after, attended.Reached Reviewer ∧ conduct.Unbroken desk ∧
    conduct.run desk 4 (.verify ⟨0⟩ .done) attended = some (.rejected unfit, after) ∧
    after.history = sternLater ++ attended.history ∧ after.scopes = attended.scopes ∧
    attended.emitsErrors = false ∧ .switched true ∉ sternLater ∧
    (∀ event ∈ sternLater, ∀ diagnostic, event.received? = some diagnostic →
      diagnostic.isError = false) ∧
    unfit.diagnostics.getLast? = some ⟨.error, "unfit", .unknown, []⟩ := by
  obtain ⟨after, ran, history⟩ := run_stern
  obtain ⟨later, split, _, scopes, captured⟩ := reached_attended.errors_captured ran
  obtain rfl : later = sternLater := List.append_cancel_right (split.symm.trans history)
  have unswitched : Event.switched true ∉ sternLater := by decide
  obtain ⟨discreet, own⟩ := captured rfl unswitched
  exact ⟨after, reached_attended, unbroken, ran, history, scopes unbroken, rfl, unswitched,
    discreet, own unfit rfl⟩

end Reviewer

end Polyglot
