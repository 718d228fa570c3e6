/-
This file proves what becomes of visits that emit nothing and have nothing verified. They come to an
end and leave the capture scopes as they are. If such a visit examines an operation while errors are
not emitted, then the verification of the operation captures its own error and nothing else.

How deep calls may nest does not matter for this, so it is left open: a visit comes to what it comes
to with some depth, and this is one thing only.
-/

import Polyglot.Proofs.Channel.Depth
import Polyglot.Proofs.Workspace.Verdicts

namespace Polyglot

variable {Custom Handler Note Result : Type}

/-! ### What visits come to -/

namespace Conduct

/-- With calls nested deep enough, the visit comes to this result and leaves this channel. -/
def ComesTo (conduct : Conduct Custom Handler Note) (workspace : Workspace Custom)
    (visit : Visit Custom Handler Note Result) (before : Channel Handler Note) (result : Result)
    (after : Channel Handler Note) : Prop :=
  ∃ depth, conduct.run workspace depth visit before = some (result, after)

variable {conduct : Conduct Custom Handler Note} {workspace : Workspace Custom}
  {visit : Visit Custom Handler Note Result} {before between after : Channel Handler Note}
  {result : Result}

theorem comesTo_done (conduct : Conduct Custom Handler Note) (workspace : Workspace Custom)
    (result : Result) (channel : Channel Handler Note) :
    conduct.ComesTo workspace (.done result) channel result channel :=
  ⟨0, rfl⟩

/-- There is no depth from which on a visit would not come to the same. -/
theorem ComesTo.deeper (comes : conduct.ComesTo workspace visit before result after)
    (least : Nat) : ∃ depth, least ≤ depth ∧
      conduct.run workspace depth visit before = some (result, after) := by
  obtain ⟨depth, ran⟩ := comes
  exact ⟨max least depth, Nat.le_max_left _ _,
    conduct.run_deeper workspace (Nat.le_max_right _ _) ran⟩

theorem ComesTo.unique (comes : conduct.ComesTo workspace visit before result after)
    {other : Result} {elsewhere : Channel Handler Note}
    (comesToo : conduct.ComesTo workspace visit before other elsewhere) :
    other = result ∧ elsewhere = after := by
  obtain ⟨depth, ran⟩ := comes
  obtain ⟨deep, deeper, ranToo⟩ := comesToo.deeper depth
  rw [conduct.run_deeper workspace deeper ran] at ranToo
  obtain ⟨rfl, rfl⟩ := Prod.mk.inj (Option.some.inj ranToo)
  exact ⟨rfl, rfl⟩

/-- A visit that has an operation verified first. -/
theorem ComesTo.verify {ref : OpRef} {verdict : Verdict}
    {next : Verdict → Visit Custom Handler Note Result}
    (first : conduct.ComesTo workspace (.verify ref .done) before verdict between)
    (second : conduct.ComesTo workspace (next verdict) between result after) :
    conduct.ComesTo workspace (.verify ref next) before result after := by
  obtain ⟨depth, ranNext⟩ := second
  obtain ⟨deep, deeper, ranVerify⟩ := first.deeper depth
  obtain ⟨_, _, ran, ranDone⟩ := run_bind_eq_some ranVerify
  cases ranDone
  exact ⟨deep, (run_bind_of_eq_some ran).trans (conduct.run_deeper workspace deeper ranNext)⟩

/-- A visit that has an operation checked first. -/
theorem ComesTo.check {schema : Schema Custom} {operation : Operation} {verdict : Verdict}
    {next : Verdict → Visit Custom Handler Note Result}
    (first : conduct.ComesTo workspace
      (schema.examine conduct workspace.session.operations operation) before verdict between)
    (second : conduct.ComesTo workspace (next verdict) between result after) :
    conduct.ComesTo workspace (.check schema operation next) before result after := by
  obtain ⟨depth, ranNext⟩ := second
  obtain ⟨deep, deeper, ranExamine⟩ := first.deeper depth
  have ran : ((conduct.service workspace (deep + 1)).check schema operation).run before =
      some (verdict, between) := ranExamine
  exact ⟨deep + 1, (run_bind_of_eq_some ran).trans
    (conduct.run_deeper workspace (Nat.le_succ_of_le deeper) ranNext)⟩

end Conduct

/-! ### Channels that are left undisturbed -/

namespace Channel

/-- The capture scopes are the same, and if errors were not emitted, they still are not. -/
structure Undisturbed (before after : Channel Handler Note) : Prop where
  scopes : after.scopes = before.scopes
  silent : before.emitsErrors = false → after.emitsErrors = false

variable {before between after : Channel Handler Note}

namespace Undisturbed

theorem refl (channel : Channel Handler Note) : channel.Undisturbed channel := ⟨rfl, id⟩

theorem trans (first : before.Undisturbed between) (second : between.Undisturbed after) :
    before.Undisturbed after :=
  ⟨second.scopes.trans first.scopes, fun silent => second.silent (first.silent silent)⟩

/-- A verification whose scope was left undisturbed leaves the channel undisturbed. -/
theorem leave {ref : OpRef} (undisturbed : (before.enter ref).Undisturbed after) :
    before.Undisturbed (after.leave ref) :=
  ⟨congrArg List.tail undisturbed.scopes, undisturbed.silent⟩

end Undisturbed

theorem undisturbed_detach (channel : Channel Handler Note) (token : Token) :
    channel.Undisturbed (channel.detach token).2 := by
  unfold detach
  split
  · exact ⟨rfl, id⟩
  · split <;> exact ⟨rfl, id⟩

end Channel

/-! ### Visits that emit nothing -/

/-- The visit emits nothing and has nothing verified, nor do the checks that it has made, and nobody
chooses that errors are emitted. -/
inductive Visit.Mute (conduct : Conduct Custom Handler Note) (workspace : Workspace Custom) :
    {Result : Type} → Visit Custom Handler Note Result → Prop where
  | done {Result : Type} (result : Result) : Mute conduct workspace (.done result)
  | look {Result : Type} (next : Workspace Custom → Visit Custom Handler Note Result)
      (mute : Mute conduct workspace (next workspace)) : Mute conduct workspace (.look next)
  | remember {Result : Type} (next : List (Event Note) → Visit Custom Handler Note Result)
      (mute : ∀ history, Mute conduct workspace (next history)) :
      Mute conduct workspace (.remember next)
  | note {Result : Type} (entry : Note) (next : Visit Custom Handler Note Result)
      (mute : Mute conduct workspace next) : Mute conduct workspace (.note entry next)
  | attach {Result : Type} (handler : Handler) (next : Token → Visit Custom Handler Note Result)
      (mute : ∀ token, Mute conduct workspace (next token)) :
      Mute conduct workspace (.attach handler next)
  | detach {Result : Type} (token : Token) (next : Bool → Visit Custom Handler Note Result)
      (mute : ∀ answer, Mute conduct workspace (next answer)) :
      Mute conduct workspace (.detach token next)
  | count {Result : Type} (next : Nat → Visit Custom Handler Note Result)
      (mute : ∀ answer, Mute conduct workspace (next answer)) : Mute conduct workspace (.count next)
  | emitsErrors {Result : Type} (next : Bool → Visit Custom Handler Note Result)
      (mute : ∀ answer, Mute conduct workspace (next answer)) :
      Mute conduct workspace (.emitsErrors next)
  | silence {Result : Type} (next : Visit Custom Handler Note Result)
      (mute : Mute conduct workspace next) : Mute conduct workspace (.setEmitsErrors false next)
  | check {Result : Type} (schema : Schema Custom) (operation : Operation)
      (next : Verdict → Visit Custom Handler Note Result)
      (examines : Mute conduct workspace
        (schema.examine conduct workspace.session.operations operation))
      (mute : ∀ verdict, Mute conduct workspace (next verdict)) :
      Mute conduct workspace (.check schema operation next)

/-- Each step comes to an end, and the induction hands over the channel that it leaves. -/
theorem Visit.Mute.comesTo {conduct : Conduct Custom Handler Note} {workspace : Workspace Custom}
    {visit : Visit Custom Handler Note Result} (mute : visit.Mute conduct workspace)
    (before : Channel Handler Note) :
    ∃ result after, conduct.ComesTo workspace visit before result after ∧
      before.Undisturbed after := by
  induction mute generalizing before with
  | done result => exact ⟨result, before, conduct.comesTo_done workspace result before, .refl _⟩
  | look next _ inductionHypothesis => exact inductionHypothesis before
  | remember next _ inductionHypothesis => exact inductionHypothesis before.history before
  | count next _ inductionHypothesis => exact inductionHypothesis before.size before
  | emitsErrors next _ inductionHypothesis => exact inductionHypothesis before.emitsErrors before
  | note entry next _ inductionHypothesis =>
    obtain ⟨result, after, comes, undisturbed⟩ :=
      inductionHypothesis (before.record (.noted entry))
    exact ⟨result, after, comes, undisturbed.scopes, undisturbed.silent⟩
  | attach handler next _ inductionHypothesis =>
    obtain ⟨result, after, comes, undisturbed⟩ :=
      inductionHypothesis (before.attach handler).1 (before.attach handler).2
    exact ⟨result, after, comes, undisturbed.scopes, undisturbed.silent⟩
  | detach token next _ inductionHypothesis =>
    obtain ⟨result, after, comes, undisturbed⟩ :=
      inductionHypothesis (before.detach token).1 (before.detach token).2
    exact ⟨result, after, comes, (before.undisturbed_detach token).trans undisturbed⟩
  | silence next _ inductionHypothesis =>
    obtain ⟨result, after, comes, undisturbed⟩ := inductionHypothesis (before.setEmitsErrors false)
    exact ⟨result, after, comes, undisturbed.scopes, fun _ => undisturbed.silent rfl⟩
  | check schema operation next _ _ examines inductionHypothesis =>
    obtain ⟨verdict, between, comesFirst, first⟩ := examines before
    obtain ⟨result, after, comesThen, second⟩ := inductionHypothesis verdict between
    exact ⟨result, after, comesFirst.check comesThen, first.trans second⟩

/-! ### Verifications -/

namespace Conduct

variable {conduct : Conduct Custom Handler Note} {workspace : Workspace Custom} {ref : OpRef}
  {operation : Operation} (found : workspace.session.operations.find? ref = some operation)
  {before examined : Channel Handler Note}
include found

theorem comesTo_verify_of_accepted
    (comes : conduct.ComesTo workspace (workspace.session.examine conduct operation)
      (before.enter ref) .accepted examined) :
    conduct.ComesTo workspace (.verify ref .done) before .accepted (examined.leave ref) := by
  obtain ⟨depth, ran⟩ := comes
  exact ⟨depth + 1, (conduct.run_verify_eq depth before found).trans
    (run_of_concludes ran .accepted)⟩

theorem comesTo_verify_of_brokenOff {fault : Fault}
    (comes : conduct.ComesTo workspace (workspace.session.examine conduct operation)
      (before.enter ref) (.brokenOff fault) examined) :
    conduct.ComesTo workspace (.verify ref .done) before (.brokenOff fault) examined := by
  obtain ⟨depth, ran⟩ := comes
  exact ⟨depth + 1, (conduct.run_verify_eq depth before found).trans
    (run_of_concludes ran (.brokenOff fault))⟩

/-- The scope that was opened for the operation captures the error that is reported, and as nothing
else is in it, this is all that the error is returned with. -/
theorem comesTo_verify_of_rejected {error : Error}
    (comes : conduct.ComesTo workspace (workspace.session.examine conduct operation)
      (before.enter ref) (.rejected error) examined)
    (undisturbed : (before.enter ref).Undisturbed examined) (silent : before.emitsErrors = false) :
    ∃ after, conduct.ComesTo workspace (.verify ref .done) before
        (.rejected (error.withDiagnostics [error.diagnostic])) after ∧
      before.Undisturbed after := by
  have scopes : examined.scopes = [] :: before.scopes := undisturbed.scopes
  have quiet : examined.emitsErrors = false := undisturbed.silent silent
  have diverted : examined.diverts error.diagnostic = true := by
    rw [Channel.diverts, Channel.isCapturing, scopes, quiet]
    rfl
  let reported := (examined.record (.emitted error.diagnostic)).capture error.diagnostic
  have captured : reported.scopes = [error.diagnostic] :: before.scopes := by
    simp [reported, Channel.capture, Channel.record, scopes]
  have still : reported.emitsErrors = false := by
    simp [reported, Channel.capture, Channel.record, scopes, quiet]
  -- one level for the examination, and one for the report of the error
  obtain ⟨_ | inner, enough, ran⟩ := comes.deeper 1
  · cases enough
  have returned : reported.closeScope.1 = [error.diagnostic] := by
    rw [Channel.closeScope, captured]
    rfl
  refine ⟨reported.leave ref, ⟨inner + 2, ?_⟩, congrArg List.tail captured, fun _ => still⟩
  rw [← returned, conduct.run_verify_eq (inner + 1) before found]
  exact run_of_concludes ran (.rejected error reported (Channel.emit_of_diverts diverted))

end Conduct

end Polyglot
