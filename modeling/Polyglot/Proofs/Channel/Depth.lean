/-
This file proves that it does no harm to let calls nest deeper than they have to. What a run comes
to with calls nested up to some depth, it comes to with every greater depth. So whether a visit
comes to an end, and to what, does not depend on the depth that it is given, as long as it is
enough.
-/

import Polyglot.Proofs.Channel.Steady

namespace Polyglot

variable {Custom Handler Note Result Other : Type}

/-- Whatever the first action comes to, the second comes to as well. -/
def Repeats (first second : Turn Handler Note Result) : Prop :=
  ∀ before result after, first.run before = some (result, after) →
    second.run before = some (result, after)

/-! ### Single actions -/

theorem repeats_self (action : Turn Handler Note Result) : Repeats action action :=
  fun _ _ _ ran => ran

theorem repeats_failure (action : Turn Handler Note Result) :
    Repeats (failure : Turn Handler Note Result) action := by
  intro before result after ran
  cases ran

theorem Repeats.bind {first second : Turn Handler Note Result}
    {next nextToo : Result → Turn Handler Note Other} (begins : Repeats first second)
    (goesOn : ∀ result, Repeats (next result) (nextToo result)) :
    Repeats (first >>= next) (second >>= nextToo) := by
  intro before other after ran
  obtain ⟨result, between, ranFirst, ranNext⟩ := run_bind_eq_some ran
  rw [StateT.run_bind, begins before result between ranFirst]
  exact goesOn result between other after ranNext

/-- Actions that begin in the same way. -/
theorem Repeats.after (action : Turn Handler Note Result)
    {next nextToo : Result → Turn Handler Note Other}
    (goesOn : ∀ result, Repeats (next result) (nextToo result)) :
    Repeats (action >>= next) (action >>= nextToo) :=
  (repeats_self action).bind goesOn

/-! ### Emissions -/

namespace Channel

variable {call callToo : Call Handler Note Option}
  (repeats : ∀ handler diagnostic, Repeats (call handler diagnostic) (callToo handler diagnostic))
include repeats

theorem repeats_callEach (diagnostic : Diagnostic) (handed : List (Attached Handler)) :
    Repeats (callEach call diagnostic handed) (callEach callToo diagnostic handed) := by
  induction handed with
  | nil => exact repeats_self _
  | cons first others inductionHypothesis =>
    refine .after _ fun _ => (repeats first.handler diagnostic).bind fun answer =>
      .after _ fun _ => ?_
    obtain ⟨consumed, handler⟩ := answer
    cases consumed with
    | true => exact repeats_self _
    | false => exact inductionHypothesis.bind fun _ => repeats_self _

theorem repeats_dispatch (diagnostic : Diagnostic) :
    Repeats (dispatch call diagnostic) (dispatch callToo diagnostic) :=
  .after _ fun before => .after _ fun _ =>
    (repeats_callEach repeats diagnostic before.chain).bind fun _ => repeats_self _

theorem repeats_emit (diagnostic : Diagnostic) :
    Repeats (emit call diagnostic) (emit callToo diagnostic) := by
  refine .after _ fun before => .after _ fun _ => ?_
  split
  · exact repeats_self _
  · exact (repeats_dispatch repeats diagnostic).bind fun _ => repeats_self _

end Channel

/-! ### Verifications and visits -/

theorem repeats_verifyWith {emit emitToo : Diagnostic → Turn Handler Note Unit}
    (repeatsEmit : ∀ diagnostic, Repeats (emit diagnostic) (emitToo diagnostic))
    {examine examineToo : Turn Handler Note Verdict} (repeatsExamine : Repeats examine examineToo)
    (ref : OpRef) : Repeats (verifyWith emit examine ref) (verifyWith emitToo examineToo ref) := by
  refine .after _ fun _ => repeatsExamine.bind fun verdict => ?_
  cases verdict with
  | accepted | brokenOff => exact repeats_self _
  | rejected error => exact (repeatsEmit _).bind fun _ => repeats_self _

/-- Whatever the first service does, the second does as well. -/
structure Service.RepeatedBy (first second : Service Custom Handler Note) : Prop where
  emit : ∀ diagnostic, Repeats (first.emit diagnostic) (second.emit diagnostic)
  verify : ∀ ref, Repeats (first.verify ref) (second.verify ref)
  check : ∀ schema operation,
    Repeats (first.check schema operation) (second.check schema operation)

theorem repeats_play {first second : Service Custom Handler Note}
    (repeats : first.RepeatedBy second) (workspace : Workspace Custom)
    (visit : Visit Custom Handler Note Result) :
    Repeats (visit.play workspace first) (visit.play workspace second) := by
  induction visit with
  | done result => exact repeats_self _
  | look next inductionHypothesis => exact inductionHypothesis _
  | remember next inductionHypothesis | count next inductionHypothesis
  | emitsErrors next inductionHypothesis => exact .after _ fun _ => inductionHypothesis _
  | note _ next inductionHypothesis | setEmitsErrors _ next inductionHypothesis =>
    exact .after _ fun _ => inductionHypothesis
  | attach _ next inductionHypothesis | detach _ next inductionHypothesis =>
    exact .after _ inductionHypothesis
  | emit diagnostic next inductionHypothesis =>
    exact (repeats.emit diagnostic).bind fun _ => inductionHypothesis
  | verify ref next inductionHypothesis => exact (repeats.verify ref).bind inductionHypothesis
  | check schema operation next inductionHypothesis =>
    exact (repeats.check schema operation).bind inductionHypothesis

/-! ### Depths -/

namespace Conduct

variable (conduct : Conduct Custom Handler Note) (workspace : Workspace Custom)

theorem repeats_service_succ (depth : Nat) :
    (conduct.service workspace depth).RepeatedBy (conduct.service workspace (depth + 1)) := by
  induction depth with
  | zero =>
    exact ⟨fun _ => repeats_failure _, fun _ => repeats_failure _, fun _ _ => repeats_failure _⟩
  | succ depth inductionHypothesis =>
    refine ⟨fun diagnostic => ?_, fun ref => ?_, fun schema operation => ?_⟩
    · rw [emit_service, emit_service]
      exact Channel.repeats_emit (fun _ _ => repeats_play inductionHypothesis workspace _)
        diagnostic
    · rw [service, service]
      dsimp only
      split
      · exact repeats_self _
      · exact repeats_verifyWith inductionHypothesis.emit
          (repeats_play inductionHypothesis workspace _) ref
    · exact repeats_play inductionHypothesis workspace _

theorem repeats_service {shallow deep : Nat} (deeper : shallow ≤ deep) :
    (conduct.service workspace shallow).RepeatedBy (conduct.service workspace deep) := by
  induction deeper with
  | refl => exact ⟨fun _ => repeats_self _, fun _ => repeats_self _, fun _ _ => repeats_self _⟩
  | @step depth _ inductionHypothesis =>
    have next := conduct.repeats_service_succ workspace depth
    exact ⟨fun _ _ _ _ ran => next.emit _ _ _ _ (inductionHypothesis.emit _ _ _ _ ran),
      fun _ _ _ _ ran => next.verify _ _ _ _ (inductionHypothesis.verify _ _ _ _ ran),
      fun _ _ _ _ _ ran => next.check _ _ _ _ _ (inductionHypothesis.check _ _ _ _ _ ran)⟩

/-- A run comes to the same with every depth that is enough. -/
theorem run_deeper {shallow deep : Nat} (deeper : shallow ≤ deep)
    {visit : Visit Custom Handler Note Result} {before after : Channel Handler Note}
    {result : Result} (ran : conduct.run workspace shallow visit before = some (result, after)) :
    conduct.run workspace deep visit before = some (result, after) :=
  repeats_play (conduct.repeats_service workspace deeper) workspace visit before result after ran

end Conduct

end Polyglot
