/-
This file proves that an announcement emits its diagnostic and nothing else. The handlers that
hear it can only leave notes, so no other emission can come about on the way, however many of
them there are and whatever they consume.
-/

import Polyglot.Proofs.Channel.Faithful
import Polyglot.Visit.Run

namespace Polyglot

variable {Custom Handler Note Result Other : Type}

namespace History

/-- The emissions among the events. -/
def emissions (history : List (Event Note)) : List (Event Note) :=
  history.filter Event.isEmission

end History

open History

/-- The action emits nothing. -/
def Silent (action : StateT (Channel Handler Note) Id Result) : Prop :=
  ∀ channel, emissions (action.run channel).2.history = emissions channel.history

theorem silent_pure (result : Result) :
    Silent (pure result : StateT (Channel Handler Note) Id Result) := fun _ => rfl

theorem Silent.bind {action : StateT (Channel Handler Note) Id Result}
    {next : Result → StateT (Channel Handler Note) Id Other} (first : Silent action)
    (second : ∀ result, Silent (next result)) : Silent (action >>= next) :=
  fun channel => (second _ _).trans (first channel)

theorem silent_modify {change : Channel Handler Note → Channel Handler Note}
    (silent : ∀ channel, emissions (change channel).history = emissions channel.history) :
    Silent (modify change : StateT (Channel Handler Note) Id PUnit) := silent

namespace Channel

theorem emissions_recordNotes (channel : Channel Handler Note) (notes : List Note) :
    emissions (channel.recordNotes notes).history = emissions channel.history := by
  induction notes generalizing channel with
  | nil => rfl
  | cons note rest inductionHypothesis => exact inductionHypothesis (channel.record (.noted note))

theorem emissions_capture (channel : Channel Handler Note) (diagnostic : Diagnostic) :
    emissions (channel.capture diagnostic).history = emissions channel.history := by
  unfold capture
  split <;> rfl

section Silence

variable {call : Call Handler Note Id}
  (silent : ∀ handler diagnostic, Silent (call handler diagnostic))
include silent

theorem silent_callEach (diagnostic : Diagnostic) (handed : List (Attached Handler)) :
    Silent (callEach call diagnostic handed) := by
  induction handed with
  | nil => exact silent_pure _
  | cons first others inductionHypothesis =>
    refine Silent.bind (silent_modify fun _ => rfl) fun _ =>
      Silent.bind (silent first.handler diagnostic) fun answer =>
        Silent.bind (silent_modify fun _ => rfl) fun _ => ?_
    cases answer.1 with
    | true => exact silent_pure _
    | false => exact inductionHypothesis.bind fun _ => silent_pure _

theorem silent_dispatch (diagnostic : Diagnostic) : Silent (dispatch call diagnostic) :=
  fun channel => Silent.bind (silent_callEach silent diagnostic channel.chain)
    (fun _ => Silent.bind (silent_modify fun _ => rfl) fun _ => silent_pure _)
    (channel.takeChain.2.record (.dispatched diagnostic))

/-- If the calls of handlers emit nothing, an emission emits its diagnostic and nothing else. -/
theorem emissions_emit (diagnostic : Diagnostic) (channel : Channel Handler Note) :
    emissions ((emit call diagnostic).run channel).2.history =
      .emitted diagnostic :: emissions channel.history := by
  have capture : Silent (if diagnostic.isError then
      modify fun channel : Channel Handler Note => channel.capture diagnostic
      else pure () : StateT (Channel Handler Note) Id PUnit) := by
    split
    · exact silent_modify fun _ => emissions_capture _ diagnostic
    · exact silent_pure _
  have rest : Silent (if diagnostic.isError && channel.isCapturing && !channel.emitsErrors then
      modify fun channel : Channel Handler Note => channel.capture diagnostic
      else do
        let consumed ← dispatch call diagnostic
        if consumed then pure ()
        else do
          if channel.emitsErrors then modify (·.record (.sunk diagnostic))
          if diagnostic.isError then
            modify fun channel : Channel Handler Note => channel.capture diagnostic) := by
    split
    · exact silent_modify fun _ => emissions_capture _ diagnostic
    · refine (silent_dispatch silent diagnostic).bind fun consumed => ?_
      cases consumed with
      | true => exact silent_pure _
      | false =>
        cases channel.emitsErrors with
        | true => exact Silent.bind (silent_modify fun _ => rfl) fun _ => capture
        | false => exact capture
  exact rest (channel.record (.emitted diagnostic))

end Silence

end Channel

/-- An announcement emits its diagnostic and nothing else. -/
theorem Conduct.emissions_announce (conduct : Conduct Custom Handler Note)
    (diagnostic : Diagnostic) (channel : Channel Handler Note) :
    emissions (conduct.announce diagnostic channel).history =
      .emitted diagnostic :: emissions channel.history :=
  Channel.emissions_emit (fun _ _ => (silent_modify fun _ =>
    Channel.emissions_recordNotes _ _).bind fun _ => silent_pure _) diagnostic channel

end Polyglot
