/-
This file proves that handlers are kept account of, whatever they do while they are called.
Detaching a handler says whether it was attached and not detached before, and when no dispatch
is in progress the chain holds the handlers that are attached and not detached.
-/

import Polyglot.Proofs.Channel.Reached

namespace Polyglot

open History

variable {Custom Handler Note : Type}

namespace Channel

/-- At every moment at which a client may act, detaching succeeds exactly for the handlers that
were attached and not detached before, and so did every detachment in the past. When no dispatch
is in progress, the chain holds exactly these handlers, each once and in the order of their
attachment, and no handler is held to be dispatched or to be detached later. Whatever a visit
does, it leaves the dispatches in progress as they were. -/
theorem Reached.handlers_accounted {channel : Channel Handler Note}
    (reached : Reached Custom channel) :
    (∀ token, (channel.detach token).1 = true ↔
      .attached token ∈ channel.history ∧ .detached token true ∉ channel.history) ∧
    (∀ later token wasAttached past,
      channel.history = later ++ .detached token wasAttached :: past →
        (wasAttached = true ↔ .attached token ∈ past ∧ .detached token true ∉ past)) ∧
    (rounds channel.history = [] →
      channel.chain.map Attached.token = standing channel.history ∧
      channel.dispatching = [] ∧ channel.detaching = []) ∧
    (standing channel.history).Nodup ∧
    ∀ (Result : Type) (conduct : Conduct Custom Handler Note) (workspace : Workspace Custom)
      (depth : Nat) (visit : Visit Custom Handler Note Result) (result : Result)
      (after : Channel Handler Note),
      conduct.run workspace depth visit channel = some (result, after) →
        rounds after.history = rounds channel.history := by
  obtain ⟨faithful, calm⟩ := reached.steady
  refine ⟨fun token => ?_, fun later token wasAttached past split => ?_, fun idle => ?_,
    faithful.lawful.nodup_standing, fun _ _ _ _ _ _ _ ran => ?_⟩
  · rw [faithful.detach_eq_true_iff, mem_standing_iff_mem]
  · rw [← mem_standing_iff_mem]
    exact faithful.lawful.admits split
  · have dispatching : channel.dispatching = [] := by
      rw [faithful.dispatching, idle]
      rfl
    refine ⟨?_, dispatching, List.eq_nil_iff_forall_not_mem.mpr fun token pending => ?_⟩
    · rw [faithful.chained, eligible_of_idle idle]
    · have taken := ((faithful.detaching token).mp pending).1
      rw [dispatching] at taken
      exact List.not_mem_nil taken
  · exact (Steady.run ⟨faithful, calm⟩ ran).2

end Channel

namespace Plan

/-- A handler that detaches itself and attaches one that detaches a handler of the dispatch around
it, and then emits, all while a diagnostic is dispatched to it and to a handler behind it. -/
def restless : Plan :=
  .attach (.detach ⟨0⟩ (.attach (.detach ⟨1⟩ (.answer false))
      (.emit (remark "inner") (.answer false))))
    (.attach (.answer false) (.emit (remark "outer") (.answer false)))

theorem handlers_accounted_restless : ∃ channel : Channel Plan Unit,
    restless.outcome? 2 = some (false, channel) ∧ channel.Reached Empty ∧
      attachedTokens channel.history = [⟨0⟩, ⟨1⟩, ⟨2⟩] ∧
      (∀ token, (channel.detach token).1 = true ↔
        .attached token ∈ channel.history ∧ .detached token true ∉ channel.history) ∧
      (∃ later past, channel.history = later ++ .detached ⟨1⟩ true :: past ∧
        .attached ⟨1⟩ ∈ past ∧ .detached ⟨1⟩ true ∉ past) ∧
      rounds channel.history = [] ∧ channel.chain.map Attached.token = [⟨2⟩] ∧
      channel.dispatching = [] ∧ channel.detaching = [] := by
  have computed : (restless.outcome? 2).map (fun outcome => (outcome.1,
      attachedTokens outcome.2.history, standing outcome.2.history,
      isDetached outcome.2.history ⟨1⟩, (rounds outcome.2.history).length)) =
        some (false, [⟨0⟩, ⟨1⟩, ⟨2⟩], [⟨2⟩], true, 0) := by decide +kernel
  obtain ⟨⟨answer, channel⟩, ran, same⟩ := Option.map_eq_some_iff.mp computed
  simp only [Prod.mk.injEq] at same
  obtain ⟨rfl, attached, stand, gone, count⟩ := same
  have idle : rounds channel.history = [] := List.length_eq_zero_iff.mp count
  obtain ⟨later, past, split⟩ := List.append_of_mem ((isDetached_iff _ _).mp gone)
  obtain ⟨answers, detachments, settled, _⟩ := (reached ran).handlers_accounted
  obtain ⟨chain, dispatching, detaching⟩ := settled idle
  exact ⟨channel, ran, reached ran, attached, answers,
    ⟨later, past, split, (detachments later ⟨1⟩ true past split).mp rfl⟩, idle,
    chain.trans stand, dispatching, detaching⟩

end Plan

end Polyglot
