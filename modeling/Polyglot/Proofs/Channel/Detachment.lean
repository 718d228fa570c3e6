/-
This file tells when a handler is called although it was detached. Detaching takes a handler out
of the chain, and a dispatch that begins later does not find it there. But a dispatch in progress
has taken its handlers out of the chain already. A handler that is detached while it waits for
its turn in such a dispatch gets its turn all the same, unless a handler in front of it consumes
the diagnostic.
-/

import Polyglot.Proofs.Channel.Course
import Polyglot.Proofs.Channel.Reached

namespace Polyglot

open History

variable {Custom Handler Note : Type}

namespace Round

/-- One member of a list is not behind another exactly if the other is not in front of it. -/
theorem mem_takeWhile_append_iff {tokens : List Token} {token : Token} (member : token ∈ tokens)
    (consumer : Token) :
    token ∈ tokens.takeWhile (fun other => some consumer ≠ some other) ++ [consumer] ↔
      consumer ∉ tokens.takeWhile (· ≠ token) := by
  induction tokens with
  | nil => exact absurd member List.not_mem_nil
  | cons first rest inductionHypothesis =>
    by_cases here : first = token
    · by_cases last : consumer = token <;> simp [here, last]
    · have later : token ∈ rest := (List.mem_cons.mp member).resolve_left (Ne.symm here)
      by_cases consumes : consumer = first
      · simp [here, consumes, Ne.symm here]
      · have passes : (first :: rest).takeWhile (fun other => some consumer ≠ some other) =
            first :: rest.takeWhile fun other => some consumer ≠ some other :=
          List.takeWhile_cons_of_pos (by simp [consumes])
        have waits : (first :: rest).takeWhile (· ≠ token) =
            first :: rest.takeWhile (· ≠ token) := List.takeWhile_cons_of_pos (by simp [here])
        rw [passes, waits, List.cons_append, List.mem_cons, List.mem_cons,
          inductionHypothesis later]
        simp [Ne.symm here, consumes]

/-- A complete dispatch has called a handler exactly if no handler in front of it consumed. -/
theorem Complete.mem_called_iff {round : Round Note} (complete : round.Complete) {token : Token}
    (ours : token ∈ round.eligible) :
    token ∈ round.called ↔
      ∀ earlier ∈ round.eligible.takeWhile (· ≠ token), round.consumer? ≠ some earlier := by
  rw [complete.called]
  cases round.consumer? with
  | none =>
    refine ⟨fun _ earlier _ => by simp, fun _ => List.mem_append_left _ ?_⟩
    rw [List.takeWhile_eq_self_iff.mpr fun other _ => by simp]
    exact ours
  | some consumer =>
    rw [Option.toList_some, mem_takeWhile_append_iff ours consumer]
    constructor
    · intro behind earlier member same
      cases same
      exact behind member
    · exact fun behind member => behind consumer member rfl

end Round

namespace History

theorem Lawful.mem_awaiting {history : List (Event Note)} (lawful : Lawful history)
    {round : Round Note} (member : round ∈ rounds history) (token : Token) :
    token ∈ round.awaiting ↔ token ∈ round.eligible ∧ token ∉ round.called := by
  have distinct : round.eligible.Nodup := (lawful.past member).nodup_eligible
  obtain ⟨rest, whole⟩ := (lawful.fair round member).ordered
  have awaiting : round.awaiting = rest := by
    rw [Round.awaiting, ← whole, List.drop_left]
  rw [awaiting]
  rw [← whole] at distinct ⊢
  constructor
  · intro waits
    exact ⟨List.mem_append_right _ waits,
      fun called => List.disjoint_of_nodup_append distinct called waits⟩
  · rintro ⟨ours, uncalled⟩
    exact (List.mem_append.mp ours).resolve_left uncalled

/-- A handler waits for its turn in one dispatch only. -/
theorem Lawful.eq_of_awaiting {history : List (Event Note)} (lawful : Lawful history)
    {first second : Round Note} (inFirst : first ∈ rounds history)
    (inSecond : second ∈ rounds history) {token : Token} (ofFirst : token ∈ first.awaiting)
    (ofSecond : token ∈ second.awaiting) : first = second :=
  Nested.eq_of_mem_eligible (nested_rounds history) inFirst inSecond
    ((lawful.mem_awaiting inFirst token).mp ofFirst).1
    ((lawful.mem_awaiting inSecond token).mp ofSecond).1

section Detached

variable {later past : List (Event Note)} {token : Token}
  (lawful : Lawful (later ++ .detached token true :: past))
include lawful

/-- A handler that was detached is called only by a dispatch that was in progress by then and had
the handler still to call. -/
theorem Lawful.caller_of_detached {diagnostic : Diagnostic}
    (called : .called token diagnostic ∈ later) :
    ∃ round ∈ rounds past, token ∈ round.awaiting ∧ round.diagnostic = diagnostic ∧
      ∃ final, round.Becomes later final ∧ token ∈ final.called ∧
        (final ∈ rounds (later ++ .detached token true :: past) ∨
          Ends later (.detached token true :: past) final) := by
  obtain ⟨more, doing, rfl⟩ := List.append_of_mem called
  rw [List.append_assoc, List.cons_append] at lawful ⊢
  have atCall := lawful.of_append
  obtain ⟨caller, outer, found, rfl, idle, ours, uncalled⟩ := atCall.2.2.caller atCall.1
  -- The dispatch did not begin after the detachment, or the handler would not be its own.
  rcases atCall.2.2.origin (found ▸ List.mem_cons_self) with began | ⟨round, inProgress, becomes⟩
  · have gone : isDetached caller.past token = true :=
      isDetached_of_suffix began token ((isDetached_detached _ _ _).mpr (Or.inl rfl))
    have kept := ((mem_standing _ _).mp ((mem_eligible _ _).mp ours).1).2
    exact absurd (gone.symm.trans kept) (Ne.symm Bool.false_ne_true)
  · have waits : token ∈ round.awaiting := by
      refine (atCall.2.2.of_append.2.2.mem_awaiting inProgress token).mpr ⟨?_, fun before => ?_⟩
      · rw [Round.eligible, ← becomes.past]
        exact ours
      · exact uncalled (becomes.called.subset before)
    refine ⟨round, inProgress, waits, becomes.diagnostic.symm, ?_⟩
    have calls := becomes.trans (Round.becomes_call idle token)
    have inCall : caller.call token ∈ rounds (.called token caller.diagnostic ::
        (doing ++ .detached token true :: past)) := by
      rw [rounds_called found]
      exact List.mem_cons_self
    have counted : token ∈ (caller.call token).called :=
      List.mem_append_right _ List.mem_cons_self
    rcases lawful.goes_on inCall with ⟨final, inFinal, became⟩ | ⟨final, ended, became⟩
    · exact ⟨final, calls.trans became, became.called.subset counted, Or.inl inFinal⟩
    · exact ⟨final, calls.trans became, became.called.subset counted, Or.inr (Ends.extend ended)⟩

/-- What becomes of a dispatch in progress that had the handler still to call when it was detached:
it has called the handler exactly if the handler was called at all. -/
theorem Lawful.course_of_detached {round : Round Note} (inProgress : round ∈ rounds past)
    (waits : token ∈ round.awaiting) :
    ∃ final, round.Becomes later final ∧
      (.called token round.diagnostic ∈ later ↔ token ∈ final.called) ∧
      (final ∈ rounds (later ++ .detached token true :: past) ∨
        Ends later (.detached token true :: past) final) := by
  have lawfulPast : Lawful past := lawful.of_append.2.2
  by_cases called : .called token round.diagnostic ∈ later
  · obtain ⟨other, member, otherWaits, _, final, becomes, inFinal, outcome⟩ :=
      lawful.caller_of_detached called
    obtain rfl := lawfulPast.eq_of_awaiting member inProgress otherWaits waits
    exact ⟨final, becomes, iff_of_true called inFinal, outcome⟩
  · have uncalled := ((lawfulPast.mem_awaiting inProgress token).mp waits).2
    have never {final : Round Note} (becomes : round.Becomes later final) :
        token ∉ final.called := fun inFinal =>
      (becomes.fresh token inFinal).elim uncalled called
    have still : round ∈ rounds (.detached token true :: past) := inProgress
    rcases lawful.goes_on still with ⟨final, inFinal, becomes⟩ | ⟨final, ended, becomes⟩
    · exact ⟨final, becomes, iff_of_false called (never becomes), Or.inl inFinal⟩
    · exact ⟨final, becomes, iff_of_false called (never becomes), Or.inr ended⟩

end Detached

end History

namespace Channel

/-- After a handler was detached: if no dispatch in progress had it still to call, it is not called
again. If one had, then the handler is called only for the diagnostic of that dispatch, and once
this has ended the handler was called exactly if no handler in front of it consumed. -/
theorem Reached.called_after_detachment {channel : Channel Handler Note}
    (reached : Reached Custom channel) {later past : List (Event Note)} {token : Token}
    (split : channel.history = later ++ .detached token true :: past) :
    ((∀ round ∈ rounds past, token ∉ round.awaiting) →
      ∀ diagnostic, .called token diagnostic ∉ later) ∧
    ∀ round ∈ rounds past, token ∈ round.awaiting →
      (∀ diagnostic, .called token diagnostic ∈ later → diagnostic = round.diagnostic) ∧
      ∃ final, round.Becomes later final ∧
        (final ∈ rounds channel.history ∧
            (.called token round.diagnostic ∈ later ↔ token ∈ final.called) ∨
          Ends later (.detached token true :: past) final ∧
            (.called token round.diagnostic ∈ later ↔
              ∀ earlier ∈ round.eligible.takeWhile (· ≠ token),
                final.consumer? ≠ some earlier)) := by
  have lawful := reached.steady.faithful.lawful
  rw [split] at lawful ⊢
  have lawfulPast : Lawful past := lawful.of_append.2.2
  refine ⟨fun none diagnostic called => ?_, fun round inProgress waits =>
    ⟨fun diagnostic called => ?_, ?_⟩⟩
  · obtain ⟨round, inProgress, waits, _⟩ := lawful.caller_of_detached called
    exact none round inProgress waits
  · obtain ⟨other, member, otherWaits, rfl, _⟩ := lawful.caller_of_detached called
    rw [lawfulPast.eq_of_awaiting member inProgress otherWaits waits]
  · obtain ⟨final, becomes, called, inFinal | ended⟩ :=
      lawful.course_of_detached inProgress waits
    · exact ⟨final, becomes, Or.inl ⟨inFinal, called⟩⟩
    · have ours := ((lawfulPast.mem_awaiting inProgress token).mp waits).1
      have same : final.eligible = round.eligible := by
        rw [Round.eligible, becomes.past]
        rfl
      have counted := (ended.complete lawful).2.2.mem_called_iff (same ▸ ours)
      rw [same] at counted
      exact ⟨final, becomes, Or.inr ⟨ended, called.trans counted⟩⟩

end Channel

namespace Plan

/-- The first of two handlers detaches the second while a diagnostic is dispatched to both. -/
def hasty : Plan :=
  .attach (.detach ⟨1⟩ (.answer false))
    (.attach (.answer false) (.emit (remark "once") (.answer false)))

/-- What had happened when the second handler was detached. -/
def hastyPast : List (Event Unit) :=
  [.called ⟨0⟩ (remark "once"), .dispatched (remark "once"), .emitted (remark "once"),
    .attached ⟨1⟩, .attached ⟨0⟩]

/-- What happened after the second handler was detached. -/
def hastyLater : List (Event Unit) :=
  [.settled (remark "once") false, .answered ⟨1⟩ false, .called ⟨1⟩ (remark "once"),
    .answered ⟨0⟩ false]

theorem hasty_history : ∃ channel, hasty.outcome? 1 = some (false, channel) ∧
    channel.history = hastyLater ++ .detached ⟨1⟩ true :: hastyPast := by
  have computed : (hasty.outcome? 1).map (fun outcome => (outcome.1, outcome.2.history)) =
      some (false, hastyLater ++ .detached ⟨1⟩ true :: hastyPast) := by
    decide +kernel
  obtain ⟨⟨answer, channel⟩, ran, same⟩ := Option.map_eq_some_iff.mp computed
  obtain ⟨rfl, history⟩ := Prod.mk.inj same
  exact ⟨channel, ran, history⟩

/-- A handler that was detached, with success, can be called later. -/
theorem called_although_detached : ∃ channel : Channel Plan Unit, channel.Reached Empty ∧
    ∃ later past, channel.history = later ++ .detached ⟨1⟩ true :: past ∧
      .called ⟨1⟩ (remark "once") ∈ later := by
  obtain ⟨channel, ran, history⟩ := hasty_history
  refine ⟨channel, reached ran, hastyLater, hastyPast, history, ?_⟩
  exact List.mem_cons_of_mem _ (List.mem_cons_of_mem _ List.mem_cons_self)

theorem called_after_detachment_hasty : ∃ channel : Channel Plan Unit,
    hasty.outcome? 1 = some (false, channel) ∧ channel.Reached Empty ∧
      channel.history = hastyLater ++ .detached ⟨1⟩ true :: hastyPast ∧
      ∃ round ∈ rounds hastyPast, round.eligible = [⟨0⟩, ⟨1⟩] ∧ ⟨1⟩ ∈ round.awaiting ∧
        ∃ final, round.Becomes hastyLater final ∧
          Ends hastyLater (.detached ⟨1⟩ true :: hastyPast) final ∧
          (.called ⟨1⟩ (remark "once") ∈ hastyLater ↔
            ∀ earlier ∈ [(⟨0⟩ : Token)], final.consumer? ≠ some earlier) := by
  obtain ⟨channel, ran, history⟩ := hasty_history
  let round : Round Unit := ⟨remark "once", [.emitted (remark "once"), .attached ⟨1⟩,
    .attached ⟨0⟩], [], some ⟨0⟩⟩
  have inProgress : round ∈ rounds hastyPast := List.mem_cons_self
  have waits : ⟨1⟩ ∈ round.awaiting := by decide
  have idle : rounds channel.history = [] := by
    rw [history]
    rfl
  obtain ⟨_, course⟩ := (reached ran).called_after_detachment history
  obtain ⟨_, final, becomes, ⟨still, _⟩ | ⟨ended, called⟩⟩ := course round inProgress waits
  · rw [idle] at still
    exact absurd still List.not_mem_nil
  · exact ⟨channel, ran, reached ran, history, round, inProgress, rfl, waits, final, becomes, ended,
      called⟩

end Plan

end Polyglot
