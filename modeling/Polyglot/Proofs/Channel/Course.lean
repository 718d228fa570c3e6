/-
This file follows a dispatch through a lawful history. A dispatch in progress has either begun
meanwhile or was already in progress, and then it has only called more handlers. Once it has
begun it is still in progress, or it has ended and called all the handlers it had to call. No
two dispatches in progress have a handler in common.
-/

import Polyglot.Proofs.Channel.Lawful

namespace Polyglot

open History

variable {Note : Type}

/-! ### What a dispatch becomes -/

/-- The round has become the other one through what happened: it has called more handlers. -/
structure Round.Becomes (round : Round Note) (happened : List (Event Note)) (other : Round Note) :
    Prop where
  past : other.past = round.past
  diagnostic : other.diagnostic = round.diagnostic
  called : round.called <+: other.called
  fresh : ∀ token ∈ other.called,
    token ∈ round.called ∨ .called token round.diagnostic ∈ happened

namespace Round

theorem becomes_refl (round : Round Note) (happened : List (Event Note)) :
    round.Becomes happened round :=
  ⟨rfl, rfl, List.prefix_refl _, fun _ member => Or.inl member⟩

theorem Becomes.trans {first second third : Round Note} {happened more : List (Event Note)}
    (earlier : first.Becomes happened second) (later : second.Becomes more third) :
    first.Becomes (more ++ happened) third := by
  refine ⟨later.past.trans earlier.past, later.diagnostic.trans earlier.diagnostic,
    earlier.called.trans later.called, fun token member => ?_⟩
  rcases later.fresh token member with inSecond | calledLater
  · rcases earlier.fresh token inSecond with inFirst | calledEarlier
    · exact Or.inl inFirst
    · exact Or.inr (List.mem_append_right _ calledEarlier)
  · rw [earlier.diagnostic] at calledLater
    exact Or.inr (List.mem_append_left _ calledLater)

theorem becomes_call {round : Round Note} (idle : round.calling = none) (token : Token) :
    round.Becomes [.called token round.diagnostic] (round.call token) := by
  have called : (round.call token).called = round.called ++ [token] := by
    rw [called_eq_of_calling_none idle]
    rfl
  refine ⟨rfl, rfl, ?_, fun other member => ?_⟩
  · rw [called]
    exact List.prefix_append _ _
  · rw [called] at member
    rcases List.mem_append.mp member with before | last
    · exact Or.inl before
    · rw [List.mem_singleton.mp last]
      exact Or.inr List.mem_cons_self

theorem becomes_answer {round : Round Note} {token : Token} (busy : round.calling = some token)
    (consumed : Bool) (happened : List (Event Note)) :
    round.Becomes happened (round.answer token consumed) := by
  have called := called_answer busy consumed
  exact ⟨rfl, rfl, called ▸ List.prefix_refl _, fun _ member => Or.inl (called ▸ member)⟩

end Round

namespace History

/-- A dispatch in progress began in the latest event, or it was already in progress. -/
theorem Lawful.origin_cons {event : Event Note} {past : List (Event Note)}
    (lawful : Lawful (event :: past)) {round : Round Note}
    (member : round ∈ rounds (event :: past)) :
    event = .dispatched round.diagnostic ∧ round.past = past ∨
      ∃ first ∈ rounds past, first.Becomes [event] round := by
  have same (inProgress : round ∈ rounds past) :
      ∃ first ∈ rounds past, first.Becomes [event] round :=
    ⟨round, inProgress, round.becomes_refl _⟩
  cases event with
  | dispatched diagnostic =>
    rcases List.mem_cons.mp member with rfl | inOuter
    · exact Or.inl ⟨rfl, rfl⟩
    · exact Or.inr (same inOuter)
  | called token diagnostic =>
    obtain ⟨first, outer, _, found, rfl, idle, _⟩ := lawful.1
    rw [rounds_called found] at member
    rcases List.mem_cons.mp member with rfl | inOuter
    · exact Or.inr ⟨first, found ▸ List.mem_cons_self, Round.becomes_call idle token⟩
    · exact Or.inr (same (found ▸ List.mem_cons_of_mem _ inOuter))
  | answered token consumed =>
    obtain ⟨first, outer, found, busy⟩ := lawful.1
    rw [rounds_answered found] at member
    rcases List.mem_cons.mp member with rfl | inOuter
    · exact Or.inr ⟨first, found ▸ List.mem_cons_self, Round.becomes_answer busy consumed _⟩
    · exact Or.inr (same (found ▸ List.mem_cons_of_mem _ inOuter))
  | settled diagnostic consumed => exact Or.inr (same (List.mem_of_mem_tail member))
  | _ => exact Or.inr (same member)

/-- A dispatch in progress began meanwhile, or it was already in progress. -/
theorem Lawful.origin {later past : List (Event Note)} (lawful : Lawful (later ++ past))
    {round : Round Note} (member : round ∈ rounds (later ++ past)) :
    past <:+ round.past ∨ ∃ first ∈ rounds past, first.Becomes later round := by
  induction later generalizing round with
  | nil => exact Or.inr ⟨round, member, round.becomes_refl _⟩
  | cons event rest inductionHypothesis =>
    rcases lawful.origin_cons member with ⟨_, began⟩ | ⟨middle, inMiddle, becomes⟩
    · rw [began]
      exact Or.inl (List.suffix_append _ _)
    · rcases inductionHypothesis lawful.2.2 inMiddle with began | ⟨first, inProgress, became⟩
      · exact Or.inl (becomes.past ▸ began)
      · exact Or.inr ⟨first, inProgress, became.trans becomes⟩

/-- A dispatch began right after its diagnostic was emitted. -/
theorem Lawful.past_eq {history : List (Event Note)} (lawful : Lawful history)
    {round : Round Note} (member : round ∈ rounds history) :
    ∃ before, round.past = .emitted round.diagnostic :: before := by
  induction history generalizing round with
  | nil => exact absurd member List.not_mem_nil
  | cons event past inductionHypothesis =>
    rcases lawful.origin_cons member with ⟨rfl, began⟩ | ⟨first, inProgress, becomes⟩
    · obtain ⟨before, split⟩ := lawful.1
      exact ⟨before, began.trans split⟩
    · rw [becomes.past, becomes.diagnostic]
      exact inductionHypothesis lawful.2.2 inProgress

/-- No two dispatches in progress have a handler in common. -/
theorem Nested.eq_of_mem_eligible {inProgress : List (Round Note)} (nested : Nested inProgress)
    {first second : Round Note} (inFirst : first ∈ inProgress) (inSecond : second ∈ inProgress)
    {token : Token} (ofFirst : token ∈ first.eligible) (ofSecond : token ∈ second.eligible) :
    first = second := by
  induction inProgress with
  | nil => exact absurd inFirst List.not_mem_nil
  | cons round outer inductionHypothesis =>
    obtain ⟨found, nestedOuter⟩ := nested
    rcases List.mem_cons.mp inFirst with rfl | firstOuter
    · rcases List.mem_cons.mp inSecond with rfl | secondOuter
      · rfl
      · exact absurd ofSecond (not_mem_eligible_round ofFirst (found ▸ secondOuter))
    · rcases List.mem_cons.mp inSecond with rfl | secondOuter
      · exact absurd ofFirst (not_mem_eligible_round ofSecond (found ▸ firstOuter))
      · exact inductionHypothesis nestedOuter firstOuter secondOuter

/-! ### How a dispatch ends -/

/-- A dispatch ended in what happened after the past, and this is what it had become. -/
def Ends (later past : List (Event Note)) (final : Round Note) : Prop :=
  ∃ after consumed doing outer, later = after ++ .settled final.diagnostic consumed :: doing ∧
    rounds (doing ++ past) = final :: outer

/-- A dispatch in progress goes on after the next event, or ends in it. -/
theorem Lawful.goes_on_cons {event : Event Note} {past : List (Event Note)}
    (lawful : Lawful (event :: past)) {round : Round Note} (member : round ∈ rounds past) :
    (∃ next ∈ rounds (event :: past), round.Becomes [event] next) ∨
      ∃ consumed outer, event = .settled round.diagnostic consumed ∧
        rounds past = round :: outer := by
  have same (inProgress : round ∈ rounds (event :: past)) :
      ∃ next ∈ rounds (event :: past), round.Becomes [event] next :=
    ⟨round, inProgress, round.becomes_refl _⟩
  cases event with
  | dispatched diagnostic => exact Or.inl (same (List.mem_cons_of_mem _ member))
  | called token diagnostic =>
    obtain ⟨first, outer, _, found, rfl, idle, _⟩ := lawful.1
    have after := rounds_called found token first.diagnostic
    rw [found] at member
    rcases List.mem_cons.mp member with rfl | inOuter
    · exact Or.inl ⟨_, after ▸ List.mem_cons_self, Round.becomes_call idle token⟩
    · exact Or.inl (same (after ▸ List.mem_cons_of_mem _ inOuter))
  | answered token consumed =>
    obtain ⟨first, outer, found, busy⟩ := lawful.1
    have after := rounds_answered found token consumed
    rw [found] at member
    rcases List.mem_cons.mp member with rfl | inOuter
    · exact Or.inl ⟨_, after ▸ List.mem_cons_self, Round.becomes_answer busy consumed _⟩
    · exact Or.inl (same (after ▸ List.mem_cons_of_mem _ inOuter))
  | settled diagnostic consumed =>
    obtain ⟨first, outer, found, rfl, _⟩ := lawful.1
    rw [found] at member
    rcases List.mem_cons.mp member with rfl | inOuter
    · exact Or.inr ⟨consumed, outer, rfl, found⟩
    · refine Or.inl (same ?_)
      rw [rounds_settled found]
      exact inOuter
  | _ => exact Or.inl (same member)

/-- A dispatch in progress is in progress still, or has ended meanwhile. -/
theorem Lawful.goes_on {later past : List (Event Note)} (lawful : Lawful (later ++ past))
    {round : Round Note} (member : round ∈ rounds past) :
    (∃ next ∈ rounds (later ++ past), round.Becomes later next) ∨
      ∃ final, Ends later past final ∧ round.Becomes later final := by
  induction later with
  | nil => exact Or.inl ⟨round, member, round.becomes_refl _⟩
  | cons event rest inductionHypothesis =>
    rcases inductionHypothesis lawful.2.2 with ⟨middle, inProgress, became⟩ | ⟨final, ended, became⟩
    · rcases lawful.goes_on_cons inProgress with
        ⟨next, inNext, becomes⟩ | ⟨consumed, outer, rfl, found⟩
      · exact Or.inl ⟨next, inNext, became.trans becomes⟩
      · exact Or.inr ⟨middle, ⟨[], consumed, rest, outer, rfl, found⟩,
          became.trans (middle.becomes_refl [_])⟩
    · obtain ⟨after, consumed, doing, outer, split, found⟩ := ended
      refine Or.inr ⟨final, ⟨event :: after, consumed, doing, outer, ?_, found⟩,
        became.trans (final.becomes_refl [event])⟩
      rw [split, List.cons_append]

theorem Ends.extend {later doing past : List (Event Note)} {final : Round Note}
    (ended : Ends later (doing ++ past) final) : Ends (later ++ doing) past final := by
  obtain ⟨after, consumed, more, outer, split, found⟩ := ended
  refine ⟨after, consumed, more ++ doing, outer, ?_, ?_⟩
  · rw [split, List.append_assoc, List.cons_append]
  · rw [List.append_assoc]
    exact found

/-- A dispatch that ended has called its handlers up to and including the first consumer. -/
theorem Ends.complete {later past : List (Event Note)} {final : Round Note}
    (ended : Ends later past final) (lawful : Lawful (later ++ past)) :
    final.Fair ∧ final.eligible.Nodup ∧ final.Complete := by
  obtain ⟨after, consumed, doing, outer, rfl, found⟩ := ended
  rw [List.append_assoc, List.cons_append] at lawful
  have upToEnd := lawful.of_append
  obtain ⟨first, others, sameFound, _, idle, _, all⟩ := upToEnd.1
  obtain ⟨rfl, _⟩ := List.cons.inj (found.symm.trans sameFound)
  have inProgress : final ∈ rounds (doing ++ past) := found ▸ List.mem_cons_self
  have fair := upToEnd.2.2.fair final inProgress
  have distinct : final.eligible.Nodup := (upToEnd.2.2.past inProgress).nodup_eligible
  exact ⟨fair, distinct, idle, fair.called_eq distinct idle all⟩

end History

end Polyglot
