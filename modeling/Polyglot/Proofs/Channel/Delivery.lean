/-
This file proves the law of delivery. A diagnostic that is emitted is captured at once or
dispatched at once. A dispatch calls the handlers that were eligible when the diagnostic was
emitted, in the order of their attachment and each at most once, up to the first that consumes
it, and when it has ended it has left out none of these. Handlers attached meanwhile are not
among them, and no handler is called while it is running.
-/

import Polyglot.Proofs.Channel.Course
import Polyglot.Proofs.Channel.Reached

namespace Polyglot

open History

variable {Custom Handler Note : Type}

/-- What the dispatch of a diagnostic has done so far is right, given what had happened before the
diagnostic was emitted. -/
structure Round.Delivers (round : Round Note) (emitted : Diagnostic) (before : List (Event Note)) :
    Prop where
  diagnostic : round.diagnostic = emitted
  past : round.past = .emitted emitted :: before
  audience : round.eligible = History.eligible before
  distinct : round.eligible.Nodup
  fair : round.Fair
  standing : ∀ token ∈ round.called, .attached token ∈ before ∧ .detached token true ∉ before

namespace History

theorem Lawful.delivers {history : List (Event Note)} (lawful : Lawful history)
    {round : Round Note} (member : round ∈ rounds history) {diagnostic : Diagnostic}
    {before : List (Event Note)} (same : round.past = .emitted diagnostic :: before) :
    round.Delivers diagnostic before := by
  have audience : round.eligible = eligible before := by
    rw [Round.eligible, same]
    rfl
  have fair := lawful.fair round member
  obtain ⟨earlier, began⟩ := lawful.past_eq member
  refine ⟨?_, same, audience, (lawful.past member).nodup_eligible, fair, fun token called => ?_⟩
  · rw [began] at same
    exact Event.emitted.inj (List.cons.inj same).1
  · have ours : token ∈ eligible before := audience ▸ fair.ordered.subset called
    rw [← mem_standing_iff_mem]
    exact ((mem_eligible before token).mp ours).1

/-- A diagnostic that is emitted and not captured at once is delivered: its dispatch is in progress
or has ended, and then it is complete. -/
theorem Lawful.dispatch_of_emission {later before : List (Event Note)} {diagnostic : Diagnostic}
    (lawful : Lawful (later ++ .dispatched diagnostic :: .emitted diagnostic :: before)) :
    ∃ round : Round Note, round.Delivers diagnostic before ∧
      (round ∈ rounds (later ++ .dispatched diagnostic :: .emitted diagnostic :: before) ∨
        Ends later (.dispatched diagnostic :: .emitted diagnostic :: before) round ∧
          round.Complete) := by
  have began : (⟨diagnostic, .emitted diagnostic :: before, [], none⟩ : Round Note) ∈
      rounds (.dispatched diagnostic :: .emitted diagnostic :: before) := List.mem_cons_self
  rcases lawful.goes_on began with ⟨round, inProgress, became⟩ | ⟨final, ended, became⟩
  · exact ⟨round, lawful.delivers inProgress became.past, Or.inl inProgress⟩
  · obtain ⟨_, _, complete⟩ := ended.complete lawful
    refine ⟨final, ?_, Or.inr ⟨ended, complete⟩⟩
    obtain ⟨after, consumed, doing, outer, rfl, found⟩ := ended
    rw [List.append_assoc, List.cons_append] at lawful
    exact lawful.of_append.2.2.delivers (found ▸ List.mem_cons_self) became.past

end History

namespace Channel

/-- At every moment at which a client may act: each diagnostic that was emitted was captured at
once, being an error, or dispatched at once, and the dispatch has delivered it to whom it may so
far, or has ended and delivered it to all of these. Each call is that of the innermost dispatch,
to a handler it has not called before, and which is not running. -/
theorem Reached.delivered {channel : Channel Handler Note} (reached : Reached Custom channel) :
    (∀ later diagnostic before, channel.history = later ++ .emitted diagnostic :: before →
      (∃ rest, later = rest ++ [.captured diagnostic] ∧ diagnostic.isError = true) ∨
      ∃ rest, later = rest ++ [.dispatched diagnostic] ∧
        ∃ round : Round Note, round.Delivers diagnostic before ∧
          (round ∈ rounds channel.history ∨
            Ends rest (.dispatched diagnostic :: .emitted diagnostic :: before) round ∧
              round.Complete)) ∧
    (∀ later token diagnostic past, channel.history = later ++ .called token diagnostic :: past →
      token ∉ running past ∧
        ∃ round outer, rounds past = round :: outer ∧ round.diagnostic = diagnostic ∧
          token ∈ round.eligible ∧ token ∉ round.called) := by
  obtain ⟨⟨lawful, _, _, _, _⟩, calm⟩ := reached.steady
  refine ⟨fun later diagnostic before split => ?_, fun later token diagnostic past split => ?_⟩
  · rcases List.eq_nil_or_concat later with rfl | ⟨rest, event, rfl⟩
    · -- Nothing has happened since, but then the channel would not be calm.
      rw [split] at calm
      rcases calm (.attached ⟨0⟩) with same | ⟨same, _⟩ <;> cases same
    · rw [List.concat_eq_append, List.append_assoc, List.singleton_append] at split
      rcases lawful.continues split with rfl | ⟨rfl, isError⟩
      · refine Or.inr ⟨rest, List.concat_eq_append, ?_⟩
        rw [split] at lawful ⊢
        exact lawful.dispatch_of_emission
      · exact Or.inl ⟨rest, List.concat_eq_append, isError⟩
  · have admits := lawful.admits split
    rw [split] at lawful
    have lawfulPast := lawful.of_append.2.2
    obtain ⟨round, outer, found, same, _, ours, uncalled⟩ := lawfulPast.caller admits
    exact ⟨lawfulPast.not_mem_running admits, round, outer, found, same, ours, uncalled⟩

end Channel

namespace Plan

/-- Of three handlers, the first attaches another that consumes whatever it gets, and emits, and
the second consumes what is dispatched to them. -/
def consuming : Plan :=
  .attach (.attach (.answer true) (.emit (remark "inner") (.answer false)))
    (.attach (.answer true) (.attach (.answer false) (.emit (remark "outer") (.answer false))))

/-- What had happened when the handler that was attached last was called. -/
def consumingPast : List (Event Unit) :=
  [.dispatched (remark "inner"), .emitted (remark "inner"), .attached ⟨3⟩,
    .called ⟨0⟩ (remark "outer"), .dispatched (remark "outer"), .emitted (remark "outer"),
    .attached ⟨2⟩, .attached ⟨1⟩, .attached ⟨0⟩]

/-- What happened after it was called. -/
def consumingLater : List (Event Unit) :=
  [.settled (remark "outer") true, .answered ⟨1⟩ true, .called ⟨1⟩ (remark "outer"),
    .answered ⟨0⟩ false, .settled (remark "inner") true, .answered ⟨3⟩ true]

theorem delivered_consuming : ∃ (channel : Channel Plan Unit) (round : Round Unit),
    consuming.outcome? 2 = some (false, channel) ∧ channel.Reached Empty ∧
      channel.history =
        consumingLater ++ .called ⟨3⟩ (remark "inner") :: consumingPast ∧
      round.Delivers (remark "outer") (consumingPast.drop 6) ∧
      round.eligible = [⟨0⟩, ⟨1⟩, ⟨2⟩] ∧ round.Complete ∧
      running consumingPast = [⟨0⟩] ∧ ⟨3⟩ ∉ running consumingPast := by
  have computed : (consuming.outcome? 2).map (fun outcome => (outcome.1, outcome.2.history)) =
      some (false, consumingLater ++ .called ⟨3⟩ (remark "inner") :: consumingPast) := by
    decide +kernel
  obtain ⟨⟨answer, channel⟩, ran, same⟩ := Option.map_eq_some_iff.mp computed
  obtain ⟨rfl, history⟩ := Prod.mk.inj same
  have idle : rounds channel.history = [] := by
    rw [show channel.history = _ from history]
    rfl
  have emission : channel.history =
      (consumingLater ++ .called ⟨3⟩ (remark "inner") :: consumingPast.take 5) ++
        .emitted (remark "outer") :: consumingPast.drop 6 := by
    rw [List.append_assoc]
    exact history
  obtain ⟨emissions, calls⟩ := (reached ran).delivered
  obtain ⟨_, milder⟩ | ⟨_, _, round, delivers, inProgress | ⟨_, complete⟩⟩ :=
    emissions _ (remark "outer") _ emission
  · exact absurd milder.2 (by decide)
  · rw [idle] at inProgress
    exact absurd inProgress List.not_mem_nil
  · exact ⟨channel, round, ran, reached ran, history, delivers, delivers.audience, complete, rfl,
      (calls _ ⟨3⟩ (remark "inner") _ history).1⟩

end Plan

end Polyglot
