/-
This file says which histories are lawful, event by event, and what follows for the dispatches
in them. Tokens are new, a detachment says the truth, an emitted diagnostic is dispatched or
captured at once, and a dispatch calls its handlers one after the other, up to the first that
consumes the diagnostic.

In a lawful history a dispatch in progress has called the first of its handlers, none behind one
that consumed, and once it is over it has called all up to and including the first consumer.
-/

import Mathlib.Data.List.TakeWhile
import Polyglot.Proofs.Channel.History

namespace Polyglot

variable {Note : Type}

namespace History

/-! ### Lawful histories -/

/-- May the event happen after what has happened? -/
def Admits (past : List (Event Note)) : Event Note → Prop
  | .attached token => token ∉ attachedTokens past
  | .detached token wasAttached => wasAttached = true ↔ token ∈ standing past
  | .dispatched diagnostic => ∃ before, past = .emitted diagnostic :: before
  | .called token diagnostic =>
    ∃ round outer rest, rounds past = round :: outer ∧ round.diagnostic = diagnostic ∧
      round.calling = none ∧ round.consumer? = none ∧
      round.eligible = round.called ++ token :: rest
  | .answered token _ =>
    ∃ round outer, rounds past = round :: outer ∧ round.calling = some token
  | .settled diagnostic consumed =>
    ∃ round outer, rounds past = round :: outer ∧ round.diagnostic = diagnostic ∧
      round.calling = none ∧ consumed = round.consumer?.isSome ∧
      (round.consumer? = none → round.called = round.eligible)
  | _ => True

/-- Does the event do what an emission that came right before it asks for? -/
def Continues : List (Event Note) → Event Note → Prop
  | .emitted diagnostic :: _, event =>
    event = .dispatched diagnostic ∨ event = .captured diagnostic ∧ diagnostic.isError = true
  | _, _ => True

/-- Each event of the history was admitted when it happened. -/
def Lawful : List (Event Note) → Prop
  | [] => True
  | event :: past => Admits past event ∧ Continues past event ∧ Lawful past

theorem Lawful.of_append {later past : List (Event Note)} (lawful : Lawful (later ++ past)) :
    Lawful past := by
  induction later with
  | nil => exact lawful
  | cons event rest inductionHypothesis => exact inductionHypothesis lawful.2.2

theorem Lawful.admits {history later past : List (Event Note)} {event : Event Note}
    (lawful : Lawful history) (split : history = later ++ event :: past) : Admits past event := by
  have upToEvent : Lawful (event :: past) := Lawful.of_append (split ▸ lawful)
  exact upToEvent.1

theorem Lawful.continues {history later past : List (Event Note)} {event : Event Note}
    (lawful : Lawful history) (split : history = later ++ event :: past) :
    Continues past event := by
  have upToEvent : Lawful (event :: past) := Lawful.of_append (split ▸ lawful)
  exact upToEvent.2.1

theorem Lawful.nodup_attachedTokens {history : List (Event Note)} (lawful : Lawful history) :
    (attachedTokens history).Nodup := by
  induction history with
  | nil => exact List.nodup_nil
  | cons event past inductionHypothesis =>
    have distinct := inductionHypothesis lawful.2.2
    cases event with
    | attached token =>
      refine List.Nodup.append distinct (List.nodup_singleton token) ?_
      rw [List.disjoint_singleton]
      exact lawful.1
    | _ => exact distinct

theorem Lawful.nodup_standing {history : List (Event Note)} (lawful : Lawful history) :
    (standing history).Nodup :=
  lawful.nodup_attachedTokens.filter _

theorem Lawful.nodup_eligible {history : List (Event Note)} (lawful : Lawful history) :
    (eligible history).Nodup :=
  lawful.nodup_standing.filter _

theorem Lawful.attached_of_isDetached {history : List (Event Note)} (lawful : Lawful history)
    {token : Token} (gone : isDetached history token = true) : token ∈ attachedTokens history := by
  obtain ⟨later, past, split⟩ := List.append_of_mem ((isDetached_iff history token).mp gone)
  have stood : token ∈ standing past := (lawful.admits split).mp rfl
  have suffix : past <:+ history := ⟨later ++ [.detached token true], by simp [split]⟩
  exact attachedTokens_subset suffix ((mem_standing past token).mp stood).1

theorem Lawful.past {history : List (Event Note)} (lawful : Lawful history) {round : Round Note}
    (member : round ∈ rounds history) : Lawful round.past := by
  obtain ⟨later, split⟩ := past_suffix member
  exact Lawful.of_append (split ▸ lawful)

end History

namespace Round

/-! ### Fair rounds -/

theorem consumer?_eq_none_iff (round : Round Note) :
    round.consumer? = none ↔ ∀ entry ∈ round.answered, entry.2 = false := by
  simp [consumer?]

theorem called_eq_of_calling_none {round : Round Note} (idle : round.calling = none) :
    round.called = round.answered.map Prod.fst := by
  rw [called, idle, Option.toList_none, List.append_nil]

theorem called_answer {round : Round Note} {token : Token} (busy : round.calling = some token)
    (consumed : Bool) : (round.answer token consumed).called = round.called := by
  simp [called, answer, busy]

/-- What a dispatch has done so far is fair: it has called the first of its handlers in their
order, and nothing happens behind one that consumed. -/
structure Fair (round : Round Note) : Prop where
  ordered : round.called <+: round.eligible
  stopped : ∀ front token back, round.answered = front ++ (token, true) :: back →
    back = [] ∧ round.calling = none

theorem Fair.call {round : Round Note} {token : Token} {rest : List Token}
    (idle : round.calling = none) (unconsumed : round.consumer? = none)
    (next : round.eligible = round.called ++ token :: rest) : (round.call token).Fair := by
  refine ⟨?_, fun front other back split => ?_⟩
  · refine ⟨rest, ?_⟩
    show round.answered.map Prod.fst ++ [token] ++ rest = round.eligible
    rw [next, called_eq_of_calling_none idle, List.append_assoc]
    rfl
  · have answer := (consumer?_eq_none_iff round).mp unconsumed (other, true)
      (split ▸ List.mem_append_right _ List.mem_cons_self)
    exact absurd answer (by simp)

theorem Fair.answer {round : Round Note} {token : Token} (fair : round.Fair)
    (busy : round.calling = some token) (consumed : Bool) : (round.answer token consumed).Fair := by
  refine ⟨?_, fun front other back split => ?_⟩
  · rw [called_answer busy]
    exact fair.ordered
  · refine ⟨?_, rfl⟩
    -- An earlier consumer would have kept this handler from being called.
    rcases List.eq_nil_or_concat back with rfl | ⟨init, last, rfl⟩
    · rfl
    · have earlier : round.answered = front ++ (other, true) :: init := by
        have split' : round.answered ++ [(token, consumed)] =
            (front ++ (other, true) :: init) ++ [last] := by
          rw [← show (round.answer token consumed).answered =
            round.answered ++ [(token, consumed)] from rfl, split]
          simp
        exact (List.append_inj' split' rfl).1
      have idle := (fair.stopped front other init earlier).2
      rw [busy] at idle
      exact absurd idle (by simp)

/-- The dispatch has called all of its handlers up to and including the first that consumed the
diagnostic, or simply all of them if none did, and they have returned. -/
structure Complete (round : Round Note) : Prop where
  idle : round.calling = none
  called : round.called =
    (round.eligible.takeWhile fun token => round.consumer? ≠ some token) ++
      round.consumer?.toList

theorem Fair.called_eq {round : Round Note} (fair : round.Fair) (distinct : round.eligible.Nodup)
    (idle : round.calling = none)
    (complete : round.consumer? = none → round.called = round.eligible) :
    round.called =
      (round.eligible.takeWhile fun token => round.consumer? ≠ some token) ++
        round.consumer?.toList := by
  cases found : round.consumer? with
  | none =>
    rw [complete found, Option.toList_none, List.append_nil]
    exact (List.takeWhile_eq_self_iff.mpr fun token _ => by simp).symm
  | some consumer =>
    obtain ⟨⟨token, consumed⟩, entryFound, same⟩ := Option.map_eq_some_iff.mp found
    obtain rfl : token = consumer := same
    obtain ⟨_, front, back, split, _⟩ := List.find?_eq_some_iff_append.mp entryFound
    obtain rfl : consumed = true := List.find?_some entryFound
    obtain ⟨rfl, _⟩ := fair.stopped front token back split
    have calledSplit : round.called = front.map Prod.fst ++ [token] := by
      rw [called_eq_of_calling_none idle, split, List.map_append]
      rfl
    obtain ⟨rest, whole⟩ := fair.ordered
    rw [calledSplit, List.append_assoc] at whole
    rw [calledSplit, ← whole, List.takeWhile_append_of_pos]
    · simp
    · intro other member
      rw [← whole] at distinct
      have different : token ≠ other := fun equal =>
        List.disjoint_of_nodup_append distinct member (equal ▸ List.mem_cons_self)
      simpa using different

end Round

namespace History

theorem Lawful.fair {history : List (Event Note)} (lawful : Lawful history) :
    ∀ round ∈ rounds history, round.Fair := by
  induction history with
  | nil => exact fun round member => absurd member List.not_mem_nil
  | cons event past inductionHypothesis =>
    have fair := inductionHypothesis lawful.2.2
    cases event with
    | dispatched diagnostic =>
      intro round member
      rcases List.mem_cons.mp member with rfl | inOuter
      · exact ⟨List.nil_prefix, fun front token back split => by simp at split⟩
      · exact fair round inOuter
    | called token diagnostic =>
      obtain ⟨first, outer, rest, found, _, idle, unconsumed, next⟩ := lawful.1
      intro round member
      rw [rounds_called found] at member
      rcases List.mem_cons.mp member with rfl | inOuter
      · exact Round.Fair.call idle unconsumed next
      · exact fair round (found ▸ List.mem_cons_of_mem _ inOuter)
    | answered token consumed =>
      obtain ⟨first, outer, found, busy⟩ := lawful.1
      intro round member
      rw [rounds_answered found] at member
      rcases List.mem_cons.mp member with rfl | inOuter
      · exact (fair first (found ▸ List.mem_cons_self)).answer busy consumed
      · exact fair round (found ▸ List.mem_cons_of_mem _ inOuter)
    | settled diagnostic consumed =>
      exact fun round member => fair round (List.mem_of_mem_tail member)
    | _ => exact fair

/-- The handlers that are running are those that the dispatches in progress are calling. -/
theorem Lawful.running_eq {history : List (Event Note)} (lawful : Lawful history) :
    running history = (rounds history).filterMap Round.calling := by
  induction history with
  | nil => rfl
  | cons event past inductionHypothesis =>
    have same := inductionHypothesis lawful.2.2
    cases event with
    | called token diagnostic =>
      obtain ⟨round, outer, _, found, _, idle, _⟩ := lawful.1
      rw [found, List.filterMap_cons_none idle] at same
      rw [running, rounds_called found, same]
      rfl
    | answered token consumed =>
      obtain ⟨round, outer, found, busy⟩ := lawful.1
      rw [found, List.filterMap_cons_some busy] at same
      rw [running, rounds_answered found, same]
      rfl
    | settled diagnostic consumed =>
      obtain ⟨round, outer, found, _, idle, _⟩ := lawful.1
      rw [found, List.filterMap_cons_none idle] at same
      rw [rounds_settled found]
      exact same
    | _ => exact same

/-- A handler is called by the innermost dispatch, which has not called it before. -/
theorem Lawful.caller {past : List (Event Note)} (lawful : Lawful past) {token : Token}
    {diagnostic : Diagnostic} (admits : Admits past (.called token diagnostic)) :
    ∃ round outer, rounds past = round :: outer ∧ round.diagnostic = diagnostic ∧
      round.calling = none ∧ token ∈ round.eligible ∧ token ∉ round.called := by
  obtain ⟨round, outer, rest, found, same, idle, _, next⟩ := admits
  have distinct : round.eligible.Nodup :=
    (lawful.past (found ▸ List.mem_cons_self)).nodup_eligible
  rw [next] at distinct
  refine ⟨round, outer, found, same, idle, ?_, fun before => ?_⟩
  · rw [next]
    exact List.mem_append_right _ List.mem_cons_self
  · exact List.disjoint_of_nodup_append distinct before List.mem_cons_self

/-- A handler that is called is not running. -/
theorem Lawful.not_mem_running {past : List (Event Note)} (lawful : Lawful past) {token : Token}
    {diagnostic : Diagnostic} (admits : Admits past (.called token diagnostic)) :
    token ∉ running past := by
  obtain ⟨round, outer, found, _, idle, ours, _⟩ := lawful.caller admits
  rw [lawful.running_eq, found, List.filterMap_cons_none idle]
  intro runs
  obtain ⟨other, inOuter, busy⟩ := List.mem_filterMap.mp runs
  refine not_mem_eligible_outer found ours inOuter ?_
  have fair := lawful.fair other (found ▸ List.mem_cons_of_mem _ inOuter)
  refine fair.ordered.subset (List.mem_append_right _ ?_)
  rw [busy]
  exact List.mem_cons_self

end History

end Polyglot
