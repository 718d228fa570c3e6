/-
This file proves that a household counts the sessions that are alive. The count is raised before a
session is started and lowered when it is closed, and also when it cannot be started after all. So
whatever is done, it is the number of the sessions that were handed out and not closed, and it is
never lowered from zero.

What is held is told from the deeds and their answers alone: a session that was handed out is held
until it is closed. A deed keeps the count in step with what is held, and so does a run.
-/

import Mathlib.Data.List.Nodup
import Polyglot.Proofs.Household.Run
import Polyglot.Proofs.Workspace.Opening

namespace Polyglot

namespace Household

variable {Custom Handler Note : Type}

/-! ### What is held -/

/-- The sessions that are held after a deed, by their numbers, in the order in which they were
handed out. -/
def heldAfter (household : Household Custom Handler Note) (held : List Nat) :
    Deed Custom Handler Note → List Nat
  | .openSession place options =>
    match household.environment? place with
    | none => held
    | some environment =>
      match (household.openSession place environment options).answer with
      | .ok number => held ++ [number]
      | .error _ => held
  | .closeSession number => held.erase number
  | _ => held

/-- The sessions that are held after deeds, one after the other. -/
def heldAfterAll (household : Household Custom Handler Note) (held : List Nat) :
    List (Deed Custom Handler Note) → List Nat
  | [] => held
  | deed :: later => (household.perform deed).heldAfterAll (household.heldAfter held deed) later

/-- The sessions of the household are those that are held, and it has counted them. -/
structure Counts (household : Household Custom Handler Note) (held : List Nat) : Prop where
  numbers : household.members.map Prod.fst = held
  live : household.live = held.length
  distinct : held.Nodup
  given : ∀ number ∈ held, number < household.opened

theorem counts_empty : (empty : Household Custom Handler Note).Counts [] :=
  ⟨rfl, rfl, List.nodup_nil, fun _ member => absurd member List.not_mem_nil⟩

theorem isSome_member?_iff (household : Household Custom Handler Note) (number : Nat) :
    (household.member? number).isSome = true ↔ number ∈ household.members.map Prod.fst := by
  rw [member?, Option.isSome_map, List.find?_isSome, List.mem_map]
  simp

theorem numbers_setMember (household : Household Custom Handler Note) (number : Nat)
    (member : Member Custom Handler Note) :
    (household.setMember number member).members.map Prod.fst =
      household.members.map Prod.fst := by
  rw [setMember, List.map_map]
  refine List.map_congr_left fun entry _ => ?_
  by_cases same : entry.1 = number <;> simp [same]

/-- A start that is given no names succeeds. -/
theorem answer_openSession_of_none (household : Household Custom Handler Note) (place : Nat)
    (environment : Environment Custom) {options : Workspace.Start}
    (unnamed : options.names = none) :
    (household.openSession place environment options).answer = .ok household.opened := by
  have started : (Workspace.start environment options).answer = .ok () := by
    rw [Workspace.start, unnamed]
    exact (Workspace.settle _ _).1.trans (Workspace.answer_loadByDefault _)
  rcases household.openSession_cases place environment options with
    ⟨_, answered, _⟩ | ⟨error, failed, _⟩
  · exact answered
  · cases started.symm.trans failed

namespace Counts

variable {household : Household Custom Handler Note} {held : List Nat}
  (counts : household.Counts held)
include counts

theorem setEnvironment (place : Nat) (environment : Environment Custom) :
    (household.setEnvironment place environment).Counts held :=
  ⟨counts.numbers, counts.live, counts.distinct, counts.given⟩

theorem setMember (number : Nat) (member : Member Custom Handler Note) :
    (household.setMember number member).Counts held :=
  ⟨(household.numbers_setMember number member).trans counts.numbers, counts.live, counts.distinct,
    counts.given⟩

theorem fresh : household.opened ∉ held :=
  fun member => Nat.lt_irrefl _ (counts.given _ member)

theorem openSession (place : Nat) (environment : Environment Custom) (options : Workspace.Start) :
    (household.openSession place environment options).state.Counts
      (match (household.openSession place environment options).answer with
      | .ok number => held ++ [number]
      | .error _ => held) := by
  rcases household.openSession_cases place environment options with
    ⟨_, answered, after⟩ | ⟨error, _, answered, after⟩
  · rw [answered, after]
    refine ⟨?_, ?_, ?_, fun number member => ?_⟩
    · show (household.members ++ [_]).map Prod.fst = _
      rw [List.map_append, counts.numbers]
      rfl
    · show household.live + 1 = _
      rw [counts.live, List.length_append, List.length_singleton]
    · exact List.nodup_append.mpr ⟨counts.distinct, List.nodup_singleton _,
        fun number member other single same =>
          counts.fresh (List.mem_singleton.mp single ▸ same ▸ member)⟩
    · rcases List.mem_append.mp member with before | new
      · exact Nat.lt_succ_of_lt (counts.given number before)
      · exact List.mem_singleton.mp new ▸ Nat.lt_succ_self _
  · rw [answered, after]
    exact ⟨counts.numbers, counts.live, counts.distinct, counts.given⟩

/-- Closing a session that is not held does nothing. -/
theorem closeSession_of_not_held {number : Nat} (absent : number ∉ held) :
    household.closeSession number = household := by
  rw [Household.closeSession, if_neg]
  rwa [isSome_member?_iff, counts.numbers]

/-- Closing a session that is held lowers the count by one, and the count was not zero. -/
theorem live_closeSession {number : Nat} (member : number ∈ held) :
    household.live = (household.closeSession number).live + 1 := by
  have present : (household.member? number).isSome = true := by
    rwa [isSome_member?_iff, counts.numbers]
  rw [Household.closeSession, if_pos present]
  show household.live = household.live - 1 + 1
  have positive : 0 < household.live := counts.live ▸ List.length_pos_of_mem member
  omega

theorem closeSession (number : Nat) :
    (household.closeSession number).Counts (held.erase number) := by
  by_cases member : number ∈ held
  · have lowered := counts.live_closeSession member
    have present : (household.member? number).isSome = true := by
      rwa [isSome_member?_iff, counts.numbers]
    refine ⟨?_, ?_, counts.distinct.erase number, fun other inside => ?_⟩
    · rw [Household.closeSession, if_pos present, counts.distinct.erase_eq_filter,
        ← counts.numbers, List.filter_map]
      show (household.members.filter _).map _ = _
      refine congrArg (List.map Prod.fst) (List.filter_congr fun entry _ => ?_)
      simp [bne, Bool.beq_eq_decide_eq]
    · rw [List.length_erase_of_mem member, ← counts.live, lowered, Nat.add_sub_cancel]
    · rw [Household.closeSession, if_pos present]
      exact counts.given other (List.mem_of_mem_erase inside)
  · rw [counts.closeSession_of_not_held member, List.erase_of_not_mem member]
    exact counts

/-! ### What a deed does to the count -/

/-- A deed keeps the count in step with what is held. -/
theorem perform (deed : Deed Custom Handler Note) :
    (household.perform deed).Counts (household.heldAfter held deed) := by
  cases deed with
  | addEnvironment loader => exact ⟨counts.numbers, counts.live, counts.distinct, counts.given⟩
  | openSession place options =>
    dsimp only [Household.perform, heldAfter]
    cases household.environment? place with
    | none => exact counts
    | some environment => exact counts.openSession place environment options
  | closeSession number => exact counts.closeSession number
  | act number deed =>
    dsimp only [Household.perform, heldAfter, act]
    cases household.member? number with
    | none => exact counts
    | some member =>
      dsimp only
      cases household.workspace? member with
      | none => exact counts
      | some workspace => exact (counts.setEnvironment _ _).setMember number _
  | converse number channel =>
    dsimp only [Household.perform, heldAfter]
    cases household.member? number with
    | none => exact counts
    | some member => exact counts.setMember number _
  | share place deed =>
    dsimp only [Household.perform, heldAfter]
    cases household.environment? place with
    | none => exact counts
    | some environment => exact counts.setEnvironment place _

theorem performAll (deeds : List (Deed Custom Handler Note)) :
    (household.performAll deeds).Counts (household.heldAfterAll held deeds) := by
  induction deeds generalizing household held with
  | nil => exact counts
  | cons deed later inductionHypothesis => exact inductionHypothesis (counts.perform deed)

/-- Once all that are held are closed, in any order, no session is alive. -/
theorem live_closed {numbers : List Nat} (all : held ⊆ numbers) :
    (numbers.foldl Household.closeSession household).live = 0 := by
  induction numbers generalizing household held with
  | nil =>
    have none : held = [] := List.subset_nil.mp all
    exact counts.live.trans (none ▸ rfl)
  | cons number rest inductionHypothesis =>
    refine inductionHypothesis (counts.closeSession number) fun other inside => ?_
    obtain ⟨different, member⟩ := counts.distinct.mem_erase_iff.mp inside
    exact (List.mem_cons.mp (all member)).resolve_left different

end Counts

/-! ### Any run -/

/-- **The count of the sessions that are alive.** After whatever was done it is the number of the
sessions that were handed out and are not closed. A start that hands out a session, which always
happens if it is given no names, hands out one that is not held and raises the count by one. One
that fails, at whatever name, lowers it again to what it was. Closing a session that is held takes
one from a count that was not zero, and closing one that is not held does nothing. Once all that are
held are closed, in any order, the count is zero. -/
theorem live_accounted (deeds : List (Deed Custom Handler Note)) :
    let household : Household Custom Handler Note := empty.performAll deeds
    let held := (empty : Household Custom Handler Note).heldAfterAll [] deeds
    household.live = held.length ∧ held.Nodup ∧
    (∀ place environment options,
      let attempt := household.openSession place environment options
      (∀ number, attempt.answer = .ok number →
        number ∉ held ∧ attempt.state.live = household.live + 1) ∧
      (∀ error, attempt.answer = .error error →
        attempt.state.live = household.live ∧ household.raise.live = attempt.state.live + 1) ∧
      (options.names = none → attempt.answer = .ok household.opened)) ∧
    (∀ number ∈ held, household.live = (household.closeSession number).live + 1) ∧
    (∀ number, number ∉ held → household.closeSession number = household) ∧
    ∀ numbers, held ⊆ numbers → (numbers.foldl closeSession household).live = 0 := by
  intro household held
  have counts : household.Counts held := counts_empty.performAll deeds
  refine ⟨counts.live, counts.distinct, fun place environment options => ?_,
    fun number member => counts.live_closeSession member,
    fun number absent => counts.closeSession_of_not_held absent,
    fun numbers all => counts.live_closed all⟩
  rcases household.openSession_cases place environment options with
    ⟨_, opening, after⟩ | ⟨_, _, opening, after⟩
  · refine ⟨fun number answered => ?_, fun error answered => ?_, fun _ => opening⟩
    · cases opening.symm.trans answered
      rw [after]
      exact ⟨counts.fresh, rfl⟩
    · cases opening.symm.trans answered
  · refine ⟨fun number answered => ?_, fun error answered => ?_,
      household.answer_openSession_of_none place environment⟩
    · cases opening.symm.trans answered
    · rw [after]
      exact ⟨rfl, rfl⟩

/-- Two sessions are started, one with all that is available and one with a name. A start between
them fails at its second name, and the first session is closed, twice. -/
def visits : List (Deed Empty Unit Unit) :=
  [.addEnvironment Workspace.treacherous, .openSession 0 ⟨none, false⟩,
    .openSession 0 ⟨some ["func", "other", "cf"], true⟩, .openSession 0 ⟨some ["cf"], true⟩,
    .closeSession 0, .closeSession 0]

/-- The second session is held, and another start fails at its third name. -/
theorem live_accounted_visits :
    let household : Household Empty Unit Unit := empty.performAll visits
    (empty : Household Empty Unit Unit).heldAfterAll [] visits = [1] ∧ household.live = 1 ∧
      (∃ environment error,
        let attempt := household.openSession 0 environment ⟨some ["cf", "func", "bad"], true⟩
        household.environment? 0 = some environment ∧ attempt.answer = .error error ∧
          attempt.state.live = 1 ∧ household.raise.live = 2) ∧
      household.closeSession 0 = household ∧
      ([0, 2, 1].foldl closeSession household).live = 0 := by
  intro household
  have held : (empty : Household Empty Unit Unit).heldAfterAll [] visits = [1] := rfl
  obtain ⟨counted, _, starts, _, absent, closed⟩ := live_accounted visits
  rw [held] at counted absent closed
  refine ⟨held, counted, ⟨_, _, rfl, rfl, ?_, rfl⟩, absent 0 (by decide), closed _ (by decide)⟩
  exact ((starts 0 _ _).2.1 _ rfl).1

end Household

end Polyglot
