/-
This file reads the history of a channel. From the bare events it tells which handlers were
attached and not detached, which dispatches are in progress and what each of them has done so
far, and which handlers a dispatch that began now would have to call. None of this looks at the
channel itself, so it says what a channel ought to do and not how it does it.

A dispatch in progress is a round. Rounds are nested, as a handler may emit: each began while
the one around it was calling a handler. The handlers of a round are those attached since the
round around it began and not detached before, and so the handlers of nested rounds differ.
-/

import Mathlib.Data.List.Nodup
import Polyglot.Channel

namespace Polyglot

deriving instance DecidableEq for Event

/-- Was the handler of the token detached in this event? -/
def Event.detaches {Note : Type} (token : Token) : Event Note → Bool
  | .detached other true => other = token
  | _ => false

/-- A dispatch in progress. -/
structure Round (Note : Type) where
  diagnostic : Diagnostic
  /-- What had happened when it began, the latest event first. -/
  past : List (Event Note)
  /-- The handlers that were called and have returned, in order, with their answers. -/
  answered : List (Token × Bool)
  /-- The handler that was called and has not returned. -/
  calling : Option Token

namespace Round

variable {Note : Type}

/-- The round with a handler called. -/
def call (round : Round Note) (token : Token) : Round Note :=
  { round with calling := some token }

/-- The round with the answer of a handler. -/
def answer (round : Round Note) (token : Token) (consumed : Bool) : Round Note :=
  { round with answered := round.answered ++ [(token, consumed)], calling := none }

/-- The handlers that were called, in order. -/
def called (round : Round Note) : List Token :=
  round.answered.map Prod.fst ++ round.calling.toList

/-- The first handler that consumed the diagnostic. -/
def consumer? (round : Round Note) : Option Token :=
  (round.answered.find? Prod.snd).map Prod.fst

end Round

namespace History

variable {Note : Type}

/-- The tokens of all handlers that were ever attached, in the order of their attachment. -/
def attachedTokens : List (Event Note) → List Token
  | [] => []
  | .attached token :: past => attachedTokens past ++ [token]
  | _ :: past => attachedTokens past

/-- Was the handler detached? -/
def isDetached (history : List (Event Note)) (token : Token) : Bool :=
  history.any (Event.detaches token)

/-- The handlers that are attached and not detached, in the order of their attachment. -/
def standing (history : List (Event Note)) : List Token :=
  (attachedTokens history).filter fun token => !isDetached history token

/-- The dispatches in progress, the innermost first. -/
def rounds : List (Event Note) → List (Round Note)
  | [] => []
  | .dispatched diagnostic :: past => ⟨diagnostic, past, [], none⟩ :: rounds past
  | .called token _ :: past => (rounds past).modifyHead fun round => round.call token
  | .answered token consumed :: past =>
    (rounds past).modifyHead fun round => round.answer token consumed
  | .settled _ _ :: past => (rounds past).tail
  | _ :: past => rounds past

/-- What had happened when the innermost dispatch in progress began; nothing if there is none. -/
def beginning (history : List (Event Note)) : List (Event Note) :=
  ((rounds history).head?.map Round.past).getD []

/-- The handlers attached since the innermost dispatch in progress began, or ever if there is
none, and not detached, in the order of their attachment. -/
def eligible (history : List (Event Note)) : List Token :=
  (standing history).filter fun token => !(attachedTokens (beginning history)).contains token

/-- The handlers that were called and have not returned, the latest first. -/
def running : List (Event Note) → List Token
  | [] => []
  | .called token _ :: past => token :: running past
  | .answered _ _ :: past => (running past).tail
  | _ :: past => running past

end History

/-- The handlers that the dispatch has to call: those eligible when it began. -/
def Round.eligible {Note : Type} (round : Round Note) : List Token :=
  History.eligible round.past

/-- The handlers that the dispatch has not called yet. -/
def Round.awaiting {Note : Type} (round : Round Note) : List Token :=
  round.eligible.drop round.called.length

namespace History

variable {Note : Type}

/-! ### Attached and detached handlers -/

theorem mem_attachedTokens (history : List (Event Note)) (token : Token) :
    token ∈ attachedTokens history ↔ .attached token ∈ history := by
  induction history with
  | nil => simp [attachedTokens]
  | cons event past inductionHypothesis =>
    cases event <;> simp [attachedTokens, inductionHypothesis, or_comm]

theorem attachedTokens_append (later past : List (Event Note)) :
    attachedTokens (later ++ past) = attachedTokens past ++ attachedTokens later := by
  induction later with
  | nil => simp [attachedTokens]
  | cons event rest inductionHypothesis =>
    cases event <;> simp [attachedTokens, inductionHypothesis]

theorem attachedTokens_subset {past history : List (Event Note)} (suffix : past <:+ history) :
    attachedTokens past ⊆ attachedTokens history := by
  obtain ⟨later, rfl⟩ := suffix
  rw [attachedTokens_append]
  exact List.subset_append_left _ _

theorem isDetached_iff (history : List (Event Note)) (token : Token) :
    isDetached history token = true ↔ .detached token true ∈ history := by
  rw [isDetached, List.any_eq_true]
  constructor
  · rintro ⟨event, member, detaches⟩
    cases event with
    | detached other wasAttached =>
      cases wasAttached with
      | true => exact of_decide_eq_true detaches ▸ member
      | false => exact absurd detaches Bool.false_ne_true
    | _ => exact absurd detaches Bool.false_ne_true
  · intro member
    exact ⟨_, member, decide_eq_true rfl⟩

theorem isDetached_of_suffix {past history : List (Event Note)} (suffix : past <:+ history)
    (token : Token) (detached : isDetached past token = true) :
    isDetached history token = true :=
  (isDetached_iff history token).mpr (suffix.subset ((isDetached_iff past token).mp detached))

theorem isDetached_detached (token other : Token) (past : List (Event Note)) :
    isDetached (.detached token true :: past) other = true ↔
      token = other ∨ isDetached past other = true := by
  simp [isDetached, Event.detaches]

theorem mem_standing (history : List (Event Note)) (token : Token) :
    token ∈ standing history ↔
      token ∈ attachedTokens history ∧ isDetached history token = false := by
  simp [standing]

theorem mem_standing_iff_mem (history : List (Event Note)) (token : Token) :
    token ∈ standing history ↔
      .attached token ∈ history ∧ .detached token true ∉ history := by
  rw [mem_standing, mem_attachedTokens, ← isDetached_iff, Bool.not_eq_true]

theorem mem_eligible (history : List (Event Note)) (token : Token) :
    token ∈ eligible history ↔
      token ∈ standing history ∧ token ∉ attachedTokens (beginning history) := by
  simp [eligible]

/-! ### What events do to rounds -/

section Events

variable {past : List (Event Note)} {round : Round Note} {outer : List (Round Note)}
  (found : rounds past = round :: outer)
include found

theorem rounds_called (token : Token) (diagnostic : Diagnostic) :
    rounds (.called token diagnostic :: past) = round.call token :: outer := by
  rw [rounds, found]
  rfl

theorem rounds_answered (token : Token) (consumed : Bool) :
    rounds (.answered token consumed :: past) = round.answer token consumed :: outer := by
  rw [rounds, found]
  rfl

theorem rounds_settled (diagnostic : Diagnostic) (consumed : Bool) :
    rounds (.settled diagnostic consumed :: past) = outer := by
  rw [rounds, found, List.tail_cons]

end Events

/-! ### Nested rounds -/

/-- Each round began while exactly the rounds around it were in progress. -/
def Nested : List (Round Note) → Prop
  | [] => True
  | round :: outer => rounds round.past = outer ∧ Nested outer

theorem nested_modifyHead {inProgress : List (Round Note)} (nested : Nested inProgress)
    (change : Round Note → Round Note) (keepsPast : ∀ round, (change round).past = round.past) :
    Nested (inProgress.modifyHead change) := by
  cases inProgress with
  | nil => exact nested
  | cons round outer => exact ⟨keepsPast round ▸ nested.1, nested.2⟩

theorem nested_rounds (history : List (Event Note)) : Nested (rounds history) := by
  induction history with
  | nil => exact trivial
  | cons event past inductionHypothesis =>
    cases event with
    | dispatched diagnostic => exact ⟨rfl, inductionHypothesis⟩
    | called token diagnostic => exact nested_modifyHead inductionHypothesis _ fun _ => rfl
    | answered token consumed => exact nested_modifyHead inductionHypothesis _ fun _ => rfl
    | settled diagnostic consumed =>
      show Nested (rounds past).tail
      cases found : rounds past with
      | nil => exact trivial
      | cons round outer =>
        rw [found] at inductionHypothesis
        exact inductionHypothesis.2
    | _ => exact inductionHypothesis

theorem rounds_past {history : List (Event Note)} {round : Round Note} {outer : List (Round Note)}
    (found : rounds history = round :: outer) : rounds round.past = outer := by
  have nested := nested_rounds history
  rw [found] at nested
  exact nested.1

theorem beginning_eq {history : List (Event Note)} {round : Round Note}
    {outer : List (Round Note)} (found : rounds history = round :: outer) :
    beginning history = round.past := by
  rw [beginning, found]
  rfl

theorem mem_modifyHead {inProgress : List (Round Note)} (change : Round Note → Round Note)
    (keepsPast : ∀ round, (change round).past = round.past) {round : Round Note}
    (member : round ∈ inProgress.modifyHead change) :
    ∃ other ∈ inProgress, other.past = round.past := by
  cases inProgress with
  | nil => exact absurd member List.not_mem_nil
  | cons first outer =>
    rcases List.mem_cons.mp member with rfl | inOuter
    · exact ⟨first, List.mem_cons_self, (keepsPast first).symm⟩
    · exact ⟨round, List.mem_cons_of_mem _ inOuter, rfl⟩

/-- A round in progress began before the latest event. -/
theorem past_suffix_tail (event : Event Note) (past : List (Event Note)) (round : Round Note)
    (member : round ∈ rounds (event :: past)) : round.past <:+ past := by
  induction past generalizing event round with
  | nil =>
    cases event with
    | dispatched diagnostic =>
      obtain rfl := List.mem_singleton.mp member
      exact List.suffix_refl _
    | _ => exact absurd member List.not_mem_nil
  | cons latest earlier inductionHypothesis =>
    have older (other : Round Note) (inProgress : other ∈ rounds (latest :: earlier)) :
        other.past <:+ latest :: earlier :=
      (inductionHypothesis latest other inProgress).trans (List.suffix_cons _ _)
    cases event with
    | dispatched diagnostic =>
      rcases List.mem_cons.mp member with rfl | inOuter
      · exact List.suffix_refl _
      · exact older round inOuter
    | called token diagnostic =>
      obtain ⟨other, inProgress, same⟩ :=
        mem_modifyHead (fun round => round.call token) (fun _ => rfl) member
      exact same ▸ older other inProgress
    | answered token consumed =>
      obtain ⟨other, inProgress, same⟩ :=
        mem_modifyHead (fun round => round.answer token consumed) (fun _ => rfl) member
      exact same ▸ older other inProgress
    | settled diagnostic consumed => exact older round (List.mem_of_mem_tail member)
    | _ => exact older round member

theorem past_suffix {history : List (Event Note)} {round : Round Note}
    (member : round ∈ rounds history) : round.past <:+ history := by
  cases history with
  | nil => exact absurd member List.not_mem_nil
  | cons event past => exact (past_suffix_tail event past round member).trans (List.suffix_cons _ _)

theorem past_suffix_beginning {history : List (Event Note)} {round : Round Note}
    (member : round ∈ rounds history) : round.past <:+ beginning history := by
  cases found : rounds history with
  | nil =>
    rw [found] at member
    exact absurd member List.not_mem_nil
  | cons first outer =>
    rw [beginning_eq found]
    rw [found] at member
    rcases List.mem_cons.mp member with rfl | inOuter
    · exact List.suffix_refl _
    · exact past_suffix (rounds_past found ▸ inOuter)

theorem beginning_suffix (history : List (Event Note)) : beginning history <:+ history := by
  cases found : rounds history with
  | nil =>
    rw [beginning, found]
    exact List.nil_suffix
  | cons first outer =>
    rw [beginning_eq found]
    exact past_suffix (found ▸ List.mem_cons_self)

/-! ### Whose handlers are whose -/

theorem attached_of_eligible {round : Round Note} {token : Token}
    (member : token ∈ round.eligible) : token ∈ attachedTokens round.past :=
  ((mem_standing _ _).mp ((mem_eligible _ _).mp member).1).1

/-- The handlers that may be called now are none of those that a dispatch in progress may call. -/
theorem not_mem_eligible_round {history : List (Event Note)} {token : Token}
    (member : token ∈ eligible history) {round : Round Note} (inProgress : round ∈ rounds history) :
    token ∉ round.eligible := by
  intro inRound
  exact ((mem_eligible history token).mp member).2
    (attachedTokens_subset (past_suffix_beginning inProgress) (attached_of_eligible inRound))

/-- The handlers of a dispatch in progress are none of those of the dispatches around it. -/
theorem not_mem_eligible_outer {history : List (Event Note)} {round : Round Note}
    {outer : List (Round Note)} (found : rounds history = round :: outer) {token : Token}
    (member : token ∈ round.eligible) {other : Round Note} (inOuter : other ∈ outer) :
    token ∉ other.eligible := by
  have early : token ∈ eligible round.past := member
  exact not_mem_eligible_round early (rounds_past found ▸ inOuter)

/-- A handler stands exactly if it is not detached, and may be called now or was there for a
dispatch in progress. -/
theorem mem_standing_iff (history : List (Event Note)) (token : Token) :
    token ∈ standing history ↔ isDetached history token = false ∧
      (token ∈ eligible history ∨ ∃ round ∈ rounds history, token ∈ round.eligible) := by
  constructor
  · intro stands
    refine ⟨((mem_standing history token).mp stands).2, ?_⟩
    -- The handler was attached in the course of exactly one of the rounds, or after the last.
    generalize depth : (rounds history).length = count
    induction count generalizing history with
    | zero =>
      refine Or.inl ((mem_eligible history token).mpr ⟨stands, ?_⟩)
      rw [beginning, List.length_eq_zero_iff.mp depth]
      exact List.not_mem_nil
    | succ count inductionHypothesis =>
      obtain ⟨round, outer, found⟩ := List.exists_cons_of_length_eq_add_one depth
      by_cases early : token ∈ attachedTokens round.past
      · have suffix : round.past <:+ history := past_suffix (found ▸ List.mem_cons_self)
        have stood : token ∈ standing round.past := by
          refine (mem_standing round.past token).mpr ⟨early, Bool.eq_false_iff.mpr fun gone => ?_⟩
          exact Bool.false_ne_true (((mem_standing history token).mp stands).2.symm.trans
            (isDetached_of_suffix suffix token gone))
        have fewer : (rounds round.past).length = count := by
          rw [rounds_past found]
          rw [found] at depth
          exact Nat.succ.inj depth
        rcases inductionHypothesis round.past stood fewer with now | ⟨other, inOuter, inOther⟩
        · exact Or.inr ⟨round, found ▸ List.mem_cons_self, now⟩
        · rw [rounds_past found] at inOuter
          exact Or.inr ⟨other, found ▸ List.mem_cons_of_mem _ inOuter, inOther⟩
      · exact Or.inl ((mem_eligible history token).mpr ⟨stands, beginning_eq found ▸ early⟩)
  · rintro ⟨kept, now | ⟨round, inProgress, inRound⟩⟩
    · exact ((mem_eligible history token).mp now).1
    · exact (mem_standing history token).mpr
        ⟨attachedTokens_subset (past_suffix inProgress) (attached_of_eligible inRound), kept⟩

/-! ### After one more event -/

/-- Who may be called now depends on who was attached, on who was detached, and on when the
dispatches in progress began. -/
theorem eligible_congr {first second : List (Event Note)}
    (attached : attachedTokens first = attachedTokens second)
    (detached : isDetached first = isDetached second)
    (began : (rounds first).map Round.past = (rounds second).map Round.past) :
    eligible first = eligible second := by
  have same : beginning first = beginning second := by
    rw [beginning, beginning, ← List.head?_map, ← List.head?_map, began]
  rw [eligible, eligible, standing, standing, same, attached, detached]

theorem eligible_of_idle {history : List (Event Note)} (idle : rounds history = []) :
    eligible history = standing history := by
  rw [eligible, beginning, idle]
  exact List.filter_eq_self.mpr fun token _ => rfl

/-- A dispatch takes out all handlers, so that there is none for one that begins inside it. -/
theorem eligible_dispatched (diagnostic : Diagnostic) (past : List (Event Note)) :
    eligible (.dispatched diagnostic :: past) = [] := by
  refine List.eq_nil_iff_forall_not_mem.mpr fun token member => ?_
  obtain ⟨stands, late⟩ := (mem_eligible _ token).mp member
  exact late ((mem_standing _ token).mp stands).1

theorem standing_attached {token : Token} {past : List (Event Note)}
    (kept : isDetached past token = false) :
    standing (.attached token :: past) = standing past ++ [token] := by
  show List.filter _ (attachedTokens past ++ [token]) = _
  rw [List.filter_append]
  refine congrArg (standing past ++ ·) (List.filter_eq_self.mpr fun other member => ?_)
  rw [List.mem_singleton.mp member]
  exact Bool.not_eq_true' _ ▸ kept

theorem standing_detached (token : Token) (past : List (Event Note)) :
    standing (.detached token true :: past) =
      (standing past).filter fun other => other ≠ token := by
  show List.filter _ (attachedTokens past) = List.filter _ (List.filter _ (attachedTokens past))
  rw [List.filter_filter]
  refine List.filter_congr fun other _ => ?_
  have gone : isDetached (.detached token true :: past) other =
      (decide (token = other) || isDetached past other) := rfl
  rw [gone]
  by_cases same : other = token
  · simp [same]
  · simp [same, Ne.symm same]

/-- A handler that is attached may be called after all others. -/
theorem eligible_attached (token : Token) (past : List (Event Note))
    (fresh : token ∉ attachedTokens past) (kept : isDetached past token = false) :
    eligible (.attached token :: past) = eligible past ++ [token] := by
  have late : token ∉ attachedTokens (beginning past) := fun early =>
    fresh (attachedTokens_subset (beginning_suffix past) early)
  have sameBeginning : beginning (.attached token :: past) = beginning past := rfl
  rw [eligible, standing_attached kept, sameBeginning, List.filter_append]
  refine congrArg (eligible past ++ ·) (List.filter_eq_self.mpr fun other member => ?_)
  rw [List.mem_singleton.mp member]
  simpa using late

/-- A handler that is detached may not be called any more. -/
theorem eligible_detached (token : Token) (past : List (Event Note)) :
    eligible (.detached token true :: past) =
      (eligible past).filter fun other => other ≠ token := by
  have sameBeginning : beginning (.detached token true :: past) = beginning past := rfl
  rw [eligible, standing_detached, sameBeginning, eligible, List.filter_filter, List.filter_filter]
  exact List.filter_congr fun other _ => Bool.and_comm _ _

/-- When the innermost dispatch ends, its handlers come back in front of those that were attached
meanwhile, and those that were detached are left out. -/
theorem eligible_settled {history : List (Event Note)} {round : Round Note}
    {outer : List (Round Note)} (found : rounds history = round :: outer)
    (distinct : (attachedTokens history).Nodup) (diagnostic : Diagnostic) (consumed : Bool) :
    eligible (.settled diagnostic consumed :: history) =
      (round.eligible.filter fun token => !isDetached history token) ++ eligible history := by
  obtain ⟨later, split⟩ : round.past <:+ history := past_suffix (found ▸ List.mem_cons_self)
  have attached : attachedTokens history = attachedTokens round.past ++ attachedTokens later := by
    rw [← split, attachedTokens_append]
  have apart : ∀ token ∈ attachedTokens later, token ∉ attachedTokens round.past := by
    intro token late early
    rw [attached] at distinct
    exact (List.disjoint_of_nodup_append distinct) early late
  have before : beginning (.settled diagnostic consumed :: history) = beginning round.past := by
    rw [beginning, beginning, rounds_settled found, rounds_past found]
  have same : standing (.settled diagnostic consumed :: history) = standing history := rfl
  rw [eligible, eligible, before, same, beginning_eq found, standing, attached, Round.eligible,
    eligible, standing, List.filter_append, List.filter_append, List.filter_append]
  have none : (List.filter (fun token => !isDetached history token)
      (attachedTokens round.past)).filter
        (fun token => !(attachedTokens round.past).contains token) = [] := by
    refine List.filter_eq_nil_iff.mpr fun token member => ?_
    simp [(List.mem_filter.mp member).1]
  rw [none, List.nil_append, List.filter_filter, List.filter_filter, List.filter_filter,
    List.filter_filter, List.filter_filter]
  congr 1
  · refine List.filter_congr fun token _ => ?_
    cases gone : isDetached round.past token with
    | false => simp [Bool.and_comm]
    | true =>
      simp [isDetached_of_suffix ⟨later, split⟩ token gone]
  · refine List.filter_congr fun token late => ?_
    have after := apart token late
    have afterAll : token ∉ attachedTokens (beginning round.past) := fun early =>
      after (attachedTokens_subset (beginning_suffix round.past) early)
    simp [after, afterAll]

end History

end Polyglot
