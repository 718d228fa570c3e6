/-
This file tells when an error that is emitted in the course of a verification gets lost. While
errors are emitted none does: a handler consumes it, or the default sink gets it. Otherwise it is
captured, and the scope that captured it hands it out with the error that the verification comes
to. A verification that accepts its operation comes to no error, and then nobody ever gets to see
what its scope has captured.
-/

import Polyglot.Proofs.Channel.Capture

namespace Polyglot

open History

variable {Custom Handler Note : Type}

namespace History

/-- The diagnostic that was emitted after the past is not lost: a handler consumed it, the default
sink got it, or it goes with the error of the verdict. -/
def Kept (past : List (Event Note)) (diagnostic : Diagnostic) (since : List (Event Note))
    (verdict : Verdict) : Prop :=
  Consumed past diagnostic since ∨ Sunk past diagnostic since ∨
    ∃ error, verdict = .rejected error ∧ diagnostic ∈ error.diagnostics

variable {past since : List (Event Note)} {diagnostic : Diagnostic}

/-! What happens right after an emission tells which way the diagnostic goes. -/

theorem Captured.first (captured : Captured diagnostic since) :
    since.getLast? = some (.captured diagnostic) := by
  obtain ⟨rest, rfl⟩ := captured
  exact List.getLast?_concat

theorem Consumed.first (consumed : Consumed past diagnostic since) :
    since.getLast? = some (.dispatched diagnostic) := by
  obtain ⟨rest, happened, _, _, _, _, rfl⟩ := consumed
  rw [← List.cons_append, ← List.append_assoc, List.getLast?_concat]

theorem Sunk.first (sunk : Sunk past diagnostic since) :
    since.getLast? = some (.dispatched diagnostic) := by
  obtain ⟨rest, happened, _, _, _, rfl⟩ := sunk
  rw [← List.cons_append, ← List.cons_append, ← List.append_assoc, List.getLast?_concat]

theorem Captured.not_consumed (captured : Captured diagnostic since) :
    ¬Consumed past diagnostic since := by
  intro consumed
  cases captured.first.symm.trans consumed.first

theorem Captured.not_sunk (captured : Captured diagnostic since) :
    ¬Sunk past diagnostic since := by
  intro sunk
  cases captured.first.symm.trans sunk.first

/-- While errors are emitted, an error gets to somebody. -/
theorem Routed.heard (routed : Routed past diagnostic since) (choice : emitting past = true) :
    Consumed past diagnostic since ∨ Sunk past diagnostic since := by
  cases routed with
  | captured diverts _ => exact absurd (choice.symm.trans diverts.silent) (by simp)
  | consumed _ consumed => exact .inl consumed
  | sunk _ sunk => exact .inr sunk
  | unheard _ silent _ => exact absurd (choice.symm.trans silent) (by simp)

theorem Routed.captured_of_diverts (routed : Routed past diagnostic since)
    (diverts : Diverts past diagnostic) : Captured diagnostic since := by
  cases routed with
  | captured _ captured => exact captured
  | consumed undiverted _ => exact absurd diverts undiverted
  | sunk choice _ => exact absurd (choice.symm.trans diverts.silent) (by simp)
  | unheard undiverted _ _ => exact absurd diverts undiverted

end History

namespace Channel

namespace Verification

/-- What is emitted from the beginning to the end of a verification is emitted in between. -/
theorem emission_between {ref : OpRef} {last later done doing : List (Event Note)}
    {diagnostic : Diagnostic} (latest : last = [] ∨ last = [.verified ref])
    (split : last ++ (later ++ [Event.verifying ref]) = done ++ Event.emitted diagnostic :: doing) :
    ∃ since between, done = last ++ since ∧ later = since ++ .emitted diagnostic :: between ∧
      doing = between ++ [Event.verifying ref] := by
  rcases split_cases split with ⟨since, rfl, before⟩ | ⟨between, inLast, _⟩
  · rcases split_cases before with ⟨front, _, first⟩ | ⟨between, inLater, rfl⟩
    · rcases List.append_eq_singleton_iff.mp first.symm with ⟨_, same⟩ | ⟨_, none⟩
      · cases same
      · cases none
    · exact ⟨since, between, rfl, inLater, rfl⟩
  · have member : Event.emitted diagnostic ∈ last :=
      inLast ▸ List.mem_append_right _ List.mem_cons_self
    rcases latest with rfl | rfl
    · exact absurd member List.not_mem_nil
    · cases List.mem_singleton.mp member

variable {whole : Prop} {channel after during : Channel Handler Note} {ref : OpRef}
  {verdict : Verdict} {later : List (Event Note)}
  (verification : Verification whole channel ref verdict after during later)
include verification

/-- The own scope of a verification hands out what was captured when no verification inside it was
in progress. -/
theorem mem_closeScope (candid : channel.Candid) (holds : whole)
    {rest doing : List (Event Note)} {diagnostic : Diagnostic}
    (split : later = rest ++ .captured diagnostic :: doing)
    (innermost : verifying (doing ++ .verifying ref :: channel.history) =
      ref :: verifying channel.history) : diagnostic ∈ during.closeScope.1 := by
  obtain ⟨inner, scopes, none⟩ := verification.scopes_eq candid
  show diagnostic ∈ during.scopes.headD []
  rw [scopes, none holds, split]
  exact mem_captures innermost

end Verification

/-- The verification of an operation on a channel where a client may act, and an error that is
emitted in the course of it. If errors are emitted at the time, a handler consumes it or the
default sink gets it. Otherwise it is captured and neither of them gets it. If no verification
inside this one is in progress at the time, and none breaks off, then the error is kept exactly if
errors are emitted or the operation is rejected. -/
theorem Reached.errors_kept_iff {channel after : Channel Handler Note}
    (reached : Reached Custom channel) {conduct : Conduct Custom Handler Note}
    {workspace : Workspace Custom} {depth : Nat} {ref : OpRef} {verdict : Verdict}
    (ran : conduct.run workspace depth (.verify ref .done) channel = some (verdict, after)) :
    ∃ later, after.history = later ++ channel.history ∧
      ∀ since diagnostic doing, later = since ++ .emitted diagnostic :: doing →
        diagnostic.isError = true →
        let past := doing ++ channel.history
        (emitting past = true → Consumed past diagnostic since ∨ Sunk past diagnostic since) ∧
        (emitting past = false → Captured diagnostic since ∧
          ¬Consumed past diagnostic since ∧ ¬Sunk past diagnostic since) ∧
        (conduct.Unbroken workspace →
          History.verifying past = ref :: History.verifying channel.history →
          (Kept past diagnostic since verdict ↔
            emitting past = true ∨ ∃ error, verdict = .rejected error)) := by
  have candid := reached.candid
  rcases candid.verification ran with ⟨_, rfl⟩ | ⟨during, inside, verification⟩
  · exact ⟨[], rfl, by simp⟩
  obtain ⟨last, latest, history⟩ := verification.history_eq
  refine ⟨_, history, fun done diagnostic doing split isError => ?_⟩
  obtain ⟨since, between, rfl, inside_eq, rfl⟩ := Verification.emission_between latest split
  have before : between ++ [Event.verifying ref] ++ channel.history =
      between ++ .verifying ref :: channel.history := List.append_assoc ..
  dsimp only
  rw [before]
  have routedSince := verification.told.routed since diagnostic between inside_eq
  have routed := routedSince.extend last
  have diverts (silent : emitting (between ++ .verifying ref :: channel.history) = false) :
      Diverts (between ++ .verifying ref :: channel.history) diagnostic := by
    refine ⟨isError, fun none => ?_, silent⟩
    have inner := verification.told.inside
    rw [inside_eq, List.append_cons] at inner
    have suffix := inner.of_append.suffix
    rw [none] at suffix
    exact absurd (List.suffix_nil.mp suffix) (List.cons_ne_nil _ _)
  have captured (silent : emitting (between ++ .verifying ref :: channel.history) = false) :=
    routed.captured_of_diverts (diverts silent)
  refine ⟨routed.heard, fun silent => ⟨captured silent, (captured silent).not_consumed,
    (captured silent).not_sunk⟩, fun unbroken innermost => ⟨fun kept => ?_, fun known => ?_⟩⟩
  · cases choice : emitting (between ++ .verifying ref :: channel.history) with
    | true => exact .inl rfl
    | false =>
      rcases kept with consumed | sunk | ⟨error, rejects, _⟩
      · exact absurd consumed (captured choice).not_consumed
      · exact absurd sunk (captured choice).not_sunk
      · exact .inr ⟨error, rejects⟩
  · cases choice : emitting (between ++ .verifying ref :: channel.history) with
    | true => exact (routed.heard choice).imp_right .inl
    | false =>
      obtain ⟨error, rejects⟩ := known.resolve_left (by simp [choice])
      obtain ⟨found, rfl, _⟩ := verification.rejected error rejects
      obtain ⟨rest, rfl⟩ := routedSince.captured_of_diverts (diverts choice)
      rw [List.append_assoc] at inside_eq
      have handedOut := verification.mem_closeScope candid unbroken inside_eq innermost
      exact .inr (.inr ⟨_, rejects, List.mem_append_right _ handedOut⟩)

end Channel

namespace Reviewer

/-- What had happened when a verifier complained for the first time. -/
def outset (number : Nat) : List (Event Unit) := .verifying ⟨number⟩ :: attended.history

/-- The stern verifier rejects its operation, and its complaint goes with the error. -/
theorem errors_kept_iff_stern : ∃ after, attended.Reached Reviewer ∧ conduct.Unbroken desk ∧
    conduct.run desk 4 (.verify ⟨0⟩ .done) attended = some (.rejected unfit, after) ∧
    after.history = sternLater.take 13 ++ .emitted complaint :: outset 0 ∧
    complaint.isError = true ∧ verifying (outset 0) = ⟨0⟩ :: verifying attended.history ∧
    Kept (outset 0) complaint (sternLater.take 13) (.rejected unfit) := by
  obtain ⟨after, ran, history⟩ := run_stern
  obtain ⟨later, split, fate⟩ := reached_attended.errors_kept_iff ran
  obtain rfl : later = sternLater := List.append_cancel_right (split.symm.trans history)
  obtain ⟨_, _, kept⟩ := fate (sternLater.take 13) complaint [.verifying ⟨0⟩] rfl rfl
  exact ⟨after, reached_attended, unbroken, ran, history, rfl, rfl,
    (kept unbroken rfl).mpr (.inr ⟨unfit, rfl⟩)⟩

/-- What happens after the mild verifier has complained. -/
def mildSince : List (Event Unit) := [.verified ⟨1⟩, .captured complaint]

/-- The mild verifier accepts its operation. It has emitted an error, which no handler consumed and
the default sink did not get, and there is no error for it to go with. -/
theorem complaint_lost : ∃ after, attended.Reached Reviewer ∧
    desk.session.operations.isAlive ⟨1⟩ = true ∧
    conduct.run desk 2 (.verify ⟨1⟩ .done) attended = some (.accepted, after) ∧
    after.history = mildSince ++ .emitted complaint :: outset 1 ∧
    complaint.isError = true ∧ ¬Kept (outset 1) complaint mildSince .accepted := by
  have computed : (conduct.run desk 2 (.verify ⟨1⟩ .done) attended).map (fun outcome =>
      (outcome.1, outcome.2.history)) =
        some (.accepted, mildSince ++ .emitted complaint :: outset 1) := by
    decide +kernel
  obtain ⟨⟨verdict, after⟩, ran, same⟩ := Option.map_eq_some_iff.mp computed
  obtain ⟨rfl, history⟩ := Prod.mk.inj same
  refine ⟨after, reached_attended, rfl, ran, history, rfl, ?_⟩
  have captured : Captured complaint mildSince := ⟨[.verified ⟨1⟩], rfl⟩
  rintro (consumed | sunk | ⟨error, rejects, _⟩)
  · exact captured.not_consumed consumed
  · exact captured.not_sunk sunk
  · cases rejects

end Reviewer

end Polyglot
