/-
This file reads from the history of a channel which verifications are in progress, what their
capture scopes hold, and whether errors are emitted.

Each verification in progress has a scope, and the innermost scope takes what is captured. As long
as the verifications that were in progress do not end, whatever happens is captured in the scope of
the innermost of them, or in scopes that have been opened since. The scopes around it are out of
reach.
-/

import Polyglot.Proofs.Channel.History

namespace Polyglot

namespace History

variable {Note : Type}

/-- Are errors emitted? -/
def emitting : List (Event Note) → Bool
  | [] => false
  | .switched choice :: _ => choice
  | _ :: past => emitting past

/-- The verifications in progress, the innermost first. One that has broken off counts as being in
progress, as its scope is still open, until one around it ends and closes that scope. -/
def verifying : List (Event Note) → List OpRef
  | [] => []
  | .verifying ref :: past => ref :: verifying past
  | .verified _ :: past => (verifying past).tail
  | _ :: past => verifying past

/-- What the capture scopes hold, the innermost first. -/
def scopes : List (Event Note) → List (List Diagnostic)
  | [] => []
  | .verifying _ :: past => [] :: scopes past
  | .verified _ :: past => (scopes past).tail
  | .captured diagnostic :: past => (scopes past).modifyHead (· ++ [diagnostic])
  | _ :: past => scopes past

theorem length_scopes (history : List (Event Note)) :
    (scopes history).length = (verifying history).length := by
  induction history with
  | nil => rfl
  | cons event past inductionHypothesis =>
    cases event <;> simp [scopes, verifying, inductionHypothesis]

/-- There are scopes exactly as long as verifications are in progress. -/
theorem scopes_eq_nil_iff (history : List (Event Note)) :
    scopes history = [] ↔ verifying history = [] := by
  rw [← List.length_eq_zero_iff, length_scopes, List.length_eq_zero_iff]

/-- Errors are not emitted unless this is chosen. -/
theorem emitting_append {later past : List (Event Note)} (unswitched : .switched true ∉ later)
    (off : emitting past = false) : emitting (later ++ past) = false := by
  induction later with
  | nil => exact off
  | cons event rest inductionHypothesis =>
    have offThen := inductionHypothesis fun member => unswitched (List.mem_cons_of_mem _ member)
    cases event with
    | switched choice =>
      cases choice with
      | true => exact absurd List.mem_cons_self unswitched
      | false => rfl
    | _ => exact offThen

/-! ### Inside the verifications in progress -/

/-- All of this happened after the past and inside the verifications that were in progress by
then: none of them has ended at any time. -/
def Inside (past : List (Event Note)) : List (Event Note) → Prop
  | [] => True
  | event :: later => verifying past <:+ verifying (event :: later ++ past) ∧ Inside past later

/-- What was captured while the verifications in progress were those of the past, in the order of
its capture. -/
def captures (past : List (Event Note)) : List (Event Note) → List Diagnostic
  | [] => []
  | .captured diagnostic :: later =>
    captures past later ++ if verifying (later ++ past) = verifying past then [diagnostic] else []
  | _ :: later => captures past later

theorem mem_captures {past done doing : List (Event Note)} {diagnostic : Diagnostic}
    (same : verifying (doing ++ past) = verifying past) :
    diagnostic ∈ captures past (done ++ .captured diagnostic :: doing) := by
  induction done with
  | nil =>
    rw [List.nil_append, captures, if_pos same]
    exact List.mem_append_right _ List.mem_cons_self
  | cons event rest inductionHypothesis =>
    cases event with
    | captured other => exact List.mem_append_left _ inductionHypothesis
    | _ => exact inductionHypothesis

namespace Inside

variable {past later more : List (Event Note)}

theorem suffix (inside : Inside past later) : verifying past <:+ verifying (later ++ past) := by
  cases later with
  | nil => exact List.suffix_refl _
  | cons event rest => exact inside.1

theorem of_append (inside : Inside past (more ++ later)) : Inside past later := by
  induction more with
  | nil => exact inside
  | cons event rest inductionHypothesis => exact inductionHypothesis inside.2

theorem append (first : Inside past later) (second : Inside (later ++ past) more) :
    Inside past (more ++ later) := by
  induction more with
  | nil => exact first
  | cons event rest inductionHypothesis =>
    refine ⟨first.suffix.trans ?_, inductionHypothesis second.2⟩
    have there := second.1
    rw [← List.append_assoc] at there
    exact there

/-- The scopes of the verifications in progress stay, and only the innermost of them takes
anything. -/
theorem scopes_eq (inside : Inside past later) {own : List Diagnostic}
    {outer : List (List Diagnostic)} (start : scopes past = own :: outer) :
    ∃ inner, scopes (later ++ past) = inner ++ (own ++ captures past later) :: outer := by
  induction later with
  | nil => exact ⟨[], by rw [List.nil_append, captures, List.append_nil, start]; rfl⟩
  | cons event rest inductionHypothesis =>
    obtain ⟨inner, found⟩ := inductionHypothesis inside.2
    have depth : inner.length + (verifying past).length = (verifying (rest ++ past)).length := by
      rw [← length_scopes, ← length_scopes, found, start]
      simp
    cases event with
    | verifying ref => exact ⟨[] :: inner, congrArg ([] :: ·) found⟩
    | verified ref =>
      cases inner with
      | nil =>
        -- The verification that ended would have been in progress at the start.
        have fewer : (verifying past).length ≤ (verifying (rest ++ past)).tail.length :=
          inside.1.length_le
        have some : (verifying past).length ≠ 0 := by
          rw [← length_scopes, start]
          exact Nat.succ_ne_zero _
        rw [List.length_tail, ← depth, List.length_nil] at fewer
        omega
      | cons first others => exact ⟨others, congrArg List.tail found⟩
    | captured diagnostic =>
      cases inner with
      | nil =>
        have same : verifying (rest ++ past) = verifying past :=
          (inside.2.suffix.eq_of_length (by rw [← depth]; simp)).symm
        refine ⟨[], ?_⟩
        show (scopes (rest ++ past)).modifyHead (· ++ [diagnostic]) = _
        rw [found, captures, if_pos same, ← List.append_assoc]
        rfl
      | cons first others =>
        have different : verifying (rest ++ past) ≠ verifying past := fun same => by
          rw [same] at depth
          simp at depth
        refine ⟨(first ++ [diagnostic]) :: others, ?_⟩
        show (scopes (rest ++ past)).modifyHead (· ++ [diagnostic]) = _
        rw [found, captures, if_neg different, List.append_nil]
        rfl
    | _ => exact ⟨inner, found⟩

end Inside

end History

end Polyglot
