/-
This file says where diagnostics go, and how what happens in a run is put together from what
happens in its parts.

An error that is emitted in the course of a verification, while errors are not emitted, goes to the
innermost capture scope. Everything else is dispatched; if no handler consumes it, it goes to the
default sink, provided that errors were emitted at the time. What decides about an emission is the
history at that moment, and handlers and verifiers may change what it says while they run. So all
of this is said of any stretch of a history, relative to what came before it.
-/

import Polyglot.Proofs.Channel.Scopes

namespace Polyglot

variable {Note : Type}

/-- The diagnostic that somebody receives in the event: a handler, or the default sink. -/
def Event.received? : Event Note → Option Diagnostic
  | .called _ diagnostic => some diagnostic
  | .sunk diagnostic => some diagnostic
  | _ => none

namespace History

/-! ### The way of a diagnostic -/

/-- An error that is emitted now is captured before any handler sees it. -/
structure Diverts (past : List (Event Note)) (diagnostic : Diagnostic) : Prop where
  isError : diagnostic.isError = true
  capturing : verifying past ≠ []
  silent : emitting past = false

/-- The diagnostic was emitted after the past and dispatched, and after this has happened the round
is what its dispatch has come to. -/
structure Hearing (past : List (Event Note)) (diagnostic : Diagnostic)
    (happened : List (Event Note)) (round : Round Note) : Prop where
  found : rounds (happened ++ .dispatched diagnostic :: .emitted diagnostic :: past) =
    round :: rounds past
  past : round.past = .emitted diagnostic :: past
  diagnostic : round.diagnostic = diagnostic

/-- The diagnostic that was emitted after the past was captured at once. -/
def Captured (diagnostic : Diagnostic) (since : List (Event Note)) : Prop :=
  ∃ rest, since = rest ++ [.captured diagnostic]

/-- The diagnostic that was emitted after the past was dispatched at once, and a handler consumed
it. -/
def Consumed (past : List (Event Note)) (diagnostic : Diagnostic)
    (since : List (Event Note)) : Prop :=
  ∃ rest happened round token, Hearing past diagnostic happened round ∧
    round.consumer? = some token ∧
    since = rest ++ .settled diagnostic true :: (happened ++ [.dispatched diagnostic])

/-- The diagnostic that was emitted after the past was dispatched at once, no handler consumed it,
and the default sink got it. -/
def Sunk (past : List (Event Note)) (diagnostic : Diagnostic)
    (since : List (Event Note)) : Prop :=
  ∃ rest happened round, Hearing past diagnostic happened round ∧ round.consumer? = none ∧
    since = rest ++ .sunk diagnostic :: .settled diagnostic false ::
      (happened ++ [.dispatched diagnostic])

/-- The diagnostic that was emitted after the past was dispatched at once, and no handler consumed
it. -/
def Unheard (past : List (Event Note)) (diagnostic : Diagnostic)
    (since : List (Event Note)) : Prop :=
  ∃ rest happened round, Hearing past diagnostic happened round ∧ round.consumer? = none ∧
    since = rest ++ .settled diagnostic false :: (happened ++ [.dispatched diagnostic])

/-- What became of a diagnostic that was emitted after the past is what the past demands. -/
inductive Routed (past : List (Event Note)) (diagnostic : Diagnostic)
    (since : List (Event Note)) : Prop where
  | captured (diverts : Diverts past diagnostic) (captured : Captured diagnostic since)
  | consumed (undiverted : ¬Diverts past diagnostic) (consumed : Consumed past diagnostic since)
  | sunk (choice : emitting past = true) (sunk : Sunk past diagnostic since)
  | unheard (undiverted : ¬Diverts past diagnostic) (choice : emitting past = false)
      (unheard : Unheard past diagnostic since)

/-- What became of a diagnostic does not depend on what happens later. -/
theorem Routed.extend {past since : List (Event Note)} {diagnostic : Diagnostic}
    (routed : Routed past diagnostic since) (more : List (Event Note)) :
    Routed past diagnostic (more ++ since) := by
  cases routed with
  | captured diverts captured =>
    obtain ⟨rest, rfl⟩ := captured
    exact .captured diverts ⟨more ++ rest, (List.append_assoc ..).symm⟩
  | consumed undiverted consumed =>
    obtain ⟨rest, happened, round, token, hearing, consumer, rfl⟩ := consumed
    exact .consumed undiverted
      ⟨more ++ rest, happened, round, token, hearing, consumer, (List.append_assoc ..).symm⟩
  | sunk choice sunk =>
    obtain ⟨rest, happened, round, hearing, nobody, rfl⟩ := sunk
    exact .sunk choice
      ⟨more ++ rest, happened, round, hearing, nobody, (List.append_assoc ..).symm⟩
  | unheard undiverted choice unheard =>
    obtain ⟨rest, happened, round, hearing, nobody, rfl⟩ := unheard
    exact .unheard undiverted choice
      ⟨more ++ rest, happened, round, hearing, nobody, (List.append_assoc ..).symm⟩

/-! ### Stretches of a history -/

/-- An event of a stretch that has two parts is in one of them. -/
theorem split_cases {later more done doing : List (Event Note)} {event : Event Note}
    (split : more ++ later = done ++ event :: doing) :
    (∃ front, done = more ++ front ∧ later = front ++ event :: doing) ∨
      ∃ between, more = done ++ event :: between ∧ doing = between ++ later := by
  rcases List.append_eq_append_iff.mp split with ⟨front, inDone, rest⟩ | ⟨front, inMore, rest⟩
  · exact .inl ⟨front, inDone, rest⟩
  · cases front with
    | nil => exact .inl ⟨[], by rw [List.append_nil, inMore, List.append_nil], rest.symm⟩
    | cons first between =>
      obtain ⟨rfl, rfl⟩ := List.cons.inj rest
      exact .inr ⟨between, inMore, rfl⟩

/-- What happened after the past is as it should be. It stays inside the verifications that were in
progress, each emission goes its way, and while errors are captured nobody receives one. If no
verification breaks off, those that began have ended.

The last two are only said under a condition, as a dispatch of an error hands it to handlers, and
as a verification that breaks off does not end. -/
structure Told (whole discreet : Prop) (past later : List (Event Note)) : Prop where
  inside : Inside past later
  routed : ∀ done diagnostic doing, later = done ++ .emitted diagnostic :: doing →
    Routed (doing ++ past) diagnostic done
  discreet : discreet → verifying past ≠ [] → emitting past = false →
    .switched true ∉ later → ∀ event ∈ later, ∀ diagnostic, event.received? = some diagnostic →
      diagnostic.isError = false
  whole : whole → verifying (later ++ past) = verifying past

namespace Told

variable {whole discreet : Prop} {past later more : List (Event Note)}

theorem nil : Told whole discreet past [] :=
  ⟨trivial, by simp, fun _ _ _ _ _ member => absurd member List.not_mem_nil, fun _ => rfl⟩

theorem weaken {wholeToo discreetToo : Prop} (told : Told whole discreet past later)
    (impliesWhole : wholeToo → whole) (impliesDiscreet : discreetToo → discreet) :
    Told wholeToo discreetToo past later :=
  ⟨told.inside, told.routed, fun holds => told.discreet (impliesDiscreet holds),
    fun holds => told.whole (impliesWhole holds)⟩

theorem append (first : Told whole discreet past later)
    (second : Told whole discreet (later ++ past) more) :
    Told whole discreet past (more ++ later) where
  inside := first.inside.append second.inside
  routed done diagnostic doing split := by
    rcases split_cases split with ⟨front, rfl, inFirst⟩ | ⟨between, inSecond, rfl⟩
    · exact (first.routed front diagnostic doing inFirst).extend more
    · rw [List.append_assoc]
      exact second.routed done diagnostic between inSecond
  discreet holds capturing silent unswitched event member := by
    have unswitchedFirst : Event.switched true ∉ later := fun switched =>
      unswitched (List.mem_append_right _ switched)
    rcases List.mem_append.mp member with inSecond | inFirst
    · refine second.discreet holds (fun none => capturing ?_)
        (emitting_append unswitchedFirst silent)
        (fun switched => unswitched (List.mem_append_left _ switched)) event inSecond
      have suffix := first.inside.suffix
      rw [none] at suffix
      exact List.suffix_nil.mp suffix
    · exact first.discreet holds capturing silent unswitchedFirst event inFirst
  whole holds := by
    rw [List.append_assoc, second.whole holds, first.whole holds]

/-- One event that is no emission and does not begin or end a verification. -/
theorem single {event : Event Note} (same : verifying (event :: past) = verifying past)
    (other : ∀ diagnostic, event ≠ .emitted diagnostic)
    (hears : ∀ diagnostic, event.received? = some diagnostic → discreet →
      diagnostic.isError = false) : Told whole discreet past [event] where
  inside := ⟨same ▸ List.suffix_refl _, trivial⟩
  routed done diagnostic doing split := by
    have member : Event.emitted diagnostic ∈ [event] :=
      split ▸ List.mem_append_right _ List.mem_cons_self
    exact absurd (List.mem_singleton.mp member).symm (other diagnostic)
  discreet holds _ _ _ latest member diagnostic received := by
    rw [List.mem_singleton.mp member] at received
    exact hears diagnostic received holds
  whole _ := same

/-- An emission and all that happened because of it. -/
theorem emission {hears : Prop} {diagnostic : Diagnostic}
    (since : Told whole hears (.emitted diagnostic :: past) later)
    (unlessDiverted : verifying past ≠ [] → emitting past = false → hears)
    (routed : Routed past diagnostic later) :
    Told whole True past (later ++ [.emitted diagnostic]) where
  inside := by
    have begins : Inside past [.emitted diagnostic] := ⟨List.suffix_refl _, trivial⟩
    exact begins.append since.inside
  routed done other doing split := by
    rcases split_cases split with ⟨front, rfl, first⟩ | ⟨between, inLater, rfl⟩
    · obtain ⟨rfl, same⟩ | ⟨_, none⟩ := List.append_eq_singleton_iff.mp first.symm
      · cases same
        rw [List.append_nil]
        exact routed
      · cases none
    · rw [List.append_assoc]
      exact since.routed done other between inLater
  discreet _ capturing silent unswitched event member := by
    rcases List.mem_append.mp member with inLater | first
    · exact since.discreet (unlessDiverted capturing silent) capturing silent
        (fun switched => unswitched (List.mem_append_left _ switched)) event inLater
    · rw [List.mem_singleton.mp first]
      exact fun _ received => absurd received (by simp [Event.received?])
  whole holds := by
    rw [List.append_assoc]
    exact since.whole holds

/-- A verification began, and has not ended. -/
theorem begun {ref : OpRef} (during : Told whole discreet (.verifying ref :: past) later) :
    Told False discreet past (later ++ [.verifying ref]) where
  inside := by
    have begins : Inside past [.verifying ref] := ⟨List.suffix_cons _ _, trivial⟩
    exact begins.append during.inside
  routed done diagnostic doing split := by
    rcases split_cases split with ⟨front, rfl, first⟩ | ⟨between, inLater, rfl⟩
    · obtain ⟨_, same⟩ | ⟨_, none⟩ := List.append_eq_singleton_iff.mp first.symm
      · cases same
      · cases none
    · rw [List.append_assoc]
      exact during.routed done diagnostic between inLater
  discreet holds _ silent unswitched event member := by
    rcases List.mem_append.mp member with inLater | first
    · exact during.discreet holds (List.cons_ne_nil _ _) silent
        (fun switched => unswitched (List.mem_append_left _ switched)) event inLater
    · rw [List.mem_singleton.mp first]
      exact fun _ received => absurd received (by simp [Event.received?])
  whole impossible := impossible.elim

/-- A verification began and ended. -/
theorem ended {ref : OpRef} (during : Told whole discreet (.verifying ref :: past) later) :
    Told whole discreet past (.verified ref :: (later ++ [.verifying ref])) where
  inside := by
    refine ⟨?_, during.begun.inside⟩
    obtain ⟨front, split⟩ := during.inside.suffix
    show verifying past <:+ (verifying (later ++ [.verifying ref] ++ past)).tail
    rw [List.append_assoc]
    cases front with
    | nil => exact split ▸ List.suffix_refl _
    | cons first others =>
      rw [List.singleton_append, ← split]
      exact (List.suffix_cons ref _).trans (List.suffix_append others _)
  routed done diagnostic doing split := by
    cases done with
    | nil => cases (List.cons.inj split).1
    | cons event front =>
      obtain ⟨rfl, rest⟩ := List.cons.inj split
      exact (during.begun.routed front diagnostic doing rest).extend [.verified ref]
  discreet holds capturing silent unswitched event member := by
    rcases List.mem_cons.mp member with rfl | before
    · exact fun _ received => absurd received (by simp [Event.received?])
    · exact during.begun.discreet holds capturing silent
        (fun switched => unswitched (List.mem_cons_of_mem _ switched)) event before
  whole holds := by
    show (verifying (later ++ [.verifying ref] ++ past)).tail = verifying past
    rw [List.append_assoc, List.singleton_append, during.whole holds]
    rfl

end Told

end History

end Polyglot
