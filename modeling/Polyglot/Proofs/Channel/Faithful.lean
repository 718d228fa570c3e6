/-
This file proves that a channel is what its history says. The chain holds the handlers that may be
called now, the tokens that are being dispatched are those of the dispatches in progress, and the
tokens that are being detached are those among them that were detached.

Attaching and detaching keep a channel faithful, and so does each step of a dispatch: taking the
chain out, calling a handler, taking its answer, and putting the chain back.
-/

import Polyglot.Channel.Emission
import Polyglot.Proofs.Channel.Lawful

namespace Polyglot

open History

variable {Handler Note : Type}

/-- Does the event neither attach nor detach, and neither begin, advance nor end a dispatch? -/
def Event.isQuiet : Event Note → Bool
  | .emitted _ | .sunk _ | .captured _ | .switched _ | .verifying _ | .verified _ | .noted _ => true
  | _ => false

/-- Is the event an emission? -/
def Event.isEmission : Event Note → Bool
  | .emitted _ => true
  | _ => false

/-- No emission waits for its dispatch, so that anything may happen next. -/
def History.Calm (history : List (Event Note)) : Prop :=
  ∀ event, Continues history event

theorem History.calm_cons {event : Event Note} (past : List (Event Note))
    (other : event.isEmission = false) : Calm (event :: past) := by
  intro next
  cases event with
  | emitted diagnostic => exact absurd other (Ne.symm Bool.false_ne_true)
  | _ => exact trivial

namespace Channel

/-- The channel is what its history says. -/
structure Faithful (channel : Channel Handler Note) : Prop where
  lawful : Lawful channel.history
  numbered : attachedTokens channel.history = (List.range channel.attachments).map Token.mk
  chained : channel.chain.map Attached.token = eligible channel.history
  dispatching : channel.dispatching =
    ((rounds channel.history).map Round.eligible).reverse.flatten
  detaching : ∀ token, token ∈ channel.detaching ↔
    token ∈ channel.dispatching ∧ isDetached channel.history token = true

theorem faithful_empty : (empty : Channel Handler Note).Faithful where
  lawful := trivial
  numbered := rfl
  chained := rfl
  dispatching := rfl
  detaching _ := ⟨fun member => absurd member List.not_mem_nil,
    fun both => absurd both.1 List.not_mem_nil⟩

namespace Faithful

variable {channel : Channel Handler Note}

theorem mem_dispatching (faithful : channel.Faithful) (token : Token) :
    token ∈ channel.dispatching ↔ ∃ round ∈ rounds channel.history, token ∈ round.eligible := by
  rw [faithful.dispatching]
  simp

/-- A handler that may be called is not being dispatched. -/
theorem not_mem_dispatching (faithful : channel.Faithful) {token : Token}
    (member : token ∈ eligible channel.history) : token ∉ channel.dispatching := by
  intro taken
  obtain ⟨round, inProgress, inRound⟩ := (faithful.mem_dispatching token).mp taken
  exact not_mem_eligible_round member inProgress inRound

/-! ### Events that change no books -/

/-- Recording an event that neither attaches nor detaches a handler and neither begins nor ends a
dispatch. -/
theorem record (faithful : channel.Faithful) {event : Event Note}
    (admits : Admits channel.history event) (continues : Continues channel.history event)
    (attached : attachedTokens (event :: channel.history) = attachedTokens channel.history)
    (detached : isDetached (event :: channel.history) = isDetached channel.history)
    (began : (rounds (event :: channel.history)).map Round.past =
      (rounds channel.history).map Round.past) :
    (channel.record event).Faithful where
  lawful := ⟨admits, continues, faithful.lawful⟩
  numbered := attached.trans faithful.numbered
  chained := faithful.chained.trans (eligible_congr attached detached began).symm
  dispatching := by
    have same : (rounds (event :: channel.history)).map Round.eligible =
        (rounds channel.history).map Round.eligible := by
      have split : (Round.eligible : Round Note → List Token) = eligible ∘ Round.past := rfl
      rw [split, ← List.map_map, ← List.map_map, began]
    exact faithful.dispatching.trans (by rw [← same]; rfl)
  detaching token := by
    show token ∈ channel.detaching ↔ token ∈ channel.dispatching ∧
      isDetached (event :: channel.history) token = true
    rw [detached]
    exact faithful.detaching token

theorem record_quiet (faithful : channel.Faithful) {event : Event Note}
    (quiet : event.isQuiet = true) (continues : Continues channel.history event) :
    (channel.record event).Faithful := by
  cases event with
  | emitted | sunk | captured | switched | verifying | verified | noted =>
    exact faithful.record trivial continues rfl rfl rfl
  | _ => exact absurd quiet Bool.false_ne_true

/-! ### Attaching and detaching -/

theorem fresh (faithful : channel.Faithful) :
    (⟨channel.attachments⟩ : Token) ∉ attachedTokens channel.history := by
  rw [faithful.numbered]
  intro member
  obtain ⟨number, inRange, same⟩ := List.mem_map.mp member
  cases same
  exact Nat.lt_irrefl _ (List.mem_range.mp inRange)

theorem attach (faithful : channel.Faithful) (handler : Handler)
    (calm : Calm channel.history) : (channel.attach handler).2.Faithful where
  lawful := ⟨faithful.fresh, calm _, faithful.lawful⟩
  numbered := by
    show attachedTokens channel.history ++ [(⟨channel.attachments⟩ : Token)] =
      (List.range (channel.attachments + 1)).map Token.mk
    rw [faithful.numbered, List.range_succ, List.map_append, List.map_singleton]
  chained := by
    have kept : isDetached channel.history ⟨channel.attachments⟩ = false :=
      Bool.eq_false_iff.mpr fun gone => faithful.fresh (faithful.lawful.attached_of_isDetached gone)
    rw [Channel.attach, eligible_attached _ _ faithful.fresh kept, ← faithful.chained]
    exact List.map_append
  dispatching := faithful.dispatching
  detaching := faithful.detaching

theorem isChained_iff (faithful : channel.Faithful) (token : Token) :
    channel.isChained token = true ↔ token ∈ eligible channel.history := by
  rw [← faithful.chained, isChained]
  simp

/-- Detaching says whether the handler was attached and not detached before. -/
theorem detach_eq_true_iff (faithful : channel.Faithful) (token : Token) :
    (channel.detach token).1 = true ↔ token ∈ standing channel.history := by
  rw [mem_standing_iff, ← faithful.isChained_iff, ← faithful.mem_dispatching]
  have detaching := faithful.detaching token
  unfold detach
  by_cases chained : channel.isChained token = true
  · have kept := ((mem_standing _ _).mp ((mem_eligible _ _).mp
      ((faithful.isChained_iff token).mp chained)).1).2
    simp [chained, kept]
  · by_cases taken : token ∈ channel.dispatching
    · cases gone : isDetached channel.history token with
      | true =>
        have pending : token ∈ channel.detaching := detaching.mpr ⟨taken, gone⟩
        simp [chained, pending]
      | false =>
        have free : token ∉ channel.detaching := fun pending =>
          Bool.false_ne_true (gone.symm.trans (detaching.mp pending).2)
        simp [chained, taken, free]
    · simp [chained, taken]

theorem detach (faithful : channel.Faithful) (token : Token) (calm : Calm channel.history) :
    (channel.detach token).2.Faithful := by
  have truth := faithful.detach_eq_true_iff token
  unfold Channel.detach at truth ⊢
  by_cases chained : channel.isChained token = true
  · rw [if_pos chained] at truth ⊢
    have member := (faithful.isChained_iff token).mp chained
    refine ⟨⟨truth, calm _, faithful.lawful⟩, faithful.numbered, ?_, faithful.dispatching, ?_⟩
    · show (channel.chain.filter _).map Attached.token = eligible (.detached token true :: _)
      rw [eligible_detached, ← faithful.chained, List.filter_map]
      rfl
    · intro other
      refine (faithful.detaching other).trans ⟨fun both => ⟨both.1, ?_⟩, fun both => ⟨both.1, ?_⟩⟩
      · exact (isDetached_detached token other _).mpr (Or.inr both.2)
      · rcases (isDetached_detached token other _).mp both.2 with rfl | gone
        · exact absurd both.1 (faithful.not_mem_dispatching member)
        · exact gone
  · rw [if_neg chained] at truth ⊢
    by_cases pending :
        (channel.dispatching.contains token && !channel.detaching.contains token) = true
    · rw [if_pos pending] at truth ⊢
      have taken : token ∈ channel.dispatching := by simp at pending; exact pending.1
      refine ⟨⟨truth, calm _, faithful.lawful⟩, faithful.numbered, ?_, faithful.dispatching, ?_⟩
      · show channel.chain.map Attached.token = eligible (.detached token true :: _)
        rw [eligible_detached, faithful.chained]
        refine (List.filter_eq_self.mpr fun other member => ?_).symm
        have different : other ≠ token := by
          rintro rfl
          exact chained ((faithful.isChained_iff other).mpr member)
        simpa using different
      · intro other
        show other ∈ channel.detaching ++ [token] ↔ other ∈ channel.dispatching ∧
          isDetached (.detached token true :: channel.history) other = true
        rw [List.mem_append, List.mem_singleton, faithful.detaching other, isDetached_detached]
        constructor
        · rintro (both | rfl)
          · exact ⟨both.1, Or.inr both.2⟩
          · exact ⟨taken, Or.inl rfl⟩
        · rintro ⟨inDispatch, rfl | gone⟩
          · exact Or.inr rfl
          · exact Or.inl ⟨inDispatch, gone⟩
    · rw [if_neg pending] at truth ⊢
      exact faithful.record truth (calm _) rfl rfl rfl

/-! ### The steps of a dispatch -/

theorem takeChain (faithful : channel.Faithful) {diagnostic : Diagnostic}
    {before : List (Event Note)} (emitted : channel.history = .emitted diagnostic :: before) :
    (channel.takeChain.2.record (.dispatched diagnostic)).Faithful where
  lawful := ⟨⟨before, emitted⟩, by
    show Continues channel.history (.dispatched diagnostic)
    rw [emitted]
    exact Or.inl rfl, faithful.lawful⟩
  numbered := faithful.numbered
  chained := (eligible_dispatched diagnostic channel.history).symm
  dispatching := by
    show channel.dispatching ++ channel.chain.map Attached.token =
      (eligible channel.history :: (rounds channel.history).map Round.eligible).reverse.flatten
    rw [faithful.dispatching, faithful.chained, List.reverse_cons, List.flatten_append,
      List.flatten_singleton]
  detaching token := by
    show token ∈ channel.detaching ↔
      token ∈ channel.dispatching ++ channel.chain.map Attached.token ∧
        isDetached channel.history token = true
    rw [faithful.detaching token, faithful.chained, List.mem_append]
    constructor
    · exact fun both => ⟨Or.inl both.1, both.2⟩
    · rintro ⟨taken | inChain, gone⟩
      · exact ⟨taken, gone⟩
      · have kept := ((mem_standing _ _).mp ((mem_eligible _ _).mp inChain).1).2
        exact absurd (kept.symm.trans gone) Bool.false_ne_true

theorem call (faithful : channel.Faithful) {token : Token} {diagnostic : Diagnostic}
    (admits : Admits channel.history (.called token diagnostic)) (calm : Calm channel.history) :
    (channel.record (.called token diagnostic)).Faithful := by
  refine faithful.record admits (calm _) rfl rfl ?_
  obtain ⟨round, outer, _, found, _⟩ := admits
  rw [rounds_called found, found]
  rfl

theorem answer (faithful : channel.Faithful) {token : Token} (consumed : Bool)
    (admits : Admits channel.history (.answered token consumed)) (calm : Calm channel.history) :
    (channel.record (.answered token consumed)).Faithful := by
  refine faithful.record admits (calm _) rfl rfl ?_
  obtain ⟨round, outer, found, _⟩ := admits
  rw [rounds_answered found, found]
  rfl

theorem putBack (faithful : channel.Faithful) {diagnostic : Diagnostic} {consumed : Bool}
    {round : Round Note} {outer : List (Round Note)}
    (found : rounds channel.history = round :: outer)
    (admits : Admits channel.history (.settled diagnostic consumed))
    (calm : Calm channel.history) {returned : List (Attached Handler)}
    (same : returned.map Attached.token = round.eligible) :
    ((channel.putBack returned ((outer.map Round.eligible).reverse.flatten.length)).record
      (.settled diagnostic consumed)).Faithful := by
  have taken : channel.dispatching =
      (outer.map Round.eligible).reverse.flatten ++ round.eligible := by
    rw [faithful.dispatching, found, List.map_cons, List.reverse_cons, List.flatten_append,
      List.flatten_singleton]
  have left : channel.dispatching.take (outer.map Round.eligible).reverse.flatten.length =
      (outer.map Round.eligible).reverse.flatten := by
    rw [taken, List.take_left]
  refine ⟨⟨admits, calm _, faithful.lawful⟩, faithful.numbered, ?_, ?_, ?_⟩
  · show ((returned.filter _) ++ channel.chain).map Attached.token =
      eligible (.settled diagnostic consumed :: channel.history)
    rw [eligible_settled found faithful.lawful.nodup_attachedTokens, List.map_append,
      faithful.chained, ← same, List.filter_map]
    refine congrArg (fun front => List.map Attached.token front ++ eligible channel.history)
      (List.filter_congr fun attached member => ?_)
    have inRound : attached.token ∈ round.eligible := same ▸ List.mem_map_of_mem member
    have inDispatch : attached.token ∈ channel.dispatching :=
      taken ▸ List.mem_append_right _ inRound
    have detaching := faithful.detaching attached.token
    cases gone : isDetached channel.history attached.token with
    | true => simp [detaching.mpr ⟨inDispatch, gone⟩, gone]
    | false =>
      have free : attached.token ∉ channel.detaching := fun pending =>
        Bool.false_ne_true (gone.symm.trans (detaching.mp pending).2)
      simp [free, gone]
  · show channel.dispatching.take _ =
      ((rounds (.settled diagnostic consumed :: channel.history)).map
        Round.eligible).reverse.flatten
    rw [left, rounds_settled found]
  · intro token
    show token ∈ channel.detaching.filter _ ↔ token ∈ channel.dispatching.take _ ∧
      isDetached channel.history token = true
    have ours : (returned.any fun attached => attached.token = token) = true ↔
        token ∈ round.eligible := by
      rw [← same]
      simp
    rw [left, List.mem_filter, faithful.detaching token, taken, List.mem_append, Bool.not_eq_true',
      ← Bool.not_eq_true, ours]
    constructor
    · rintro ⟨⟨inOuter | inRound, gone⟩, notOurs⟩
      · exact ⟨inOuter, gone⟩
      · exact absurd inRound notOurs
    · rintro ⟨inOuter, gone⟩
      refine ⟨⟨Or.inl inOuter, gone⟩, fun inRound => ?_⟩
      obtain ⟨tokens, tokensMember, inTokens⟩ := List.mem_flatten.mp inOuter
      obtain ⟨other, otherMember, rfl⟩ := List.mem_map.mp (List.mem_reverse.mp tokensMember)
      exact not_mem_eligible_outer found inRound otherMember inTokens

end Faithful

end Channel

end Polyglot
