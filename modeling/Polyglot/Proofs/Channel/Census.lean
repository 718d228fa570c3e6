/-
This file tells how many handlers are counted. What is counted is the chain, and a dispatch takes
the chain out. So while handlers are called the count leaves out those that the dispatches in
progress have taken out, although detaching finds them all the same.

The handlers that are attached and not detached are those that were taken out, the outermost
dispatch first, and then those in the chain. Their number is told by counting events: each
attachment brings one more, and each detachment that succeeds takes one away.
-/

import Polyglot.Proofs.Channel.Reached

namespace Polyglot

open History

variable {Custom Handler Note : Type}

/-- Was a handler attached in this event? -/
def Event.isAttachment : Event Note → Bool
  | .attached _ => true
  | _ => false

/-- Was a handler detached in this event, with success? -/
def Event.isDetachment : Event Note → Bool
  | .detached _ true => true
  | _ => false

namespace History

/-- How many handlers were attached. -/
def arrivals (history : List (Event Note)) : Nat :=
  history.countP Event.isAttachment

/-- How many detachments succeeded. -/
def departures (history : List (Event Note)) : Nat :=
  history.countP Event.isDetachment

/-- The handlers that the dispatches in progress have taken out, the outermost first, and that were
not detached. -/
def engaged (history : List (Event Note)) : List Token :=
  ((rounds history).map Round.eligible).reverse.flatten.filter fun token =>
    !isDetached history token

theorem mem_engaged (history : List (Event Note)) (token : Token) :
    token ∈ engaged history ↔
      (∃ round ∈ rounds history, token ∈ round.eligible) ∧ isDetached history token = false := by
  simp [engaged, ← exists_and_right, and_assoc]

/-! ### Who stands where -/

/-- What the innermost dispatch has taken out comes behind what those around it have. -/
theorem engaged_eq {history : List (Event Note)} {round : Round Note} {outer : List (Round Note)}
    (found : rounds history = round :: outer) (consumed : Bool) :
    engaged history = engaged (.settled round.diagnostic consumed :: history) ++
      round.eligible.filter fun token => !isDetached history token := by
  rw [engaged, engaged, rounds_settled found, found, List.map_cons, List.reverse_cons,
    List.flatten_append, List.flatten_singleton, List.filter_append]
  rfl

/-- Each handler that stands is taken out or may be called now, in the order of attachment. -/
theorem standing_eq {history : List (Event Note)} (distinct : (attachedTokens history).Nodup) :
    standing history = engaged history ++ eligible history := by
  generalize depth : (rounds history).length = count
  induction count generalizing history with
  | zero =>
    have idle : rounds history = [] := List.length_eq_zero_iff.mp depth
    rw [eligible_of_idle idle, engaged, idle]
    rfl
  | succ count inductionHypothesis =>
    obtain ⟨round, outer, found⟩ := List.exists_cons_of_length_eq_add_one depth
    -- If the innermost dispatch ended, its handlers would be put back and the same ones would stand.
    let ended := Event.settled round.diagnostic false :: history
    have fewer : (rounds ended).length = count := by
      rw [found] at depth
      rw [rounds_settled found]
      exact Nat.succ.inj depth
    have sameThen : standing ended = engaged ended ++ eligible ended :=
      inductionHypothesis distinct fewer
    calc standing history = engaged ended ++ eligible ended := sameThen
      _ = engaged ended ++
          ((round.eligible.filter fun token => !isDetached history token) ++ eligible history) := by
        rw [eligible_settled found distinct]
      _ = engaged history ++ eligible history := by
        rw [engaged_eq found false, List.append_assoc]

/-! ### How many stand -/

/-- As many handlers stand as were attached and not detached: an attachment brings a new handler,
and a detachment that succeeds takes away one that was there. -/
theorem Lawful.length_standing {history : List (Event Note)} (lawful : Lawful history) :
    (standing history).length + departures history = arrivals history := by
  induction history with
  | nil => rfl
  | cons event past inductionHypothesis =>
    have counted := inductionHypothesis lawful.2.2
    cases event with
    | attached token =>
      have kept : isDetached past token = false :=
        Bool.eq_false_iff.mpr fun gone => lawful.1 (lawful.2.2.attached_of_isDetached gone)
      have one : arrivals (.attached token :: past) = arrivals past + 1 :=
        List.countP_cons_of_pos rfl
      have same : departures (.attached token :: past) = departures past :=
        List.countP_cons_of_neg Bool.false_ne_true
      rw [standing_attached kept, List.length_append, List.length_singleton, one, same, ← counted]
      exact Nat.add_right_comm _ _ _
    | detached token wasAttached =>
      cases wasAttached with
      | true =>
        have stood : token ∈ standing past := lawful.1.mp rfl
        have distinct : (standing past).Nodup := lawful.2.2.nodup_standing
        have one : departures (.detached token true :: past) = departures past + 1 :=
          List.countP_cons_of_pos rfl
        have same : arrivals (.detached token true :: past) = arrivals past :=
          List.countP_cons_of_neg Bool.false_ne_true
        have fewer : (standing (.detached token true :: past)).length + 1 =
            (standing past).length := by
          rw [standing_detached, ← List.length_erase_add_one stood, distinct.erase_eq_filter]
          simp [bne, Bool.beq_eq_decide_eq]
        rw [one, same, ← counted, ← fewer]
        omega
      | false => exact counted
    | _ => exact counted

end History

namespace Channel

/-- **How many handlers are counted.** At every moment at which a client may act, the handlers that
were attached and not detached are those that are counted and those that dispatches in progress
have taken out. The latter are attached by what detaching says. So the count is that of the
attachments without the detachments exactly if all that was taken out was detached, and at any
rate when no dispatch is in progress. -/
theorem Reached.size_accounted {channel : Channel Handler Note}
    (reached : Reached Custom channel) :
    channel.size + (engaged channel.history).length + departures channel.history =
      arrivals channel.history ∧
    (∀ token ∈ engaged channel.history, (channel.detach token).1 = true) ∧
    (channel.size + departures channel.history = arrivals channel.history ↔
      ∀ round ∈ rounds channel.history, ∀ token ∈ round.eligible,
        .detached token true ∈ channel.history) := by
  obtain ⟨faithful, _⟩ := reached.steady
  have size : channel.size = (eligible channel.history).length := by
    rw [← faithful.chained, List.length_map]
    rfl
  have counted := faithful.lawful.length_standing
  have parts := standing_eq faithful.lawful.nodup_attachedTokens
  rw [parts, List.length_append, ← size, Nat.add_comm (engaged _).length] at counted
  refine ⟨counted, fun token member => ?_, ?_⟩
  · rw [faithful.detach_eq_true_iff, parts]
    exact List.mem_append_left _ member
  · calc channel.size + departures channel.history = arrivals channel.history
        ↔ (engaged channel.history).length = 0 := by omega
      _ ↔ ∀ round ∈ rounds channel.history, ∀ token ∈ round.eligible,
          .detached token true ∈ channel.history := by
        rw [List.length_eq_zero_iff, List.eq_nil_iff_forall_not_mem]
        constructor
        · intro none round inProgress token member
          rw [← isDetached_iff, ← Bool.not_eq_false]
          exact fun kept => none token ((mem_engaged _ token).mpr ⟨⟨round, inProgress, member⟩, kept⟩)
        · intro gone token member
          obtain ⟨⟨round, inProgress, ours⟩, kept⟩ := (mem_engaged _ token).mp member
          exact Bool.false_ne_true
            (kept.symm.trans ((isDetached_iff _ token).mpr (gone round inProgress token ours)))

end Channel

namespace Plan

/-- A handler was attached. -/
def lonely : Channel Plan Unit := (Channel.empty.attach (.answer false)).2

/-- The handler hears something, and it is not counted meanwhile. -/
theorem uncounted_while_called : ∃ channel : Channel Plan Unit, channel.Reached Empty ∧
    arrivals channel.history = 1 ∧ departures channel.history = 0 ∧ channel.size = 0 := by
  have ran : (Plan.attach (.answer false) (.answer false)).outcome? 0 = some (false, lonely) := rfl
  have called : (Channel.callEach (conduct.calling ⟨.ofLoader 0 Loader.empty, .empty⟩ 0)
      (remark "once") []).run (lonely.beginDispatch (remark "once")) =
        some ((false, []), lonely.beginDispatch (remark "once")) := rfl
  exact ⟨_, .called (reached ran) rfl rfl called, rfl, rfl, rfl⟩

/-- Three handlers were attached. -/
def trio : Channel Plan Unit := ((lonely.attach (.answer false)).2.attach (.answer false)).2

/-- The first of them has heard something, and the second one hears it. -/
def midway : Channel Plan Unit :=
  (((trio.beginDispatch (remark "outer")).record (.called ⟨0⟩ (remark "outer"))).record
    (.answered ⟨0⟩ false)).record (.called ⟨1⟩ (remark "outer"))

/-- The second handler detaches the first and attaches a fourth. -/
def replaced : Channel Plan Unit := ((midway.detach ⟨0⟩).2.attach (.answer false)).2

/-- Then it emits, and the fourth hears that. -/
def inmost : Channel Plan Unit :=
  (replaced.beginDispatch (remark "inner")).record (.called ⟨3⟩ (remark "inner"))

/-- None of the three handlers that are attached is counted. -/
theorem size_accounted_inmost : inmost.Reached Empty ∧ (rounds inmost.history).length = 2 ∧
    inmost.size = 0 ∧ engaged inmost.history = [⟨1⟩, ⟨2⟩, ⟨3⟩] ∧
    arrivals inmost.history = 4 ∧ departures inmost.history = 1 ∧
    inmost.size + 3 + departures inmost.history = arrivals inmost.history ∧
    (inmost.detach ⟨2⟩).1 = true ∧
    ¬∀ round ∈ rounds inmost.history, ∀ token ∈ round.eligible,
      .detached token true ∈ inmost.history := by
  let workspace : Workspace Empty := ⟨.ofLoader 0 Loader.empty, .empty⟩
  have attached : (Plan.attach (.answer false) (.attach (.answer false) (.attach (.answer false)
      (.answer false)))).outcome? 0 = some (false, trio) := rfl
  have split : trio.chain =
    [⟨⟨0⟩, .answer false⟩] ++ ⟨⟨1⟩, .answer false⟩ :: [⟨⟨2⟩, .answer false⟩] := rfl
  have first : (Channel.callEach (conduct.calling workspace 0) (remark "outer")
      [⟨⟨0⟩, .answer false⟩]).run (trio.beginDispatch (remark "outer")) =
        some ((false, [⟨⟨0⟩, .answer false⟩]),
          ((trio.beginDispatch (remark "outer")).record (.called ⟨0⟩ (remark "outer"))).record
            (.answered ⟨0⟩ false)) := rfl
  have acted : conduct.run workspace 0 (Plan.detach ⟨0⟩ (.attach (.answer false)
      (.answer false))).visit midway = some (false, replaced) := rfl
  have inner : (Channel.callEach (conduct.calling workspace 0) (remark "inner") []).run
      (replaced.beginDispatch (remark "inner")) =
        some ((false, []), replaced.beginDispatch (remark "inner")) := rfl
  have midwayReached : midway.Reached Empty := .called (reached attached) rfl split first
  have inmostReached : inmost.Reached Empty := .called (.visited midwayReached acted) rfl rfl inner
  have engagedThree : engaged inmost.history = [⟨1⟩, ⟨2⟩, ⟨3⟩] := by decide +kernel
  obtain ⟨counted, found, exactly⟩ := inmostReached.size_accounted
  rw [engagedThree] at counted found
  exact ⟨inmostReached, rfl, rfl, engagedThree, rfl, rfl, counted, found _ (by decide),
    fun gone => absurd (exactly.mpr gone) (by decide)⟩

end Plan

end Polyglot
