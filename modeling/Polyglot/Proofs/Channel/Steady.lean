/-
This file proves that whatever clients do on a channel keeps it steady: faithful to its history,
and with no emission waiting for its dispatch. It also leaves the dispatches in progress as they
were, because each dispatch that begins inside ends inside.

The proof follows how a visit is run. A handler keeps the channel steady if it does so while
calls nest one level less deep; then a dispatch does, whose loop calls handler after handler;
then an emission, a verification and a whole visit do. What an emission consists of, step by step,
is stated before, whatever the handlers keep.
-/

import Polyglot.Proofs.Channel.Faithful
import Polyglot.Visit.Run

namespace Polyglot

open History

variable {Custom Handler Note Result Other : Type}

/-- The channel is faithful to its history, and anything may happen next. -/
structure Channel.Steady (channel : Channel Handler Note) : Prop where
  faithful : channel.Faithful
  calm : Calm channel.history

/-- The action leaves a steady channel steady, and leaves the dispatches in progress alone. -/
def Keeps (action : Turn Handler Note Result) : Prop :=
  ∀ before result after, before.Steady → action.run before = some (result, after) →
    after.Steady ∧ rounds after.history = rounds before.history

/-! ### Single actions -/

theorem run_bind_eq_some {action : Turn Handler Note Result}
    {next : Result → Turn Handler Note Other} {before after : Channel Handler Note}
    {other : Other} (ran : (action >>= next).run before = some (other, after)) :
    ∃ result between, action.run before = some (result, between) ∧
      (next result).run between = some (other, after) := by
  rw [StateT.run_bind] at ran
  obtain ⟨⟨result, between⟩, first, second⟩ := Option.bind_eq_some_iff.mp ran
  exact ⟨result, between, first, second⟩

/-- Once the first of two actions has run, the second goes on from there. -/
theorem run_bind_of_eq_some {action : Turn Handler Note Result}
    {next : Result → Turn Handler Note Other} {before between : Channel Handler Note}
    {result : Result} (ran : action.run before = some (result, between)) :
    (action >>= next).run before = (next result).run between := by
  rw [StateT.run_bind, ran]
  rfl

theorem keeps_pure (result : Result) : Keeps (pure result : Turn Handler Note Result) := by
  intro before other after steady ran
  cases ran
  exact ⟨steady, rfl⟩

theorem Keeps.bind {action : Turn Handler Note Result} {next : Result → Turn Handler Note Other}
    (first : Keeps action) (second : ∀ result, Keeps (next result)) : Keeps (action >>= next) := by
  intro before other after steady ran
  obtain ⟨result, between, ranFirst, ranSecond⟩ := run_bind_eq_some ran
  obtain ⟨steadyBetween, sameFirst⟩ := first before result between steady ranFirst
  obtain ⟨steadyAfter, sameSecond⟩ := second result between other after steadyBetween ranSecond
  exact ⟨steadyAfter, sameSecond.trans sameFirst⟩

/-- Reading the channel changes nothing, and what follows may rely on what it was. -/
theorem keeps_get_bind {next : Channel Handler Note → Turn Handler Note Result}
    (second : ∀ channel, Keeps (next channel)) : Keeps (get >>= next) := by
  intro before result after steady ran
  exact second before before result after steady ran

theorem keeps_failure : Keeps (failure : Turn Handler Note Result) := by
  intro before result after steady ran
  cases ran

theorem keeps_modifyGet {change : Channel Handler Note → Result × Channel Handler Note}
    (keeps : ∀ before : Channel Handler Note, before.Steady → (change before).2.Steady ∧
      rounds (change before).2.history = rounds before.history) :
    Keeps (modifyGet change : Turn Handler Note Result) := by
  intro before result after steady ran
  obtain rfl : (change before).2 = after := congrArg Prod.snd (Option.some.inj ran)
  exact keeps before steady

theorem keeps_modify {change : Channel Handler Note → Channel Handler Note}
    (keeps : ∀ before : Channel Handler Note, before.Steady → (change before).Steady ∧
      rounds (change before).history = rounds before.history) :
    Keeps (modify change : Turn Handler Note PUnit) :=
  keeps_modifyGet keeps

namespace Channel

/-- The history says what a detachment answered. -/
theorem history_detach (channel : Channel Handler Note) (token : Token) :
    (channel.detach token).2.history =
      .detached token (channel.detach token).1 :: channel.history := by
  unfold Channel.detach
  split
  · rfl
  · split <;> rfl

theorem steady_empty : (empty : Channel Handler Note).Steady :=
  ⟨faithful_empty, fun _ => trivial⟩

namespace Steady

variable {channel : Channel Handler Note}

theorem record_quiet (steady : channel.Steady) {event : Event Note} (quiet : event.isQuiet = true)
    (other : event.isEmission = false) :
    (channel.record event).Steady ∧
      rounds (channel.record event).history = rounds channel.history := by
  refine ⟨⟨steady.faithful.record_quiet quiet (steady.calm event), calm_cons _ other⟩, ?_⟩
  cases event <;> first | rfl | exact absurd quiet Bool.false_ne_true

theorem attach (steady : channel.Steady) (handler : Handler) :
    (channel.attach handler).2.Steady ∧
      rounds (channel.attach handler).2.history = rounds channel.history :=
  ⟨⟨steady.faithful.attach handler steady.calm,
    calm_cons _ rfl⟩, rfl⟩

theorem detach (steady : channel.Steady) (token : Token) :
    (channel.detach token).2.Steady ∧
      rounds (channel.detach token).2.history = rounds channel.history := by
  have latest := channel.history_detach token
  refine ⟨⟨steady.faithful.detach token steady.calm, ?_⟩, ?_⟩
  · rw [latest]
    exact calm_cons _ rfl
  · rw [latest]
    rfl

/-- What becomes of the capture scopes does not matter. -/
theorem withScopes (steady : channel.Steady) (scopes : List (List Diagnostic)) :
    { channel with scopes := scopes }.Steady :=
  ⟨⟨steady.faithful.lawful, steady.faithful.numbered, steady.faithful.chained,
    steady.faithful.dispatching, steady.faithful.detaching⟩, steady.calm⟩

theorem setEmitsErrors (steady : channel.Steady) (choice : Bool) :
    (channel.setEmitsErrors choice).Steady ∧
      rounds (channel.setEmitsErrors choice).history = rounds channel.history := by
  have switched : (channel.record (.switched choice)).Steady ∧ _ := steady.record_quiet rfl rfl
  obtain ⟨recorded, same⟩ := switched
  exact ⟨⟨⟨recorded.faithful.lawful, recorded.faithful.numbered, recorded.faithful.chained,
    recorded.faithful.dispatching, recorded.faithful.detaching⟩, recorded.calm⟩, same⟩

theorem capture (steady : channel.Steady) (diagnostic : Diagnostic) :
    (channel.capture diagnostic).Steady ∧
      rounds (channel.capture diagnostic).history = rounds channel.history := by
  unfold Channel.capture
  split
  · exact ⟨steady, rfl⟩
  · have captured : (channel.record (.captured diagnostic)).Steady ∧ _ :=
      steady.record_quiet rfl rfl
    obtain ⟨recorded, same⟩ := captured
    exact ⟨recorded.withScopes _, same⟩

end Steady

end Channel

/-! ### The course of an emission -/

namespace Channel

variable {call : Call Handler Note Option}

/-- Does the innermost capture scope take the diagnostic before any handler sees it? -/
def diverts (channel : Channel Handler Note) (diagnostic : Diagnostic) : Bool :=
  diagnostic.isError && channel.isCapturing && !channel.emitsErrors

/-- The channel when a diagnostic was emitted and its dispatch has just begun. -/
def beginDispatch (channel : Channel Handler Note) (diagnostic : Diagnostic) :
    Channel Handler Note :=
  (channel.record (.emitted diagnostic)).takeChain.2.record (.dispatched diagnostic)

/-- The channel when nobody has consumed the diagnostic: the default sink gets it if errors are
emitted, and the innermost capture scope if it is an error. -/
def passOver (channel : Channel Handler Note) (emits : Bool) (diagnostic : Diagnostic) :
    Channel Handler Note :=
  let sunk := if emits then channel.record (.sunk diagnostic) else channel
  if diagnostic.isError then sunk.capture diagnostic else sunk

/-- The first handler is called and answers; unless it consumes the diagnostic, the others are
called in turn. -/
theorem callEach_cons_eq_some {diagnostic : Diagnostic} {first : Attached Handler}
    {others returned : List (Attached Handler)} {before after : Channel Handler Note}
    {consumed : Bool} (ran : (callEach call diagnostic (first :: others)).run before =
      some ((consumed, returned), after)) :
    ∃ consumes handler between,
      (call first.handler diagnostic).run (before.record (.called first.token diagnostic)) =
        some ((consumes, handler), between) ∧
      (consumes = true ∧ consumed = true ∧ returned = ⟨first.token, handler⟩ :: others ∧
          after = between.record (.answered first.token true) ∨
        consumes = false ∧ ∃ remaining, returned = ⟨first.token, handler⟩ :: remaining ∧
          (callEach call diagnostic others).run (between.record (.answered first.token false)) =
            some ((consumed, remaining), after)) := by
  obtain ⟨_, _, ranCalled, ranRest⟩ := run_bind_eq_some ran
  cases ranCalled
  obtain ⟨⟨consumes, handler⟩, between, ranCall, ranRest⟩ := run_bind_eq_some ranRest
  obtain ⟨_, _, ranAnswered, ranRest⟩ := run_bind_eq_some ranRest
  cases ranAnswered
  refine ⟨consumes, handler, between, ranCall, ?_⟩
  cases consumes with
  | true =>
    cases ranRest
    exact .inl ⟨rfl, rfl, rfl, rfl⟩
  | false =>
    obtain ⟨⟨later, remaining⟩, _, ranOthers, ranRest⟩ := run_bind_eq_some ranRest
    cases ranRest
    exact .inr ⟨rfl, remaining, rfl, ranOthers⟩

/-- The handlers are taken out, called in turn, and put back. -/
theorem dispatch_eq_some {diagnostic : Diagnostic} {before after : Channel Handler Note}
    {consumed : Bool} (ran : (dispatch call diagnostic).run (before.record (.emitted diagnostic)) =
      some (consumed, after)) :
    ∃ returned between, (callEach call diagnostic before.chain).run
        (before.beginDispatch diagnostic) = some ((consumed, returned), between) ∧
      after = (between.putBack returned before.dispatching.length).record
        (.settled diagnostic consumed) := by
  obtain ⟨_, _, ranGet, ranRest⟩ := run_bind_eq_some ran
  cases ranGet
  obtain ⟨_, _, ranSet, ranRest⟩ := run_bind_eq_some ranRest
  cases ranSet
  obtain ⟨⟨answer, returned⟩, between, ranCalls, ranRest⟩ := run_bind_eq_some ranRest
  obtain ⟨_, _, ranPutBack, ranRest⟩ := run_bind_eq_some ranRest
  cases ranPutBack
  cases ranRest
  exact ⟨returned, between, ranCalls, rfl⟩

/-- A diagnostic is captured at once or dispatched, and passed over if nobody consumes it. -/
theorem emit_eq_some {diagnostic : Diagnostic} {before after : Channel Handler Note} {result : Unit}
    (ran : (emit call diagnostic).run before = some (result, after)) :
    before.diverts diagnostic = true ∧
        after = (before.record (.emitted diagnostic)).capture diagnostic ∨
      before.diverts diagnostic = false ∧ ∃ consumed settled,
        (dispatch call diagnostic).run (before.record (.emitted diagnostic)) =
          some (consumed, settled) ∧
        after = if consumed then settled else settled.passOver before.emitsErrors diagnostic := by
  obtain ⟨_, _, ranGet, ranRest⟩ := run_bind_eq_some ran
  cases ranGet
  obtain ⟨_, _, ranSet, ranRest⟩ := run_bind_eq_some ranRest
  cases ranSet
  cases diverted : before.diverts diagnostic with
  | true =>
    rw [diverts] at diverted
    rw [if_pos diverted] at ranRest
    cases ranRest
    exact .inl ⟨rfl, rfl⟩
  | false =>
    rw [diverts] at diverted
    rw [if_neg (Bool.eq_false_iff.mp diverted)] at ranRest
    obtain ⟨consumed, settled, ranDispatch, ranRest⟩ := run_bind_eq_some ranRest
    refine .inr ⟨rfl, consumed, settled, ranDispatch, ?_⟩
    cases consumed with
    | true =>
      cases ranRest
      rfl
    | false =>
      rw [passOver]
      cases choice : before.emitsErrors <;> cases isError : diagnostic.isError <;>
        (rw [choice, isError] at ranRest; cases ranRest; rfl)

end Channel

/-! ### Dispatches -/

/-- The dispatch is between two calls, none of its handlers has consumed the diagnostic, and these
are to be called next. -/
structure Round.Ready (round : Round Note) (waiting : List Token) : Prop where
  idle : round.calling = none
  unconsumed : round.consumer? = none
  next : round.eligible = round.called ++ waiting

namespace Round

theorem consumer?_answer (round : Round Note) (token : Token) (consumed : Bool)
    (unconsumed : round.consumer? = none) :
    (round.answer token consumed).consumer? = if consumed then some token else none := by
  have quiet := (consumer?_eq_none_iff round).mp unconsumed
  have none : round.answered.find? Prod.snd = none :=
    List.find?_eq_none.mpr fun entry member => by simp [quiet entry member]
  rw [consumer?, answer, List.find?_append, none]
  cases consumed <;> rfl

/-- After the first handler has answered and not consumed, the others are to be called next. -/
theorem Ready.answer {round : Round Note} {token : Token} {waiting : List Token}
    (ready : round.Ready (token :: waiting)) :
    ((round.call token).answer token false).Ready waiting := by
  refine ⟨rfl, consumer?_answer (round.call token) token false ready.unconsumed, ?_⟩
  have called : ((round.call token).answer token false).called = round.called ++ [token] := by
    rw [called_answer rfl, called_eq_of_calling_none ready.idle]
    rfl
  rw [called, List.append_assoc]
  exact ready.next

end Round

namespace Channel

variable {call : Call Handler Note Option}

/-- What calling handlers in turn makes of a dispatch in progress: it is between two calls, and
either some handler has consumed the diagnostic or the handlers that were not handed over are to
be called next. -/
structure Called (round : Round Note) (outer : List (Round Note)) (rest : List Token)
    (consumed : Bool) (after : Channel Handler Note) (final : Round Note) : Prop where
  steady : after.Steady
  found : rounds after.history = final :: outer
  diagnostic : final.diagnostic = round.diagnostic
  past : final.past = round.past
  idle : final.calling = none
  consumed_eq : consumed = final.consumer?.isSome
  ready : consumed = false → final.Ready rest

/-- The dispatch calls its next handler. -/
theorem Steady.beginCall {before : Channel Handler Note} (steady : before.Steady)
    {round : Round Note} {outer : List (Round Note)}
    (found : rounds before.history = round :: outer) {token : Token} {waiting : List Token}
    (ready : round.Ready (token :: waiting)) :
    (before.record (.called token round.diagnostic)).Steady :=
  ⟨steady.faithful.call ⟨round, outer, waiting, found, rfl, ready.idle, ready.unconsumed,
    ready.next⟩ steady.calm, calm_cons _ rfl⟩

/-- The handler that was called acts, leaves the dispatches in progress as they were, and then
answers. -/
theorem Steady.answered {action : Turn Handler Note (Bool × Handler)} (keeps : Keeps action)
    {before between : Channel Handler Note} (steady : before.Steady) {round : Round Note}
    {outer : List (Round Note)} (found : rounds before.history = round :: outer) {token : Token}
    {waiting : List Token} (ready : round.Ready (token :: waiting)) {consumed : Bool}
    {handler : Handler} (ran : action.run (before.record (.called token round.diagnostic)) =
      some ((consumed, handler), between)) :
    (between.record (.answered token consumed)).Steady ∧
      rounds (between.record (.answered token consumed)).history =
        (round.call token).answer token consumed :: outer := by
  obtain ⟨acted, same⟩ := keeps _ _ _ (steady.beginCall found ready) ran
  have calling := same.trans (rounds_called found token round.diagnostic)
  exact ⟨⟨acted.faithful.answer consumed ⟨_, outer, calling, rfl⟩ acted.calm, calm_cons _ rfl⟩,
    rounds_answered calling token consumed⟩

theorem called_callEach (keeps : ∀ handler diagnostic, Keeps (call handler diagnostic))
    (handed : List (Attached Handler)) (rest : List Token) (outer : List (Round Note)) :
    ∀ (round : Round Note) (before : Channel Handler Note), before.Steady →
      rounds before.history = round :: outer →
      round.Ready (handed.map Attached.token ++ rest) →
      ∀ consumed returned after,
        (callEach call round.diagnostic handed).run before = some ((consumed, returned), after) →
        returned.map Attached.token = handed.map Attached.token ∧
          ∃ final, Called round outer rest consumed after final := by
  induction handed with
  | nil =>
    intro round before steady found ready consumed returned after ran
    cases ran
    exact ⟨rfl, round, steady, found, rfl, rfl, ready.idle, by rw [ready.unconsumed]; rfl,
      fun _ => ready⟩
  | cons first others inductionHypothesis =>
    intro round before steady found ready consumed returned after ran
    obtain ⟨consumes, handler, between, ranCall, goesOn⟩ := callEach_cons_eq_some ran
    obtain ⟨answeredSteady, answeredFound⟩ :=
      steady.answered (keeps first.handler round.diagnostic) found ready ranCall
    rcases goesOn with ⟨rfl, rfl, rfl, rfl⟩ | ⟨rfl, remaining, rfl, ranOthers⟩
    · have consumer : ((round.call first.token).answer first.token true).consumer? =
          some first.token := Round.consumer?_answer (round.call first.token) _ _ ready.unconsumed
      exact ⟨rfl, _, answeredSteady, answeredFound, rfl, rfl, rfl, by rw [consumer]; rfl,
        fun unconsumed => absurd unconsumed (Ne.symm Bool.false_ne_true)⟩
    · obtain ⟨sameTokens, final, result⟩ := inductionHypothesis
        ((round.call first.token).answer first.token false) _ answeredSteady answeredFound
        (Round.Ready.answer ready) _ _ _ ranOthers
      refine ⟨?_, final, result.steady, result.found, result.diagnostic, result.past, result.idle,
        result.consumed_eq, result.ready⟩
      rw [List.map_cons, List.map_cons, sameTokens]

/-- The round that begins when a diagnostic is emitted and not diverted. -/
def firstRound (channel : Channel Handler Note) (diagnostic : Diagnostic) : Round Note :=
  ⟨diagnostic, .emitted diagnostic :: channel.history, [], none⟩

theorem rounds_beginDispatch (channel : Channel Handler Note) (diagnostic : Diagnostic) :
    rounds (channel.beginDispatch diagnostic).history =
      channel.firstRound diagnostic :: rounds channel.history := rfl

namespace Steady

variable {channel : Channel Handler Note} (steady : channel.Steady)
include steady

theorem emitted (diagnostic : Diagnostic) :
    (channel.record (.emitted diagnostic)).Faithful :=
  steady.faithful.record_quiet rfl (steady.calm _)

theorem beginDispatch (diagnostic : Diagnostic) : (channel.beginDispatch diagnostic).Steady :=
  ⟨(steady.emitted diagnostic).takeChain rfl, calm_cons _ rfl⟩

theorem ready_firstRound (diagnostic : Diagnostic) :
    (channel.firstRound diagnostic).Ready (channel.chain.map Attached.token) :=
  ⟨rfl, rfl, (steady.emitted diagnostic).chained.symm⟩

end Steady

/-- Calling the first handlers of the chain, after a dispatch has begun on a steady channel. -/
theorem Steady.called_begun (keeps : ∀ handler diagnostic, Keeps (call handler diagnostic))
    {diagnostic : Diagnostic} {before between : Channel Handler Note} (steady : before.Steady)
    {front back returned : List (Attached Handler)} (split : before.chain = front ++ back)
    {consumed : Bool} (ran : (callEach call diagnostic front).run
      (before.beginDispatch diagnostic) = some ((consumed, returned), between)) :
    returned.map Attached.token = front.map Attached.token ∧
      ∃ final, Called (before.firstRound diagnostic) (rounds before.history)
        (back.map Attached.token) consumed between final := by
  have ready := steady.ready_firstRound diagnostic
  rw [split, List.map_append] at ready
  exact called_callEach keeps front (back.map Attached.token) (rounds before.history)
    (before.firstRound diagnostic) (before.beginDispatch diagnostic)
    (steady.beginDispatch diagnostic) (rounds_beginDispatch before diagnostic) ready consumed
    returned between ran

theorem steady_dispatch (keeps : ∀ handler diagnostic, Keeps (call handler diagnostic))
    {diagnostic : Diagnostic} {before after : Channel Handler Note} {consumed : Bool}
    (steady : before.Steady)
    (ran : (dispatch call diagnostic).run (before.record (.emitted diagnostic)) =
      some (consumed, after)) :
    after.Steady ∧ rounds after.history = rounds before.history := by
  obtain ⟨returned, between, ranCalls, rfl⟩ := dispatch_eq_some ran
  obtain ⟨same, final, result⟩ :=
    steady.called_begun keeps (List.append_nil before.chain).symm ranCalls
  have eligible : final.eligible = before.chain.map Attached.token := by
    rw [Round.eligible, result.past]
    exact (steady.emitted diagnostic).chained.symm
  have complete (unconsumed : final.consumer? = none) : final.called = final.eligible := by
    have ready := result.ready (by rw [result.consumed_eq, unconsumed]; rfl)
    rw [ready.next, List.map_nil, List.append_nil]
  have length : before.dispatching.length =
      ((rounds before.history).map Round.eligible).reverse.flatten.length := by
    rw [steady.faithful.dispatching]
  refine ⟨⟨?_, calm_cons _ rfl⟩, ?_⟩
  · show ((between.putBack returned before.dispatching.length).record _).Faithful
    rw [length]
    exact result.steady.faithful.putBack result.found
      ⟨final, _, result.found, result.diagnostic, result.idle, result.consumed_eq, complete⟩
      result.steady.calm (same.trans eligible.symm)
  · exact rounds_settled result.found diagnostic consumed

/-- An error that is diverted is captured right after it was emitted. -/
theorem Steady.divert {channel : Channel Handler Note} (steady : channel.Steady)
    {diagnostic : Diagnostic} (diverted : channel.diverts diagnostic = true) :
    ((channel.record (.emitted diagnostic)).capture diagnostic).Steady ∧
      rounds ((channel.record (.emitted diagnostic)).capture diagnostic).history =
        rounds channel.history := by
  rw [diverts, Bool.and_eq_true, Bool.and_eq_true] at diverted
  obtain ⟨⟨isError, capturing⟩, _⟩ := diverted
  cases found : channel.scopes with
  | nil => simp [isCapturing, found] at capturing
  | cons scope outer =>
    have captured : ((channel.record (.emitted diagnostic)).record
        (.captured diagnostic)).Steady :=
      ⟨(steady.emitted diagnostic).record_quiet rfl (Or.inr ⟨rfl, isError⟩), calm_cons _ rfl⟩
    have same : (channel.record (.emitted diagnostic)).capture diagnostic =
        { (channel.record (.emitted diagnostic)).record (.captured diagnostic) with
          scopes := (scope ++ [diagnostic]) :: outer } := by
      unfold Channel.capture
      rw [show (channel.record (.emitted diagnostic)).scopes = scope :: outer from found]
      rfl
    rw [same]
    exact ⟨captured.withScopes _, rfl⟩

theorem Steady.passOver {channel : Channel Handler Note} (steady : channel.Steady) (emits : Bool)
    (diagnostic : Diagnostic) : (channel.passOver emits diagnostic).Steady ∧
      rounds (channel.passOver emits diagnostic).history = rounds channel.history := by
  have captures {there : Channel Handler Note} (steadyThere : there.Steady) :
      (if diagnostic.isError then there.capture diagnostic else there).Steady ∧
        rounds (if diagnostic.isError then there.capture diagnostic else there).history =
          rounds there.history := by
    cases diagnostic.isError with
    | true => exact steadyThere.capture diagnostic
    | false => exact ⟨steadyThere, rfl⟩
  cases emits with
  | true => exact captures (steady.record_quiet rfl rfl).1
  | false => exact captures steady

theorem keeps_emit (keeps : ∀ handler diagnostic, Keeps (call handler diagnostic))
    (diagnostic : Diagnostic) : Keeps (emit call diagnostic) := by
  intro before result after steady ran
  rcases emit_eq_some ran with ⟨diverted, rfl⟩ | ⟨_, consumed, settled, ranDispatch, rfl⟩
  · exact steady.divert diverted
  · obtain ⟨steadySettled, sameSettled⟩ := steady_dispatch keeps steady ranDispatch
    cases consumed with
    | true => exact ⟨steadySettled, sameSettled⟩
    | false =>
      obtain ⟨steadyAfter, sameAfter⟩ := steadySettled.passOver before.emitsErrors diagnostic
      exact ⟨steadyAfter, sameAfter.trans sameSettled⟩

end Channel

/-! ### Verifications and visits -/

theorem keeps_endVerification (ref : OpRef) :
    Keeps (endVerification ref : Turn Handler Note (List Diagnostic)) := by
  refine (keeps_modifyGet fun before steady => ?_).bind fun captured =>
    (keeps_modify fun before steady => steady.record_quiet rfl rfl).bind fun _ =>
      keeps_pure captured
  exact ⟨steady.withScopes _, rfl⟩

/-- A verification begins in a capture scope of its own. -/
theorem Channel.Steady.beginVerification {channel : Channel Handler Note} (steady : channel.Steady)
    (ref : OpRef) : ((channel.record (.verifying ref)).openScope).Steady ∧
      rounds ((channel.record (.verifying ref)).openScope).history = rounds channel.history := by
  have verifying : (channel.record (.verifying ref)).Steady ∧ _ := steady.record_quiet rfl rfl
  exact ⟨verifying.1.withScopes _, verifying.2⟩

theorem keeps_verifyWith {emit : Diagnostic → Turn Handler Note Unit}
    (keepsEmit : ∀ diagnostic, Keeps (emit diagnostic)) {examine : Turn Handler Note Verdict}
    (keepsExamine : Keeps examine) (ref : OpRef) : Keeps (verifyWith emit examine ref) := by
  refine (keeps_modify fun before steady => steady.beginVerification ref).bind fun _ =>
    keepsExamine.bind fun verdict => ?_
  cases verdict with
  | accepted => exact (keeps_endVerification ref).bind fun _ => keeps_pure _
  | rejected error =>
    exact (keepsEmit _).bind fun _ => (keeps_endVerification ref).bind fun _ => keeps_pure _
  | brokenOff fault => exact keeps_pure _

/-- Whatever is done for a visit keeps the channel steady. -/
structure Service.Keeping (service : Service Custom Handler Note) : Prop where
  emit : ∀ diagnostic, Keeps (service.emit diagnostic)
  verify : ∀ ref, Keeps (service.verify ref)
  check : ∀ schema operation, Keeps (service.check schema operation)

theorem keeps_play {service : Service Custom Handler Note} (keeping : service.Keeping)
    (workspace : Workspace Custom) (visit : Visit Custom Handler Note Result) :
    Keeps (visit.play workspace service) := by
  induction visit with
  | done result => exact keeps_pure result
  | look next inductionHypothesis => exact inductionHypothesis _
  | remember next inductionHypothesis =>
    exact keeps_get_bind fun channel => inductionHypothesis channel.history
  | note entry next inductionHypothesis =>
    exact (keeps_modify fun before steady => steady.record_quiet rfl rfl).bind fun _ =>
      inductionHypothesis
  | attach handler next inductionHypothesis =>
    exact (keeps_modifyGet fun before steady => steady.attach handler).bind inductionHypothesis
  | detach token next inductionHypothesis =>
    exact (keeps_modifyGet fun before steady => steady.detach token).bind inductionHypothesis
  | count next inductionHypothesis =>
    exact keeps_get_bind fun channel => inductionHypothesis channel.size
  | emit diagnostic next inductionHypothesis =>
    exact (keeping.emit diagnostic).bind fun _ => inductionHypothesis
  | emitsErrors next inductionHypothesis =>
    exact keeps_get_bind fun channel => inductionHypothesis channel.emitsErrors
  | setEmitsErrors choice next inductionHypothesis =>
    exact (keeps_modify fun before steady => steady.setEmitsErrors choice).bind fun _ =>
      inductionHypothesis
  | verify ref next inductionHypothesis =>
    exact (keeping.verify ref).bind inductionHypothesis
  | check schema operation next inductionHypothesis =>
    exact (keeping.check schema operation).bind inductionHypothesis

/-- How the handlers of a visit are called, with calls nested up to a depth. -/
def Conduct.calling (conduct : Conduct Custom Handler Note) (workspace : Workspace Custom)
    (depth : Nat) : Call Handler Note Option :=
  fun handler diagnostic =>
    (conduct.react handler diagnostic).play workspace (conduct.service workspace depth)

theorem Conduct.emit_service (conduct : Conduct Custom Handler Note)
    (workspace : Workspace Custom) (depth : Nat) :
    (conduct.service workspace (depth + 1)).emit =
      Channel.emit (conduct.calling workspace depth) := rfl

theorem keeping_service (conduct : Conduct Custom Handler Note) (workspace : Workspace Custom)
    (depth : Nat) : (conduct.service workspace depth).Keeping := by
  induction depth with
  | zero =>
    exact ⟨fun _ => keeps_failure, fun _ => keeps_failure, fun _ _ => keeps_failure⟩
  | succ depth inductionHypothesis =>
    refine ⟨fun diagnostic => ?_, fun ref => ?_, fun schema operation => ?_⟩
    · rw [Conduct.emit_service]
      exact Channel.keeps_emit (fun _ _ => keeps_play inductionHypothesis workspace _) diagnostic
    · rw [Conduct.service]
      dsimp only
      split
      · exact keeps_pure _
      · exact keeps_verifyWith inductionHypothesis.emit
          (keeps_play inductionHypothesis workspace _) ref
    · exact keeps_play inductionHypothesis workspace _

theorem keeps_calling (conduct : Conduct Custom Handler Note) (workspace : Workspace Custom)
    (depth : Nat) (handler : Handler) (diagnostic : Diagnostic) :
    Keeps (conduct.calling workspace depth handler diagnostic) :=
  keeps_play (keeping_service conduct workspace depth) workspace _

/-- A visit from outside keeps the channel steady. -/
theorem Channel.Steady.run {channel after : Channel Handler Note} (steady : channel.Steady)
    {conduct : Conduct Custom Handler Note} {workspace : Workspace Custom} {depth : Nat}
    {visit : Visit Custom Handler Note Result} {result : Result}
    (ran : conduct.run workspace depth visit channel = some (result, after)) :
    after.Steady ∧ rounds after.history = rounds channel.history :=
  keeps_play (keeping_service conduct workspace depth) workspace visit channel result after steady
    ran

end Polyglot
