/-
This file proves that the routing of diagnostics is what the history says. The capture scopes of a
channel and its choice about errors are those of its history, and whatever clients do on the
channel, each emission on the way goes where the history at that moment demands.

As before, the proof follows how a visit is run: calls of handlers, dispatches, emissions,
verifications, and visits, with calls nested deeper and deeper. Each part says which stretch of
history it adds, and stretches are put together.
-/

import Polyglot.Proofs.Channel.Reached
import Polyglot.Proofs.Channel.Routing

namespace Polyglot

open History

variable {Custom Handler Note Result Other : Type}

namespace Channel

/-- The capture scopes and the choice about errors are those of the history. -/
structure Candid (channel : Channel Handler Note) : Prop where
  scopes : channel.scopes = History.scopes channel.history
  emitsErrors : channel.emitsErrors = emitting channel.history

/-- The channel became the other one, and what happened is as it should be. -/
structure Proceeds (whole discreet : Prop) (before after : Channel Handler Note) : Prop where
  candid : after.Candid
  told : ∃ later, after.history = later ++ before.history ∧
    Told whole discreet before.history later

variable {whole discreet : Prop} {before between after : Channel Handler Note}

theorem candid_empty : (empty : Channel Handler Note).Candid := ⟨rfl, rfl⟩

theorem Candid.diverts_iff (candid : before.Candid) (diagnostic : Diagnostic) :
    before.diverts diagnostic = true ↔ Diverts before.history diagnostic := by
  have capturing : before.isCapturing = true ↔ verifying before.history ≠ [] := by
    rw [isCapturing, candid.scopes, Bool.not_eq_true', ← Bool.not_eq_true, List.isEmpty_iff,
      scopes_eq_nil_iff]
  rw [diverts, Bool.and_eq_true, Bool.and_eq_true, capturing, candid.emitsErrors,
    Bool.not_eq_true']
  constructor
  · rintro ⟨⟨isError, inside⟩, silent⟩
    exact ⟨isError, inside, silent⟩
  · rintro ⟨isError, inside, silent⟩
    exact ⟨⟨isError, inside⟩, silent⟩

namespace Proceeds

theorem refl (candid : before.Candid) : Proceeds whole discreet before before :=
  ⟨candid, [], rfl, .nil⟩

theorem trans (first : Proceeds whole discreet before between)
    (second : Proceeds whole discreet between after) : Proceeds whole discreet before after := by
  obtain ⟨_, earlier, historyBetween, toldFirst⟩ := first
  obtain ⟨candid, later, history, toldSecond⟩ := second
  rw [historyBetween] at history toldSecond
  exact ⟨candid, later ++ earlier, history.trans (List.append_assoc ..).symm,
    toldFirst.append toldSecond⟩

theorem weaken {wholeToo discreetToo : Prop} (proceeds : Proceeds whole discreet before after)
    (impliesWhole : wholeToo → whole) (impliesDiscreet : discreetToo → discreet) :
    Proceeds wholeToo discreetToo before after := by
  obtain ⟨candid, later, history, told⟩ := proceeds
  exact ⟨candid, later, history, told.weaken impliesWhole impliesDiscreet⟩

/-- One event happened that is no emission and does not begin or end a verification. -/
theorem single (candid : after.Candid) {event : Event Note}
    (history : after.history = event :: before.history)
    (same : verifying (event :: before.history) = verifying before.history)
    (other : ∀ diagnostic, event ≠ .emitted diagnostic)
    (hears : ∀ diagnostic, event.received? = some diagnostic → discreet →
      diagnostic.isError = false) : Proceeds whole discreet before after :=
  ⟨candid, [event], history, .single same other hears⟩

end Proceeds

end Channel

/-- The action adds to the history what it should, and leaves the dispatches in progress alone. -/
def Routes (whole : Prop) (action : Turn Handler Note Result) : Prop :=
  ∀ before result after, before.Candid → action.run before = some (result, after) →
    before.Proceeds whole True after ∧ rounds after.history = rounds before.history

variable {whole : Prop}

/-! ### Single actions -/

theorem routes_pure (result : Result) :
    Routes whole (pure result : Turn Handler Note Result) := by
  intro before other after candid ran
  cases ran
  exact ⟨.refl candid, rfl⟩

theorem Routes.bind {action : Turn Handler Note Result} {next : Result → Turn Handler Note Other}
    (first : Routes whole action) (second : ∀ result, Routes whole (next result)) :
    Routes whole (action >>= next) := by
  intro before other after candid ran
  obtain ⟨result, between, ranFirst, ranSecond⟩ := run_bind_eq_some ran
  obtain ⟨proceeds, sameFirst⟩ := first before result between candid ranFirst
  obtain ⟨goesOn, sameSecond⟩ := second result between other after proceeds.candid ranSecond
  exact ⟨proceeds.trans goesOn, sameSecond.trans sameFirst⟩

theorem routes_get_bind {next : Channel Handler Note → Turn Handler Note Result}
    (second : ∀ channel, Routes whole (next channel)) : Routes whole (get >>= next) := by
  intro before result after candid ran
  exact second before before result after candid ran

theorem routes_failure : Routes whole (failure : Turn Handler Note Result) := by
  intro before result after candid ran
  cases ran

theorem routes_modifyGet {change : Channel Handler Note → Result × Channel Handler Note}
    (routes : ∀ before : Channel Handler Note, before.Candid →
      before.Proceeds whole True (change before).2 ∧
        rounds (change before).2.history = rounds before.history) :
    Routes whole (modifyGet change : Turn Handler Note Result) := by
  intro before result after candid ran
  obtain rfl : (change before).2 = after := congrArg Prod.snd (Option.some.inj ran)
  exact routes before candid

theorem routes_modify {change : Channel Handler Note → Channel Handler Note}
    (routes : ∀ before : Channel Handler Note, before.Candid →
      before.Proceeds whole True (change before) ∧
        rounds (change before).history = rounds before.history) :
    Routes whole (modify change : Turn Handler Note PUnit) :=
  routes_modifyGet routes

namespace Channel

variable {channel : Channel Handler Note}

namespace Candid

theorem noted (candid : channel.Candid) (note : Note) :
    channel.Proceeds whole True (channel.record (.noted note)) ∧
      rounds (channel.record (.noted note)).history = rounds channel.history :=
  ⟨.single ⟨candid.scopes, candid.emitsErrors⟩ rfl rfl nofun nofun, rfl⟩

theorem attach (candid : channel.Candid) (handler : Handler) :
    channel.Proceeds whole True (channel.attach handler).2 ∧
      rounds (channel.attach handler).2.history = rounds channel.history :=
  ⟨.single ⟨candid.scopes, candid.emitsErrors⟩ rfl rfl nofun nofun, rfl⟩

theorem detach (candid : channel.Candid) (token : Token) :
    channel.Proceeds whole True (channel.detach token).2 ∧
      rounds (channel.detach token).2.history = rounds channel.history := by
  have latest := channel.history_detach token
  have candidAfter : (channel.detach token).2.Candid := by
    unfold Channel.detach
    split
    · exact ⟨candid.scopes, candid.emitsErrors⟩
    · split <;> exact ⟨candid.scopes, candid.emitsErrors⟩
  exact ⟨.single candidAfter latest rfl nofun nofun, by rw [latest]; rfl⟩

theorem setEmitsErrors (candid : channel.Candid) (choice : Bool) :
    channel.Proceeds whole True (channel.setEmitsErrors choice) ∧
      rounds (channel.setEmitsErrors choice).history = rounds channel.history :=
  ⟨.single ⟨candid.scopes, rfl⟩ rfl rfl nofun nofun, rfl⟩

theorem capture (candid : channel.Candid) (diagnostic : Diagnostic) :
    channel.Proceeds whole True (channel.capture diagnostic) ∧
      rounds (channel.capture diagnostic).history = rounds channel.history := by
  unfold Channel.capture
  split
  · exact ⟨.refl candid, rfl⟩
  next scope outer found =>
    refine ⟨.single ⟨?_, candid.emitsErrors⟩ rfl rfl nofun nofun, rfl⟩
    show _ = (History.scopes channel.history).modifyHead (· ++ [diagnostic])
    rw [← candid.scopes, found]
    rfl

end Candid

/-! ### Dispatches -/

variable {call : Call Handler Note Option}

/-- What calling handlers in turn makes of a dispatch in progress. -/
structure Heard (whole : Prop) (before : Channel Handler Note) (round : Round Note)
    (outer : List (Round Note)) (consumed : Bool) (after : Channel Handler Note)
    (final : Round Note) : Prop where
  proceeds : before.Proceeds whole (round.diagnostic.isError = false) after
  found : rounds after.history = final :: outer
  past : final.past = round.past
  diagnostic : final.diagnostic = round.diagnostic
  consumed_eq : consumed = final.consumer?.isSome

theorem heard_callEach (routes : ∀ handler diagnostic, Routes whole (call handler diagnostic))
    (handed : List (Attached Handler)) (outer : List (Round Note)) :
    ∀ (round : Round Note) (before : Channel Handler Note), before.Candid →
      rounds before.history = round :: outer → round.consumer? = none →
      ∀ consumed returned after,
        (callEach call round.diagnostic handed).run before = some ((consumed, returned), after) →
        ∃ final, Heard whole before round outer consumed after final := by
  induction handed with
  | nil =>
    intro round before candid found unconsumed consumed returned after ran
    cases ran
    exact ⟨round, .refl candid, found, rfl, rfl, by rw [unconsumed]; rfl⟩
  | cons first others inductionHypothesis =>
    intro round before candid found unconsumed consumed returned after ran
    obtain ⟨consumes, handler, between, ranCall, continues⟩ := callEach_cons_eq_some ran
    have calls : before.Proceeds whole (round.diagnostic.isError = false)
        (before.record (.called first.token round.diagnostic)) :=
      .single ⟨candid.scopes, candid.emitsErrors⟩ rfl rfl nofun fun _ received milder =>
        Option.some.inj received ▸ milder
    obtain ⟨acts, same⟩ := routes first.handler round.diagnostic _ _ _ calls.candid ranCall
    have answers : between.Proceeds whole (round.diagnostic.isError = false)
        (between.record (.answered first.token consumes)) :=
      .single ⟨acts.candid.scopes, acts.candid.emitsErrors⟩ rfl rfl nofun nofun
    have proceeds := (calls.trans (acts.weaken id fun _ => trivial)).trans answers
    have answeredFound : rounds (between.record (.answered first.token consumes)).history =
        (round.call first.token).answer first.token consumes :: outer :=
      rounds_answered (same.trans (rounds_called found first.token round.diagnostic)) _ _
    have consumer := Round.consumer?_answer (round.call first.token) first.token consumes
      unconsumed
    rcases continues with ⟨rfl, rfl, rfl, rfl⟩ | ⟨rfl, remaining, rfl, ranOthers⟩
    · exact ⟨_, proceeds, answeredFound, rfl, rfl, by rw [consumer]; rfl⟩
    · obtain ⟨final, goesOn, foundFinal, past, diagnostic, consumed_eq⟩ := inductionHypothesis
        ((round.call first.token).answer first.token false) _ answers.candid answeredFound consumer
        _ _ _ ranOthers
      exact ⟨final, proceeds.trans goesOn, foundFinal, past, diagnostic, consumed_eq⟩

/-- What a dispatch makes of a channel on which its diagnostic was just emitted. -/
structure Dispatched (whole : Prop) (before : Channel Handler Note) (diagnostic : Diagnostic)
    (consumed : Bool) (settled : Channel Handler Note) (happened : List (Event Note))
    (round : Round Note) : Prop where
  candid : settled.Candid
  history : settled.history =
    Event.settled diagnostic consumed :: (happened ++ [Event.dispatched diagnostic]) ++
      [Event.emitted diagnostic] ++ before.history
  told : Told whole (diagnostic.isError = false) (.emitted diagnostic :: before.history)
    (.settled diagnostic consumed :: (happened ++ [.dispatched diagnostic]))
  hearing : Hearing before.history diagnostic happened round
  consumed_eq : consumed = round.consumer?.isSome

theorem Candid.dispatched (routes : ∀ handler diagnostic, Routes whole (call handler diagnostic))
    {diagnostic : Diagnostic} {before settled : Channel Handler Note} {consumed : Bool}
    (candid : before.Candid)
    (ran : (dispatch call diagnostic).run (before.record (.emitted diagnostic)) =
      some (consumed, settled)) :
    ∃ happened round, Dispatched whole before diagnostic consumed settled happened round := by
  obtain ⟨returned, between, ranCalls, rfl⟩ := dispatch_eq_some ran
  have began : (before.beginDispatch diagnostic).Candid := ⟨candid.scopes, candid.emitsErrors⟩
  obtain ⟨round, ⟨candidCalls, happened, history, told⟩, found, past, same, consumed_eq⟩ :=
    heard_callEach routes before.chain (rounds before.history) (before.firstRound diagnostic)
      (before.beginDispatch diagnostic) began (rounds_beginDispatch before diagnostic) rfl consumed
      returned between ranCalls
  have begins : Told whole (diagnostic.isError = false) (.emitted diagnostic :: before.history)
      [.dispatched diagnostic] := .single rfl nofun nofun
  have settles : Told whole (diagnostic.isError = false)
      (happened ++ [Event.dispatched diagnostic] ++ Event.emitted diagnostic :: before.history)
      [.settled diagnostic consumed] := .single rfl nofun nofun
  refine ⟨happened, round, ⟨candidCalls.scopes, candidCalls.emitsErrors⟩, ?_,
    (begins.append told).append settles, ⟨?_, past, same⟩, consumed_eq⟩
  · show .settled diagnostic consumed :: between.history = _
    rw [history]
    simp [beginDispatch, record, takeChain]
  · show rounds (happened ++ (before.beginDispatch diagnostic).history) = _
    rw [← history]
    exact found

/-! ### Emissions -/

/-- An error that is diverted is captured right after it was emitted. -/
theorem Candid.divert (candid : channel.Candid) {diagnostic : Diagnostic}
    (diverted : channel.diverts diagnostic = true) :
    channel.Proceeds whole True ((channel.record (.emitted diagnostic)).capture diagnostic) ∧
      rounds ((channel.record (.emitted diagnostic)).capture diagnostic).history =
        rounds channel.history := by
  have diverts := (candid.diverts_iff diagnostic).mp diverted
  have emitted : (channel.record (.emitted diagnostic)).Candid :=
    ⟨candid.scopes, candid.emitsErrors⟩
  obtain ⟨captures, same⟩ : (channel.record (.emitted diagnostic)).Proceeds whole True _ ∧ _ :=
    emitted.capture diagnostic
  have history : ((channel.record (.emitted diagnostic)).capture diagnostic).history =
      [Event.captured diagnostic] ++ [Event.emitted diagnostic] ++ channel.history := by
    cases found : channel.scopes with
    | nil =>
      rw [candid.scopes, scopes_eq_nil_iff] at found
      exact absurd found diverts.capturing
    | cons scope outer => simp [Channel.capture, record, found]
  have told : Told whole True (.emitted diagnostic :: channel.history) [.captured diagnostic] :=
    .single rfl nofun nofun
  exact ⟨⟨captures.candid, _, history, told.emission (fun _ _ => trivial)
    (.captured diverts ⟨[], rfl⟩)⟩, same⟩

section Dispatched

variable {diagnostic : Diagnostic} {before settled : Channel Handler Note} {consumed : Bool}
  {happened : List (Event Note)} {round : Round Note}
  (dispatched : Dispatched whole before diagnostic consumed settled happened round)
include dispatched

theorem Dispatched.rounds_eq : rounds settled.history = rounds before.history := by
  rw [dispatched.history, List.cons_append, List.cons_append, List.append_assoc,
    List.append_assoc]
  exact rounds_settled dispatched.hearing.found diagnostic consumed

/-- The dispatch ended the emission, unless the default sink has to get the diagnostic. -/
theorem Dispatched.proceeds (undiverted : ¬Diverts before.history diagnostic)
    (unsunk : consumed = false → emitting before.history = false) :
    before.Proceeds whole True settled := by
  refine ⟨dispatched.candid, _, dispatched.history, dispatched.told.emission
    (fun capturing silent => Bool.eq_false_iff.mpr fun isError =>
      undiverted ⟨isError, capturing, silent⟩) ?_⟩
  have consumed_eq := dispatched.consumed_eq
  cases consumed with
  | true =>
    obtain ⟨token, consumer⟩ := Option.isSome_iff_exists.mp consumed_eq.symm
    exact .consumed undiverted ⟨[], happened, round, token, dispatched.hearing, consumer, rfl⟩
  | false =>
    have nobody := Option.not_isSome_iff_eq_none.mp (by rw [← consumed_eq]; simp)
    exact .unheard undiverted (unsunk rfl)
      ⟨[], happened, round, dispatched.hearing, nobody, rfl⟩

/-- The default sink got the diagnostic after the dispatch. -/
theorem Dispatched.sink (unconsumed : consumed = false) (choice : emitting before.history = true) :
    before.Proceeds whole True (settled.record (.sunk diagnostic)) := by
  subst unconsumed
  have nobody := Option.not_isSome_iff_eq_none.mp (by rw [← dispatched.consumed_eq]; simp)
  have sinks : Told whole (diagnostic.isError = false) (Event.settled diagnostic false ::
      (happened ++ [Event.dispatched diagnostic]) ++ Event.emitted diagnostic :: before.history)
      [.sunk diagnostic] :=
    .single rfl nofun fun _ received milder => Option.some.inj received ▸ milder
  have history : (settled.record (.sunk diagnostic)).history =
      Event.sunk diagnostic :: Event.settled diagnostic false ::
        (happened ++ [Event.dispatched diagnostic]) ++ [Event.emitted diagnostic] ++
          before.history := by
    show .sunk diagnostic :: settled.history = _
    rw [dispatched.history]
    rfl
  have audible (_ : verifying before.history ≠ []) (silent : emitting before.history = false) :
      diagnostic.isError = false := Bool.noConfusion (choice.symm.trans silent)
  exact ⟨⟨dispatched.candid.scopes, dispatched.candid.emitsErrors⟩, _, history,
    (dispatched.told.append sinks).emission audible
      (.sunk choice ⟨[], happened, round, dispatched.hearing, nobody, rfl⟩)⟩

end Dispatched

theorem routes_emit (routes : ∀ handler diagnostic, Routes whole (call handler diagnostic))
    (diagnostic : Diagnostic) : Routes whole (emit call diagnostic) := by
  intro before result after candid ran
  rcases emit_eq_some ran with ⟨diverted, rfl⟩ | ⟨undiverted, consumed, settled, ranDispatch, rfl⟩
  · exact candid.divert diverted
  · obtain ⟨happened, round, dispatched⟩ := candid.dispatched routes ranDispatch
    have heard : ¬Diverts before.history diagnostic := fun diverts =>
      Bool.eq_false_iff.mp undiverted ((candid.diverts_iff diagnostic).mpr diverts)
    have captures {there : Channel Handler Note} (proceeds : before.Proceeds whole True there)
        (same : rounds there.history = rounds before.history) :
        before.Proceeds whole True
            (if diagnostic.isError then there.capture diagnostic else there) ∧
          rounds (if diagnostic.isError then there.capture diagnostic else there).history =
            rounds before.history := by
      cases diagnostic.isError with
      | true =>
        obtain ⟨goesOn, sameCaptured⟩ := proceeds.candid.capture diagnostic
        exact ⟨proceeds.trans goesOn, sameCaptured.trans same⟩
      | false => exact ⟨proceeds, same⟩
    cases consumed with
    | true => exact ⟨dispatched.proceeds heard nofun, dispatched.rounds_eq⟩
    | false =>
      have emits := candid.emitsErrors
      cases choice : before.emitsErrors with
      | false =>
        rw [choice] at emits
        exact captures (dispatched.proceeds heard fun _ => emits.symm) dispatched.rounds_eq
      | true =>
        rw [choice] at emits
        exact captures (dispatched.sink rfl emits.symm) dispatched.rounds_eq

end Channel

/-! ### Verifications -/

namespace Channel

/-- The channel when the verification of an operation has begun. -/
def enter (channel : Channel Handler Note) (ref : OpRef) : Channel Handler Note :=
  (channel.record (.verifying ref)).openScope

/-- The channel when the verification of an operation has ended. -/
def leave (channel : Channel Handler Note) (ref : OpRef) : Channel Handler Note :=
  channel.closeScope.2.record (.verified ref)

variable {channel before during : Channel Handler Note} {ref : OpRef}

theorem Candid.enter (candid : channel.Candid) (ref : OpRef) : (channel.enter ref).Candid :=
  ⟨congrArg (List.cons []) candid.scopes, candid.emitsErrors⟩

theorem Candid.leave (candid : channel.Candid) (ref : OpRef) : (channel.leave ref).Candid :=
  ⟨congrArg List.tail candid.scopes, candid.emitsErrors⟩

/-- A verification that ended. -/
theorem Proceeds.ended (proceeds : (before.enter ref).Proceeds whole True during) :
    before.Proceeds whole True (during.leave ref) := by
  obtain ⟨candid, later, history, told⟩ := proceeds
  refine ⟨candid.leave ref, _, ?_, told.ended⟩
  show .verified ref :: during.history = _
  rw [history, List.cons_append, List.append_assoc]
  rfl

/-- A verification that broke off. -/
theorem Proceeds.broken (proceeds : (before.enter ref).Proceeds whole True during) :
    before.Proceeds False True during := by
  obtain ⟨candid, later, history, told⟩ := proceeds
  refine ⟨candid, _, ?_, told.begun⟩
  rw [history, List.append_assoc]
  rfl

end Channel

/-- How a verification ends once the operation was examined: its scope is closed, after the error
was reported if there is one, unless the verification has broken off. -/
inductive Concludes (emit : Diagnostic → Turn Handler Note Unit) (ref : OpRef)
    (examined : Channel Handler Note) : Verdict → Verdict → Channel Handler Note → Prop where
  | accepted : Concludes emit ref examined .accepted .accepted (examined.leave ref)
  | rejected (error : Error) (reported : Channel Handler Note)
      (ran : (emit error.diagnostic).run examined = some ((), reported)) :
      Concludes emit ref examined (.rejected error)
        (.rejected (error.withDiagnostics reported.closeScope.1)) (reported.leave ref)
  | brokenOff (fault : Fault) :
      Concludes emit ref examined (.brokenOff fault) (.brokenOff fault) examined

theorem concludes_of_run {emit : Diagnostic → Turn Handler Note Unit}
    {examine : Turn Handler Note Verdict} {ref : OpRef} {before after : Channel Handler Note}
    {verdict : Verdict}
    (ran : (verifyWith emit examine ref).run before = some (verdict, after)) :
    ∃ opinion examined, examine.run (before.enter ref) = some (opinion, examined) ∧
      Concludes emit ref examined opinion verdict after := by
  obtain ⟨_, _, ranBegin, ranRest⟩ := run_bind_eq_some ran
  cases ranBegin
  obtain ⟨opinion, examined, ranExamine, ranRest⟩ := run_bind_eq_some ranRest
  refine ⟨opinion, examined, ranExamine, ?_⟩
  cases opinion with
  | accepted =>
    obtain ⟨_, _, ranEnd, ranRest⟩ := run_bind_eq_some ranRest
    cases ranEnd
    cases ranRest
    exact .accepted
  | rejected error =>
    obtain ⟨_, reported, ranEmit, ranRest⟩ := run_bind_eq_some ranRest
    obtain ⟨_, _, ranEnd, ranRest⟩ := run_bind_eq_some ranRest
    cases ranEnd
    cases ranRest
    exact .rejected error reported ranEmit
  | brokenOff fault =>
    cases ranRest
    exact .brokenOff fault

/-- A verification of which both parts run through runs through. -/
theorem run_of_concludes {emit : Diagnostic → Turn Handler Note Unit}
    {examine : Turn Handler Note Verdict} {ref : OpRef}
    {before examined after : Channel Handler Note} {opinion verdict : Verdict}
    (ran : examine.run (before.enter ref) = some (opinion, examined))
    (concludes : Concludes emit ref examined opinion verdict after) :
    (verifyWith emit examine ref).run before = some (verdict, after) := by
  have began : (modify (·.enter ref) : Turn Handler Note Unit).run before =
      some ((), before.enter ref) := rfl
  refine (run_bind_of_eq_some began).trans ((run_bind_of_eq_some ran).trans ?_)
  cases concludes with
  | accepted => rfl
  | rejected error reported ranEmit => exact run_bind_of_eq_some ranEmit
  | brokenOff fault => rfl

theorem routes_verifyWith {emit : Diagnostic → Turn Handler Note Unit}
    (routesEmit : ∀ diagnostic, Routes whole (emit diagnostic))
    {examine : Turn Handler Note Verdict} (routesExamine : Routes whole examine) (ref : OpRef)
    (unbroken : ∀ before fault after,
      (verifyWith emit examine ref).run before = some (.brokenOff fault, after) → ¬whole) :
    Routes whole (verifyWith emit examine ref) := by
  intro before verdict after candid ran
  obtain ⟨opinion, examined, ranExamine, concludes⟩ := concludes_of_run ran
  obtain ⟨proceeds, same⟩ := routesExamine _ _ _ (candid.enter ref) ranExamine
  cases concludes with
  | accepted => exact ⟨proceeds.ended, same⟩
  | rejected error reported ranEmit =>
    obtain ⟨goesOn, sameThen⟩ := routesEmit _ _ _ _ proceeds.candid ranEmit
    exact ⟨(proceeds.trans goesOn).ended, sameThen.trans same⟩
  | brokenOff fault =>
    exact ⟨proceeds.broken.weaken (fun holds => unbroken before fault _ ran holds) id, same⟩

/-! ### Visits -/

/-- Whatever is done for a visit adds to the history what it should. -/
structure Service.Routing (whole : Prop) (service : Service Custom Handler Note) : Prop where
  emit : ∀ diagnostic, Routes whole (service.emit diagnostic)
  verify : ∀ ref, Routes whole (service.verify ref)
  check : ∀ schema operation, Routes whole (service.check schema operation)

theorem routes_play {service : Service Custom Handler Note} (routing : service.Routing whole)
    (workspace : Workspace Custom) (visit : Visit Custom Handler Note Result) :
    Routes whole (visit.play workspace service) := by
  induction visit with
  | done result => exact routes_pure result
  | look next inductionHypothesis => exact inductionHypothesis _
  | remember next inductionHypothesis =>
    exact routes_get_bind fun channel => inductionHypothesis channel.history
  | note entry next inductionHypothesis =>
    exact (routes_modify fun _ candid => candid.noted entry).bind fun _ => inductionHypothesis
  | attach handler next inductionHypothesis =>
    exact (routes_modifyGet fun _ candid => candid.attach handler).bind inductionHypothesis
  | detach token next inductionHypothesis =>
    exact (routes_modifyGet fun _ candid => candid.detach token).bind inductionHypothesis
  | count next inductionHypothesis =>
    exact routes_get_bind fun channel => inductionHypothesis channel.size
  | emit diagnostic next inductionHypothesis =>
    exact (routing.emit diagnostic).bind fun _ => inductionHypothesis
  | emitsErrors next inductionHypothesis =>
    exact routes_get_bind fun channel => inductionHypothesis channel.emitsErrors
  | setEmitsErrors choice next inductionHypothesis =>
    exact (routes_modify fun _ candid => candid.setEmitsErrors choice).bind fun _ =>
      inductionHypothesis
  | verify ref next inductionHypothesis =>
    exact (routing.verify ref).bind inductionHypothesis
  | check schema operation next inductionHypothesis =>
    exact (routing.check schema operation).bind inductionHypothesis

theorem Conduct.verify_of_alive (conduct : Conduct Custom Handler Note)
    (workspace : Workspace Custom) (depth : Nat) {ref : OpRef} {operation : Operation}
    (found : workspace.session.operations.find? ref = some operation) :
    (conduct.service workspace (depth + 1)).verify ref =
      verifyWith (conduct.service workspace depth).emit
        ((workspace.session.examine conduct operation).play workspace
          (conduct.service workspace depth)) ref := by
  rw [service]
  dsimp only
  rw [found]

theorem Conduct.verify_of_dead (conduct : Conduct Custom Handler Note)
    (workspace : Workspace Custom) (depth : Nat) {ref : OpRef}
    (gone : workspace.session.operations.find? ref = none) :
    (conduct.service workspace (depth + 1)).verify ref = pure (.brokenOff .erasedOperation) := by
  rw [service]
  dsimp only
  rw [gone]

/-- No verification of an operation that is alive breaks off. -/
def Conduct.Unbroken (conduct : Conduct Custom Handler Note) (workspace : Workspace Custom) :
    Prop :=
  ∀ depth ref channel fault after, workspace.session.operations.isAlive ref = true →
    conduct.run workspace depth (.verify ref .done) channel ≠ some (.brokenOff fault, after)

theorem Conduct.Unbroken.verify {conduct : Conduct Custom Handler Note}
    {workspace : Workspace Custom} (unbroken : conduct.Unbroken workspace) {depth : Nat}
    {ref : OpRef} {before after : Channel Handler Note} {fault : Fault}
    (alive : workspace.session.operations.isAlive ref = true) :
    ((conduct.service workspace depth).verify ref).run before ≠ some (.brokenOff fault, after) := by
  intro ran
  refine unbroken depth ref before fault after alive ?_
  show (((conduct.service workspace depth).verify ref) >>= _).run before = _
  rw [StateT.run_bind, ran]
  rfl

theorem routing_service (conduct : Conduct Custom Handler Note) (workspace : Workspace Custom)
    (depth : Nat) :
    (conduct.service workspace depth).Routing (conduct.Unbroken workspace) := by
  induction depth with
  | zero =>
    exact ⟨fun _ => routes_failure, fun _ => routes_failure, fun _ _ => routes_failure⟩
  | succ depth inductionHypothesis =>
    refine ⟨fun diagnostic => ?_, fun ref => ?_, fun schema operation => ?_⟩
    · rw [Conduct.emit_service]
      exact Channel.routes_emit (fun _ _ => routes_play inductionHypothesis workspace _) diagnostic
    · cases found : workspace.session.operations.find? ref with
      | none =>
        rw [conduct.verify_of_dead workspace depth found]
        exact routes_pure _
      | some operation =>
        have verifies := conduct.verify_of_alive workspace depth found
        rw [verifies]
        refine routes_verifyWith inductionHypothesis.emit
          (routes_play inductionHypothesis workspace _) ref fun before fault after ran holds => ?_
        rw [← verifies] at ran
        exact holds.verify (by rw [Operations.isAlive, found]; rfl) ran
    · exact routes_play inductionHypothesis workspace _

/-! ### The moments at which a client may act -/

namespace Channel

theorem Candid.run {channel after : Channel Handler Note} (candid : channel.Candid)
    {conduct : Conduct Custom Handler Note} {workspace : Workspace Custom} {depth : Nat}
    {visit : Visit Custom Handler Note Result} {result : Result}
    (ran : conduct.run workspace depth visit channel = some (result, after)) :
    channel.Proceeds (conduct.Unbroken workspace) True after :=
  (routes_play (routing_service conduct workspace depth) workspace visit channel result after candid
    ran).1

theorem Candid.recordNotes {channel : Channel Handler Note} (candid : channel.Candid)
    (notes : List Note) : channel.Proceeds whole True (channel.recordNotes notes) ∧
      rounds (channel.recordNotes notes).history = rounds channel.history := by
  induction notes generalizing channel with
  | nil => exact ⟨.refl candid, rfl⟩
  | cons note rest inductionHypothesis =>
    obtain ⟨noted, sameThen⟩ : channel.Proceeds whole True _ ∧ _ := candid.noted note
    obtain ⟨goesOn, same⟩ := inductionHypothesis noted.candid
    exact ⟨noted.trans goesOn, same.trans sameThen⟩

theorem Candid.announce {channel : Channel Handler Note} (candid : channel.Candid)
    (conduct : Conduct Custom Handler Note) (diagnostic : Diagnostic) :
    (conduct.announce diagnostic channel).Candid := by
  let call : Call Handler Note Option := fun handler heard => do
    modify (·.recordNotes (conduct.listen handler heard).1)
    pure (conduct.listen handler heard).2
  have routes (handler : Handler) (heard : Diagnostic) : Routes True (call handler heard) :=
    (routes_modify fun _ candidThere => candidThere.recordNotes _).bind fun _ => routes_pure _
  exact (routes_emit routes diagnostic channel _ _ candid
    (agrees_emit (fun _ _ => (agrees_modify _).bind fun _ => agrees_pure _) diagnostic
      channel)).1.candid

/-- At every moment at which a client may act, the routing is what the history says. -/
theorem Reached.candid {channel : Channel Handler Note} (reached : Reached Custom channel) :
    channel.Candid := by
  induction reached with
  | empty => exact candid_empty
  | visited _ ran inductionHypothesis => exact (inductionHypothesis.run ran).candid
  | announced _ conduct diagnostic inductionHypothesis =>
    exact inductionHypothesis.announce conduct diagnostic
  | verifying _ ref inductionHypothesis => exact inductionHypothesis.enter ref
  | @called conduct workspace depth diagnostic front _ _ _ before _ _ _ _ ran
      inductionHypothesis =>
    have began : (before.beginDispatch diagnostic).Candid :=
      ⟨inductionHypothesis.scopes, inductionHypothesis.emitsErrors⟩
    have routes (handler : Handler) (heard : Diagnostic) := routes_play
      (routing_service conduct workspace depth) workspace (conduct.react handler heard)
    obtain ⟨_, heard⟩ := heard_callEach routes front (rounds before.history)
      (before.firstRound diagnostic) _ began (rounds_beginDispatch before diagnostic) rfl _ _ _ ran
    exact ⟨heard.proceeds.candid.scopes, heard.proceeds.candid.emitsErrors⟩

end Channel

end Polyglot
