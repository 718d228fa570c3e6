/-
This file proves what verifications come to that have other operations verified on their way. As
long as each asks for operations that were created before its own only, the verifications in
progress form a nest at every moment: numbers fall from the outside to the inside. So they nest no
deeper than the number of the outermost allows, and the verification comes to an end.

Unlike most of what is proved of runs, this says that a run comes to something at all. The proof
follows how a visit is run and shows of each part that it comes to an end, and which stretch of
history it adds.
-/

import Mathlib.Data.List.Nodup
import Mathlib.Data.List.Perm.Subperm
import Polyglot.Proofs.Channel.Candid

namespace Polyglot

open History

variable {Custom Handler Note Result Other : Type}

/-! ### Nests -/

/-- Verifications in progress, the innermost first: all are of operations that are alive and have
numbers below a limit, and each is of an operation that was created before the one around it. -/
structure Nest (operations : Operations) (limit : Nat) (refs : List OpRef) : Prop where
  alive : ∀ ref ∈ refs, operations.isAlive ref = true
  below : ∀ ref ∈ refs, ref.number < limit
  increasing : refs.Pairwise fun inner outer => inner.number < outer.number

namespace Nest

variable {operations : Operations} {limit : Nat} {refs : List OpRef}

theorem nil : Nest operations limit [] :=
  ⟨fun _ member => absurd member List.not_mem_nil, fun _ member => absurd member List.not_mem_nil,
    .nil⟩

theorem weaken {higher : Nat} (nest : Nest operations limit refs) (more : limit ≤ higher) :
    Nest operations higher refs :=
  ⟨nest.alive, fun ref member => (nest.below ref member).trans_le more, nest.increasing⟩

/-- There are no more verifications in a nest than there are numbers below its limit. -/
theorem length_le (nest : Nest operations limit refs) : refs.length ≤ limit := by
  have distinct : (refs.map OpRef.number).Nodup :=
    List.pairwise_map.2 (nest.increasing.imp Nat.ne_of_lt)
  have inside : refs.map OpRef.number ⊆ List.range limit := fun number member => by
    obtain ⟨ref, there, rfl⟩ := List.mem_map.1 member
    exact List.mem_range.2 (nest.below ref there)
  have fewer := (distinct.subperm inside).length_le
  rwa [List.length_map, List.length_range] at fewer

/-- A nest below the number of an operation lies inside the verification of the operation. -/
theorem around {ref : OpRef} (nest : Nest operations ref.number refs)
    (alive : operations.isAlive ref = true) : Nest operations (ref.number + 1) (refs ++ [ref]) := by
  refine ⟨fun other member => ?_, fun other member => ?_, ?_⟩
  · rcases List.mem_append.1 member with inside | own
    · exact nest.alive other inside
    · rwa [List.mem_singleton.1 own]
  · rcases List.mem_append.1 member with inside | own
    · exact Nat.lt_succ_of_lt (nest.below other inside)
    · rw [List.mem_singleton.1 own]
      exact Nat.lt_succ_self _
  · refine List.pairwise_append.2 ⟨nest.increasing, List.pairwise_singleton _ _, ?_⟩
    intro inner member outer own
    rw [List.mem_singleton.1 own]
    exact nest.below inner member

end Nest

/-- At every moment after the past, the verifications in progress are those of the past and a nest
inside of them. -/
def Nests (operations : Operations) (limit : Nat) (past : List (Event Note)) :
    List (Event Note) → Prop
  | [] => True
  | event :: later =>
    (∃ nest, verifying (event :: later ++ past) = nest ++ verifying past ∧
      Nest operations limit nest) ∧ Nests operations limit past later

namespace Nests

variable {operations : Operations} {limit : Nat} {past earlier later : List (Event Note)}

theorem exists_nest (nests : Nests operations limit past later) :
    ∃ nest, verifying (later ++ past) = nest ++ verifying past ∧ Nest operations limit nest := by
  cases later with
  | nil => exact ⟨[], rfl, .nil⟩
  | cons event rest => exact nests.1

theorem of_suffix {doing : List (Event Note)} (nests : Nests operations limit past later)
    (suffix : doing <:+ later) : Nests operations limit past doing := by
  induction later with
  | nil =>
    rw [List.suffix_nil.1 suffix]
    trivial
  | cons event rest inductionHypothesis =>
    rcases List.suffix_cons_iff.1 suffix with rfl | within
    · exact nests
    · exact inductionHypothesis nests.2 within

theorem weaken {higher : Nat} (nests : Nests operations limit past later)
    (more : limit ≤ higher) : Nests operations higher past later := by
  induction later with
  | nil => trivial
  | cons event rest inductionHypothesis =>
    obtain ⟨⟨refs, same, nest⟩, before⟩ := nests
    exact ⟨⟨refs, same, nest.weaken more⟩, inductionHypothesis before⟩

/-- Stretches are put together where no verification is in progress that was begun in the first. -/
theorem append (first : Nests operations limit past earlier)
    (closed : verifying (earlier ++ past) = verifying past)
    (second : Nests operations limit (earlier ++ past) later) :
    Nests operations limit past (later ++ earlier) := by
  induction later with
  | nil => exact first
  | cons event rest inductionHypothesis =>
    obtain ⟨there, before⟩ := second
    rw [closed, ← List.append_assoc] at there
    exact ⟨there, inductionHypothesis before⟩

/-- What happens in the course of a verification, seen from before it began. -/
theorem around {ref : OpRef} (alive : operations.isAlive ref = true)
    (nests : Nests operations ref.number (.verifying ref :: past) later) :
    Nests operations (ref.number + 1) past (later ++ [.verifying ref]) := by
  induction later with
  | nil => exact ⟨⟨[ref], rfl, Nest.nil.around alive⟩, trivial⟩
  | cons event rest inductionHypothesis =>
    obtain ⟨⟨refs, same, nest⟩, before⟩ := nests
    refine ⟨⟨refs ++ [ref], ?_, nest.around alive⟩, inductionHypothesis before⟩
    have moment : event :: (rest ++ [Event.verifying ref]) ++ past =
        event :: rest ++ Event.verifying ref :: past := by simp
    show verifying (event :: (rest ++ [Event.verifying ref]) ++ past) = _
    rw [moment, same, List.append_assoc]
    rfl

end Nests

/-! ### What runs come to -/

namespace Channel

variable {operations : Operations} {limit : Nat} {before between after : Channel Handler Note}

/-- The channel became the other one, by verifications that form nests and that all have ended. -/
structure Spans (operations : Operations) (limit : Nat) (before after : Channel Handler Note) :
    Prop where
  told : ∃ later, after.history = later ++ before.history ∧
    Nests operations limit before.history later
  closed : verifying after.history = verifying before.history

/-- The channel became the other one on the way to a verdict, by verifications that form nests, and
nobody looked into an operation that is gone. If the verdict is no fault, all of them have ended. -/
structure Resolves (operations : Operations) (limit : Nat) (before : Channel Handler Note)
    (verdict : Verdict) (after : Channel Handler Note) : Prop where
  present : verdict ≠ .brokenOff .erasedOperation
  told : ∃ later, after.history = later ++ before.history ∧
    Nests operations limit before.history later
  closed : (∀ fault, verdict ≠ .brokenOff fault) →
    verifying after.history = verifying before.history

namespace Spans

theorem refl (channel : Channel Handler Note) : channel.Spans operations limit channel :=
  ⟨⟨[], rfl, trivial⟩, rfl⟩

/-- One event happened that does not begin or end a verification. -/
theorem single {event : Event Note} (history : after.history = event :: before.history)
    (same : verifying (event :: before.history) = verifying before.history) :
    before.Spans operations limit after :=
  ⟨⟨[event], history, ⟨[], same, .nil⟩, trivial⟩, by rw [history, same]⟩

theorem trans (first : before.Spans operations limit between)
    (second : between.Spans operations limit after) : before.Spans operations limit after := by
  obtain ⟨⟨earlier, history, nests⟩, closed⟩ := first
  obtain ⟨⟨later, historyAfter, nestsAfter⟩, closedAfter⟩ := second
  rw [history] at historyAfter nestsAfter
  rw [history] at closed
  refine ⟨⟨later ++ earlier, by rw [historyAfter, List.append_assoc],
    nests.append closed nestsAfter⟩, closedAfter.trans ?_⟩
  rw [history, closed]

/-- A verdict that is come to afterwards. -/
theorem resolves {verdict : Verdict} (spans : before.Spans operations limit between)
    (resolves : between.Resolves operations limit verdict after) :
    before.Resolves operations limit verdict after := by
  obtain ⟨⟨earlier, history, nests⟩, closed⟩ := spans
  obtain ⟨present, ⟨later, historyAfter, nestsAfter⟩, closedAfter⟩ := resolves
  rw [history] at historyAfter nestsAfter
  have closedFirst := closed
  rw [history] at closedFirst
  exact ⟨present, ⟨later ++ earlier, by rw [historyAfter, List.append_assoc],
    nests.append closedFirst nestsAfter⟩, fun unbroken => (closedAfter unbroken).trans closed⟩

end Spans

namespace Resolves

variable {verdict : Verdict}

theorem spans (resolves : before.Resolves operations limit verdict after)
    (unbroken : ∀ fault, verdict ≠ .brokenOff fault) : before.Spans operations limit after :=
  ⟨resolves.told, resolves.closed unbroken⟩

theorem weaken {higher : Nat} (resolves : before.Resolves operations limit verdict after)
    (more : limit ≤ higher) : before.Resolves operations higher verdict after := by
  obtain ⟨present, ⟨later, history, nests⟩, closed⟩ := resolves
  exact ⟨present, ⟨later, history, nests.weaken more⟩, closed⟩

end Resolves

end Channel

/-- From every channel the action comes to an end, by verifications that form nests and end. -/
def Completes (operations : Operations) (limit : Nat) (action : Turn Handler Note Result) : Prop :=
  ∀ before, ∃ result after, action.run before = some (result, after) ∧
    before.Spans operations limit after

/-- From every channel the action comes to a verdict, by verifications that form nests. -/
def Decides (operations : Operations) (limit : Nat) (action : Turn Handler Note Verdict) : Prop :=
  ∀ before, ∃ verdict after, action.run before = some (verdict, after) ∧
    before.Resolves operations limit verdict after

variable {operations : Operations} {limit : Nat}

theorem Decides.weaken {higher : Nat} {action : Turn Handler Note Verdict}
    (decides : Decides operations limit action) (more : limit ≤ higher) :
    Decides operations higher action := by
  intro before
  obtain ⟨verdict, after, ran, resolves⟩ := decides before
  exact ⟨verdict, after, ran, resolves.weaken more⟩

/-! ### Single actions -/

theorem completes_pure (result : Result) :
    Completes operations limit (pure result : Turn Handler Note Result) :=
  fun before => ⟨result, before, rfl, .refl before⟩

theorem Completes.bind {action : Turn Handler Note Result}
    {next : Result → Turn Handler Note Other} (first : Completes operations limit action)
    (second : ∀ result, Completes operations limit (next result)) :
    Completes operations limit (action >>= next) := by
  intro before
  obtain ⟨result, between, ranFirst, spansFirst⟩ := first before
  obtain ⟨other, after, ranSecond, spansSecond⟩ := second result between
  exact ⟨other, after, (run_bind_of_eq_some ranFirst).trans ranSecond, spansFirst.trans spansSecond⟩

/-- The channel is read and changed, and what follows may rely on what it was. -/
theorem completes_get_set {change : Channel Handler Note → Channel Handler Note}
    {next : Channel Handler Note → Turn Handler Note Result}
    (spans : ∀ before : Channel Handler Note, before.Spans operations limit (change before))
    (second : ∀ before, Completes operations limit (next before)) :
    Completes operations limit (do
      let before ← get
      set (change before)
      next before) := by
  intro before
  obtain ⟨result, after, ran, spansRest⟩ := second before (change before)
  exact ⟨result, after, ran, (spans before).trans spansRest⟩

theorem completes_get : Completes operations limit (get : Turn Handler Note _) :=
  fun before => ⟨before, before, rfl, .refl before⟩

theorem completes_modifyGet {change : Channel Handler Note → Result × Channel Handler Note}
    (spans : ∀ before : Channel Handler Note, before.Spans operations limit (change before).2) :
    Completes operations limit (modifyGet change : Turn Handler Note Result) :=
  fun before => ⟨(change before).1, (change before).2, rfl, spans before⟩

theorem completes_modify {change : Channel Handler Note → Channel Handler Note}
    (spans : ∀ before : Channel Handler Note, before.Spans operations limit (change before)) :
    Completes operations limit (modify change : Turn Handler Note PUnit) :=
  completes_modifyGet spans

/-! ### Emissions -/

namespace Channel

theorem spans_capture (channel : Channel Handler Note) (diagnostic : Diagnostic) :
    channel.Spans operations limit (channel.capture diagnostic) := by
  unfold capture
  split
  · exact .refl channel
  · exact .single rfl rfl

variable {call : Call Handler Note Option}
  (completes : ∀ handler diagnostic, Completes operations limit (call handler diagnostic))
include completes

theorem completes_callEach (diagnostic : Diagnostic) (handed : List (Attached Handler)) :
    Completes operations limit (callEach call diagnostic handed) := by
  induction handed with
  | nil => exact completes_pure _
  | cons first others inductionHypothesis =>
    refine (completes_modify fun _ => .single rfl rfl).bind fun _ =>
      (completes first.handler diagnostic).bind fun answer =>
        (completes_modify fun _ => .single rfl rfl).bind fun _ => ?_
    obtain ⟨consumed, handler⟩ := answer
    cases consumed with
    | true => exact completes_pure _
    | false => exact inductionHypothesis.bind fun _ => completes_pure _

theorem completes_dispatch (diagnostic : Diagnostic) :
    Completes operations limit (dispatch call diagnostic) :=
  completes_get_set (fun _ => .single rfl rfl) fun before =>
    (completes_callEach completes diagnostic before.chain).bind fun _ =>
      (completes_modify fun _ => .single rfl rfl).bind fun _ => completes_pure _

theorem completes_emit (diagnostic : Diagnostic) :
    Completes operations limit (emit call diagnostic) := by
  have captures : Completes operations limit
      (modify fun channel : Channel Handler Note => channel.capture diagnostic) :=
    completes_modify fun channel => channel.spans_capture diagnostic
  refine completes_get_set (fun _ => .single rfl rfl) fun before => ?_
  split
  · exact captures
  · refine (completes_dispatch completes diagnostic).bind fun consumed => ?_
    have finish : Completes operations limit (if diagnostic.isError then
        modify fun channel : Channel Handler Note => channel.capture diagnostic else pure ()) := by
      split
      · exact captures
      · exact completes_pure ()
    have sinks : Completes operations limit
        (modify fun channel : Channel Handler Note => channel.record (.sunk diagnostic)) :=
      completes_modify fun _ => .single rfl rfl
    cases consumed with
    | true => exact completes_pure ()
    | false =>
      cases before.emitsErrors with
      | true => exact sinks.bind fun _ => finish
      | false => exact finish

end Channel

/-! ### Visits that verify nothing -/

/-- The visit emits nothing and has nothing verified, whatever it is answered in this workspace. -/
def Visit.Quiet (workspace : Workspace Custom) : Visit Custom Handler Note Result → Prop
  | .done _ => True
  | .look next => (next workspace).Quiet workspace
  | .remember next => ∀ history, (next history).Quiet workspace
  | .note _ next => next.Quiet workspace
  | .attach _ next => ∀ token, (next token).Quiet workspace
  | .detach _ next => ∀ answer, (next answer).Quiet workspace
  | .count next => ∀ answer, (next answer).Quiet workspace
  | .emitsErrors next => ∀ answer, (next answer).Quiet workspace
  | .setEmitsErrors _ next => next.Quiet workspace
  | .emit _ _ | .verify _ _ | .check _ _ _ => False

theorem Channel.spans_detach (channel : Channel Handler Note) (token : Token) :
    channel.Spans operations limit (channel.detach token).2 :=
  .single (channel.history_detach token) rfl

theorem completes_play {workspace : Workspace Custom} {visit : Visit Custom Handler Note Result}
    (quiet : visit.Quiet workspace) (service : Service Custom Handler Note) :
    Completes operations limit (visit.play workspace service) := by
  induction visit with
  | done result => exact completes_pure result
  | look next inductionHypothesis => exact inductionHypothesis _ quiet
  | remember next inductionHypothesis | count next inductionHypothesis
  | emitsErrors next inductionHypothesis =>
    exact completes_get.bind fun _ => inductionHypothesis _ (quiet _)
  | note _ next inductionHypothesis | setEmitsErrors _ next inductionHypothesis =>
    exact (completes_modify fun _ => .single rfl rfl).bind fun _ => inductionHypothesis quiet
  | attach _ next inductionHypothesis =>
    exact (completes_modifyGet fun _ => .single rfl rfl).bind fun _ =>
      inductionHypothesis _ (quiet _)
  | detach token next inductionHypothesis =>
    exact (completes_modifyGet fun channel => channel.spans_detach token).bind fun _ =>
      inductionHypothesis _ (quiet _)
  | emit | verify | check => exact absurd quiet id

/-! ### Verifications that verify -/

/-- The visit has nothing verified but what defines one of the values, gives a fault that it is
answered as its own verdict, and looks into no operation that is gone. -/
def Visit.Delegates (workspace : Workspace Custom) (values : List Value) :
    Visit Custom Handler Note Verdict → Prop
  | .done verdict => verdict ≠ .brokenOff .erasedOperation
  | .look next => (next workspace).Delegates workspace values
  | .remember next => ∀ history, (next history).Delegates workspace values
  | .note _ next => next.Delegates workspace values
  | .attach _ next => ∀ token, (next token).Delegates workspace values
  | .detach _ next => ∀ answer, (next answer).Delegates workspace values
  | .count next => ∀ answer, (next answer).Delegates workspace values
  | .emit _ next => next.Delegates workspace values
  | .emitsErrors next => ∀ answer, (next answer).Delegates workspace values
  | .setEmitsErrors _ next => next.Delegates workspace values
  | .verify ref next =>
    (∃ value ∈ values, value.definer = ref) ∧
      (∀ fault, next (.brokenOff fault) = .done (.brokenOff fault)) ∧
      ∀ verdict, (∀ fault, verdict ≠ .brokenOff fault) →
        (next verdict).Delegates workspace values
  | .check _ _ _ => False

/-- Verify the operations that define values, one after the other, up to the first that is not
accepted, whose verdict is passed on. -/
def Visit.verifyEach : List Value → Visit Custom Handler Note Verdict
  | [] => .done .accepted
  | value :: rest =>
    .verify value.definer fun verdict =>
      match verdict with
      | .accepted => verifyEach rest
      | other => .done other

theorem Visit.delegates_verifyEach (workspace : Workspace Custom) {values all : List Value}
    (inside : values ⊆ all) :
    (verifyEach values : Visit Custom Handler Note Verdict).Delegates workspace all := by
  induction values with
  | nil => exact nofun
  | cons value rest inductionHypothesis =>
    obtain ⟨member, restInside⟩ := List.cons_subset.1 inside
    refine ⟨⟨value, member, rfl⟩, fun _ => rfl, fun verdict unbroken => ?_⟩
    cases verdict with
    | accepted => exact inductionHypothesis restInside
    | rejected error => exact nofun
    | brokenOff fault => exact absurd rfl (unbroken fault)

theorem Completes.decides {action : Turn Handler Note Result}
    {next : Result → Turn Handler Note Verdict} (first : Completes operations limit action)
    (second : ∀ result, Decides operations limit (next result)) :
    Decides operations limit (action >>= next) := by
  intro before
  obtain ⟨result, between, ranFirst, spans⟩ := first before
  obtain ⟨verdict, after, ranSecond, resolves⟩ := second result between
  exact ⟨verdict, after, (run_bind_of_eq_some ranFirst).trans ranSecond, spans.resolves resolves⟩

theorem decides_pure {verdict : Verdict} (present : verdict ≠ .brokenOff .erasedOperation) :
    Decides operations limit (pure verdict : Turn Handler Note Verdict) :=
  fun before => ⟨verdict, before, rfl, present, ⟨[], rfl, trivial⟩, fun _ => rfl⟩

/-- A verdict that is no fault is followed by something else, and a fault is the verdict. -/
theorem Decides.bind {action : Turn Handler Note Verdict}
    {next : Verdict → Turn Handler Note Verdict} (first : Decides operations limit action)
    (faults : ∀ fault, next (.brokenOff fault) = pure (.brokenOff fault))
    (second : ∀ verdict, (∀ fault, verdict ≠ .brokenOff fault) →
      Decides operations limit (next verdict)) :
    Decides operations limit (action >>= next) := by
  intro before
  obtain ⟨verdict, between, ranFirst, resolves⟩ := first before
  have unbroken (others : ∀ fault, verdict ≠ .brokenOff fault) :
      ∃ last after, (action >>= next).run before = some (last, after) ∧
        before.Resolves operations limit last after := by
    obtain ⟨last, after, ranSecond, resolvesRest⟩ := second verdict others between
    exact ⟨last, after, (run_bind_of_eq_some ranFirst).trans ranSecond,
      (resolves.spans others).resolves resolvesRest⟩
  cases verdict with
  | accepted | rejected => exact unbroken nofun
  | brokenOff fault =>
    refine ⟨.brokenOff fault, between, (run_bind_of_eq_some ranFirst).trans ?_, resolves⟩
    rw [faults]
    rfl

theorem decides_play {workspace : Workspace Custom} {values : List Value}
    {visit : Visit Custom Handler Note Verdict} (delegates : visit.Delegates workspace values)
    {service : Service Custom Handler Note}
    (emits : ∀ diagnostic, Completes operations limit (service.emit diagnostic))
    (verifies : ∀ value ∈ values, Decides operations limit (service.verify value.definer)) :
    Decides operations limit (visit.play workspace service) := by
  induction visit with
  | done verdict => exact decides_pure delegates
  | look next inductionHypothesis => exact inductionHypothesis _ delegates
  | remember next inductionHypothesis | count next inductionHypothesis
  | emitsErrors next inductionHypothesis =>
    exact completes_get.decides fun _ => inductionHypothesis _ (delegates _)
  | note _ next inductionHypothesis | setEmitsErrors _ next inductionHypothesis =>
    exact (completes_modify fun _ => .single rfl rfl).decides fun _ =>
      inductionHypothesis delegates
  | attach _ next inductionHypothesis =>
    exact (completes_modifyGet fun _ => .single rfl rfl).decides fun _ =>
      inductionHypothesis _ (delegates _)
  | detach token next inductionHypothesis =>
    exact (completes_modifyGet fun channel => channel.spans_detach token).decides fun _ =>
      inductionHypothesis _ (delegates _)
  | emit diagnostic next inductionHypothesis =>
    exact (emits diagnostic).decides fun _ => inductionHypothesis delegates
  | verify ref next inductionHypothesis =>
    obtain ⟨⟨value, member, rfl⟩, faults, others⟩ := delegates
    refine (verifies value member).bind (fun fault => ?_) fun verdict unbroken =>
      inductionHypothesis verdict (others verdict unbroken)
    rw [faults]
    rfl
  | check => exact absurd delegates id

/-- The verification of an operation comes to a verdict if examining it does, by verifications of
operations that were created before. -/
theorem decides_verifyWith {emit : Diagnostic → Turn Handler Note Unit}
    {examine : Turn Handler Note Verdict} {ref : OpRef} (alive : operations.isAlive ref = true)
    (emits : ∀ diagnostic, Completes operations ref.number (emit diagnostic))
    (examines : Decides operations ref.number examine) :
    Decides operations (ref.number + 1) (verifyWith emit examine ref) := by
  intro before
  obtain ⟨opinion, examined, ranExamine, resolves⟩ := examines (before.enter ref)
  have left {during : Channel Handler Note}
      (spans : (before.enter ref).Spans operations ref.number during) (verdict : Verdict)
      (unbroken : ∀ fault, verdict ≠ .brokenOff fault) :
      before.Resolves operations (ref.number + 1) verdict (during.leave ref) := by
    obtain ⟨⟨later, history, nests⟩, closed⟩ := spans
    have ended : verifying (during.leave ref).history = verifying before.history := by
      show (verifying during.history).tail = _
      rw [closed]
      rfl
    have told : (during.leave ref).history =
        .verified ref :: (later ++ [Event.verifying ref]) ++ before.history := by
      show .verified ref :: during.history = _
      rw [history, List.cons_append, List.append_assoc]
      rfl
    refine ⟨unbroken _, ⟨_, told, ⟨[], ?_, .nil⟩, nests.around alive⟩, fun _ => ended⟩
    rw [← told]
    exact ended
  cases opinion with
  | accepted =>
    exact ⟨_, _, run_of_concludes ranExamine .accepted, left (resolves.spans nofun) _ nofun⟩
  | rejected error =>
    obtain ⟨_, reported, ranEmit, reports⟩ := emits error.diagnostic examined
    exact ⟨_, _, run_of_concludes ranExamine (.rejected error reported ranEmit),
      left ((resolves.spans nofun).trans reports) _ nofun⟩
  | brokenOff fault =>
    refine ⟨_, _, run_of_concludes ranExamine (.brokenOff fault), resolves.present, ?_,
      fun unbroken => absurd rfl (unbroken fault)⟩
    obtain ⟨later, history, nests⟩ := resolves.told
    exact ⟨later ++ [.verifying ref], by rw [history, List.append_assoc]; rfl, nests.around alive⟩

end Polyglot
