/-
This file says on which channels a client may come to act, and that all of them are steady.

A client acts on a channel from outside, when nothing is in progress; or as the verifier of an
operation, in the capture scope of the verification; or as a handler that was called in the
course of a dispatch, after handlers that have returned and have not consumed the diagnostic.
Whatever it does may lead to further calls, and so these moments nest without a bound. The
moments inside a run count even if the run itself comes to no end.
-/

import Polyglot.Proofs.Channel.Steady

namespace Polyglot

open History

variable {Custom Handler Note Result Other : Type}

/-! ### Handlers that can only listen -/

/-- The action gives what the other one gives, which always gives something. -/
def Agrees (action : Turn Handler Note Result)
    (total : StateT (Channel Handler Note) Id Result) : Prop :=
  ∀ channel, action.run channel = some (total.run channel)

theorem agrees_pure (result : Result) :
    Agrees (pure result : Turn Handler Note Result) (pure result) := fun _ => rfl

theorem agrees_modify (change : Channel Handler Note → Channel Handler Note) :
    Agrees (modify change : Turn Handler Note PUnit) (modify change) := fun _ => rfl

theorem agrees_get : Agrees (get : Turn Handler Note (Channel Handler Note)) get := fun _ => rfl

theorem agrees_set (channel : Channel Handler Note) :
    Agrees (set channel : Turn Handler Note PUnit) (set channel) := fun _ => rfl

theorem Agrees.bind {action : Turn Handler Note Result} {next : Result → Turn Handler Note Other}
    {total : StateT (Channel Handler Note) Id Result}
    {totalNext : Result → StateT (Channel Handler Note) Id Other} (first : Agrees action total)
    (second : ∀ result, Agrees (next result) (totalNext result)) :
    Agrees (action >>= next) (total >>= totalNext) := by
  intro channel
  rw [StateT.run_bind, first channel]
  exact second _ _

namespace Channel

section Agreeing

variable {call : Call Handler Note Option} {total : Call Handler Note Id}
  (agrees : ∀ handler diagnostic, Agrees (call handler diagnostic) (total handler diagnostic))
include agrees

theorem agrees_callEach (diagnostic : Diagnostic) (handed : List (Attached Handler)) :
    Agrees (callEach call diagnostic handed) (callEach total diagnostic handed) := by
  induction handed with
  | nil => exact agrees_pure _
  | cons first others inductionHypothesis =>
    refine (agrees_modify _).bind fun _ => (agrees first.handler diagnostic).bind fun answer =>
      (agrees_modify _).bind fun _ => ?_
    cases answer.1 with
    | true => exact agrees_pure _
    | false => exact inductionHypothesis.bind fun _ => agrees_pure _

theorem agrees_dispatch (diagnostic : Diagnostic) :
    Agrees (dispatch call diagnostic) (dispatch total diagnostic) :=
  agrees_get.bind fun _ => (agrees_set _).bind fun _ =>
    (agrees_callEach agrees diagnostic _).bind fun _ => (agrees_modify _).bind fun _ =>
      agrees_pure _

theorem agrees_emit (diagnostic : Diagnostic) :
    Agrees (emit call diagnostic) (emit total diagnostic) := by
  have capture : Agrees
      (if diagnostic.isError then
        modify fun channel : Channel Handler Note => channel.capture diagnostic
        else pure () : Turn Handler Note PUnit)
      (if diagnostic.isError then
        modify fun channel : Channel Handler Note => channel.capture diagnostic
        else pure ()) := by
    split
    · exact agrees_modify _
    · exact agrees_pure _
  refine agrees_get.bind fun before => (agrees_set _).bind fun _ => ?_
  split
  · exact agrees_modify _
  · refine (agrees_dispatch agrees diagnostic).bind fun consumed => ?_
    cases consumed with
    | true => exact agrees_pure _
    | false =>
      cases before.emitsErrors with
      | true => exact (agrees_modify _).bind fun _ => capture
      | false => exact capture

end Agreeing

theorem Steady.recordNotes {channel : Channel Handler Note} (steady : channel.Steady)
    (notes : List Note) : (channel.recordNotes notes).Steady ∧
      rounds (channel.recordNotes notes).history = rounds channel.history := by
  induction notes generalizing channel with
  | nil => exact ⟨steady, rfl⟩
  | cons note rest inductionHypothesis =>
    have noted : (channel.record (.noted note)).Steady ∧
        rounds (channel.record (.noted note)).history = rounds channel.history :=
      steady.record_quiet rfl rfl
    obtain ⟨steadyAfter, same⟩ := inductionHypothesis noted.1
    exact ⟨steadyAfter, same.trans noted.2⟩

/-- An emission that handlers can only listen to keeps the channel steady. -/
theorem Steady.announce {channel : Channel Handler Note} (steady : channel.Steady)
    (conduct : Conduct Custom Handler Note) (diagnostic : Diagnostic) :
    (conduct.announce diagnostic channel).Steady ∧
      rounds (conduct.announce diagnostic channel).history = rounds channel.history := by
  let call : Call Handler Note Option := fun handler heard => do
    modify (·.recordNotes (conduct.listen handler heard).1)
    pure (conduct.listen handler heard).2
  have keeps (handler : Handler) (heard : Diagnostic) : Keeps (call handler heard) :=
    (keeps_modify fun _ steadyThere => steadyThere.recordNotes _).bind fun _ => keeps_pure _
  exact keeps_emit keeps diagnostic channel _ _ steady
    (agrees_emit (fun _ _ => (agrees_modify _).bind fun _ => agrees_pure _) diagnostic channel)

end Channel

/-! ### The moments at which a client may act -/

namespace Channel

/-- A client may come to act on the channel. -/
inductive Reached (Custom : Type) : Channel Handler Note → Prop where
  /-- Nothing happened yet. -/
  | empty : Reached Custom empty
  /-- A visit came to its end. -/
  | visited {Result : Type} {conduct : Conduct Custom Handler Note} {workspace : Workspace Custom}
      {depth : Nat} {visit : Visit Custom Handler Note Result} {result : Result}
      {before after : Channel Handler Note} (reached : Reached Custom before)
      (ran : conduct.run workspace depth visit before = some (result, after)) :
      Reached Custom after
  /-- A diagnostic was emitted while handlers could only listen. -/
  | announced {before : Channel Handler Note} (reached : Reached Custom before)
      (conduct : Conduct Custom Handler Note) (diagnostic : Diagnostic) :
      Reached Custom (conduct.announce diagnostic before)
  /-- The verification of an operation began, and its verifier is called. -/
  | verifying {before : Channel Handler Note} (reached : Reached Custom before) (ref : OpRef) :
      Reached Custom (before.record (.verifying ref)).openScope
  /-- A diagnostic was emitted, the first handlers of the chain have returned without consuming
  it, and the next handler is called. -/
  | called {conduct : Conduct Custom Handler Note} {workspace : Workspace Custom} {depth : Nat}
      {diagnostic : Diagnostic} {front back returned : List (Attached Handler)}
      {next : Attached Handler} {before between : Channel Handler Note}
      (reached : Reached Custom before) (undiverted : before.diverts diagnostic = false)
      (split : before.chain = front ++ next :: back)
      (ran : (callEach (conduct.calling workspace depth) diagnostic front).run
        (before.beginDispatch diagnostic) = some ((false, returned), between)) :
      Reached Custom (between.record (.called next.token diagnostic))

/-- A handler is called on a steady channel, and its channel is steady. -/
theorem Steady.called {conduct : Conduct Custom Handler Note} {workspace : Workspace Custom}
    {depth : Nat} {diagnostic : Diagnostic} {front back returned : List (Attached Handler)}
    {next : Attached Handler} {before between : Channel Handler Note} (steady : before.Steady)
    (split : before.chain = front ++ next :: back)
    (ran : (callEach (conduct.calling workspace depth) diagnostic front).run
      (before.beginDispatch diagnostic) = some ((false, returned), between)) :
    (between.record (.called next.token diagnostic)).Steady := by
  obtain ⟨_, round, result⟩ :=
    steady.called_begun (keeps_calling conduct workspace depth) split ran
  have steadyCall := result.steady.beginCall result.found (result.ready rfl)
  rw [result.diagnostic] at steadyCall
  exact steadyCall

theorem Reached.steady {channel : Channel Handler Note} (reached : Reached Custom channel) :
    channel.Steady := by
  induction reached with
  | empty => exact steady_empty
  | visited _ ran inductionHypothesis => exact (inductionHypothesis.run ran).1
  | announced _ conduct diagnostic inductionHypothesis =>
    exact (inductionHypothesis.announce conduct diagnostic).1
  | verifying _ ref inductionHypothesis => exact (inductionHypothesis.beginVerification ref).1
  | called _ _ split ran inductionHypothesis => exact inductionHypothesis.called split ran

end Channel

/-! ### Clients whose handlers follow a plan -/

/-- What a handler does whenever it is called, up to its answer. -/
inductive Plan where
  | answer (consumed : Bool)
  | attach (plan next : Plan)
  | detach (token : Token) (next : Plan)
  | emit (diagnostic : Diagnostic) (next : Plan)

namespace Plan

/-- Follow the plan. -/
def visit : Plan → Visit Empty Plan Unit Bool
  | answer consumed => .done consumed
  | attach plan next => .attach plan fun _ => next.visit
  | detach token next => .detach token fun _ => next.visit
  | emit diagnostic next => .emit diagnostic next.visit

/-- Something to emit. -/
def remark (message : String) : Diagnostic :=
  .plain .remark .unknown message

/-- The client whose handlers are plans. -/
def conduct : Conduct Empty Plan Unit where
  inspect custom _ := nomatch custom
  react plan _ := plan.visit.andThen fun consumed => .done (consumed, plan)
  listen plan _ := ([], false, plan)

/-- The channel after a client has followed the plan, with calls nested up to the depth. -/
def outcome? (plan : Plan) (depth : Nat) : Option (Bool × Channel Plan Unit) :=
  conduct.run ⟨.ofLoader 0 Loader.empty, .empty⟩ depth plan.visit .empty

theorem reached {plan : Plan} {depth : Nat} {result : Bool} {channel : Channel Plan Unit}
    (ran : plan.outcome? depth = some (result, channel)) : channel.Reached Empty :=
  .visited .empty ran

end Plan

end Polyglot
