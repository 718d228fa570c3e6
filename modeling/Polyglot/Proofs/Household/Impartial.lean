/-
This file proves that observers do not influence verification. Handlers may do whatever visits can
do, and what they do changes what is emitted, what is captured and who listens. The verdict on an
operation depends on none of this, provided that the verifiers do not ask.

Two verifications are run side by side, each with its own handlers, scopes and history. The channels
are never compared: all that the runs have in common is the visit that is played, and a visit comes
to the same whatever the channel does, if it is impartial. Verifiers may verify other operations, so
the proof goes by how deep calls may nest in the two runs.
-/

import Polyglot.Proofs.Channel.Capture
import Polyglot.Proofs.Household.Run

namespace Polyglot

variable {Custom Handler Note Result Other : Type}

/-! ### Verdicts that agree -/

/-- The verdicts are the same up to the diagnostics that were captured. -/
inductive Verdict.Agrees : Verdict → Verdict → Prop where
  | accepted : Agrees .accepted .accepted
  | rejected {error sibling : Error} (kind : error.kind = sibling.kind)
      (cause : error.cause = sibling.cause) (location : error.location = sibling.location) :
      Agrees (.rejected error) (.rejected sibling)
  | brokenOff (fault : Fault) : Agrees (.brokenOff fault) (.brokenOff fault)

theorem Verdict.Agrees.refl (verdict : Verdict) : verdict.Agrees verdict := by
  cases verdict with
  | accepted => exact .accepted
  | rejected error => exact .rejected rfl rfl rfl
  | brokenOff fault => exact .brokenOff fault

/-! ### Impartial visits -/

namespace Visit

/-- The visits go the same way in two workspaces, whatever their channels are like: they verify and
check the same operations, and end in results that agree. They may differ in what they emit, note
and choose, and what they are told of handlers, the history and captured diagnostics makes no
difference. -/
inductive Alike (first second : Workspace Custom) (agrees : Result → Result → Prop) :
    Visit Custom Handler Note Result → Visit Custom Handler Note Result → Prop where
  | done {result sibling : Result} (agree : agrees result sibling) :
      Alike first second agrees (.done result) (.done sibling)
  | look {next other : Workspace Custom → Visit Custom Handler Note Result}
      (alike : Alike first second agrees (next first) (other second)) :
      Alike first second agrees (.look next) (.look other)
  | remember {next other : List (Event Note) → Visit Custom Handler Note Result}
      (alike : ∀ history past, Alike first second agrees (next history) (other past)) :
      Alike first second agrees (.remember next) (.remember other)
  | note (entry remark : Note) {next other : Visit Custom Handler Note Result}
      (alike : Alike first second agrees next other) :
      Alike first second agrees (.note entry next) (.note remark other)
  | attach (handler watcher : Handler) {next other : Token → Visit Custom Handler Note Result}
      (alike : ∀ token tag, Alike first second agrees (next token) (other tag)) :
      Alike first second agrees (.attach handler next) (.attach watcher other)
  | detach (token tag : Token) {next other : Bool → Visit Custom Handler Note Result}
      (alike : ∀ answer reply, Alike first second agrees (next answer) (other reply)) :
      Alike first second agrees (.detach token next) (.detach tag other)
  | count {next other : Nat → Visit Custom Handler Note Result}
      (alike : ∀ answer reply, Alike first second agrees (next answer) (other reply)) :
      Alike first second agrees (.count next) (.count other)
  | emit (diagnostic finding : Diagnostic) {next other : Visit Custom Handler Note Result}
      (alike : Alike first second agrees next other) :
      Alike first second agrees (.emit diagnostic next) (.emit finding other)
  | emitsErrors {next other : Bool → Visit Custom Handler Note Result}
      (alike : ∀ answer reply, Alike first second agrees (next answer) (other reply)) :
      Alike first second agrees (.emitsErrors next) (.emitsErrors other)
  | setEmitsErrors (choice decision : Bool) {next other : Visit Custom Handler Note Result}
      (alike : Alike first second agrees next other) :
      Alike first second agrees (.setEmitsErrors choice next) (.setEmitsErrors decision other)
  | verify (ref : OpRef) {next other : Verdict → Visit Custom Handler Note Result}
      (alike : ∀ verdict ruling, verdict.Agrees ruling →
        Alike first second agrees (next verdict) (other ruling)) :
      Alike first second agrees (.verify ref next) (.verify ref other)
  | check (schema : Schema Custom) (operation : Operation)
      {next other : Verdict → Visit Custom Handler Note Result}
      (alike : ∀ verdict ruling, verdict.Agrees ruling →
        Alike first second agrees (next verdict) (other ruling)) :
      Alike first second agrees (.check schema operation next) (.check schema operation other)

end Visit

/-- The verifiers do not ask about the state of the channel, nor about anything in which the two
workspaces differ. Nothing is said of the handlers. -/
def Conduct.Impartial (conduct : Conduct Custom Handler Note) (first second : Workspace Custom) :
    Prop :=
  ∀ verifier operation, Visit.Alike first second Verdict.Agrees
    (conduct.inspect verifier operation) (conduct.inspect verifier operation)

/-! ### Actions that concur -/

/-- The actions, wherever they are run and if they come to an end, come to results that agree. -/
def Concur (agrees : Result → Result → Prop) (action counterpart : Turn Handler Note Result) :
    Prop :=
  ∀ channel result after sibling place last, action.run channel = some (result, after) →
    counterpart.run place = some (sibling, last) → agrees result sibling

variable {agrees : Result → Result → Prop}

theorem Concur.bind {relates : Other → Other → Prop} {action counterpart : Turn Handler Note Other}
    {next follow : Other → Turn Handler Note Result} (concur : Concur relates action counterpart)
    (later : ∀ other sibling, relates other sibling → Concur agrees (next other) (follow sibling)) :
    Concur agrees (action >>= next) (counterpart >>= follow) := by
  intro channel result after sibling place last ran ranOther
  obtain ⟨other, between, ranFirst, ranNext⟩ := run_bind_eq_some ran
  obtain ⟨answer, middle, ranOtherFirst, ranFollow⟩ := run_bind_eq_some ranOther
  exact later other answer (concur _ _ _ _ _ _ ranFirst ranOtherFirst) _ _ _ _ _ _ ranNext ranFollow

/-- The services come to verdicts that agree. -/
structure Service.Concur (service counterpart : Service Custom Handler Note) : Prop where
  verify : ∀ ref, Polyglot.Concur Verdict.Agrees (service.verify ref) (counterpart.verify ref)
  check : ∀ schema operation, Polyglot.Concur Verdict.Agrees (service.check schema operation)
    (counterpart.check schema operation)

/-- The workspaces have the same operations, the same loaded dialects, and the same opinion of
operations of unregistered dialects. -/
structure Workspace.Resembles (first second : Workspace Custom) : Prop where
  operations : first.session.operations = second.session.operations
  loaded : first.session.loaded = second.session.loaded
  allowsUnregistered : first.session.allowsUnregistered = second.session.allowsUnregistered

namespace Conduct

variable {conduct : Conduct Custom Handler Note} {first second : Workspace Custom}

/-- The standard verifiers ask for nothing, and those of the client are impartial. -/
theorem Impartial.examine_schema (impartial : conduct.Impartial first second)
    (operations : Operations) (schema : Schema Custom) (operation : Operation) :
    Visit.Alike first second Verdict.Agrees (schema.examine conduct operations operation)
      (schema.examine conduct operations operation) := by
  unfold Schema.examine
  split
  · exact .done (.refl _)
  · split
    next verifier _ =>
      cases verifier with
      | custom verifier => exact impartial verifier operation
      | _ => exact .done (.refl _)
    · exact .done (.refl _)

theorem Impartial.examine (impartial : conduct.Impartial first second)
    (resembles : first.Resembles second) (operation : Operation) :
    Visit.Alike first second Verdict.Agrees (first.session.examine conduct operation)
      (second.session.examine conduct operation) := by
  have sameDialect : first.session.dialect? = second.session.dialect? := by
    funext name
    rw [Session.dialect?, Session.dialect?, resembles.loaded]
  unfold Session.examine
  rw [resembles.operations, sameDialect, resembles.allowsUnregistered]
  split
  · exact .done (.refl _)
  · split
    · exact .done (.refl _)
    · split
      next schema _ => exact impartial.examine_schema second.session.operations schema operation
      · exact .done (.refl _)

end Conduct

/-! ### Verifications in households -/

namespace Household

/-- Verify an operation of a session on the channel of that session, with calls nested up to a
depth. -/
def verify (household : Household Custom Handler Note) (conduct : Conduct Custom Handler Note)
    (depth number : Nat) (ref : OpRef) : Option (Verdict × Household Custom Handler Note) := do
  let member ← household.member? number
  let workspace ← household.workspace? member
  let (verdict, channel) ← conduct.run workspace depth (.verify ref .done) member.channel
  return (verdict, household.setMember number { member with channel := channel })

/-- The verifiers of a client. -/
inductive Relay where
  /-- Emits an error and finds fault. -/
  | leaf
  /-- Verifies the first operation, and passes the verdict on. -/
  | root

namespace Relay

/-- The client. Its handler meddles as soon as it hears of anything, and consumes it. -/
def conduct : Conduct Relay Unit Unit where
  inspect
    | leaf, operation =>
      .emit (.error .unknown "complaint") (.done (operation.reject (.custom "unfit")))
    | root, _ => .verify ⟨0⟩ .done
  react _ _ := .attach () fun _ => .setEmitsErrors true (.done (true, ()))
  listen _ _ := ([], false, ())

/-- A dialect with an operation for each verifier. -/
def dialect : Dialect Relay :=
  (Dialect.ofName ⟨"relay"⟩).insertAll [{ name := "leaf", verifier := some (.custom leaf) },
    { name := "root", verifier := some (.custom root) }]

/-- The session has an operation for each verifier. -/
def session : Session Relay :=
  let environment := ((Environment.ofLoader 0 Loader.empty).register dialect).state
  let started := (Workspace.start environment ⟨some ["relay"], false⟩).state
  ((started.create ⟨"relay.leaf", [], [], [], .unknown⟩).state.create
    ⟨"relay.root", [], [], [], .unknown⟩).state.session

/-- A session nobody listens to, and one whose handler is attached and whose errors are emitted.
They share neither an environment nor a channel. -/
def pair : Household Relay Unit Unit :=
  { environments := [.ofLoader 0 Loader.empty, .ofLoader 1 Loader.empty]
    members := [(0, ⟨0, session, .empty⟩),
      (1, ⟨1, session, ((Channel.empty.attach ()).2.setEmitsErrors true)⟩)]
    opened := 2
    live := 2 }

/-- The verdict on the second operation, with what was captured on the way. -/
def unfit (captured : List Diagnostic) : Verdict :=
  .rejected ⟨.verificationFailed, .custom "unfit", .unknown, captured⟩

theorem impartial (first second : Workspace Relay) : conduct.Impartial first second := by
  intro verifier operation
  cases verifier with
  | leaf => exact .emit _ _ (.done (.refl _))
  | root => exact .verify ⟨0⟩ fun _ _ => .done

end Relay

end Household

end Polyglot
