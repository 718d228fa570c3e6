/-
This file runs visits.

Emitting, verifying and checking call visits of handlers and verifiers, which may emit, verify
and check in turn. How deep such calls may nest is bounded by a number; a run that would go
deeper gives nothing, and so no run goes on for ever.

Errors that are emitted while an operation is verified are captured. If the verification fails,
its own error is emitted as a diagnostic too, and the captured diagnostics go with the error.
A verification that breaks off leaves its capture scope open.
-/

import Polyglot.Channel.Emission
import Polyglot.Verification

namespace Polyglot

variable {Custom Handler Note Result : Type}

/-- A run on a channel, which gives nothing if calls nest too deep. -/
abbrev Turn (Handler Note : Type) : Type → Type :=
  StateT (Channel Handler Note) Option

/-- What a visit can have done for it. -/
structure Service (Custom Handler Note : Type) where
  emit : Diagnostic → Turn Handler Note Unit
  verify : OpRef → Turn Handler Note Verdict
  check : Schema Custom → Operation → Turn Handler Note Verdict

/-- Play a visit, step by step. -/
def Visit.play (workspace : Workspace Custom) (service : Service Custom Handler Note) :
    Visit Custom Handler Note Result → Turn Handler Note Result
  | .done result => pure result
  | .look next => (next workspace).play workspace service
  | .remember next => do
    let channel ← get
    (next channel.history).play workspace service
  | .note entry next => do
    modify (·.record (.noted entry))
    next.play workspace service
  | .attach handler next => do
    let token ← modifyGet (·.attach handler)
    (next token).play workspace service
  | .detach token next => do
    let answer ← modifyGet (·.detach token)
    (next answer).play workspace service
  | .count next => do
    let channel ← get
    (next channel.size).play workspace service
  | .emit diagnostic next => do
    service.emit diagnostic
    next.play workspace service
  | .emitsErrors next => do
    let channel ← get
    (next channel.emitsErrors).play workspace service
  | .setEmitsErrors choice next => do
    modify (·.setEmitsErrors choice)
    next.play workspace service
  | .verify ref next => do
    let verdict ← service.verify ref
    (next verdict).play workspace service
  | .check schema operation next => do
    let verdict ← service.check schema operation
    (next verdict).play workspace service

/-- The diagnostic that reports an error. -/
def Error.diagnostic (error : Error) : Diagnostic :=
  .error error.location error.cause.message

/-- The end of a verification: close its capture scope and hand out what it captured. -/
def endVerification (ref : OpRef) : Turn Handler Note (List Diagnostic) := do
  let captured ← modifyGet Channel.closeScope
  modify (·.record (.verified ref))
  pure captured

/-- Verify an operation: examine it inside a capture scope, and report its error if it has one. -/
def verifyWith (emit : Diagnostic → Turn Handler Note Unit)
    (examine : Turn Handler Note Verdict) (ref : OpRef) : Turn Handler Note Verdict := do
  modify fun channel => (channel.record (.verifying ref)).openScope
  match ← examine with
  | .accepted => do
    let _ ← endVerification ref
    pure .accepted
  | .rejected error => do
    emit error.diagnostic
    let captured ← endVerification ref
    pure (.rejected (error.withDiagnostics captured))
  | .brokenOff fault => pure (.brokenOff fault)

/-- What visits can have done for them, with calls nested up to a depth. -/
def Conduct.service (conduct : Conduct Custom Handler Note) (workspace : Workspace Custom) :
    (depth : Nat) → Service Custom Handler Note
  | 0 =>
    { emit := fun _ => failure
      verify := fun _ => failure
      check := fun _ _ => failure }
  | depth + 1 =>
    { emit := Channel.emit fun handler diagnostic =>
        (conduct.react handler diagnostic).play workspace (conduct.service workspace depth)
      verify := fun ref =>
        match workspace.session.operations.find? ref with
        | none => pure (.brokenOff .erasedOperation)
        | some operation =>
          verifyWith (fun diagnostic => (conduct.service workspace depth).emit diagnostic)
            ((workspace.session.examine conduct operation).play workspace
              (conduct.service workspace depth)) ref
      check := fun schema operation =>
        (schema.examine conduct workspace.session.operations operation).play workspace
          (conduct.service workspace depth) }

/-- Run a visit from outside, with calls nested up to a depth. -/
def Conduct.run (conduct : Conduct Custom Handler Note) (workspace : Workspace Custom)
    (depth : Nat) (visit : Visit Custom Handler Note Result) (channel : Channel Handler Note) :
    Option (Result × Channel Handler Note) :=
  (visit.play workspace (conduct.service workspace depth)).run channel

/-- Emit a diagnostic while the session is in use, so that handlers only listen. -/
def Conduct.announce (conduct : Conduct Custom Handler Note) (diagnostic : Diagnostic)
    (channel : Channel Handler Note) : Channel Handler Note :=
  let call : Call Handler Note Id := fun handler heard => do
    let (notes, consumed, next) := conduct.listen handler heard
    modify (·.recordNotes notes)
    pure (consumed, next)
  ((Channel.emit call diagnostic).run channel).2

/-- The channel after an attempt to create an operation: the warning that comes with a new
operation is announced, and an attempt that failed is not heard of. -/
def Conduct.afterCreation (conduct : Conduct Custom Handler Note)
    (answer : Except Error Creation) (channel : Channel Handler Note) : Channel Handler Note :=
  match answer with
  | .ok creation =>
    match creation.warning with
    | some warning => conduct.announce warning channel
    | none => channel
  | .error _ => channel

end Polyglot
