/-
This file defines visits: what a client does with a session that it may look at but not change.
Handlers and verifiers are visits, and so is whatever a client does from outside.

A visit may look at the workspace, read the history and leave notes, attach and detach handlers,
emit diagnostics, choose whether errors are emitted, verify operations, and check an operation
against a schema. It is given as a tree: each step holds what follows, depending on the answer.
-/

import Polyglot.Channel
import Polyglot.Verdict
import Polyglot.Workspace

namespace Polyglot

/-- What a client does with a session, up to a result. -/
inductive Visit (Custom Handler Note Result : Type) where
  /-- Come to an end. -/
  | done (result : Result)
  /-- Look at the workspace. -/
  | look (next : Workspace Custom → Visit Custom Handler Note Result)
  /-- Read the history, the latest event first. -/
  | remember (next : List (Event Note) → Visit Custom Handler Note Result)
  /-- Leave a note. -/
  | note (entry : Note) (next : Visit Custom Handler Note Result)
  /-- Attach a handler. -/
  | attach (handler : Handler) (next : Token → Visit Custom Handler Note Result)
  /-- Detach a handler. -/
  | detach (token : Token) (next : Bool → Visit Custom Handler Note Result)
  /-- Count the handlers in the chain. -/
  | count (next : Nat → Visit Custom Handler Note Result)
  /-- Emit a diagnostic. -/
  | emit (diagnostic : Diagnostic) (next : Visit Custom Handler Note Result)
  /-- Ask whether errors are emitted. -/
  | emitsErrors (next : Bool → Visit Custom Handler Note Result)
  /-- Choose whether errors are emitted. -/
  | setEmitsErrors (choice : Bool) (next : Visit Custom Handler Note Result)
  /-- Verify an operation. -/
  | verify (ref : OpRef) (next : Verdict → Visit Custom Handler Note Result)
  /-- Check an operation against a schema. -/
  | check (schema : Schema Custom) (operation : Operation)
      (next : Verdict → Visit Custom Handler Note Result)

namespace Visit

variable {Custom Handler Note Result Other : Type}

/-- Go on with the result of a visit. -/
def andThen (visit : Visit Custom Handler Note Result)
    (rest : Result → Visit Custom Handler Note Other) : Visit Custom Handler Note Other :=
  match visit with
  | done result => rest result
  | look next => look fun workspace => (next workspace).andThen rest
  | remember next => remember fun history => (next history).andThen rest
  | note entry next => note entry (next.andThen rest)
  | attach handler next => attach handler fun token => (next token).andThen rest
  | detach token next => detach token fun answer => (next answer).andThen rest
  | count next => count fun answer => (next answer).andThen rest
  | emit diagnostic next => emit diagnostic (next.andThen rest)
  | emitsErrors next => emitsErrors fun answer => (next answer).andThen rest
  | setEmitsErrors choice next => setEmitsErrors choice (next.andThen rest)
  | verify ref next => verify ref fun verdict => (next verdict).andThen rest
  | check schema operation next =>
    check schema operation fun verdict => (next verdict).andThen rest

instance : Monad (Visit Custom Handler Note) where
  pure := done
  bind := andThen

end Visit

/-- The behaviour of a client: what its verifiers do, what its handlers do when they are called,
and what they do when they are called while the session is in use and can only listen. -/
structure Conduct (Custom Handler Note : Type) where
  inspect : Custom → Operation → Visit Custom Handler Note Verdict
  react : Handler → Diagnostic → Visit Custom Handler Note (Bool × Handler)
  listen : Handler → Diagnostic → List Note × Bool × Handler

end Polyglot
