/-
This file defines how a diagnostic is emitted on a channel.

An error that is being captured goes to the innermost scope at once, unless errors are emitted.
Everything else is dispatched: the handlers are called in the order of their attachment, up to
the first that consumes the diagnostic. If none does, the default sink gets it when errors are
emitted, and an error is captured.

How a handler is called is a parameter, as is the monad in which calls happen: while the session
is in use by somebody else, handlers can only listen.
-/

import Polyglot.Channel

namespace Polyglot

/-- How a handler is called in a monad: it may act on the channel, says whether it consumed the
diagnostic, and leaves behind the handler for the next call. -/
abbrev Call (Handler Note : Type) (m : Type → Type) : Type :=
  Handler → Diagnostic → StateT (Channel Handler Note) m (Bool × Handler)

namespace Channel

variable {Handler Note : Type} {m : Type → Type} [Monad m]

/-- Call handlers in turn, up to the first that consumes the diagnostic. -/
def callEach (call : Call Handler Note m) (diagnostic : Diagnostic) :
    List (Attached Handler) →
      StateT (Channel Handler Note) m (Bool × List (Attached Handler))
  | [] => pure (false, [])
  | first :: rest => do
    modify (·.record (.called first.token diagnostic))
    let (consumed, handler) ← call first.handler diagnostic
    modify (·.record (.answered first.token consumed))
    let next : Attached Handler := ⟨first.token, handler⟩
    if consumed then pure (true, next :: rest)
    else do
      let (later, others) ← callEach call diagnostic rest
      pure (later, next :: others)

/-- Dispatch a diagnostic to the handlers; the answer says whether one consumed it. -/
def dispatch (call : Call Handler Note m) (diagnostic : Diagnostic) :
    StateT (Channel Handler Note) m Bool := do
  let before ← get
  let (running, taken) := before.takeChain
  set (taken.record (.dispatched diagnostic))
  let (consumed, returned) ← callEach call diagnostic running
  modify fun channel => (channel.putBack returned before.dispatching.length).record
    (.settled diagnostic consumed)
  pure consumed

/-- Emit a diagnostic. -/
def emit (call : Call Handler Note m) (diagnostic : Diagnostic) :
    StateT (Channel Handler Note) m Unit := do
  let before ← get
  set (before.record (.emitted diagnostic))
  if diagnostic.isError && before.isCapturing && !before.emitsErrors then
    modify (·.capture diagnostic)
  else do
    let consumed ← dispatch call diagnostic
    if consumed then pure ()
    else do
      if before.emitsErrors then modify (·.record (.sunk diagnostic))
      if diagnostic.isError then modify (·.capture diagnostic)

end Channel

end Polyglot
