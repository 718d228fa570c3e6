/-
This file defines the channel through which the diagnostics of a session go.

Handlers are kept in a chain in the order in which they were attached. While a diagnostic is
dispatched its handlers are taken out of the chain; those that are attached meanwhile wait
behind them, and those that are detached meanwhile are dropped when the chain is put back. The
innermost capture scope collects errors. The channel keeps a history of what happened on it.
-/

import Polyglot.Diagnostic
import Polyglot.Operation

namespace Polyglot

/-- The name of an attached handler. Tokens are never given out twice. -/
structure Token where
  number : Nat
  deriving DecidableEq

/-- A handler in a chain. -/
structure Attached (Handler : Type) where
  token : Token
  handler : Handler

/-- What happens on a channel. -/
inductive Event (Note : Type) where
  /-- A handler was attached. -/
  | attached (token : Token)
  /-- A handler was to be detached, and it was attached or not. -/
  | detached (token : Token) (wasAttached : Bool)
  /-- A diagnostic was emitted. -/
  | emitted (diagnostic : Diagnostic)
  /-- The dispatch of a diagnostic to the handlers began. -/
  | dispatched (diagnostic : Diagnostic)
  /-- A handler was called. -/
  | called (token : Token) (diagnostic : Diagnostic)
  /-- A handler returned, having consumed the diagnostic or not. -/
  | answered (token : Token) (consumed : Bool)
  /-- The dispatch of a diagnostic ended. -/
  | settled (diagnostic : Diagnostic) (consumed : Bool)
  /-- A diagnostic that nobody consumed went to the default sink. -/
  | sunk (diagnostic : Diagnostic)
  /-- The innermost capture scope took a diagnostic. -/
  | captured (diagnostic : Diagnostic)
  /-- It was chosen whether errors are emitted. -/
  | switched (choice : Bool)
  /-- The verification of an operation began. -/
  | verifying (ref : OpRef)
  /-- The verification of an operation ended. -/
  | verified (ref : OpRef)
  /-- A client left a note. -/
  | noted (note : Note)

/-- The diagnostic channel of a session. -/
structure Channel (Handler Note : Type) where
  chain : List (Attached Handler)
  /-- The tokens of the handlers that the dispatches in progress have taken out. -/
  dispatching : List Token
  /-- The tokens among them that were detached since. -/
  detaching : List Token
  /-- The number of the next token. -/
  attachments : Nat
  /-- The capture scopes, the innermost first. -/
  scopes : List (List Diagnostic)
  /-- Do errors reach handlers and the default sink even while they are captured? -/
  emitsErrors : Bool
  /-- What happened, the latest event first. -/
  history : List (Event Note)

namespace Channel

variable {Handler Note : Type}

/-- A channel on which nothing happened yet. -/
def empty : Channel Handler Note := ⟨[], [], [], 0, [], false, []⟩

/-- The channel with one more event in its history. -/
def record (channel : Channel Handler Note) (event : Event Note) : Channel Handler Note :=
  { channel with history := event :: channel.history }

/-- The channel with notes in its history. -/
def recordNotes (channel : Channel Handler Note) (notes : List Note) : Channel Handler Note :=
  notes.foldl (fun result note => result.record (.noted note)) channel

/-- The number of handlers in the chain. -/
def size (channel : Channel Handler Note) : Nat :=
  channel.chain.length

/-- Attach a handler at the end of the chain. -/
def attach (channel : Channel Handler Note) (handler : Handler) :
    Token × Channel Handler Note :=
  let token : Token := ⟨channel.attachments⟩
  (token, { channel with
    chain := channel.chain ++ [⟨token, handler⟩]
    attachments := channel.attachments + 1
    history := .attached token :: channel.history })

/-- Is the handler in the chain? -/
def isChained (channel : Channel Handler Note) (token : Token) : Bool :=
  channel.chain.any fun attached => attached.token = token

/-- Detach a handler; the answer says whether it was attached. A handler that a dispatch has
taken out is dropped when the dispatch ends. -/
def detach (channel : Channel Handler Note) (token : Token) : Bool × Channel Handler Note :=
  if channel.isChained token then
    (true, { channel with
      chain := channel.chain.filter fun attached => attached.token ≠ token
      history := .detached token true :: channel.history })
  else if channel.dispatching.contains token && !channel.detaching.contains token then
    (true, { channel with
      detaching := channel.detaching ++ [token]
      history := .detached token true :: channel.history })
  else (false, channel.record (.detached token false))

/-- Choose whether errors are emitted. -/
def setEmitsErrors (channel : Channel Handler Note) (choice : Bool) : Channel Handler Note :=
  { channel with
    emitsErrors := choice
    history := .switched choice :: channel.history }

/-- Are errors being captured? -/
def isCapturing (channel : Channel Handler Note) : Bool :=
  !channel.scopes.isEmpty

/-- Open a capture scope inside the others. -/
def openScope (channel : Channel Handler Note) : Channel Handler Note :=
  { channel with scopes := [] :: channel.scopes }

/-- Close the innermost capture scope and hand out what it captured. -/
def closeScope (channel : Channel Handler Note) : List Diagnostic × Channel Handler Note :=
  (channel.scopes.headD [], { channel with scopes := channel.scopes.tail })

/-- Let the innermost capture scope take a diagnostic, if there is a scope. -/
def capture (channel : Channel Handler Note) (diagnostic : Diagnostic) : Channel Handler Note :=
  match channel.scopes with
  | [] => channel
  | scope :: outer =>
    { channel with
      scopes := (scope ++ [diagnostic]) :: outer
      history := .captured diagnostic :: channel.history }

/-- Take the whole chain out for a dispatch. -/
def takeChain (channel : Channel Handler Note) :
    List (Attached Handler) × Channel Handler Note :=
  (channel.chain, { channel with
    chain := []
    dispatching := channel.dispatching ++ channel.chain.map Attached.token })

/-- Put the handlers of a dispatch back in front of those attached meanwhile, leaving out those
that were detached meanwhile. The number says how many tokens the dispatches around it have. -/
def putBack (channel : Channel Handler Note) (running : List (Attached Handler))
    (outer : Nat) : Channel Handler Note :=
  { channel with
    chain := (running.filter fun attached => !channel.detaching.contains attached.token) ++
      channel.chain
    dispatching := channel.dispatching.take outer
    detaching := channel.detaching.filter fun token =>
      !running.any fun attached => attached.token = token }

end Channel

end Polyglot
