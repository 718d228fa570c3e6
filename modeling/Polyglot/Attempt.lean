/-
This file defines attempts. An attempt at something gives an answer, the state it leaves behind,
whether it succeeded or not, and the log of what happened on the way.
-/

import Polyglot.Log

namespace Polyglot

/-- What came of an attempt at something. -/
structure Attempt (State Answer : Type) where
  answer : Except Error Answer
  state : State
  log : List LogEvent

namespace Attempt

variable {State Answer : Type}

/-- Nothing happened, and here is the answer. -/
def idle (state : State) (answer : Except Error Answer) : Attempt State Answer :=
  ⟨answer, state, []⟩

/-- The attempt with events in front of its log. -/
def after (log : List LogEvent) (attempt : Attempt State Answer) : Attempt State Answer :=
  { attempt with log := log ++ attempt.log }

/-- The attempt seen as one on a larger state. -/
def lift {Whole : Type} (attempt : Attempt State Answer) (embed : State → Whole) :
    Attempt Whole Answer :=
  ⟨attempt.answer, embed attempt.state, attempt.log⟩

/-- Go on with the answer of an attempt, unless it failed. -/
def andThen {Other : Type} (attempt : Attempt State Answer)
    (next : Answer → State → Attempt State Other) : Attempt State Other :=
  match attempt.answer with
  | .ok answer => (next answer attempt.state).after attempt.log
  | .error error => ⟨.error error, attempt.state, attempt.log⟩

/-- The attempt with its error changed, if it failed. -/
def mapError (attempt : Attempt State Answer) (change : Error → Error) :
    Attempt State Answer :=
  { attempt with answer := attempt.answer.mapError change }

theorem andThen_of_ok {Other : Type} (attempt : Attempt State Answer)
    (next : Answer → State → Attempt State Other) (answer : Answer)
    (answered : attempt.answer = .ok answer) :
    attempt.andThen next = (next answer attempt.state).after attempt.log := by
  rw [andThen, answered]

theorem andThen_of_error {Other : Type} (attempt : Attempt State Answer)
    (next : Answer → State → Attempt State Other) (error : Error)
    (failed : attempt.answer = .error error) :
    attempt.andThen next = ⟨.error error, attempt.state, attempt.log⟩ := by
  rw [andThen, failed]

end Attempt

end Polyglot
