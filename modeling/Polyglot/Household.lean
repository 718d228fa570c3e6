/-
This file defines households: any number of environments, and any number of sessions, each of
which shares one of the environments for as long as it lasts. Environments and sessions go by
numbers that are not given out twice. A household counts the sessions that are alive.
-/

import Polyglot.Visit.Run

namespace Polyglot

/-- A session in a household, with its channel and the number of its environment. -/
structure Member (Custom Handler Note : Type) where
  environment : Nat
  session : Session Custom
  channel : Channel Handler Note

/-- Environments and the sessions that share them. -/
structure Household (Custom Handler Note : Type) where
  environments : List (Environment Custom)
  members : List (Nat × Member Custom Handler Note)
  /-- The number of the next member. -/
  opened : Nat
  /-- How many sessions are alive. -/
  live : Nat

namespace Household

variable {Custom Handler Note : Type}

/-- A household with nothing in it. -/
def empty : Household Custom Handler Note := ⟨[], [], 0, 0⟩

/-- Add an environment, whose number is its stamp. -/
def addEnvironment (household : Household Custom Handler Note) (loader : Loader Custom) :
    Nat × Household Custom Handler Note :=
  let number := household.environments.length
  (number, { household with
    environments := household.environments ++ [.ofLoader number loader] })

/-- The environment of a number. -/
def environment? (household : Household Custom Handler Note) (number : Nat) :
    Option (Environment Custom) :=
  household.environments[number]?

/-- Put an environment in the place of the one that has its number. -/
def setEnvironment (household : Household Custom Handler Note) (number : Nat)
    (environment : Environment Custom) : Household Custom Handler Note :=
  { household with environments := household.environments.set number environment }

/-- The session of a number. -/
def member? (household : Household Custom Handler Note) (number : Nat) :
    Option (Member Custom Handler Note) :=
  (household.members.find? fun entry => entry.1 = number).map Prod.snd

/-- Put a session in the place of the one that has its number. -/
def setMember (household : Household Custom Handler Note) (number : Nat)
    (member : Member Custom Handler Note) : Household Custom Handler Note :=
  { household with members := household.members.map fun entry =>
      if entry.1 = number then (number, member) else entry }

/-- The workspace of a session: the session and its environment. -/
def workspace? (household : Household Custom Handler Note)
    (member : Member Custom Handler Note) : Option (Workspace Custom) :=
  (household.environment? member.environment).map fun environment =>
    ⟨environment, member.session⟩

/-- The household after something happened to a session and its environment. -/
def setWorkspace (household : Household Custom Handler Note) (number : Nat)
    (member : Member Custom Handler Note) (workspace : Workspace Custom) :
    Household Custom Handler Note :=
  (household.setEnvironment member.environment workspace.environment).setMember number
    { member with session := workspace.session }

/-- One more session is alive. -/
def raise (household : Household Custom Handler Note) : Household Custom Handler Note :=
  { household with live := household.live + 1 }

/-- One session fewer is alive. -/
def lower (household : Household Custom Handler Note) : Household Custom Handler Note :=
  { household with live := household.live - 1 }

/-- Add a session that was started. -/
def addMember (household : Household Custom Handler Note) (environment : Nat)
    (session : Session Custom) : Household Custom Handler Note :=
  { household with
    members := household.members ++ [(household.opened, ⟨environment, session, .empty⟩)]
    opened := household.opened + 1 }

/-- Start a session in an environment; the answer is its number. The session is alive while it
is being started, and gone again if that fails; what its environment has learned stays. -/
def openSession (household : Household Custom Handler Note) (number : Nat)
    (environment : Environment Custom) (options : Workspace.Start) :
    Attempt (Household Custom Handler Note) Nat :=
  let attempt := Workspace.start environment options
  let started := household.raise.setEnvironment number attempt.state.environment
  match attempt.answer with
  | .ok () =>
    ⟨.ok household.opened, started.addMember number attempt.state.session, attempt.log⟩
  | .error error => ⟨.error error, started.lower, attempt.log⟩

/-- Close a session. -/
def closeSession (household : Household Custom Handler Note) (number : Nat) :
    Household Custom Handler Note :=
  if (household.member? number).isSome then
    { household with members := household.members.filter fun entry => entry.1 ≠ number }.lower
  else household

/-- Close all sessions. -/
def closeAll (household : Household Custom Handler Note) : Household Custom Handler Note :=
  (household.members.map Prod.fst).foldl closeSession household

end Household

end Polyglot
