/-
This file defines the lives of sessions. A life starts with the start of a session in an
environment that others may have used before, and goes on with deeds: operations are created,
built, erased and changed, dialects are looked up and loaded, and the environment is changed by
this session or by another one that shares it. A life lists the workspaces it went through, the
latest first, so that what was given out earlier can be spoken of.

The one thing that is asked of a deed is that it draws the operands of a new operation from the
life: each is a result of an operation that was alive at some time of this session.

Lookups and starts are made of a few steps, and what these keep they keep. The operations are one
such thing.
-/

import Polyglot.Proofs.Operation.DefUse

namespace Polyglot

namespace Environment

variable {Custom : Type}

/-- What can be done to an environment. -/
inductive Deed (Custom : Type) where
  | register (dialect : Dialect Custom)
  | appendRoot (root : String)
  | appendStartName (name : String)
  | setLoadsAll (choice : Bool)
  | loadModule (name : DialectName)

/-- The environment after a deed. -/
def perform (environment : Environment Custom) : Deed Custom → Environment Custom
  | .register dialect => (environment.register dialect).state
  | .appendRoot root => (environment.appendRoot root).state
  | .appendStartName name => environment.appendStartName name
  | .setLoadsAll choice => { environment with loadsAll := choice }
  | .loadModule name => (environment.loadModule name).state

/-- The environments that come about by deeds. -/
inductive Reached : Environment Custom → Prop where
  | fresh (stamp : Nat) (loader : Loader Custom) : Reached (.ofLoader stamp loader)
  | performed (environment : Environment Custom) (deed : Deed Custom)
      (reached : Reached environment) : Reached (environment.perform deed)

end Environment

namespace Workspace

variable {Custom : Type}

/-! ### Deeds -/

/-- What can be done to a workspace. -/
inductive Deed (Custom : Type) where
  | create (draft : Draft)
  /-- Create an operation through a builder. -/
  | build (opClass : OpClass) (draft : Draft)
  /-- Create an operation through the builder that a view has for it. -/
  | buildFrom (view : DialectView) (op : String) (draft : Draft)
  | erase (ref : OpRef)
  | setAttribute (ref : OpRef) (name : Identifier) (value : Attribute)
  | setLocation (ref : OpRef) (location : Location)
  | descriptor (name : DialectName)
  | view (access : Access) (name : DialectName)
  | loadAll
  | setAllowsUnregistered (allow : Bool)
  /-- Something is done to the environment. -/
  | share (deed : Environment.Deed Custom)

/-- The workspace after an operation was erased, or after that failed. -/
def eraseOrKeep (workspace : Workspace Custom) (ref : OpRef) : Workspace Custom :=
  match workspace.session.erase ref with
  | .ok session => { workspace with session := session }
  | .error _ => workspace

/-- The workspace after a deed, whether it succeeded or failed. -/
def perform (workspace : Workspace Custom) : Deed Custom → Workspace Custom
  | .create draft => (workspace.create draft).state
  | .build opClass draft => (workspace.build opClass draft).state
  | .buildFrom view op draft => (workspace.buildFrom view op draft).state
  | .erase ref => workspace.eraseOrKeep ref
  | .setAttribute ref name value =>
    { workspace with session := workspace.session.setAttribute ref name value }
  | .setLocation ref location =>
    { workspace with session := workspace.session.setLocation ref location }
  | .descriptor name => (workspace.descriptor name).state
  | .view access name => (workspace.view access name).state
  | .loadAll => workspace.loadAll.state
  | .setAllowsUnregistered allow => workspace.setAllowsUnregistered allow
  | .share deed => { workspace with environment := workspace.environment.perform deed }

/-- The operands that a builder asks for, if it does not fail. -/
def preparedOperands (workspace : Workspace Custom) (opClass : OpClass) (draft : Draft) :
    List Value :=
  match opClass.prepare workspace.session.operations draft with
  | .ok prepared => prepared.operands
  | .error _ => []

/-- The operands that a deed asks for. -/
def operandsOf (workspace : Workspace Custom) : Deed Custom → List Value
  | .create draft => draft.operands
  | .build opClass draft => workspace.preparedOperands opClass draft
  | .buildFrom view op draft =>
    match view.opClass op with
    | .ok opClass => workspace.preparedOperands opClass draft
    | .error _ => []
  | _ => []

/-- The lives of sessions. -/
inductive Life : List (Workspace Custom) → Prop where
  | started (environment : Environment Custom) (options : Start)
      (reached : environment.Reached) (success : (start environment options).answer = .ok ()) :
      Life [(start environment options).state]
  | performed (workspace : Workspace Custom) (past : List (Workspace Custom))
      (deed : Deed Custom) (life : Life (workspace :: past))
      (drawn : ∀ value ∈ workspace.operandsOf deed,
        ∃ earlier ∈ workspace :: past, value ∈ earlier.session.operations.values) :
      Life (workspace.perform deed :: workspace :: past)

end Workspace

/-! ### What lookups leave alone -/

/-- What holds of the state after the first of two attempts, and is kept by the second, holds of
the state after both. -/
theorem Attempt.state_andThen {State Answer Other : Type} {motive : State → Prop}
    (attempt : Attempt State Answer) (next : Answer → State → Attempt State Other)
    (first : motive attempt.state) (second : ∀ answer, motive (next answer attempt.state).state) :
    motive (attempt.andThen next).state := by
  unfold andThen
  split
  · exact second _
  · exact first

/-- Asking for a class leaves what loading the module leaves. -/
theorem Environment.state_classOf {Custom : Type} (environment : Environment Custom)
    (name : DialectName) :
    (environment.classOf name).state = (environment.loadModule name).state :=
  Attempt.state_andThen (motive := (· = (environment.loadModule name).state)) _ _ rfl
    fun _ => rfl

namespace Workspace

variable {Custom : Type}

/-- A property of workspaces that is kept by the steps that lookups and starts are made of: to load
the module of a namespace, to load a dialect, to keep a view, and to set the policy. -/
structure Lasting (motive : Workspace Custom → Prop) : Prop where
  loadModule : ∀ workspace name, motive workspace → motive (workspace.loadModule name).state
  load : ∀ workspace dialect, motive workspace → motive (workspace.load dialect).state
  keepView : ∀ (workspace : Workspace Custom) view, motive workspace →
    motive { workspace with session := workspace.session.keepView view }
  setAllowsUnregistered : ∀ workspace allow, motive workspace →
    motive (workspace.setAllowsUnregistered allow)

namespace Lasting

variable {motive : Workspace Custom → Prop} (lasting : Lasting motive)
  {workspace : Workspace Custom} (holds : motive workspace)
include lasting holds

theorem loadAvailable (name : DialectName) : motive (workspace.loadAvailable name).state := by
  unfold Workspace.loadAvailable
  split
  · exact lasting.load workspace _ holds
  · exact holds

theorem descriptor (name : DialectName) : motive (workspace.descriptor name).state := by
  unfold Workspace.descriptor
  split
  · exact holds
  · split
    · exact holds
    · split
      · exact lasting.loadAvailable holds name
      · have asked := lasting.loadModule workspace name holds
        refine Attempt.state_andThen _ _ asked fun _ => ?_
        split
        · exact lasting.loadAvailable asked name
        · exact asked

theorem view (access : Access) (name : DialectName) :
    motive (workspace.view access name).state := by
  show motive (workspace.lookUp name).state
  unfold lookUp
  split
  · exact holds
  · have asked : motive
        { workspace with environment := (workspace.environment.classOf name).state } := by
      rw [Environment.state_classOf]
      exact lasting.loadModule workspace name holds
    have described := lasting.descriptor asked name
    exact Attempt.state_andThen _ _ asked fun _ =>
      Attempt.state_andThen _ _ described fun _ => lasting.keepView _ _ described

theorem loadEach (dialects : List (Dialect Custom)) :
    motive (workspace.loadEach dialects).state := by
  induction dialects generalizing workspace with
  | nil => exact holds
  | cons dialect rest inductionHypothesis =>
    exact inductionHypothesis (lasting.load workspace dialect holds)

theorem demandEach (names : List String) : motive (workspace.demandEach names).state := by
  induction names generalizing workspace with
  | nil => exact holds
  | cons name rest inductionHypothesis =>
    have viewed := lasting.view holds .byIndex ⟨name⟩
    exact Attempt.state_andThen _ _ viewed fun _ => inductionHypothesis viewed

theorem tryEach (names : List String) : motive (workspace.tryEach names).state := by
  induction names generalizing workspace with
  | nil => exact holds
  | cons name rest inductionHypothesis =>
    exact inductionHypothesis (lasting.view holds .byIndex ⟨name⟩)

theorem loadByDefault : motive workspace.loadByDefault.state := by
  unfold Workspace.loadByDefault
  split
  · exact lasting.loadEach holds _
  · exact lasting.tryEach holds _

end Lasting

/-- What holds of a session that is empty holds of one that was started. -/
theorem Lasting.start {motive : Workspace Custom → Prop} (lasting : Lasting motive)
    {environment : Environment Custom} (fresh : motive ⟨environment, Session.empty⟩)
    (options : Start) : motive (start environment options).state := by
  refine Attempt.state_andThen _ _ ?_ fun _ => lasting.setAllowsUnregistered _ _ ?_
  all_goals
    cases options.names with
    | some names => exact lasting.demandEach fresh names
    | none => exact lasting.loadByDefault fresh

/-! ### Operations -/

/-- Nothing that lookups do concerns operations. -/
theorem lasting_operations (operations : Operations) :
    Lasting fun workspace : Workspace Custom => workspace.session.operations = operations where
  loadModule _ _ same := same
  load workspace dialect same := by
    have kept : (workspace.session.load dialect).state.operations =
        workspace.session.operations := by
      unfold Session.load
      split <;> rfl
    exact kept.trans same
  keepView _ _ same := same
  setAllowsUnregistered _ _ same := same

theorem operations_descriptor (workspace : Workspace Custom) (name : DialectName) :
    (workspace.descriptor name).state.session.operations = workspace.session.operations :=
  (lasting_operations _).descriptor rfl name

theorem operations_view (workspace : Workspace Custom) (access : Access) (name : DialectName) :
    (workspace.view access name).state.session.operations = workspace.session.operations :=
  (lasting_operations _).view rfl access name

theorem operations_loadEach (workspace : Workspace Custom) (dialects : List (Dialect Custom)) :
    (workspace.loadEach dialects).state.session.operations = workspace.session.operations :=
  (lasting_operations _).loadEach rfl dialects

/-- A session starts without operations. -/
theorem operations_start (environment : Environment Custom) (options : Start) :
    (start environment options).state.session.operations = Operations.empty :=
  (lasting_operations _).start rfl options

end Workspace

end Polyglot
