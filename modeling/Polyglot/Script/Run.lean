/-
This file runs scripts. Each step gives an answer and the events that it brought about, in
order. Things made by a step replace earlier things of the same name; a step that fails makes
and replaces nothing.
-/

import Polyglot.Script.Command

namespace Polyglot.Script

/-- What a step brings about besides its answer. -/
inductive StepEvent where
  | logged (event : LogEvent)
  | noted (note : ScriptNote)
  | sunk (diagnostic : Diagnostic)

/-- A session under a name: its number in the household, and the names of its operations. -/
structure NamedSession where
  number : Nat
  operations : OpNames

/-- Everything that a script has made so far. -/
structure Desk where
  household : Household ScriptVerifier ScriptHandler ScriptNote
  environments : Dictionary Nat
  searchPaths : Dictionary (SearchPath ScriptVerifier)
  sessions : Dictionary NamedSession
  descriptors : Dictionary Descriptor
  views : Dictionary DialectView
  opClasses : Dictionary OpClass
  /-- How deep calls of handlers and verifiers may nest. -/
  depth : Nat

/-- What a step gives: its answer, the desk after it, and the events on the way. -/
structure Outcome where
  answer : Answer
  desk : Desk
  events : List StepEvent

namespace Desk

/-- A desk on which nothing was made yet. -/
def empty (depth : Nat) : Desk :=
  ⟨.empty, .empty, .empty, .empty, .empty, .empty, .empty, depth⟩

/-- An outcome that leaves the desk as it is. -/
def say (desk : Desk) (answer : Answer) : Outcome :=
  ⟨answer, desk, []⟩

/-- The events of a log. -/
def logged (log : List LogEvent) : List StepEvent :=
  log.map .logged

/-- The events that a channel has in its history and had not before. -/
def newEvents (before after : Channel ScriptHandler ScriptNote) : List StepEvent :=
  let added := after.history.take (after.history.length - before.history.length)
  added.reverse.filterMap fun event =>
    match event with
    | .noted (.named _ _) => none
    | .noted note => some (.noted note)
    | .sunk diagnostic => some (.sunk diagnostic)
    | _ => none

/-- The session of a name, with its place in the household and its workspace. -/
structure Site where
  named : NamedSession
  member : Member ScriptVerifier ScriptHandler ScriptNote
  workspace : Workspace ScriptVerifier

/-- The site of a session. -/
def site? (desk : Desk) (session : String) : Option Site := do
  let named ← desk.sessions.find? session
  let member ← desk.household.member? named.number
  let workspace ← desk.household.workspace? member
  return ⟨named, member, workspace⟩

/-- The answer to an error, which is shown if there is a session of that name. -/
def failure (desk : Desk) (session : String) (error : Error) : Answer :=
  .failure error (desk.sessions.contains session)

/-- The desk after a session changed. -/
def setSite (desk : Desk) (session : String) (site : Site) : Desk :=
  { desk with
    household :=
      desk.household.setWorkspace site.named.number site.member site.workspace
    sessions := desk.sessions.insert session site.named }

/-! ### Environments -/

/-- What there is to see of a module that was found. -/
def reportFound (dialectModule : DialectModule ScriptVerifier) : ModuleReport :=
  ⟨dialectModule.path, dialectModule.dialectClass, dialectModule.dialect.map Dialect.name⟩

/-- What there is to see of a module that was loaded. -/
def reportLoaded (loaded : LoadedModule ScriptVerifier) : ModuleReport :=
  ⟨loaded.path, loaded.dialectClass, loaded.dialect.map Dialect.name⟩

/-- The outcome of an attempt on an environment. -/
def concludeEnvironment {Value : Type} (desk : Desk) (session : String) (number : Nat)
    (attempt : Attempt (Environment ScriptVerifier) Value)
    (answer : Value → Desk → Answer × Desk) : Outcome :=
  let after := { desk with household := desk.household.setEnvironment number attempt.state }
  match attempt.answer with
  | .ok value =>
    let (said, last) := answer value after
    ⟨said, last, logged attempt.log⟩
  | .error error => ⟨desk.failure session error, after, logged attempt.log⟩

/-- Do what is asked of an environment. -/
def askEnvironment (desk : Desk) (session : String) (number : Nat)
    (environment : Environment ScriptVerifier) : EnvironmentRequest → Outcome
  | .register dialect =>
    desk.concludeEnvironment session number (environment.register dialect) fun isNew after =>
      (.flag isNew, after)
  | .availableNames => desk.say (.texts (environment.availableNames.map DialectName.text))
  | .appendRoot root =>
    desk.concludeEnvironment session number (environment.appendRoot root) fun isNew after =>
      (.flag isNew, after)
  | .roots => desk.say (.texts environment.searchPath.roots)
  | .startNames => desk.say (.texts environment.startNames)
  | .appendStartName name =>
    let changed := environment.appendStartName name
    desk.concludeEnvironment session number (.idle changed (.ok ())) fun _ after =>
      (.texts changed.startNames, after)
  | .loadsAll => desk.say (.flag environment.loadsAll)
  | .setLoadsAll choice =>
    desk.concludeEnvironment session number
      (.idle { environment with loadsAll := choice } (.ok ())) fun _ after => (.done, after)
  | .isModuleLoaded name => desk.say (.flag (environment.searchPath.isLoaded ⟨name⟩))
  | .loadModule name =>
    desk.concludeEnvironment session number (environment.loadModule ⟨name⟩) fun found after =>
      (.flag found, after)
  | .classOf name =>
    desk.concludeEnvironment session number (environment.classOf ⟨name⟩) fun found after =>
      (.dialectClass (found.map LoadedClass.dialectClass), after)
  | .opClassOf qualified name =>
    desk.concludeEnvironment session number (environment.opClassOf qualified) fun found after =>
      match found with
      | some opClass =>
        (.optionalText (some opClass.id.text),
          { after with opClasses := after.opClasses.insert name opClass })
      | none => (.optionalText none, after)

/-- Find the environment that is to be shared. -/
def sharedEnvironment (desk : Desk) : Share → Except String Nat
  | .named environment =>
    match desk.environments.find? environment with
    | some number => .ok number
    | none => .error environment
  | .ofSession session =>
    match desk.site? session with
    | some site => .ok site.member.environment
    | none => .error session

/-! ### Search paths -/

/-- The outcome of an attempt on a search path. -/
def concludeSearch (desk : Desk) (session name : String)
    (attempt : Attempt (SearchPath ScriptVerifier) Bool) : Outcome :=
  let after := { desk with searchPaths := desk.searchPaths.insert name attempt.state }
  match attempt.answer with
  | .ok value => ⟨.flag value, after, logged attempt.log⟩
  | .error error => ⟨desk.failure session error, after, logged attempt.log⟩

/-- Do what is asked of a search path. -/
def askSearchPath (desk : Desk) (session name : String)
    (searchPath : SearchPath ScriptVerifier) : SearchRequest → Outcome
  | .append root => desk.concludeSearch session name (searchPath.append root)
  | .roots => desk.say (.texts searchPath.roots)
  | .resolve dialect => desk.concludeSearch session name (searchPath.resolve ⟨dialect⟩)
  | .isLoaded dialect => desk.say (.flag (searchPath.isLoaded ⟨dialect⟩))
  | .module dialect =>
    desk.say (.dialectModule ((searchPath.module? ⟨dialect⟩).map reportLoaded))

/-- Ask a loader about a path. -/
def askLoader (desk : Desk) (session : String) (loader : ScriptLoader) (path : String) :
    Outcome :=
  match loader path with
  | .missing => desk.say (.dialectModule none)
  | .found dialectModule => desk.say (.dialectModule (some (reportFound dialectModule)))
  | .failed error => desk.say (desk.failure session error)

/-! ### Sessions -/

/-- Start a session under a name. An older one of that name is closed once the new one is
there. -/
def openSession (desk : Desk) (session name : String) (number : Nat)
    (environment : Environment ScriptVerifier) (options : Workspace.Start) : Outcome :=
  let attempt := desk.household.openSession number environment options
  match attempt.answer with
  | .error error =>
    ⟨desk.failure session error, { desk with household := attempt.state }, logged attempt.log⟩
  | .ok opened =>
    let household := match desk.sessions.find? name with
      | some older => attempt.state.closeSession older.number
      | none => attempt.state
    let loaded := match household.member? opened with
      | some member => member.session.loadedNames.map DialectName.text
      | none => []
    ⟨.texts loaded,
      { desk with
        household := household
        sessions := desk.sessions.insert name ⟨opened, .empty⟩ },
      logged attempt.log⟩

/-- The values of names, or the first name that stands for none. -/
def namedValues (names : OpNames) : List ValueName → Except String (List Value)
  | [] => .ok []
  | first :: rest =>
    match names.value? first with
    | none => .error first.text
    | some value =>
      match namedValues names rest with
      | .ok values => .ok (value :: values)
      | .error bad => .error bad

/-- The outcome of an attempt on a workspace. -/
def concludeWorkspace {Value : Type} (desk : Desk) (session : String) (site : Site)
    (attempt : Attempt (Workspace ScriptVerifier) Value)
    (answer : Value → Desk → Answer × Desk) : Outcome :=
  let after := desk.setSite session { site with workspace := attempt.state }
  match attempt.answer with
  | .ok value =>
    let (said, last) := answer value after
    ⟨said, last, logged attempt.log⟩
  | .error error => ⟨desk.failure session error, after, logged attempt.log⟩

/-- The outcome of an attempt to create an operation: it is kept under a name, and the warning
that comes with it is announced to the handlers. -/
def concludeCreation (desk : Desk) (session name : String) (site : Site)
    (attempt : Attempt (Workspace ScriptVerifier) Creation) : Outcome :=
  let channel :=
    (conduct site.named.operations).afterCreation attempt.answer site.member.channel
  let after : Site :=
    { site with member := { site.member with channel := channel }, workspace := attempt.state }
  let events := logged attempt.log ++ newEvents site.member.channel channel
  match attempt.answer with
  | .error error => ⟨desk.failure session error, desk.setSite session after, events⟩
  | .ok creation =>
    let operation := creation.operation
    let names := site.named.operations.insert name
      ⟨operation.ref, operation.resultTypes.length⟩
    let kept : Site := { after with named := { site.named with operations := names } }
    ⟨.text (attempt.state.session.operations.opText operation), desk.setSite session kept, events⟩

/-- Create an operation in some way from a draft whose operands are named. -/
def createBy (desk : Desk) (session name : String) (site : Site) (draft : NamedDraft)
    (attempt : Draft → Except String (Attempt (Workspace ScriptVerifier) Creation)) : Outcome :=
  match namedValues site.named.operations draft.operands with
  | .error bad => desk.say (.noHandle bad)
  | .ok operands =>
    match attempt (draft.withOperands operands) with
    | .error bad => desk.say (.noHandle bad)
    | .ok result => desk.concludeCreation session name site result

/-- Change a named operation that must be alive. -/
def changeOperation (desk : Desk) (session : String) (site : Site) (name : String)
    (change : Session ScriptVerifier → OpRef → Session ScriptVerifier)
    (answer : Operations → Operation → Answer) : Outcome :=
  match site.named.operations.find? name with
  | none => desk.say (.noHandle name)
  | some named =>
    let changed := change site.workspace.session named.ref
    match changed.operations.find? named.ref with
    | none => desk.say (.fault .erasedOperation)
    | some operation =>
      let workspace := { site.workspace with session := changed }
      ⟨answer changed.operations operation,
        desk.setSite session { site with workspace := workspace }, []⟩

/-- Perform an action on a visit to a session. -/
def visit (desk : Desk) (session : String) (site : Site) (action : Action) : Outcome :=
  let names := site.named.operations
  match (conduct names).run site.workspace desk.depth (action.perform names)
      site.member.channel with
  | none => desk.say .unfinished
  | some (answer, channel) =>
    ⟨answer, desk.setSite session { site with member := { site.member with channel := channel } },
      newEvents site.member.channel channel⟩

/-- Do what is asked of a session. -/
def askSession (desk : Desk) (session : String) (site : Site) : SessionRequest → Outcome
  | .close =>
    let household := desk.household.closeSession site.named.number
    ⟨.count household.live,
      { desk with household := household, sessions := desk.sessions.erase session }, []⟩
  | .loadAll =>
    desk.concludeWorkspace session site site.workspace.loadAll fun _ after =>
      (.texts (site.workspace.loadAll.state.session.loadedNames.map DialectName.text), after)
  | .setAllowsUnregistered choice =>
    desk.concludeWorkspace session site
      (.idle (site.workspace.setAllowsUnregistered choice) (.ok ())) fun _ after => (.done, after)
  | .descriptor dialect name =>
    let attempt := site.workspace.descriptor ⟨dialect⟩
    desk.concludeWorkspace session site attempt fun descriptor after =>
      let kept := { after with descriptors := after.descriptors.insert name descriptor }
      match attempt.state.session.dialectAt? descriptor with
      | some found =>
        (.descriptor descriptor (attempt.state.session.isLoaded descriptor) found, kept)
      | none => (.fault .missingResult, kept)
  | .isLoaded descriptor =>
    match desk.descriptors.find? descriptor with
    | some found => desk.say (.flag (site.workspace.session.isLoaded found))
    | none => desk.say (.noHandle descriptor)
  | .view access dialect name =>
    desk.concludeWorkspace session site (site.workspace.view access ⟨dialect⟩) fun view after =>
      (.view view, { after with views := after.views.insert name view })
  | .create name draft =>
    desk.createBy session name site draft fun filled => .ok (site.workspace.create filled)
  | .buildFrom name view op draft =>
    desk.createBy session name site draft fun filled =>
      match desk.views.find? view with
      | some found => .ok (site.workspace.buildFrom found op filled)
      | none => .error view
  | .buildBy name opClass draft =>
    desk.createBy session name site draft fun filled =>
      match desk.opClasses.find? opClass with
      | some found => .ok (site.workspace.build found filled)
      | none => .error opClass
  | .erase op =>
    match site.named.operations.find? op with
    | none => desk.say (.noHandle op)
    | some named =>
      match site.workspace.session.erase named.ref with
      | .error error => desk.say (desk.failure session error)
      | .ok changed =>
        let workspace := { site.workspace with session := changed }
        ⟨.count changed.operations.size,
          desk.setSite session { site with workspace := workspace }, []⟩
  | .setAttribute op name value =>
    match Identifier.parse name with
    | .error error => desk.say (desk.failure session error)
    | .ok identifier =>
      desk.changeOperation session site op
        (fun found ref => found.setAttribute ref identifier value)
        fun operations operation => .text (operations.opText operation)
  | .setLocation op location =>
    desk.changeOperation session site op (fun found ref => found.setLocation ref location)
      fun _ operation => .location operation.location
  | .visit action => desk.visit session site action

/-! ### Things that are kept -/

/-- The two things that go by two names, or the first name that stands for none. -/
def both {Value : Type} (kept : Dictionary Value) (first second : String) :
    Except String (Value × Value) :=
  match kept.find? first with
  | none => .error first
  | some firstValue =>
    match kept.find? second with
    | none => .error second
    | some secondValue => .ok (firstValue, secondValue)

/-- Do what is asked of the things that are kept. -/
def askKept (desk : Desk) (session : String) : KeptRequest → Outcome
  | .sameDescriptor first second =>
    match both desk.descriptors first second with
    | .error bad => desk.say (.noHandle bad)
    | .ok (firstFound, secondFound) => desk.say (.flag (firstFound = secondFound))
  | .showView view =>
    match desk.views.find? view with
    | some found => desk.say (.view found)
    | none => desk.say (.noHandle view)
  | .sameView first second =>
    match both desk.views first second with
    | .error bad => desk.say (.noHandle bad)
    | .ok (firstFound, secondFound) => desk.say (.flag (firstFound.same secondFound))
  | .opClass view op name =>
    match desk.views.find? view with
    | none => desk.say (.noHandle view)
    | some found =>
      match found.opClass op with
      | .error error => desk.say (desk.failure session error)
      | .ok opClass =>
        ⟨.text opClass.id.text, { desk with opClasses := desk.opClasses.insert name opClass }, []⟩

/-! ### Steps -/

/-- Perform a step. -/
def perform (desk : Desk) (step : Step) : Outcome :=
  let session := step.session
  match step.command with
  | .newEnvironment name loader =>
    let (number, household) := desk.household.addEnvironment loader
    ⟨.done,
      { desk with
        household := household
        environments := desk.environments.insert name number },
      logged Environment.setupLog⟩
  | .shareEnvironment name source =>
    match desk.sharedEnvironment source with
    | .error bad => desk.say (.noHandle bad)
    | .ok number =>
      ⟨.done, { desk with environments := desk.environments.insert name number }, []⟩
  | .environment name request =>
    match desk.environments.find? name with
    | none => desk.say (.noHandle name)
    | some number =>
      match desk.household.environment? number with
      | none => desk.say (.noHandle name)
      | some environment => desk.askEnvironment session number environment request
  | .load loader path => desk.askLoader session loader path
  | .newSearchPath name loader =>
    ⟨.done, { desk with searchPaths := desk.searchPaths.insert name (.ofLoader loader) }, []⟩
  | .searchPath name request =>
    match desk.searchPaths.find? name with
    | none => desk.say (.noHandle name)
    | some searchPath => desk.askSearchPath session name searchPath request
  | .openSession name environment options =>
    match desk.environments.find? environment with
    | none => desk.say (.noHandle environment)
    | some number =>
      match desk.household.environment? number with
      | none => desk.say (.noHandle environment)
      | some found => desk.openSession session name number found options
  | .countLive => desk.say (.count desk.household.live)
  | .session request =>
    match desk.site? session with
    | none => desk.say (.noHandle session)
    | some site => desk.askSession session site request
  | .kept request => desk.askKept session request

end Desk

/-- The events of a step that a script shows: the log only if it is traced. -/
def shownEvents (traced : Bool) (events : List StepEvent) : List StepEvent :=
  events.filter fun event =>
    match event with
    | .logged _ => traced
    | _ => true

/-- Perform steps in turn. -/
def performAll (traced : Bool) (desk : Desk) :
    List Step → List (Answer × List StepEvent) × Desk
  | [] => ([], desk)
  | step :: rest =>
    let outcome := desk.perform step
    let (answers, last) := performAll traced outcome.desk rest
    ((outcome.answer, shownEvents traced outcome.events) :: answers, last)

/-- How many actions are written in a script. -/
def size (script : Script) : Nat :=
  script.steps.foldl (fun total step => total + step.command.size) 0

/-- How deep calls can nest in a script. Each written action is performed at most once, and
between two of them verifications nest no deeper than there are operations. -/
def depth (script : Script) : Nat :=
  (script.size + 2) * (script.size + 4)

/-- Run a script: the answers and events of its steps, and the number of sessions that are
alive once everything is closed. -/
def run (script : Script) : List (Answer × List StepEvent) × Nat :=
  let (answers, last) := performAll script.traced (.empty script.depth) script.steps
  (answers, last.household.closeAll.live)

end Polyglot.Script
