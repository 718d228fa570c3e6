/-
This file defines the client side of scripts: the actions that need no more than to visit a
session, the handlers, which perform such actions when they are called, and the verifiers.
-/

import Polyglot.Script.Answer

namespace Polyglot.Script

/-- When a handler consumes a diagnostic. -/
inductive ConsumeRule where
  | always (answer : Bool)
  /-- If the diagnostic is as grave as the threshold, or graver. -/
  | reaching (threshold : Severity)

/-- Does the rule consume the diagnostic? -/
def ConsumeRule.consumes : ConsumeRule → Diagnostic → Bool
  | always answer, _ => answer
  | reaching threshold, diagnostic => diagnostic.severity.reaches threshold

/-- A result of a named operation. -/
structure ValueName where
  op : String
  index : Nat

/-- What can be done on a visit. -/
inductive Action where
  /-- Attach a handler under a name. Its first call performs the first list of actions, its
  second call the second list, and so on. -/
  | attach (name : String) (rule : ConsumeRule) (actions : List (List Action))
  | detach (handler : String)
  | countHandlers
  | emit (diagnostic : Diagnostic)
  | setEmitsErrors (choice : Bool)
  | emitsErrors
  | allowsUnregistered
  | verify (op : String)
  | check (op schema : String)
  | print (op : String)
  | inspect (op : String)
  | value (name : ValueName)
  | sameValue (first second : ValueName)
  | isAlive (op : String)
  | countOperations
  | loadedNames
  | countLoaded
  | availableNames
  | isRegistered (qualified : String)
  | loaded (name : String)

/-- The word for an action. -/
def Action.word : Action → String
  | attach _ _ _ => "attach"
  | detach _ => "detach"
  | countHandlers => "num_handlers"
  | emit _ => "emit"
  | setEmitsErrors _ => "set_emit"
  | emitsErrors => "emit_flag"
  | allowsUnregistered => "allow_flag"
  | verify _ => "verify"
  | check _ _ => "schema_verify"
  | print _ => "print"
  | inspect _ => "show"
  | value _ => "value"
  | sameValue _ _ => "value_eq"
  | isAlive _ => "alive"
  | countOperations => "num_ops"
  | loadedNames => "list"
  | countLoaded => "num_loaded"
  | availableNames => "available"
  | isRegistered _ => "registered"
  | loaded _ => "loaded"

mutual

/-- How many actions are written in an action, itself included. -/
def Action.size : Action → Nat
  | .attach _ _ actions => 1 + sizeOfLists actions
  | _ => 1

/-- How many actions are written in a list. -/
def sizeOfList : List Action → Nat
  | [] => 0
  | first :: rest => first.size + sizeOfList rest

/-- How many actions are written in lists. -/
def sizeOfLists : List (List Action) → Nat
  | [] => 0
  | first :: rest => sizeOfList first + sizeOfLists rest

end

/-- A handler: its name, when it consumes, what it does at each call, and how often it was
called. -/
structure ScriptHandler where
  name : String
  rule : ConsumeRule
  actions : List (List Action)
  calls : Nat

/-- The actions of the next call, if there are any left. -/
def ScriptHandler.nextActions? (handler : ScriptHandler) : Option (List Action) :=
  handler.actions[handler.calls]?

/-- The handler after one more call. -/
def ScriptHandler.called (handler : ScriptHandler) : ScriptHandler :=
  { handler with calls := handler.calls + 1 }

/-- What handlers leave in the history. -/
inductive ScriptNote where
  /-- A handler was called. -/
  | heard (handler : String) (diagnostic : Diagnostic)
  /-- A handler performed an action. -/
  | acted (handler action : String) (answer : Answer)
  /-- A handler could not act because the session was in use. -/
  | busy (handler : String)
  /-- A handler goes by this name from now on. -/
  | named (handler : String) (token : Token)

/-- An operation under a name, with the number of its results. -/
structure NamedOp where
  ref : OpRef
  results : Nat

/-- The names of operations. -/
abbrev OpNames : Type := Dictionary NamedOp

/-- What scripts do with a session. -/
abbrev ScriptVisit : Type → Type := Visit ScriptVerifier ScriptHandler ScriptNote

/-- How a bad name of a value is reported. -/
def ValueName.text (name : ValueName) : String :=
  name.op ++ "#" ++ toString name.index

/-- The value of a name. -/
def OpNames.value? (names : OpNames) (name : ValueName) : Option Value :=
  match names.find? name.op with
  | some named => if name.index < named.results then some ⟨named.ref, name.index⟩ else none
  | none => none

/-! ### Reports -/

/-- What there is to see of an operation in a session. -/
def reportOperation (session : Session ScriptVerifier) (operation : Operation) :
    OperationReport :=
  let operations := session.operations
  { text := operations.opText operation
    id := operation.id
    operands := operation.operands.map operations.valueText
    operandTypes := (List.range (operation.operands.length + 1)).map
      (operations.operandTy? operation)
    results := operation.results.map operations.valueText
    resultTypes := operation.resultTypes
    attributes := operation.attributes.text
    location := operation.location
    isRegistered := session.isRegistered operation.id }

/-- What there is to see of a value in a session. -/
def reportValue (session : Session ScriptVerifier) (value : Value) : ValueReport :=
  { text := session.operations.valueText value
    ty := session.operations.tyOf? value
    index := value.index
    isAlive := session.operations.isAlive value.definer }

/-! ### Actions -/

/-- The token that a handler's name stands for: the last one noted for it. -/
def tokenOf? (name : String) : List (Event ScriptNote) → Option Token
  | [] => none
  | .noted (.named handler token) :: rest =>
    if handler = name then some token else tokenOf? name rest
  | _ :: rest => tokenOf? name rest

/-- What a verdict answers. -/
def answerVerdict : Verdict → Answer
  | .accepted => .done
  | .rejected error => .failure error true
  | .brokenOff fault => .fault fault

/-- Look at a session. -/
def lookAt (report : Session ScriptVerifier → Answer) : ScriptVisit Answer :=
  .look fun workspace => .done (report workspace.session)

/-- Do something with a named operation that must be alive. -/
def withOperation (names : OpNames) (name : String)
    (next : Session ScriptVerifier → Operation → ScriptVisit Answer) : ScriptVisit Answer :=
  match names.find? name with
  | none => .done (.noHandle name)
  | some named =>
    .look fun workspace =>
      match workspace.session.operations.find? named.ref with
      | none => .done (.fault .erasedOperation)
      | some operation => next workspace.session operation

/-- Check a named operation against a schema given by its qualified name. -/
def checkAgainst (names : OpNames) (name schema : String) : ScriptVisit Answer :=
  if !names.contains name then .done (.noHandle name)
  else
    match OpId.parse schema with
    | .error error => .done (.failure error true)
    | .ok id =>
      .look fun workspace =>
        match workspace.session.schema? id with
        | none => .done (.noHandle schema)
        | some found => withOperation names name fun _ operation =>
          .check found operation fun verdict => .done (answerVerdict verdict)

/-- Perform an action. -/
def Action.perform (names : OpNames) : Action → ScriptVisit Answer
  | .attach name rule actions =>
    .attach ⟨name, rule, actions, 0⟩ fun token =>
      .note (.named name token) (.count fun size => .done (.count size))
  | .detach handler =>
    .remember fun history =>
      match tokenOf? handler history with
      | none => .done (.noHandle handler)
      | some token => .detach token fun answer => .done (.flag answer)
  | .countHandlers => .count fun size => .done (.count size)
  | .emit diagnostic => .emit diagnostic (.done .done)
  | .setEmitsErrors choice => .setEmitsErrors choice (.done .done)
  | .emitsErrors => .emitsErrors fun answer => .done (.flag answer)
  | .allowsUnregistered => lookAt fun session => .flag session.allowsUnregistered
  | .verify op =>
    match names.find? op with
    | none => .done (.noHandle op)
    | some named => .verify named.ref fun verdict => .done (answerVerdict verdict)
  | .check op schema => checkAgainst names op schema
  | .print op =>
    withOperation names op fun session operation =>
      .done (.text (session.operations.opText operation))
  | .inspect op =>
    withOperation names op fun session operation =>
      .done (.operation (reportOperation session operation))
  | .value name =>
    match names.value? name with
    | none => .done (.noHandle name.text)
    | some found => lookAt fun session => .value (reportValue session found)
  | .sameValue first second =>
    match names.value? first with
    | none => .done (.noHandle first.text)
    | some firstValue =>
      match names.value? second with
      | none => .done (.noHandle second.text)
      | some secondValue => .done (.flag (firstValue = secondValue))
  | .isAlive op =>
    match names.find? op with
    | none => .done (.noHandle op)
    | some named => lookAt fun session =>
      let isAlive := session.operations.isAlive named.ref
      .flags [isAlive, isAlive]
  | .countOperations => lookAt fun session => .count session.operations.size
  | .loadedNames => lookAt fun session => .texts (session.loadedNames.map DialectName.text)
  | .countLoaded => lookAt fun session => .count session.loaded.length
  | .availableNames =>
    .look fun workspace =>
      .done (.texts (workspace.environment.availableNames.map DialectName.text))
  | .isRegistered qualified => lookAt fun session => .flag (session.isRegisteredName qualified)
  | .loaded name => lookAt fun session => .dialect (session.dialect? ⟨name⟩)

/-! ### Conduct -/

/-- The error and the warning that some verifiers emit. -/
def emitFindings (operation : Operation) (next : ScriptVisit Verdict) : ScriptVisit Verdict :=
  let place := operation.location
  .emit ((Diagnostic.error place "verifier error").withNote place "hint")
    (.emit (Diagnostic.warning place "verifier warning") next)

/-- The verdict of a verifier that rejects. -/
def rejection (operation : Operation) : Verdict :=
  operation.reject (.custom ("custom verifier rejected '" ++ operation.id.text ++ "'"))

/-- Verify the operations that define values, up to the first that is not accepted. -/
def verifyDefiners : List Value → ScriptVisit Verdict
  | [] => .done .accepted
  | value :: rest =>
    .verify value.definer fun verdict =>
      match verdict with
      | .accepted => verifyDefiners rest
      | other => .done other

/-- What a verifier does. -/
def ScriptVerifier.inspect : ScriptVerifier → Operation → ScriptVisit Verdict
  | .reject, operation => .done (rejection operation)
  | .emitAndAccept, operation => emitFindings operation (.done .accepted)
  | .emitAndReject, operation => emitFindings operation (.done (rejection operation))
  | .verifyOperands, operation => verifyDefiners operation.operands

/-- Perform actions in turn, and note what each answers. -/
def performEach (names : OpNames) (handler : String) : List Action → ScriptVisit Unit
  | [] => .done ()
  | action :: rest =>
    (action.perform names).andThen fun answer =>
      .note (.acted handler action.word answer) (performEach names handler rest)

/-- What a handler does when it is called. -/
def ScriptHandler.react (names : OpNames) (handler : ScriptHandler) (diagnostic : Diagnostic) :
    ScriptVisit (Bool × ScriptHandler) :=
  .note (.heard handler.name diagnostic)
    ((performEach names handler.name (handler.nextActions?.getD [])).andThen fun _ =>
      .done (handler.rule.consumes diagnostic, handler.called))

/-- What a handler does when it is called while the session is in use. -/
def ScriptHandler.listen (handler : ScriptHandler) (diagnostic : Diagnostic) :
    List ScriptNote × Bool × ScriptHandler :=
  (.heard handler.name diagnostic ::
      (if handler.nextActions?.isSome then [.busy handler.name] else []),
    handler.rule.consumes diagnostic, handler.called)

/-- The behaviour of scripts, given the names of operations. -/
def conduct (names : OpNames) : Conduct ScriptVerifier ScriptHandler ScriptNote where
  inspect := ScriptVerifier.inspect
  react := ScriptHandler.react names
  listen := ScriptHandler.listen

end Polyglot.Script
