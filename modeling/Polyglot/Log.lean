/-
This file defines the log: what happens on the way to an answer, each event with its level and
its wording.
-/

import Polyglot.Error

namespace Polyglot

/-- How important an event is. -/
inductive LogLevel where
  | trace
  | debug
  | info
  | warn
  | error
  deriving DecidableEq

/-- The word for a level. -/
def LogLevel.text : LogLevel → String
  | trace => "TRACE"
  | debug => "DEBUG"
  | info => "INFO"
  | warn => "WARN"
  | error => "ERROR"

/-- What can happen on the way to an answer. -/
inductive LogEvent where
  | sessionCreated
  | dialectLoaded (name : DialectName)
  | dialectRegistered (name : DialectName)
  | rootAppended (root : String)
  | moduleMissing (path : String)
  | moduleLoaded (path : String)
  | startDialectSkipped (name : String) (error : Error)
  deriving DecidableEq

namespace LogEvent

/-- The level of an event. -/
def level : LogEvent → LogLevel
  | moduleMissing _ => .trace
  | startDialectSkipped _ _ => .warn
  | _ => .debug

/-- The wording of an event. -/
def text : LogEvent → String
  | sessionCreated => "Creating context"
  | dialectLoaded name => "Loading dialect " ++ name.text
  | dialectRegistered name => "Registering dialect " ++ name.text
  | rootAppended root => "Appending dialect search prefix " ++ root
  | moduleMissing path => "No dialect module at " ++ path
  | moduleLoaded path => "Loaded dialect module " ++ path
  | startDialectSkipped name error =>
    "Skipping load-on-create dialect " ++ name ++ ": " ++ error.text

end LogEvent

end Polyglot
