/-
This file defines errors. An error has a kind, which callers tell errors apart by, a cause,
which says what went wrong, the place it is about, and the diagnostics that were captured while
the failing work ran. The wording of every cause is in one function.
-/

import Polyglot.Arity
import Polyglot.Diagnostic
import Polyglot.Name.OpId
import Polyglot.Ty

namespace Polyglot

/-- The kinds of errors. -/
inductive ErrorKind where
  /-- A namespace is neither loaded, nor available, nor found by a search. -/
  | unknownDialect
  /-- Something asked for by attribute does not exist. -/
  | attributeNotFound
  /-- Something asked for by index does not exist. -/
  | indexOutOfRange
  /-- An operation of an unregistered dialect was asked for where none are allowed. -/
  | unregisteredDialect
  /-- An operation is not what it must be. -/
  | verificationFailed
  /-- An argument makes no sense. -/
  | invalidArgument
  /-- A dialect module is there but cannot be loaded. -/
  | moduleLoadFailed
  deriving DecidableEq

/-- The words for a kind. -/
def ErrorKind.text : ErrorKind → String
  | unknownDialect => "unknown dialect"
  | attributeNotFound => "attribute not found"
  | indexOutOfRange => "index out of range"
  | unregisteredDialect => "unregistered dialect"
  | verificationFailed => "verification failed"
  | invalidArgument => "invalid argument"
  | moduleLoadFailed => "dialect module load failed"

/-- The two lists whose lengths an operation's schema bounds. -/
inductive Side where
  | operands
  | results
  deriving DecidableEq

/-- The word for a side. -/
def Side.text : Side → String
  | operands => "operands"
  | results => "results"

/-- What can go wrong. -/
inductive Cause where
  /-- A text is no identifier. -/
  | malformedIdentifier (text : String)
  /-- A text is no dialect name. -/
  | malformedDialectName (text : String)
  /-- A text is no qualified operation name. -/
  | malformedOpName (text : String)
  /-- No dialect goes by this name. -/
  | unknownDialect (name : DialectName)
  /-- The module at a path cannot be loaded. -/
  | brokenModule (path reason : String)
  /-- The module of a dialect has no builder for this operation. -/
  | noBuilder (dialect : DialectName) (op : String)
  /-- The operation is not registered, and unregistered dialects are not allowed. -/
  | unregisteredDialect (op : OpId)
  /-- The dialect is loaded, does not know the operation, and wants to know its operations. -/
  | unregisteredOp (op : OpId)
  /-- An operand refers to an operation that is gone. -/
  | danglingOperand (op : OpId) (index : Nat)
  /-- The results of the operation to erase are in use. -/
  | erasedWhileUsed (op : OpId)
  /-- The operation to erase is gone already. -/
  | erasedTwice
  /-- The number of operands or results is wrong. -/
  | wrongArity (op : OpId) (side : Side) (expected : Arity) (found : Nat)
  /-- A required attribute is missing. -/
  | missingAttribute (op : OpId) (name : String)
  /-- Operands and result of an arithmetic operation are not of one type of the wanted class. -/
  | mixedTypes (op : OpId) (expected : String)
  /-- The value of a constant has not the type of the result. -/
  | constantType (result : Ty)
  /-- The name of a function is no string. -/
  | functionNameNotString
  /-- The type of a function is no function type. -/
  | functionTypeMissing
  /-- The callee of a call is no symbol. -/
  | calleeNotSymbol
  /-- A condition is not of type `i1`. -/
  | conditionType (op : OpId)
  /-- Anything that a client has to say. -/
  | custom (text : String)
  deriving DecidableEq

/-- What a cause says about the operation it names. -/
def Cause.ofOp (op : OpId) (words : String) : String :=
  "'" ++ op.text ++ "' op " ++ words

/-- The wording of a cause. -/
def Cause.message : Cause → String
  | malformedIdentifier text => "Malformed identifier \"" ++ text ++ "\""
  | malformedDialectName text => "Malformed dialect name \"" ++ text ++ "\""
  | malformedOpName text =>
    "Malformed operation name \"" ++ text ++ "\", expected \"dialect.op\""
  | unknownDialect name => "Dialect \"" ++ name.text ++ "\" not found"
  | brokenModule path reason => "Dialect module \"" ++ path ++ "\" is broken: " ++ reason
  | noBuilder dialect op =>
    "Dialect \"" ++ dialect.text ++ "\" has no builder for operation \"" ++ op ++ "\""
  | unregisteredDialect op =>
    ofOp op ("created with unregistered dialect. If this is intended, please call " ++
      "allow_unregistered_dialects on the Context")
  | unregisteredOp op =>
    ofOp op ("is not registered in dialect '" ++ op.dialect.text ++
      "', which does not allow unknown operations")
  | danglingOperand op index =>
    ofOp op ("operand #" ++ toString index ++ " refers to an erased operation")
  | erasedWhileUsed op => "Cannot erase '" ++ op.text ++ "' op, its results still have uses"
  | erasedTwice => "Cannot erase an operation twice"
  | wrongArity op side expected found =>
    ofOp op ("expected " ++ expected.text ++ " " ++ side.text ++ ", but found " ++ toString found)
  | missingAttribute op name => ofOp op ("requires attribute '" ++ name ++ "'")
  | mixedTypes op expected =>
    ofOp op ("requires operands and result of the same " ++ expected ++ " type")
  | constantType result =>
    "'arith.constant' op value type does not match the result type " ++ result.text
  | functionNameNotString => "'func.func' op requires a string attribute 'sym_name'"
  | functionTypeMissing => "'func.func' op requires 'function_type' to be a function type"
  | calleeNotSymbol => "'func.call' op requires 'callee' to be a symbol reference"
  | conditionType op => ofOp op "requires its first operand to be of type i1"
  | custom text => text

/-- A failure: its kind, its cause, its place, and the diagnostics captured on the way. -/
structure Error where
  kind : ErrorKind
  cause : Cause
  location : Location
  diagnostics : List Diagnostic
  deriving DecidableEq

namespace Error

/-- An error of some kind, with no diagnostics captured yet. -/
def of (kind : ErrorKind) (location : Location) (cause : Cause) : Error :=
  ⟨kind, cause, location, []⟩

/-- An operation is not what it must be. -/
def verification (location : Location) (cause : Cause) : Error :=
  of .verificationFailed location cause

/-- An argument makes no sense. -/
def argument (location : Location) (cause : Cause) : Error :=
  of .invalidArgument location cause

/-- No dialect goes by the name. -/
def unknownDialect (name : DialectName) : Error :=
  of .unknownDialect .unknown (.unknownDialect name)

/-- The module at a path cannot be loaded. -/
def brokenModule (path reason : String) : Error :=
  of .moduleLoadFailed .unknown (.brokenModule path reason)

/-- The error with more diagnostics behind those it has. -/
def withDiagnostics (error : Error) (diagnostics : List Diagnostic) : Error :=
  { error with diagnostics := error.diagnostics ++ diagnostics }

/-- The error about another place. -/
def locatedAt (error : Error) (location : Location) : Error :=
  { error with location := location }

/-- The kind and the cause in words. -/
def text (error : Error) : String :=
  error.kind.text ++ ": " ++ error.cause.message

/-- The whole error in words: its place, its kind and cause, and its diagnostics, each on a line
of its own. -/
def fullText (error : Error) : String :=
  "[" ++ error.location.text ++ "] " ++ error.text ++ Diagnostic.textOfNotes error.diagnostics

end Error

end Polyglot
