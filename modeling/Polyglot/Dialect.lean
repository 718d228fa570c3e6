/-
This file defines dialects: named sets of schemas, which say what registered operations must
look like. Dialects are parametrised by the verifiers that clients bring along.
-/

import Polyglot.Arity
import Polyglot.Dictionary
import Polyglot.Name.OpId

namespace Polyglot

/-- A check on an operation beyond the counts and the attributes that its schema asks for. -/
inductive Verifier (Custom : Type) where
  /-- All operands and the result are of one type, of integers or the index type. -/
  | sameIntegers
  /-- All operands and the result are of one floating point type. -/
  | sameFloats
  /-- The type of the `value` attribute is the type of the result. -/
  | constant
  /-- There are a name and a function type. -/
  | function
  /-- The callee is a symbol. -/
  | call
  /-- The first operand is of type `i1`. -/
  | condition
  /-- A verifier of the client. -/
  | custom (verifier : Custom)

/-- What a registered operation must look like. -/
structure Schema (Custom : Type) where
  name : String
  operands : Arity := .exactly 0
  results : Arity := .exactly 0
  /-- The attributes it must carry, in the order in which they are asked for. -/
  required : List String := []
  verifier : Option (Verifier Custom) := none

/-- A named set of schemas. -/
structure Dialect (Custom : Type) where
  name : DialectName
  schemas : Dictionary (Schema Custom)
  /-- Are operations without a schema accepted? -/
  allowsUnknown : Bool

namespace Dialect

variable {Custom : Type}

/-- The dialect without operations. -/
def ofName (name : DialectName) : Dialect Custom :=
  ⟨name, Dictionary.empty, false⟩

/-- The dialect with one more operation. A schema of the same name is replaced. -/
def insert (dialect : Dialect Custom) (schema : Schema Custom) : Dialect Custom :=
  { dialect with schemas := dialect.schemas.insert schema.name schema }

/-- The dialect with more operations. -/
def insertAll (dialect : Dialect Custom) (schemas : List (Schema Custom)) : Dialect Custom :=
  schemas.foldl insert dialect

/-- The schema of an operation. -/
def schema? (dialect : Dialect Custom) (op : String) : Option (Schema Custom) :=
  dialect.schemas.find? op

/-- The names of the operations, sorted. -/
def opNames (dialect : Dialect Custom) : List String :=
  dialect.schemas.keys

end Dialect

end Polyglot
