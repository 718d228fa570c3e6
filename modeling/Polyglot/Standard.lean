/-
This file defines the standard dialects: containers and glue, functions, arithmetic, and
unstructured control flow, each with its schemas and with the class of its builders.
-/

import Polyglot.Module.Loader

namespace Polyglot.Standard

variable {Custom : Type}

/-! ### Schemas -/

/-- Containers and glue. -/
def builtin : Dialect Custom :=
  (Dialect.ofName ⟨"builtin"⟩).insertAll
    [{ name := "module" },
      { name := "unrealized_conversion_cast", operands := .atLeast 0, results := .atLeast 1 }]

/-- Functions, calls and returns. -/
def func : Dialect Custom :=
  (Dialect.ofName ⟨"func"⟩).insertAll
    [{ name := "func", required := ["sym_name", "function_type"], verifier := some .function },
      { name := "return", operands := .atLeast 0 },
      { name := "call", operands := .atLeast 0, results := .atLeast 0, required := ["callee"],
        verifier := some .call }]

/-- The operations of integer arithmetic. -/
def integerOps : List String := ["addi", "subi", "muli"]

/-- The operations of floating point arithmetic. -/
def floatOps : List String := ["addf", "subf", "mulf"]

/-- An operation with two operands and one result. -/
def binary (verifier : Verifier Custom) (name : String) : Schema Custom :=
  { name := name, operands := .exactly 2, results := .exactly 1, verifier := some verifier }

/-- The schema of constants. -/
def constant : Schema Custom :=
  { name := "constant", results := .exactly 1, required := ["value"], verifier := some .constant }

/-- Integer and floating point arithmetic. -/
def arith : Dialect Custom :=
  (Dialect.ofName ⟨"arith"⟩).insertAll
    (constant :: integerOps.map (binary .sameIntegers) ++ floatOps.map (binary .sameFloats))

/-- Unstructured control flow. -/
def cf : Dialect Custom :=
  (Dialect.ofName ⟨"cf"⟩).insertAll
    [{ name := "br", operands := .atLeast 0 },
      { name := "cond_br", operands := .atLeast 1, verifier := some .condition },
      { name := "assert", operands := .exactly 1, required := ["msg"],
        verifier := some .condition }]

/-- The standard dialects, in the order in which they become available. -/
def dialects : List (Dialect Custom) := [builtin, func, arith, cf]

/-! ### Classes -/

/-- Builders that leave their drafts as they are. -/
def plainClass (name : String) (ops : List String) : DialectClass :=
  (DialectClass.ofName ⟨name⟩).insertAll (ops.map fun op => (op, Builder.plain))

/-- The builders of containers and glue. -/
def builtinClass : DialectClass := plainClass "builtin" ["module", "unrealized_conversion_cast"]

/-- The builders of functions, calls and returns. -/
def funcClass : DialectClass := plainClass "func" ["func", "return", "call"]

/-- The builders of arithmetic, which infer the type of the result. -/
def arithClass : DialectClass :=
  (DialectClass.ofName ⟨"arith"⟩).insertAll
    (("constant", Builder.resultFromValue) ::
      (integerOps ++ floatOps).map fun op => (op, Builder.resultFromOperand))

/-- The builders of control flow. -/
def cfClass : DialectClass := plainClass "cf" ["br", "cond_br", "assert"]

/-- The root under which the standard modules are found. -/
def root : String := "dialects"

/-- A standard module. It brings builders alone, as its dialect is available without it. -/
def moduleOf (dialectClass : DialectClass) : DialectModule Custom :=
  ⟨root ++ "." ++ dialectClass.name.text, some dialectClass, none⟩

/-- The modules of the standard dialects. -/
def modules : List (DialectModule Custom) :=
  [builtinClass, funcClass, arithClass, cfClass].map moduleOf

theorem names_dialects :
    (dialects : List (Dialect Custom)).map Dialect.name =
      [⟨"builtin"⟩, ⟨"func"⟩, ⟨"arith"⟩, ⟨"cf"⟩] := rfl

end Polyglot.Standard
