/-
This file defines arities: how many operands or results an operation takes.
-/

namespace Polyglot

/-- A demand on a number of things. -/
inductive Arity where
  | exactly (count : Nat)
  | atLeast (count : Nat)
  deriving DecidableEq

namespace Arity

/-- Does a number meet the demand? -/
def accepts : Arity → Nat → Bool
  | exactly count, found => found = count
  | atLeast count, found => count ≤ found

/-- The text of the demand. -/
def text : Arity → String
  | exactly count => toString count
  | atLeast count => "at least " ++ toString count

end Arity

end Polyglot
