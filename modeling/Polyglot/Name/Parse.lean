/-
This file reads names that come from users: each reader gives the name or the error that says
which text is malformed.
-/

import Polyglot.Error

namespace Polyglot

/-- Read an identifier. -/
def Identifier.parse (text : String) : Except Error Identifier :=
  match Identifier.ofString? text with
  | some identifier => .ok identifier
  | none => .error (.argument .unknown (.malformedIdentifier text))

/-- Read a dialect name. -/
def DialectName.parse (text : String) : Except Error DialectName :=
  if DialectName.isWellFormed text then .ok ⟨text⟩
  else .error (.argument .unknown (.malformedDialectName text))

/-- Read a qualified operation name. -/
def OpId.parse (text : String) : Except Error OpId :=
  match OpId.ofString? text with
  | some id => .ok id
  | none => .error (.argument .unknown (.malformedOpName text))

end Polyglot
