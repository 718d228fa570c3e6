/-
This file defines verdicts, in which verifications end. An operation is accepted, or rejected with
an error; a verification that meets a fault breaks off and says neither.
-/

import Polyglot.Error
import Polyglot.Fault

namespace Polyglot

/-- What verification says about an operation. -/
inductive Verdict where
  | accepted
  | rejected (error : Error)
  | brokenOff (fault : Fault)

end Polyglot
