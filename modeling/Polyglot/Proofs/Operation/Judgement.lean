/-
This file proves what decides on an operation whose operands are alive. The dialect and its schema
accept it or refuse it for the first check that fails, or leave the decision to the verifier of
the schema. A verifier that is not a client's has its verdict at once, and that verdict depends on
nothing but the operation and the types of its operands.

Some verifiers look at the first result. The standard schemas give them operations that have one
only, whatever these are called.
-/

import Polyglot.Proofs.Lookup
import Polyglot.Proofs.Workspace.Outlook
import Polyglot.Verification

namespace Polyglot

variable {Custom Handler Note : Type}

/-! ### Counts and required attributes -/

namespace Schema

/-- The counts are accepted and no required attribute is missing. -/
structure Fits (schema : Schema Custom) (operation : Operation) : Prop where
  operands : schema.operands.accepts operation.operands.length = true
  results : schema.results.accepts operation.resultTypes.length = true
  required : ∀ name ∈ schema.required, operation.attributes.contains name = true

/-- One of these checks fails though all before it pass, and this is what it finds. -/
inductive Misfits (schema : Schema Custom) (operation : Operation) : Cause → Prop where
  | operands (refused : schema.operands.accepts operation.operands.length = false) :
      Misfits schema operation
        (.wrongArity operation.id .operands schema.operands operation.operands.length)
  | results (operands : schema.operands.accepts operation.operands.length = true)
      (refused : schema.results.accepts operation.resultTypes.length = false) :
      Misfits schema operation
        (.wrongArity operation.id .results schema.results operation.resultTypes.length)
  | missing (operands : schema.operands.accepts operation.operands.length = true)
      (results : schema.results.accepts operation.resultTypes.length = true)
      (front : List String) (name : String) (back : List String)
      (split : schema.required = front ++ name :: back)
      (present : ∀ earlier ∈ front, operation.attributes.contains earlier = true)
      (absent : operation.attributes.contains name = false) :
      Misfits schema operation (.missingAttribute operation.id name)

variable {schema : Schema Custom} {operation : Operation}

theorem Fits.not_misfits (fits : schema.Fits operation) (cause : Cause) :
    ¬ schema.Misfits operation cause := by
  intro misfits
  cases misfits with
  | operands refused => exact Bool.false_ne_true (refused.symm.trans fits.operands)
  | results _ refused => exact Bool.false_ne_true (refused.symm.trans fits.results)
  | missing _ _ front name back split _ absent =>
    have present := fits.required name (by simp [split])
    exact Bool.false_ne_true (absent.symm.trans present)

theorem misshape?_cases (schema : Schema Custom) (operation : Operation) :
    (schema.Fits operation ∧ schema.misshape? operation = none) ∨
      ∃ cause, schema.Misfits operation cause ∧ schema.misshape? operation = some cause := by
  unfold misshape?
  dsimp only
  cases operands : schema.operands.accepts operation.operands.length with
  | false => exact .inr ⟨_, .operands operands, rfl⟩
  | true =>
    cases results : schema.results.accepts operation.resultTypes.length with
    | false => exact .inr ⟨_, .results operands results, rfl⟩
    | true =>
      cases missing : schema.missing? operation with
      | none =>
        refine .inl ⟨⟨operands, results, fun name member => ?_⟩, rfl⟩
        simpa using List.find?_eq_none.mp missing name member
      | some name =>
        obtain ⟨absent, front, back, split, present⟩ := List.find?_eq_some_iff_append.mp missing
        exact .inr ⟨_, .missing operands results front name back split
          (by simpa using present) (by simpa using absent), rfl⟩

theorem Fits.misshape?_eq (fits : schema.Fits operation) : schema.misshape? operation = none := by
  rcases schema.misshape?_cases operation with ⟨_, none⟩ | ⟨cause, misfits, _⟩
  · exact none
  · exact absurd misfits (fits.not_misfits cause)

theorem Misfits.misshape?_eq {cause : Cause} (misfits : schema.Misfits operation cause) :
    schema.misshape? operation = some cause := by
  unfold misshape?
  cases misfits with
  | operands refused => simp [refused]
  | results operands refused => simp [operands, refused]
  | missing operands results front name back split present absent =>
    have missing : schema.missing? operation = some name :=
      List.find?_eq_some_iff_append.mpr
        ⟨by simp [absent], front, back, split, by simpa using present⟩
    simp [operands, results, missing]

/-- An operation does not fit exactly if one of the checks is the first that fails. -/
theorem not_fits_iff : ¬ schema.Fits operation ↔ ∃ cause, schema.Misfits operation cause := by
  refine ⟨fun unfit => ?_, fun ⟨cause, misfits⟩ fits => fits.not_misfits cause misfits⟩
  rcases schema.misshape?_cases operation with ⟨fits, _⟩ | ⟨cause, misfits, _⟩
  · exact absurd fits unfit
  · exact ⟨cause, misfits⟩

end Schema

/-! ### Verifiers that are not a client's -/

namespace Verifier

/-- The verdict of a verifier, unless it is a client's. -/
def verdict? (operations : Operations) (operation : Operation) : Verifier Custom → Option Verdict
  | .sameIntegers =>
    some (operations.sameTypesVerdict operation Ty.isIntegerOrIndex "integer")
  | .sameFloats => some (operations.sameTypesVerdict operation Ty.isFloat "float")
  | .constant => some operation.constantVerdict
  | .function => some operation.functionVerdict
  | .call => some operation.callVerdict
  | .condition => some (operations.conditionVerdict operation)
  | .custom _ => none

/-- Does the verifier look at the first result? -/
def looksAtResult : Verifier Custom → Bool
  | .sameIntegers | .sameFloats | .constant => true
  | _ => false

variable {operations : Operations} {operation : Operation} {verifier : Verifier Custom}

theorem inspect_of_verdict? {verdict : Verdict}
    (ruled : verifier.verdict? operations operation = some verdict)
    (conduct : Conduct Custom Handler Note) :
    verifier.inspect conduct operations operation = .done verdict := by
  cases verifier <;> cases ruled <;> rfl

theorem verdict?_eq {other : Operations} (agrees : operations.AgreesOn other operation) :
    verifier.verdict? operations operation = verifier.verdict? other operation := by
  have all (ty : Ty) : operations.allOperandsHave operation ty =
      other.allOperandsHave operation ty := by
    unfold Operations.allOperandsHave
    rw [Bool.eq_iff_iff, List.all_eq_true, List.all_eq_true]
    exact forall₂_congr fun operand member => by rw [agrees.tyOf?_eq operand member]
  have same (inClass : Ty → Bool) (className : String) :
      operations.sameTypesVerdict operation inClass className =
        other.sameTypesVerdict operation inClass className := by
    unfold Operations.sameTypesVerdict
    simp only [all]
  cases verifier with
  | sameIntegers | sameFloats => exact congrArg some (same _ _)
  | condition =>
    rw [verdict?, verdict?, Operations.conditionVerdict, Operations.conditionVerdict,
      agrees.operandTy?_eq]
  | _ => rfl

end Verifier

namespace Operation

/-- The operation is accepted, or rejected for something that is wrong with it. -/
def Settles (operation : Operation) (verdict : Verdict) : Prop :=
  verdict = .accepted ∨ ∃ cause, verdict = operation.reject cause

theorem settles_demand (operation : Operation) (holds : Bool) (cause : Cause) :
    operation.Settles (operation.demand holds cause) := by
  cases holds with
  | true => exact .inl rfl
  | false => exact .inr ⟨cause, rfl⟩

theorem demand_eq_accepted_iff (operation : Operation) (holds : Bool) (cause : Cause) :
    operation.demand holds cause = .accepted ↔ holds = true := by
  cases holds with
  | true => exact iff_of_true rfl rfl
  | false => exact iff_of_false nofun nofun

theorem constantVerdict_eq_accepted_iff (operation : Operation) :
    operation.constantVerdict = .accepted ↔ ∃ ty others, operation.resultTypes = ty :: others ∧
      (operation.attributes.find? "value").bind Attribute.ty? = some ty := by
  unfold constantVerdict
  cases operation.resultTypes with
  | nil => simp
  | cons ty others => simp [demand_eq_accepted_iff]

end Operation

theorem Operations.sameTypesVerdict_eq_accepted_iff (operations : Operations)
    (operation : Operation) (inClass : Ty → Bool) (className : String) :
    operations.sameTypesVerdict operation inClass className = .accepted ↔
      ∃ ty others, operation.resultTypes = ty :: others ∧ inClass ty = true ∧
        ∀ operand ∈ operation.operands, operations.tyOf? operand = some ty := by
  unfold sameTypesVerdict allOperandsHave
  cases operation.resultTypes with
  | nil => simp
  | cons ty others => simp [Operation.demand_eq_accepted_iff]

/-- A verifier settles an operation that has a result, if it looks at the first one. -/
theorem Verifier.settles {operations : Operations} {operation : Operation}
    {verifier : Verifier Custom} {verdict : Verdict}
    (ruled : verifier.verdict? operations operation = some verdict)
    (hasResult : verifier.looksAtResult = true → operation.resultTypes ≠ []) :
    operation.Settles verdict := by
  have looking (looks : verifier.looksAtResult = true) :
      ∃ ty others, operation.resultTypes = ty :: others :=
    List.exists_cons_of_ne_nil (hasResult looks)
  cases verifier with
  | sameIntegers | sameFloats =>
    obtain ⟨ty, others, types⟩ := looking rfl
    cases ruled
    rw [Operations.sameTypesVerdict, types]
    exact operation.settles_demand _ _
  | constant =>
    obtain ⟨ty, others, types⟩ := looking rfl
    cases ruled
    rw [Operation.constantVerdict, types]
    exact operation.settles_demand _ _
  | function =>
    cases ruled
    unfold Operation.functionVerdict
    split
    · split
      · exact .inl rfl
      · exact .inr ⟨_, rfl⟩
    · exact .inr ⟨_, rfl⟩
  | call =>
    cases ruled
    unfold Operation.callVerdict
    split
    · exact .inl rfl
    · exact .inr ⟨_, rfl⟩
  | condition =>
    cases ruled
    exact operation.settles_demand _ _
  | custom => cases ruled

/-! ### Judgements -/

/-- What is said of an operation before any verifier is asked. -/
inductive Judgement (Custom : Type) where
  | accepted
  | refused (cause : Cause)
  /-- The verifier decides. -/
  | deferred (verifier : Verifier Custom)

/-- What a schema says of an operation. -/
def Schema.judgement (schema : Schema Custom) (operation : Operation) : Judgement Custom :=
  match schema.misshape? operation with
  | some cause => .refused cause
  | none =>
    match schema.verifier with
    | some verifier => .deferred verifier
    | none => .accepted

/-- What a session says of an operation whose operands are alive. -/
def Session.judgement (session : Session Custom) (operation : Operation) : Judgement Custom :=
  match session.dialect? operation.id.dialect with
  | none =>
    if session.allowsUnregistered then .accepted else .refused (.unregisteredDialect operation.id)
  | some dialect =>
    match dialect.schema? operation.id.name with
    | some schema => schema.judgement operation
    | none =>
      if dialect.allowsUnknown then .accepted else .refused (.unregisteredOp operation.id)

namespace Judgement

/-- What is done about a judgement. -/
def visit (conduct : Conduct Custom Handler Note) (operations : Operations)
    (operation : Operation) : Judgement Custom → Visit Custom Handler Note Verdict
  | accepted => .done .accepted
  | refused cause => .done (operation.reject cause)
  | deferred verifier => verifier.inspect conduct operations operation

/-- The verdict that a judgement comes to, unless it is up to a verifier of a client. -/
def verdict? (operations : Operations) (operation : Operation) :
    Judgement Custom → Option Verdict
  | accepted => some .accepted
  | refused cause => some (operation.reject cause)
  | deferred verifier => verifier.verdict? operations operation

theorem visit_of_verdict? {judgement : Judgement Custom} {operations : Operations}
    {operation : Operation} {verdict : Verdict}
    (ruled : judgement.verdict? operations operation = some verdict)
    (conduct : Conduct Custom Handler Note) :
    judgement.visit conduct operations operation = .done verdict := by
  cases judgement with
  | accepted | refused =>
    cases ruled
    rfl
  | deferred verifier => exact Verifier.inspect_of_verdict? ruled conduct

theorem verdict?_eq {operations other : Operations} {operation : Operation}
    (agrees : operations.AgreesOn other operation) (judgement : Judgement Custom) :
    judgement.verdict? operations operation = judgement.verdict? other operation := by
  cases judgement with
  | accepted | refused => rfl
  | deferred verifier => exact Verifier.verdict?_eq agrees

end Judgement

theorem Schema.examine_eq (schema : Schema Custom) (conduct : Conduct Custom Handler Note)
    (operations : Operations) (operation : Operation) :
    schema.examine conduct operations operation =
      (schema.judgement operation).visit conduct operations operation := by
  unfold examine judgement
  cases schema.misshape? operation with
  | some cause => rfl
  | none => cases schema.verifier <;> rfl

/-- Where the operands are alive, examining an operation is acting on the judgement. -/
theorem Session.examine_eq {session : Session Custom} {operation : Operation}
    (alive : session.operations.danglingIndex? operation.operands = none)
    (conduct : Conduct Custom Handler Note) :
    session.examine conduct operation =
      (session.judgement operation).visit conduct session.operations operation := by
  unfold examine judgement
  rw [alive]
  dsimp only
  cases session.dialect? operation.id.dialect with
  | none => cases session.allowsUnregistered <;> rfl
  | some dialect =>
    dsimp only
    cases dialect.schema? operation.id.name with
    | some schema => exact schema.examine_eq conduct session.operations operation
    | none => cases dialect.allowsUnknown <;> rfl

theorem Schema.judgement_of_misfits {schema : Schema Custom} {operation : Operation}
    {cause : Cause} (misfits : schema.Misfits operation cause) :
    schema.judgement operation = .refused cause := by
  rw [judgement, misfits.misshape?_eq]

theorem Schema.judgement_of_fits {schema : Schema Custom} {operation : Operation}
    (fits : schema.Fits operation) :
    schema.judgement operation =
      match schema.verifier with
      | some verifier => .deferred verifier
      | none => .accepted := by
  rw [judgement, fits.misshape?_eq]

/-- Without a client, an operation is accepted exactly if it fits and passes the verifier. -/
theorem Schema.verdict?_eq_accepted_iff (schema : Schema Custom) (operations : Operations)
    (operation : Operation) :
    (schema.judgement operation).verdict? operations operation = some .accepted ↔
      schema.Fits operation ∧ ∀ verifier, schema.verifier = some verifier →
        verifier.verdict? operations operation = some .accepted := by
  rcases schema.misshape?_cases operation with ⟨fits, _⟩ | ⟨cause, misfits, _⟩
  · rw [judgement_of_fits fits]
    cases schema.verifier with
    | none => exact iff_of_true rfl ⟨fits, nofun⟩
    | some verifier =>
      exact ⟨fun accepts => ⟨fits, fun _ own => Option.some.inj own ▸ accepts⟩,
        fun accepts => accepts.2 verifier rfl⟩
  · rw [judgement_of_misfits misfits]
    exact iff_of_false nofun fun accepts => accepts.1.not_misfits cause misfits

namespace Session

variable {session : Session Custom} {operation : Operation}

/-- The operation fits its schema, and the verifier of the schema decides. -/
def Asks (session : Session Custom) (operation : Operation) (verifier : Verifier Custom) : Prop :=
  ∃ schema, session.schema? operation.id = some schema ∧ schema.Fits operation ∧
    schema.verifier = some verifier

theorem judgement_of_schema? {schema : Schema Custom}
    (found : session.schema? operation.id = some schema) :
    session.judgement operation = schema.judgement operation := by
  obtain ⟨dialect, loaded, has⟩ := Option.bind_eq_some_iff.mp found
  rw [judgement, loaded]
  dsimp only
  rw [has]

theorem judgement_of_unloaded (unloaded : session.dialect? operation.id.dialect = none) :
    session.judgement operation =
      if session.allowsUnregistered then .accepted
      else .refused (.unregisteredDialect operation.id) := by
  rw [judgement, unloaded]

theorem judgement_of_unknown {dialect : Dialect Custom}
    (loaded : session.dialect? operation.id.dialect = some dialect)
    (unknown : dialect.schema? operation.id.name = none) :
    session.judgement operation =
      if dialect.allowsUnknown then .accepted else .refused (.unregisteredOp operation.id) := by
  rw [judgement, loaded]
  dsimp only
  rw [unknown]

theorem judgement_eq_deferred_iff (verifier : Verifier Custom) :
    session.judgement operation = .deferred verifier ↔ session.Asks operation verifier := by
  constructor
  · intro deferred
    cases found : session.schema? operation.id with
    | none =>
      cases loaded : session.dialect? operation.id.dialect with
      | none =>
        rw [judgement_of_unloaded loaded] at deferred
        split at deferred <;> cases deferred
      | some dialect =>
        have unknown : dialect.schema? operation.id.name = none := by
          rwa [schema?, loaded] at found
        rw [judgement_of_unknown loaded unknown] at deferred
        split at deferred <;> cases deferred
    | some schema =>
      rw [judgement_of_schema? found] at deferred
      rcases schema.misshape?_cases operation with ⟨fits, _⟩ | ⟨cause, misfits, _⟩
      · rw [Schema.judgement_of_fits fits] at deferred
        cases own : schema.verifier with
        | none =>
          rw [own] at deferred
          cases deferred
        | some other =>
          rw [own] at deferred
          cases deferred
          exact ⟨schema, found, fits, own⟩
      · rw [Schema.judgement_of_misfits misfits] at deferred
        cases deferred
  · rintro ⟨schema, found, fits, own⟩
    rw [judgement_of_schema? found, Schema.judgement_of_fits fits, own]

/-- There is a verdict on an operation about which no client is asked. -/
theorem exists_verdict_of_unasked (unasked : ∀ custom, ¬ session.Asks operation (.custom custom)) :
    ∃ verdict,
      (session.judgement operation).verdict? session.operations operation = some verdict := by
  cases judges : session.judgement operation with
  | accepted | refused => exact ⟨_, rfl⟩
  | deferred verifier =>
    cases verifier with
    | custom custom => exact absurd ((judgement_eq_deferred_iff _).mp judges) (unasked custom)
    | _ => exact ⟨_, rfl⟩

/-- Sessions that have the same dialect for an operation and the same permission judge it alike. -/
theorem judgement_congr {other : Session Custom}
    (same : session.dialect? operation.id.dialect = other.dialect? operation.id.dialect)
    (permission : session.allowsUnregistered = other.allowsUnregistered) :
    session.judgement operation = other.judgement operation := by
  rw [judgement, judgement, same, permission]

end Session

/-! ### Standard schemas -/

/-- No client is asked about an operation, and a verifier that looks at the first result is asked
only about operations that have one. -/
def Schema.isGuarded (schema : Schema Custom) : Bool :=
  match schema.verifier with
  | none => true
  | some (.custom _) => false
  | some verifier => !verifier.looksAtResult || schema.results = .exactly 1

theorem Standard.isGuarded_of_schema? {dialect : Dialect Custom}
    (standard : dialect ∈ Standard.dialects) {op : String} {schema : Schema Custom}
    (found : dialect.schema? op = some schema) : schema.isGuarded = true := by
  have all {name : DialectName} {schemas : List (Schema Custom)}
      (guarded : schemas.all Schema.isGuarded = true)
      (found : ((Dialect.ofName name).insertAll schemas).schema? op = some schema) :
      schema.isGuarded = true :=
    List.all_eq_true.mp guarded schema (Dialect.mem_of_schema? found).1
  simp only [dialects, List.mem_cons, List.not_mem_nil, or_false] at standard
  rcases standard with rfl | rfl | rfl | rfl <;> exact all rfl found

/-- A schema that is guarded has a verdict on every operation. -/
theorem Schema.exists_verdict_of_isGuarded {schema : Schema Custom}
    (guarded : schema.isGuarded = true) (operations : Operations) (operation : Operation) :
    ∃ verdict, (schema.judgement operation).verdict? operations operation = some verdict ∧
      operation.Settles verdict := by
  rcases schema.misshape?_cases operation with ⟨fits, _⟩ | ⟨cause, misfits, _⟩
  · rw [judgement_of_fits fits]
    unfold isGuarded at guarded
    cases asked : schema.verifier with
    | none => exact ⟨_, rfl, .inl rfl⟩
    | some verifier =>
      rw [asked] at guarded
      have hasResult (looks : verifier.looksAtResult = true) : operation.resultTypes ≠ [] := by
        have single : schema.results = .exactly 1 := by
          cases verifier <;> simp_all [Verifier.looksAtResult]
        have accepted := fits.results
        rw [single] at accepted
        intro empty
        rw [empty] at accepted
        cases accepted
      have ruled : ∃ verdict, verifier.verdict? operations operation = some verdict := by
        cases verifier with
        | custom => cases guarded
        | _ => exact ⟨_, rfl⟩
      obtain ⟨verdict, ruled⟩ := ruled
      exact ⟨verdict, ruled, Verifier.settles ruled hasResult⟩
  · rw [judgement_of_misfits misfits]
    exact ⟨_, rfl, .inr ⟨cause, rfl⟩⟩

end Polyglot
