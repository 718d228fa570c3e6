/-
This file proves that the builders of arithmetic and its verifiers agree. A builder infers the
type of the result from the draft: from the last value that is given, or from the first operand. A
verifier checks the operation that was created: its counts, the attributes it carries, and all its
operands. For a draft without result types, the operation is accepted exactly if the draft has a
type, and this is the type that the builder inferred. For a draft with result types, they must be
this one type.
-/

import Polyglot.Proofs.Workspace.Verdicts
import Polyglot.Proofs.Workspace.Views

namespace Polyglot

variable {Custom Handler Note : Type}

/-- Only the result types of a draft are inferred, and only if it has none. -/
theorem Draft.inferResult_eq (draft : Draft) (ty : Option Ty) :
    draft.inferResult ty =
      { draft with
        resultTypes := if draft.resultTypes = [] then ty.toList else draft.resultTypes } := by
  obtain ⟨name, operands, resultTypes, attributes, location⟩ := draft
  cases resultTypes with
  | nil => rfl
  | cons => rfl

namespace Standard

variable {operations : Operations} {draft : Draft} {op : String}

/-! ### The type of a draft -/

/-- The draft of an arithmetic operation has this type: the type of the value that counts, for a
constant without operands, or the common type of two operands, if it is of the class that the
operation calculates in. -/
inductive Types (operations : Operations) (draft : Draft) : String → Ty → Prop where
  | constant (bare : draft.operands = []) {value : Attribute}
      (given : draft.attribute? "value" = some value) {ty : Ty} (typed : value.ty? = some ty) :
      Types operations draft "constant" ty
  | integer {op : String} (calculates : op ∈ integerOps) {first second : Value}
      (operands : draft.operands = [first, second]) {ty : Ty}
      (firstTy : operations.tyOf? first = some ty) (secondTy : operations.tyOf? second = some ty)
      (inClass : ty.isIntegerOrIndex = true) : Types operations draft op ty
  | float {op : String} (calculates : op ∈ floatOps) {first second : Value}
      (operands : draft.operands = [first, second]) {ty : Ty}
      (firstTy : operations.tyOf? first = some ty) (secondTy : operations.tyOf? second = some ty)
      (inClass : ty.isFloat = true) : Types operations draft op ty

/-- No operation calculates in both ways. -/
theorem not_mem_floatOps : ∀ op ∈ integerOps, op ∉ floatOps := by decide

theorem types_constant_iff (ty : Ty) : Types operations draft "constant" ty ↔
    draft.operands = [] ∧
      ∃ value, draft.attribute? "value" = some value ∧ value.ty? = some ty := by
  constructor
  · intro types
    cases types with
    | constant bare given typed => exact ⟨bare, _, given, typed⟩
    | integer calculates => exact absurd calculates (by decide)
    | float calculates => exact absurd calculates (by decide)
  · rintro ⟨bare, value, given, typed⟩
    exact .constant bare given typed

/-- The class of the types in which an operation calculates. -/
def CalculatesIn (op : String) (inClass : Ty → Bool) : Prop :=
  op ∈ integerOps ∧ inClass = Ty.isIntegerOrIndex ∨ op ∈ floatOps ∧ inClass = Ty.isFloat

theorem types_binary_iff {inClass : Ty → Bool} (calculates : CalculatesIn op inClass) (ty : Ty) :
    Types operations draft op ty ↔ ∃ first second, draft.operands = [first, second] ∧
      operations.tyOf? first = some ty ∧ operations.tyOf? second = some ty ∧
        inClass ty = true := by
  constructor
  · intro types
    cases types with
    | constant =>
      rcases calculates with ⟨member, _⟩ | ⟨member, _⟩ <;> exact absurd member (by decide)
    | integer member operands firstTy secondTy classed =>
      rcases calculates with ⟨_, rfl⟩ | ⟨other, _⟩
      · exact ⟨_, _, operands, firstTy, secondTy, classed⟩
      · exact absurd other (not_mem_floatOps op member)
    | float member operands firstTy secondTy classed =>
      rcases calculates with ⟨other, _⟩ | ⟨_, rfl⟩
      · exact absurd member (not_mem_floatOps op other)
      · exact ⟨_, _, operands, firstTy, secondTy, classed⟩
  · rintro ⟨first, second, operands, firstTy, secondTy, classed⟩
    rcases calculates with ⟨member, rfl⟩ | ⟨member, rfl⟩
    · exact .integer member operands firstTy secondTy classed
    · exact .float member operands firstTy secondTy classed

/-! ### What builders infer -/

theorem arith_mem : (arith : Dialect Custom) ∈ dialects :=
  List.mem_cons_of_mem _ (List.mem_cons_of_mem _ List.mem_cons_self)

/-- The builders of arithmetic build arithmetic, each in one of two ways. -/
theorem arithClass_cases {opClass : OpClass} (offered : arithClass.find? op = some opClass) :
    opClass.id = ⟨⟨"arith"⟩, op⟩ ∧
      (op = "constant" ∧ opClass.builder = Builder.resultFromValue ∨
        op ∈ integerOps ++ floatOps ∧ opClass.builder = Builder.resultFromOperand) := by
  obtain ⟨same, member⟩ := DialectClass.mem_of_find? offered
  refine ⟨same, ?_⟩
  rcases List.mem_cons.mp member with constant | binary
  · exact .inl (Prod.mk.inj constant)
  · obtain ⟨other, calculates, entry⟩ := List.mem_map.mp binary
    obtain ⟨rfl, infers⟩ := Prod.mk.inj entry
    exact .inr ⟨calculates, infers.symm⟩

/-- The name under which a builder of arithmetic creates is read as what it builds. -/
theorem ofString?_arith {opClass : OpClass} (offered : arithClass.find? op = some opClass) :
    OpId.ofString? opClass.id.text = some ⟨⟨"arith"⟩, op⟩ := by
  have valid : ∀ name ∈ "constant" :: integerOps ++ floatOps, Identifier.isValid name = true := by
    decide
  obtain ⟨identified, builds⟩ := arithClass_cases offered
  rw [identified]
  have dialect : DialectName.isValid ⟨"arith"⟩ = true := by decide
  refine OpId.ofString?_text _ dialect (valid op ?_)
  rcases builds with ⟨rfl, _⟩ | ⟨calculates, _⟩
  · exact List.mem_cons_self
  · exact List.mem_cons_of_mem _ calculates

/-- A builder of arithmetic gives a draft without result types the type that the draft has, if it
has one. -/
theorem exists_prepare {opClass : OpClass} (offered : arithClass.find? op = some opClass)
    (operations : Operations) (draft : Draft) :
    ∃ inferred, (∀ ty, Types operations draft op ty → inferred = some ty) ∧
      opClass.prepare operations draft = .ok ⟨opClass.id.text, draft.operands,
        if draft.resultTypes = [] then inferred.toList else draft.resultTypes, draft.attributes,
        draft.location⟩ := by
  obtain ⟨_, ⟨rfl, builds⟩ | ⟨calculates, builds⟩⟩ := arithClass_cases offered
  · refine ⟨(draft.attribute? "value").bind Attribute.ty?, fun ty types => ?_, ?_⟩
    · obtain ⟨_, value, given, typed⟩ := (types_constant_iff ty).mp types
      rw [given, Option.bind_some, typed]
    · rw [OpClass.prepare, builds]
      exact congrArg Except.ok (Draft.inferResult_eq _ _)
  · refine ⟨draft.operands.head?.bind operations.tyOf?, fun ty types => ?_, ?_⟩
    · cases types with
      | constant => exact absurd calculates (by decide)
      | integer _ operands firstTy | float _ operands firstTy =>
        rw [operands, List.head?_cons, Option.bind_some, firstTy]
    · rw [OpClass.prepare, builds]
      exact congrArg Except.ok (Draft.inferResult_eq _ _)

/-! ### What verifiers accept -/

/-- A constant is accepted exactly if its only result has the type of its value. -/
theorem constant_accepts_iff (operations : Operations) (operation : Operation) :
    ((constant : Schema Custom).judgement operation).verdict? operations operation =
        some .accepted ↔
      ∃ ty, operation.resultTypes = [ty] ∧ operation.operands = [] ∧
        ∃ value, operation.attributes.find? "value" = some value ∧ value.ty? = some ty := by
  rw [Schema.verdict?_eq_accepted_iff]
  constructor
  · rintro ⟨fits, accepts⟩
    have accepted := (operation.constantVerdict_eq_accepted_iff).mp
      (Option.some.inj (accepts .constant rfl))
    obtain ⟨ty, others, types, typed⟩ := accepted
    have single : operation.resultTypes.length = 1 := of_decide_eq_true fits.results
    have bare : operation.operands.length = 0 := of_decide_eq_true fits.operands
    rw [types, List.length_cons, Nat.add_eq_right, List.length_eq_zero_iff] at single
    exact ⟨ty, single ▸ types, List.length_eq_zero_iff.mp bare, Option.bind_eq_some_iff.mp typed⟩
  · rintro ⟨ty, types, bare, value, given, typed⟩
    refine ⟨⟨?_, ?_, fun name member => ?_⟩, fun verifier own => ?_⟩
    · rw [bare]
      rfl
    · rw [types]
      rfl
    · rw [List.mem_singleton.mp member, AttributeDict.contains, given]
      rfl
    · cases own
      exact congrArg some ((operation.constantVerdict_eq_accepted_iff).mpr
        ⟨ty, [], types, Option.bind_eq_some_iff.mpr ⟨value, given, typed⟩⟩)

/-- An operation with two operands is accepted exactly if its only result and both operands have
one type, which is of the class. -/
theorem binary_accepts_iff {verifier : Verifier Custom} {inClass : Ty → Bool} {className : String}
    (rules : ∀ operations operation, verifier.verdict? operations operation =
      some (operations.sameTypesVerdict operation inClass className))
    (op : String) (operations : Operations) (operation : Operation) :
    ((binary verifier op).judgement operation).verdict? operations operation = some .accepted ↔
      ∃ ty, operation.resultTypes = [ty] ∧ ∃ first second, operation.operands = [first, second] ∧
        operations.tyOf? first = some ty ∧ operations.tyOf? second = some ty ∧
          inClass ty = true := by
  rw [Schema.verdict?_eq_accepted_iff]
  constructor
  · rintro ⟨fits, accepts⟩
    have accepted := accepts verifier rfl
    rw [rules, Option.some_inj, Operations.sameTypesVerdict_eq_accepted_iff] at accepted
    obtain ⟨ty, others, types, classed, all⟩ := accepted
    have single : operation.resultTypes.length = 1 := of_decide_eq_true fits.results
    have two : operation.operands.length = 2 := of_decide_eq_true fits.operands
    rw [types, List.length_cons, Nat.add_eq_right, List.length_eq_zero_iff] at single
    obtain ⟨first, second, operands⟩ := List.length_eq_two.mp two
    rw [operands] at all
    exact ⟨ty, single ▸ types, first, second, operands, all first (by simp), all second (by simp),
      classed⟩
  · rintro ⟨ty, types, first, second, operands, firstTy, secondTy, classed⟩
    refine ⟨⟨?_, ?_, nofun⟩, fun other own => ?_⟩
    · rw [operands]
      rfl
    · rw [types]
      rfl
    · cases own
      rw [rules, Option.some_inj, Operations.sameTypesVerdict_eq_accepted_iff]
      refine ⟨ty, [], types, classed, ?_⟩
      simp [operands, firstTy, secondTy]

/-- Each schema of arithmetic is found under its name. -/
theorem schema?_arith (schema : Schema Custom)
    (member : schema ∈ constant :: integerOps.map (binary .sameIntegers) ++
      floatOps.map (binary .sameFloats)) : arith.schema? schema.name = some schema := by
  refine Dialect.schema?_of_mem ?_ member
  show ("constant" :: integerOps ++ floatOps).Nodup
  decide

/-- An operation that calculates has a schema, and the verifier of the schema keeps to the class. -/
theorem exists_schema?_binary (calculates : op ∈ integerOps ++ floatOps) :
    ∃ (verifier : Verifier Custom) (inClass : Ty → Bool) (className : String),
      arith.schema? op = some (binary verifier op) ∧ CalculatesIn op inClass ∧
      ∀ operations operation, verifier.verdict? operations operation =
        some (operations.sameTypesVerdict operation inClass className) := by
  rcases List.mem_append.mp calculates with integer | float
  · refine ⟨.sameIntegers, _, _, ?_, .inl ⟨integer, rfl⟩, fun _ _ => rfl⟩
    exact schema?_arith (binary .sameIntegers op)
      (List.mem_append_left _ (List.mem_cons_of_mem _ (List.mem_map_of_mem integer)))
  · refine ⟨.sameFloats, _, _, ?_, .inr ⟨float, rfl⟩, fun _ _ => rfl⟩
    exact schema?_arith (binary .sameFloats op)
      (List.mem_append_right _ (List.mem_map_of_mem float))

/-- An operation that came from the draft through a builder is accepted exactly if the draft has
a type and this is the type of the only result. -/
theorem arith_accepts_iff {opClass : OpClass} (offered : arithClass.find? op = some opClass)
    {before after : Operations} {operation : Operation}
    (operands : operation.operands = draft.operands)
    (value : operation.attributes.find? "value" = draft.attribute? "value")
    (sameTypes : ∀ operand ∈ draft.operands, after.tyOf? operand = before.tyOf? operand) :
    ∃ schema : Schema Custom, arith.schema? op = some schema ∧
      ((schema.judgement operation).verdict? after operation = some .accepted ↔
        ∃ ty, Types before draft op ty ∧ operation.resultTypes = [ty]) := by
  obtain ⟨_, ⟨rfl, _⟩ | ⟨calculates, _⟩⟩ := arithClass_cases offered
  · refine ⟨constant, schema?_arith constant List.mem_cons_self, ?_⟩
    rw [constant_accepts_iff]
    refine exists_congr fun ty => ?_
    rw [types_constant_iff, operands, value]
    exact and_comm
  · obtain ⟨verifier, inClass, className, has, calculatesIn, rules⟩ :=
      exists_schema?_binary calculates
    refine ⟨binary verifier op, has, ?_⟩
    rw [binary_accepts_iff rules]
    refine exists_congr fun ty => ?_
    rw [types_binary_iff calculatesIn, operands, and_comm]
    -- The operands have the types that they had before the operation was there.
    refine and_congr_left fun _ => exists₂_congr fun first second => and_congr_right fun two => ?_
    rw [sameTypes first (by simp [two]), sameTypes second (by simp [two])]

end Standard

namespace Workspace

/-! ### Building and verifying -/

/-- A builder of arithmetic creates an operation that is like the draft, with the type that it
inferred if the draft has none. -/
theorem built_arith {workspace : Workspace Custom} {op : String} {opClass : OpClass}
    (offered : Standard.arithClass.find? op = some opClass) {draft : Draft} {creation : Creation}
    (built : (workspace.build opClass draft).answer = .ok creation) :
    ∃ inferred attributes,
      (∀ ty, Standard.Types workspace.session.operations draft op ty → inferred = some ty) ∧
      AttributeDict.empty.setAll draft.attributes = .ok attributes ∧
      creation.operation = ⟨workspace.session.operations.nextRef, ⟨⟨"arith"⟩, op⟩, draft.operands,
        if draft.resultTypes = [] then inferred.toList else draft.resultTypes, attributes,
        draft.location⟩ ∧
      (∀ operand ∈ draft.operands,
        workspace.session.operations.isAlive operand.definer = true) ∧
      (workspace.build opClass draft).state.session =
        workspace.session.add creation.operation := by
  obtain ⟨inferred, infers, prepares⟩ :=
    Standard.exists_prepare offered workspace.session.operations draft
  have named := Standard.ofString?_arith offered
  rw [build, prepares] at built ⊢
  dsimp only at built ⊢
  generalize prepared : Draft.mk _ _ _ _ _ = result at built ⊢
  have creates := workspace.creates result
  rw [built] at creates
  generalize (workspace.create result).state.session = after at creates ⊢
  cases creates with
  | admitted id admits attributes set operation described =>
    subst prepared
    cases named.symm.trans admits.named
    exact ⟨inferred, attributes, infers, set, described, admits.alive, rfl⟩

/-- Whoever takes part, an operation just built is accepted exactly if the draft has a type and
this is the type of its only result. -/
theorem passes_iff_types {workspace : Workspace Custom} (stocked : workspace.Stocked)
    (supplied : workspace.environment.Supplied) (anchored : workspace.session.operations.Anchored)
    (fresh : workspace.session.operations.find? workspace.session.operations.nextRef = none)
    (loaded : ⟨"arith"⟩ ∈ workspace.session.loadedNames) {op : String} {opClass : OpClass}
    (offered : Standard.arithClass.find? op = some opClass) {draft : Draft} {creation : Creation}
    (built : (workspace.build opClass draft).answer = .ok creation) :
    let after := (workspace.build opClass draft).state
    after.session.operations.find? creation.operation.ref = some creation.operation ∧
    ∀ (conduct : Conduct Custom Handler Note) (depth : Nat) (channel : Channel Handler Note),
      conduct.Passes after depth creation.operation.ref channel ↔
        ∃ ty, Standard.Types workspace.session.operations draft op ty ∧
          creation.operation.resultTypes = [ty] := by
  intro after
  obtain ⟨inferred, attributes, _, set, described, alive, grown⟩ := built_arith offered built
  have operations : after.session.operations =
      workspace.session.operations.insert creation.operation := congrArg Session.operations grown
  have found : after.session.operations.find? creation.operation.ref =
      some creation.operation := by
    rw [operations, Operations.find?_insert, described, fresh]
    simp
  refine ⟨found, fun conduct depth channel => ?_⟩
  have anchoredAfter : after.session.operations.Anchored := by
    rw [operations]
    exact anchored.insert _ (by rwa [described])
  have operands : creation.operation.operands = draft.operands := by rw [described]
  have value : creation.operation.attributes.find? "value" = draft.attribute? "value" := by
    rw [described]
    exact Draft.attribute?_eq set "value"
  have sameTypes (operand : Value) (member : operand ∈ draft.operands) :
      after.session.operations.tyOf? operand = workspace.session.operations.tyOf? operand := by
    rw [operations, Operations.tyOf?_insert (alive operand member)]
  obtain ⟨schema, has, accepts⟩ : ∃ schema : Schema Custom, _ :=
    Standard.arith_accepts_iff offered operands value sameTypes
  have dialect : after.session.dialect? ⟨"arith"⟩ = some Standard.arith := by
    rw [grown]
    exact stocked.dialect?_of_standard supplied Standard.arith_mem loaded
  have registered : after.session.schema? creation.operation.id = some schema := by
    rw [described]
    exact Option.bind_eq_some_iff.mpr ⟨_, dialect, has⟩
  rw [conduct.passes_iff_of_guarded depth channel found anchoredAfter registered
    (Standard.isGuarded_of_schema? Standard.arith_mem has), accepts]

/-- At every time of a session in which arithmetic is loaded, let a builder of arithmetic create an
operation from a draft. A draft has a type if, for a constant, it has no operands and the last
value that it gives has a type, or, for the other operations, if it has two operands of one type
of the right class. If the draft has no result types, the operation is accepted by verification
exactly if the draft has a type, which then is the type of its only result. If the draft has result
types, the operation keeps them, and it is accepted exactly if they are the type of the draft. -/
theorem arithmetic_builds_what_it_verifies {environment : Environment Custom}
    (reached : environment.Reached) (options : Start) (deeds : List (Deed Custom))
    (loaded : ⟨"arith"⟩ ∈
      ((start environment options).state.performAll deeds).session.loadedNames)
    {op : String} {opClass : OpClass} (offered : Standard.arithClass.find? op = some opClass)
    {draft : Draft} {creation : Creation}
    (built : (((start environment options).state.performAll deeds).build opClass draft).answer =
      .ok creation) :
    let before := (start environment options).state.performAll deeds
    let after := (before.build opClass draft).state
    let operation := creation.operation
    let types := Standard.Types before.session.operations draft op
    after.session.operations.find? operation.ref = some operation ∧
    (draft.resultTypes = [] → ∀ ty, types ty → operation.resultTypes = [ty]) ∧
    (draft.resultTypes ≠ [] → operation.resultTypes = draft.resultTypes) ∧
    ∀ (conduct : Conduct Custom Handler Note) (depth : Nat) (channel : Channel Handler Note),
      (draft.resultTypes = [] →
        (conduct.Passes after depth operation.ref channel ↔ ∃ ty, types ty)) ∧
      (draft.resultTypes ≠ [] →
        (conduct.Passes after depth operation.ref channel ↔
          ∃ ty, types ty ∧ draft.resultTypes = [ty])) := by
  intro before after operation types
  obtain ⟨inferred, _, infers, _, described, _⟩ := built_arith offered built
  obtain ⟨found, accepts⟩ := passes_iff_types (stocked_start environment options deeds)
    (supplied_start reached options deeds) (anchored_start environment options deeds)
    (replays_start environment options deeds).find?_nextRef loaded offered built
  have inferredResult (untyped : draft.resultTypes = []) (ty : Ty) (typed : types ty) :
      creation.operation.resultTypes = [ty] := by
    have results : creation.operation.resultTypes = inferred.toList := by
      rw [described, if_pos untyped]
    rw [results, infers ty typed]
    rfl
  have keptResults (given : draft.resultTypes ≠ []) :
      creation.operation.resultTypes = draft.resultTypes := by
    rw [described, if_neg given]
  refine ⟨found, inferredResult, keptResults, fun conduct depth channel =>
    ⟨fun untyped => (accepts conduct depth channel).trans (exists_congr fun ty =>
      and_iff_left_of_imp (inferredResult untyped ty)), fun given => ?_⟩⟩
  rw [← keptResults given]
  exact accepts conduct depth channel

/-- A constant of type `i64`. -/
def seven : List (Deed Empty) :=
  [.create ⟨"arith.constant", [], [.integer 64], [("value", .integer 7 (.integer 64))], .unknown⟩]

/-- The session with the constant. -/
def withSeven : Workspace Empty :=
  (start (.ofLoader 0 Loader.empty) ⟨some ["arith"], false⟩).state.performAll seven

/-- The draft of a square of the constant. -/
def square : Draft := ⟨"", [⟨⟨0⟩, 0⟩, ⟨⟨0⟩, 0⟩], [], [], .unknown⟩

/-- The draft of a constant to which two values are given, the first of which does not count. -/
def twice : Draft :=
  ⟨"", [], [], [("value", .string "seven"), ("value", .integer 7 .index)], .unknown⟩

/-- The product of the constant with itself and the other constant are built with the right types
and accepted. -/
theorem arithmetic_builds_what_it_verifies_withSeven :
    ∃ muli constant product index,
      Standard.arithClass.find? "muli" = some muli ∧
      (withSeven.build muli square).answer = .ok product ∧
      product.operation.resultTypes = [.integer 64] ∧
      Plan.conduct.Passes (withSeven.build muli square).state 0 product.operation.ref .empty ∧
      Standard.arithClass.find? "constant" = some constant ∧
      (withSeven.build constant twice).answer = .ok index ∧
      index.operation.resultTypes = [.index] ∧
      Plan.conduct.Passes (withSeven.build constant twice).state 0 index.operation.ref .empty := by
  have reached : (Environment.ofLoader 0 (Loader.empty : Loader Empty)).Reached := .fresh 0 _
  have loaded : ⟨"arith"⟩ ∈ withSeven.session.loadedNames := by decide +kernel
  let product : Operation :=
    ⟨⟨1⟩, ⟨⟨"arith"⟩, "muli"⟩, square.operands, [.integer 64], .empty, .unknown⟩
  let index : Operation := ⟨⟨1⟩, ⟨⟨"arith"⟩, "constant"⟩, [], [.index],
    AttributeDict.empty.set ⟨"value", rfl⟩ (.integer 7 .index), .unknown⟩
  have offersMuli : Standard.arithClass.find? "muli" =
      some ⟨⟨⟨"arith"⟩, "muli"⟩, .resultFromOperand⟩ := rfl
  have offersConstant : Standard.arithClass.find? "constant" =
      some ⟨⟨⟨"arith"⟩, "constant"⟩, .resultFromValue⟩ := rfl
  have multiplied : (withSeven.build ⟨⟨⟨"arith"⟩, "muli"⟩, .resultFromOperand⟩ square).answer =
      .ok ⟨product, none⟩ := rfl
  have stated : (withSeven.build ⟨⟨⟨"arith"⟩, "constant"⟩, .resultFromValue⟩ twice).answer =
      .ok ⟨index, none⟩ := rfl
  obtain ⟨_, _, _, verifiesProduct⟩ := arithmetic_builds_what_it_verifies reached
    ⟨some ["arith"], false⟩ seven loaded offersMuli multiplied
  obtain ⟨_, _, _, verifiesIndex⟩ := arithmetic_builds_what_it_verifies reached
    ⟨some ["arith"], false⟩ seven loaded offersConstant stated
  refine ⟨_, _, _, _, offersMuli, multiplied, rfl, ?_, offersConstant, stated, rfl, ?_⟩
  · exact ((verifiesProduct Plan.conduct 0 .empty).1 rfl).mpr
      ⟨.integer 64, .integer (by decide) rfl rfl rfl rfl⟩
  · exact ((verifiesIndex Plan.conduct 0 .empty).1 rfl).mpr ⟨.index, .constant rfl rfl rfl⟩

end Workspace

end Polyglot
