/-
This file proves what operations see of each other. All that types and texts take from an operand
are the result types of its definer, and these never change: attributes and the location can be
set, but the results of an operation are those it was created with, and an operation that is used
cannot be erased. So whatever happens elsewhere, an operation has the same text and the same
operand types for as long as it is alive and not changed itself.

Nothing is asked of where operands come from. That they are alive when an operation is created
makes them alive for as long as the operation is.
-/

import Polyglot.Proofs.Workspace.Ledger

namespace Polyglot

namespace Operations

/-! ### What is seen of an operation -/

/-- The result types of an operation that is alive. -/
def resultTypes? (operations : Operations) (ref : OpRef) : Option (List Ty) :=
  (operations.find? ref).map Operation.resultTypes

theorem tyOf?_eq (operations : Operations) (value : Value) :
    operations.tyOf? value =
      (operations.resultTypes? value.definer).bind fun types => types[value.index]? := by
  unfold tyOf? resultTypes?
  cases operations.find? value.definer <;> rfl

theorem valueText_eq (operations : Operations) (value : Value) :
    operations.valueText value =
      match operations.resultTypes? value.definer with
      | some types =>
        if types.length = 1 then "%" ++ toString value.definer.number
        else "%" ++ toString value.definer.number ++ "#" ++ toString value.index
      | none => "%<erased>" := by
  unfold valueText resultTypes?
  cases found : operations.find? value.definer with
  | none => rfl
  | some definer =>
    rw [← operations.ref_of_find? _ definer found]
    rfl

/-- Two stores agree on all that the operation sees of others. -/
def AgreesOn (first second : Operations) (operation : Operation) : Prop :=
  ∀ operand ∈ operation.operands,
    first.resultTypes? operand.definer = second.resultTypes? operand.definer

namespace AgreesOn

theorem refl (operations : Operations) (operation : Operation) :
    operations.AgreesOn operations operation :=
  fun _ _ => rfl

variable {first second third : Operations} {operation : Operation}

theorem trans (agrees : first.AgreesOn second operation)
    (goesOn : second.AgreesOn third operation) : first.AgreesOn third operation :=
  fun operand member => (agrees operand member).trans (goesOn operand member)

theorem tyOf?_eq (agrees : first.AgreesOn second operation) (operand : Value)
    (member : operand ∈ operation.operands) : first.tyOf? operand = second.tyOf? operand := by
  rw [Operations.tyOf?_eq, Operations.tyOf?_eq, agrees operand member]

theorem operandTy?_eq (agrees : first.AgreesOn second operation) (index : Nat) :
    first.operandTy? operation index = second.operandTy? operation index := by
  unfold operandTy?
  cases there : operation.operands[index]? with
  | none => rfl
  | some operand => exact agrees.tyOf?_eq operand (List.mem_of_getElem? there)

theorem opText_eq (agrees : first.AgreesOn second operation) :
    first.opText operation = second.opText operation := by
  have texts : operation.operands.map first.valueText = operation.operands.map second.valueText :=
    List.map_congr_left fun operand member => by
      rw [valueText_eq, valueText_eq, agrees operand member]
  have types : first.operandTypes operation = second.operandTypes operation :=
    List.map_congr_left fun operand member => by rw [agrees.tyOf?_eq operand member]
  rw [opText, opText, texts, types]

end AgreesOn

/-! ### Operands that are alive -/

/-- Every operand of an operation that is alive is a result of one that is alive. -/
def Anchored (operations : Operations) : Prop :=
  ∀ operation ∈ operations.live, ∀ operand ∈ operation.operands,
    operations.isAlive operand.definer = true

theorem anchored_empty : empty.Anchored :=
  fun _ member => absurd member List.not_mem_nil

theorem isAlive_insert {operations : Operations} {ref : OpRef}
    (alive : operations.isAlive ref = true) (operation : Operation) :
    (operations.insert operation).isAlive ref = true := by
  obtain ⟨found, there⟩ := (operations.isAlive_iff ref).mp alive
  rw [isAlive, find?_insert, there]
  rfl

/-- A new operation does not change the types of values that are there. -/
theorem tyOf?_insert {operations : Operations} {value : Value}
    (alive : operations.isAlive value.definer = true) (operation : Operation) :
    (operations.insert operation).tyOf? value = operations.tyOf? value := by
  obtain ⟨found, there⟩ := (operations.isAlive_iff value.definer).mp alive
  rw [tyOf?, tyOf?, find?_insert, there]
  rfl

namespace Anchored

variable {operations : Operations} (anchored : operations.Anchored)
include anchored

theorem insert (operation : Operation)
    (alive : ∀ operand ∈ operation.operands, operations.isAlive operand.definer = true) :
    (operations.insert operation).Anchored := by
  intro other member operand operandMember
  refine isAlive_insert ?_ operation
  rcases List.mem_append.mp member with old | new
  · exact anchored other old operand operandMember
  · rw [List.mem_singleton.mp new] at operandMember
    exact alive operand operandMember

theorem remove (ref : OpRef) (unused : operations.isUsed ref = false) :
    (operations.remove ref).Anchored := by
  intro operation member operand operandMember
  have old := (List.mem_filter.mp member).1
  have other := (operations.isUsed_eq_false_iff ref).mp unused operation old operand operandMember
  rw [isAlive, find?_remove_of_ne _ _ _ other]
  exact anchored operation old operand operandMember

/-- A change of one operation that leaves its number and its operands alone. -/
theorem modify (ref : OpRef) (change : Operation → Operation)
    (keepsRef : ∀ operation, (change operation).ref = operation.ref)
    (keepsOperands : ∀ operation, (change operation).operands = operation.operands) :
    (operations.modify ref change).Anchored := by
  intro changed member operand operandMember
  obtain ⟨operation, old, rfl⟩ := List.mem_map.mp member
  have sameOperands :
      (if operation.ref = ref then change operation else operation).operands =
        operation.operands := by
    split
    · exact keepsOperands operation
    · rfl
  rw [sameOperands] at operandMember
  rw [isAlive, find?_modify _ _ _ _ keepsRef, Option.isSome_map]
  exact anchored operation old operand operandMember

theorem danglingIndex?_eq_none {ref : OpRef} {operation : Operation}
    (found : operations.find? ref = some operation) :
    operations.danglingIndex? operation.operands = none :=
  (operations.danglingIndex?_eq_none_iff _).mpr
    (anchored operation (operations.mem_of_find? ref operation found))

end Anchored

theorem find?_modify_of_found (operations : Operations) (target : OpRef)
    (change : Operation → Operation)
    (keepsRef : ∀ operation, (change operation).ref = operation.ref) {ref : OpRef}
    {operation : Operation} (found : operations.find? ref = some operation) :
    (operations.modify target change).find? ref =
      some (if ref = target then change operation else operation) := by
  rw [find?_modify _ _ _ _ keepsRef, found, Option.map_some,
    operations.ref_of_find? ref operation found]

end Operations

namespace Workspace

variable {Custom : Type}

/-! ### What deeds leave alone -/

/-- The deed sets an attribute or the location of the operation. -/
inductive Deed.Alters : Deed Custom → OpRef → Prop where
  | attribute (ref : OpRef) (name : Identifier) (value : Attribute) :
      Alters (.setAttribute ref name value) ref
  | location (ref : OpRef) (location : Location) : Alters (.setLocation ref location) ref

namespace Effect

variable {before after : Operations} {deed : Deed Custom} {entries : List Operations.Entry}

/-- An operation that is alive is erased, or keeps its results, and it stays what it is unless
the deed changes it. -/
theorem find?_cases (effect : Effect before deed entries after) {ref : OpRef}
    {operation : Operation} (found : before.find? ref = some operation) :
    (entries = [.erased ref] ∧ after.find? ref = none) ∨
      ∃ changed, after.find? ref = some changed ∧
        changed.resultTypes = operation.resultTypes ∧
        (¬ deed.Alters ref → changed = operation) := by
  cases effect with
  | kept => exact .inr ⟨operation, found, rfl, fun _ => rfl⟩
  | created _ other =>
    refine .inr ⟨operation, ?_, rfl, fun _ => rfl⟩
    rw [Operations.find?_insert, found, Option.some_or]
  | erased gone =>
    by_cases same : ref = gone
    · subst same
      exact .inl ⟨rfl, before.find?_remove_self ref⟩
    · refine .inr ⟨operation, ?_, rfl, fun _ => rfl⟩
      rw [before.find?_remove_of_ne gone ref same, found]
  | attributed target name value =>
    let change (other : Operation) : Operation :=
      { other with attributes := other.attributes.set name value }
    refine .inr ⟨_, before.find?_modify_of_found target change (fun _ => rfl) found, ?_,
      fun spared => if_neg ?_⟩
    · split <;> rfl
    · rintro rfl
      exact spared (.attribute ref name value)
  | located target location =>
    let change (other : Operation) : Operation := { other with location := location }
    refine .inr ⟨_, before.find?_modify_of_found target change (fun _ => rfl) found, ?_,
      fun spared => if_neg ?_⟩
    · split <;> rfl
    · rintro rfl
      exact spared (.location ref location)

/-- An operation that is neither erased nor changed is found as it was. -/
theorem find?_eq (effect : Effect before deed entries after) {ref : OpRef} {operation : Operation}
    (found : before.find? ref = some operation) (unerased : .erased ref ∉ entries)
    (spared : ¬ deed.Alters ref) : after.find? ref = some operation := by
  rcases effect.find?_cases found with ⟨erased, _⟩ | ⟨changed, there, _, same⟩
  · exact absurd (erased ▸ List.mem_singleton_self _) unerased
  · rw [there, same spared]

/-- The results of an operation stay what they are for as long as it is alive. -/
theorem resultTypes?_eq (effect : Effect before deed entries after) {ref : OpRef}
    (alive : before.isAlive ref = true) (aliveAfter : after.isAlive ref = true) :
    before.resultTypes? ref = after.resultTypes? ref := by
  obtain ⟨operation, found⟩ := (before.isAlive_iff ref).mp alive
  rcases effect.find?_cases found with ⟨_, gone⟩ | ⟨changed, there, same, _⟩
  · rw [Operations.isAlive, gone] at aliveAfter
    cases aliveAfter
  · rw [Operations.resultTypes?, Operations.resultTypes?, found, there, Option.map_some,
      Option.map_some, same]

theorem anchored (effect : Effect before deed entries after) (anchored : before.Anchored) :
    after.Anchored := by
  cases effect with
  | kept => exact anchored
  | created _ operation fresh alive => exact anchored.insert operation alive
  | erased ref _ unused => exact anchored.remove ref unused
  | attributed ref => exact anchored.modify ref _ (fun _ => rfl) fun _ => rfl
  | located ref => exact anchored.modify ref _ (fun _ => rfl) fun _ => rfl

/-- What an operation sees of others stays what it is for as long as it is alive. -/
theorem agreesOn (effect : Effect before deed entries after) (anchored : before.Anchored)
    {ref : OpRef} {operation : Operation} (found : before.find? ref = some operation)
    (foundAfter : after.find? ref = some operation) : before.AgreesOn after operation :=
  fun operand member => effect.resultTypes?_eq
    (anchored operation (before.mem_of_find? ref operation found) operand member)
    (effect.anchored anchored operation (after.mem_of_find? ref operation foundAfter) operand
      member)

end Effect

/-! ### Runs -/

theorem anchored_performAll (workspace : Workspace Custom)
    (anchored : workspace.session.operations.Anchored) (deeds : List (Deed Custom)) :
    (workspace.performAll deeds).session.operations.Anchored :=
  performAll_of_perform (motive := fun after => after.session.operations.Anchored)
    (fun before deed kept => (before.effect_perform deed).anchored kept) anchored deeds

/-- At every time of a session, operands are results of operations that are alive. -/
theorem anchored_start (environment : Environment Custom) (options : Start)
    (deeds : List (Deed Custom)) :
    ((start environment options).state.performAll deeds).session.operations.Anchored := by
  refine anchored_performAll _ ?_ deeds
  rw [operations_start environment options]
  exact Operations.anchored_empty

/-- An operation that no deed erases or changes is found as it was, and sees what it saw. -/
theorem find?_performAll (workspace : Workspace Custom)
    (anchored : workspace.session.operations.Anchored) {ref : OpRef} {operation : Operation}
    (found : workspace.session.operations.find? ref = some operation)
    (deeds : List (Deed Custom)) (unerased : .erased ref ∉ workspace.ledger deeds)
    (spared : ∀ deed ∈ deeds, ¬ deed.Alters ref) :
    (workspace.performAll deeds).session.operations.find? ref = some operation ∧
      workspace.session.operations.AgreesOn (workspace.performAll deeds).session.operations
        operation := by
  induction deeds generalizing workspace with
  | nil => exact ⟨found, .refl _ operation⟩
  | cons deed later inductionHypothesis =>
    rw [ledger, List.mem_append, not_or] at unerased
    obtain ⟨sparedNow, sparedLater⟩ := List.forall_mem_cons.mp spared
    have effect := workspace.effect_perform deed
    have foundNext := effect.find?_eq found unerased.1 sparedNow
    obtain ⟨foundLast, agrees⟩ := inductionHypothesis (workspace.perform deed)
      (effect.anchored anchored) foundNext unerased.2 sparedLater
    exact ⟨foundLast, (effect.agreesOn anchored found foundNext).trans agrees⟩

end Workspace

end Polyglot
