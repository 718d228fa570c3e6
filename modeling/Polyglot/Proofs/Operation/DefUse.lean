/-
This file proves what the operands of operations refer to. A store of operations is sound if its
operations stand in the order of their numbers, all below the number of the next one, and every
operand is a result of an operation that is alive and came earlier. Each change that a store can
undergo keeps it sound, as long as a new operation takes values that the store honors: values
whose definer either is gone or has that many results.
-/

import Mathlib.Logic.Relation
import Polyglot.Proofs.Lookup

namespace Polyglot

namespace Operations

/-! ### Looking up after a change -/

theorem find?_insert (operations : Operations) (operation : Operation) (ref : OpRef) :
    (operations.insert operation).find? ref =
      (operations.find? ref).or (if operation.ref = ref then some operation else none) := by
  simp only [find?, insert, List.find?_append, List.find?_singleton, decide_eq_true_eq]

theorem find?_remove_of_ne (operations : Operations) (ref other : OpRef)
    (different : other ≠ ref) :
    (operations.remove ref).find? other = operations.find? other := by
  simp only [find?, remove, List.find?_filter]
  refine congrArg (List.find? · operations.live) (funext fun operation => ?_)
  by_cases same : operation.ref = other
  · simp [same, different]
  · simp [same]

theorem find?_modify (operations : Operations) (ref other : OpRef)
    (change : Operation → Operation)
    (keepsRef : ∀ operation, (change operation).ref = operation.ref) :
    (operations.modify ref change).find? other =
      (operations.find? other).map fun operation =>
        if operation.ref = ref then change operation else operation := by
  simp only [find?, modify, List.find?_map]
  refine congrArg (fun predicate => Option.map _ (List.find? predicate operations.live))
    (funext fun operation => ?_)
  by_cases same : operation.ref = ref <;> simp [same, keepsRef]

theorem isAlive_iff (operations : Operations) (ref : OpRef) :
    operations.isAlive ref = true ↔ ∃ operation, operations.find? ref = some operation :=
  Option.isSome_iff_exists

theorem danglingIndex?_eq_none_iff (operations : Operations) (operands : List Value) :
    operations.danglingIndex? operands = none ↔
      ∀ operand ∈ operands, operations.isAlive operand.definer = true := by
  simp [danglingIndex?, List.findIdx?_eq_none_iff]

theorem isUsed_eq_false_iff (operations : Operations) (ref : OpRef) :
    operations.isUsed ref = false ↔
      ∀ operation ∈ operations.live, ∀ operand ∈ operation.operands, operand.definer ≠ ref := by
  simp [isUsed]

/-! ### Changes -/

/-- What can become of a store in one step. A new operation has the next reference, operands that
were supplied, and only such whose definers are alive; what is erased is alive and not used. -/
inductive Change (before : Operations) (supplied : List Value) : Operations → Prop where
  | unchanged : Change before supplied before
  | created (operation : Operation) (fresh : operation.ref = before.nextRef)
      (taken : operation.operands = supplied)
      (alive : ∀ operand ∈ operation.operands, before.isAlive operand.definer = true) :
      Change before supplied (before.insert operation)
  | erased (ref : OpRef) (alive : before.isAlive ref = true)
      (unused : before.isUsed ref = false) : Change before supplied (before.remove ref)
  | attributed (ref : OpRef) (name : Identifier) (value : Attribute) :
      Change before supplied (before.setAttribute ref name value)
  | located (ref : OpRef) (location : Location) :
      Change before supplied (before.setLocation ref location)

/-! ### Soundness -/

/-- The operand refers to a result of an operation that is alive and has a smaller number. -/
def Defines (operations : Operations) (operation : Operation) (operand : Value) : Prop :=
  ∃ definer, operations.find? operand.definer = some definer ∧
    operand.index < definer.resultTypes.length ∧ definer.ref.number < operation.ref.number

/-- A store whose operations stand in the order of their creation and whose operands are results
of earlier operations. -/
structure Sound (operations : Operations) : Prop where
  increasing : operations.live.Pairwise fun first second => first.ref.number < second.ref.number
  below : ∀ operation ∈ operations.live, operation.ref.number < operations.created
  defined : ∀ operation ∈ operations.live, ∀ operand ∈ operation.operands,
    operations.Defines operation operand

/-- The value was given out by this store: its definer was created, and has that many results for
as long as it is alive. -/
structure Honors (operations : Operations) (value : Value) : Prop where
  created : value.definer.number < operations.created
  bounded : ∀ definer, operations.find? value.definer = some definer →
    value.index < definer.resultTypes.length

/-- The values that the operations in a store produce. -/
def values (operations : Operations) : List Value :=
  operations.live.flatMap Operation.results

theorem sound_empty : empty.Sound where
  increasing := List.Pairwise.nil
  below _ member := absurd member List.not_mem_nil
  defined _ member := absurd member List.not_mem_nil

theorem Sound.nodup_refs {operations : Operations} (sound : operations.Sound) :
    (operations.live.map Operation.ref).Nodup :=
  List.pairwise_map.mpr (sound.increasing.imp fun smaller same => by
    rw [same] at smaller
    exact Nat.lt_irrefl _ smaller)

theorem Sound.find?_ref {operations : Operations} (sound : operations.Sound)
    (operation : Operation) (member : operation ∈ operations.live) :
    operations.find? operation.ref = some operation :=
  find?_of_distinct Operation.ref sound.nodup_refs member

/-- A store honors the values that its operations produce. -/
theorem Sound.honors {operations : Operations} (sound : operations.Sound) (value : Value)
    (member : value ∈ operations.values) : operations.Honors value := by
  obtain ⟨operation, operationMember, valueMember⟩ := List.mem_flatMap.mp member
  obtain ⟨index, indexMember, rfl⟩ := List.mem_map.mp valueMember
  refine ⟨sound.below operation operationMember, fun definer found => ?_⟩
  rw [sound.find?_ref operation operationMember, Option.some_inj] at found
  rw [← found]
  exact List.mem_range.mp indexMember

/-! ### What each change keeps -/

/-- An operand keeps its definer as long as the definer is found in the new store with the number
and the results that it had. -/
theorem Defines.mono {before after : Operations} {operation : Operation} {operand : Value}
    (defines : before.Defines operation operand)
    (kept : ∀ definer, before.find? operand.definer = some definer →
      ∃ other, after.find? operand.definer = some other ∧ other.ref = definer.ref ∧
        other.resultTypes = definer.resultTypes) : after.Defines operation operand := by
  obtain ⟨definer, found, bounded, smaller⟩ := defines
  obtain ⟨other, otherFound, sameRef, sameTypes⟩ := kept definer found
  exact ⟨other, otherFound, sameTypes ▸ bounded, sameRef ▸ smaller⟩

theorem Sound.insert {operations : Operations} (sound : operations.Sound) (operation : Operation)
    (fresh : operation.ref = operations.nextRef)
    (alive : ∀ operand ∈ operation.operands, operations.isAlive operand.definer = true)
    (honored : ∀ operand ∈ operation.operands, operations.Honors operand) :
    (operations.insert operation).Sound := by
  have number : operation.ref.number = operations.created := by rw [fresh]; rfl
  have kept (ref : OpRef) (definer : Operation) (found : operations.find? ref = some definer) :
      (operations.insert operation).find? ref = some definer := by
    rw [find?_insert, found, Option.some_or]
  refine ⟨?_, ?_, ?_⟩
  · refine List.pairwise_append.mpr ⟨sound.increasing, List.pairwise_singleton _ _, ?_⟩
    intro earlier earlierMember last lastMember
    rw [List.mem_singleton.mp lastMember, number]
    exact sound.below earlier earlierMember
  · intro other member
    rcases List.mem_append.mp member with old | new
    · exact Nat.lt_succ_of_lt (sound.below other old)
    · rw [List.mem_singleton.mp new, number]
      exact Nat.lt_succ_self _
  · intro other member operand operandMember
    rcases List.mem_append.mp member with old | new
    · exact (sound.defined other old operand operandMember).mono fun definer found =>
        ⟨definer, kept _ definer found, rfl, rfl⟩
    · rw [List.mem_singleton.mp new] at operandMember ⊢
      obtain ⟨definer, found⟩ := (isAlive_iff _ _).mp (alive operand operandMember)
      refine ⟨definer, kept _ definer found,
        (honored operand operandMember).bounded definer found, ?_⟩
      rw [number]
      exact sound.below definer (mem_of_find? operations _ definer found)

theorem Sound.remove {operations : Operations} (sound : operations.Sound) (ref : OpRef)
    (unused : operations.isUsed ref = false) : (operations.remove ref).Sound := by
  refine ⟨sound.increasing.filter _, ?_, ?_⟩
  · intro operation member
    exact sound.below operation (List.mem_filter.mp member).1
  · intro operation member operand operandMember
    have old := (List.mem_filter.mp member).1
    have different := (isUsed_eq_false_iff operations ref).mp unused operation old operand
      operandMember
    refine (sound.defined operation old operand operandMember).mono fun definer found => ?_
    exact ⟨definer, by rw [find?_remove_of_ne _ _ _ different, found], rfl, rfl⟩

/-- A change of one operation that leaves its number, its operands and its results alone. -/
theorem Sound.modify {operations : Operations} (sound : operations.Sound) (ref : OpRef)
    (change : Operation → Operation)
    (keepsRef : ∀ operation, (change operation).ref = operation.ref)
    (keepsOperands : ∀ operation, (change operation).operands = operation.operands)
    (keepsTypes : ∀ operation, (change operation).resultTypes = operation.resultTypes) :
    (operations.modify ref change).Sound := by
  have number (operation : Operation) :
      (if operation.ref = ref then change operation else operation).ref = operation.ref := by
    split
    · exact keepsRef operation
    · rfl
  refine ⟨?_, ?_, ?_⟩
  · refine List.pairwise_map.mpr (sound.increasing.imp fun smaller => ?_)
    rw [number, number]
    exact smaller
  · intro changed member
    obtain ⟨operation, old, rfl⟩ := List.mem_map.mp member
    rw [number]
    exact sound.below operation old
  · intro changed member operand operandMember
    obtain ⟨operation, old, rfl⟩ := List.mem_map.mp member
    have sameOperands :
        (if operation.ref = ref then change operation else operation).operands =
          operation.operands := by
      split
      · exact keepsOperands operation
      · rfl
    rw [sameOperands] at operandMember
    have defines : (operations.modify ref change).Defines operation operand := by
      refine (sound.defined operation old operand operandMember).mono fun definer found => ?_
      refine ⟨_, by rw [find?_modify _ _ _ _ keepsRef, found]; rfl, number definer, ?_⟩
      split
      · exact keepsTypes definer
      · rfl
    obtain ⟨definer, found, bounded, smaller⟩ := defines
    exact ⟨definer, found, bounded, by rw [number]; exact smaller⟩

theorem Honors.mono {before after : Operations} {value : Value} (honors : before.Honors value)
    (grown : before.created ≤ after.created)
    (kept : ∀ definer, after.find? value.definer = some definer →
      ∃ other, before.find? value.definer = some other ∧
        other.resultTypes = definer.resultTypes) : after.Honors value := by
  refine ⟨Nat.lt_of_lt_of_le honors.created grown, fun definer found => ?_⟩
  obtain ⟨other, otherFound, sameTypes⟩ := kept definer found
  rw [← sameTypes]
  exact honors.bounded other otherFound

theorem Honors.modify {operations : Operations} {value : Value} (honors : operations.Honors value)
    (ref : OpRef) (change : Operation → Operation)
    (keepsRef : ∀ operation, (change operation).ref = operation.ref)
    (keepsTypes : ∀ operation, (change operation).resultTypes = operation.resultTypes) :
    (operations.modify ref change).Honors value := by
  refine honors.mono (Nat.le_refl _) fun definer found => ?_
  rw [find?_modify _ _ _ _ keepsRef] at found
  obtain ⟨other, otherFound, rfl⟩ := Option.map_eq_some_iff.mp found
  refine ⟨other, otherFound, ?_⟩
  split
  · exact (keepsTypes other).symm
  · rfl

/-- A value that is honored once is honored after every change. -/
theorem Change.honors {before after : Operations} {supplied : List Value}
    (change : Change before supplied after) (value : Value) (honors : before.Honors value) :
    after.Honors value := by
  cases change with
  | unchanged => exact honors
  | created operation fresh _ _ =>
    refine honors.mono (Nat.le_succ _) fun definer found => ?_
    have other : operation.ref ≠ value.definer := by
      intro same
      have smaller := honors.created
      rw [← same, fresh] at smaller
      exact Nat.lt_irrefl _ smaller
    rw [find?_insert, if_neg other, Option.or_none] at found
    exact ⟨definer, found, rfl⟩
  | erased ref _ _ =>
    refine honors.mono (Nat.le_refl _) fun definer found => ?_
    have different : value.definer ≠ ref := by
      rintro rfl
      rw [find?_remove_self] at found
      exact absurd found (by simp)
    rw [find?_remove_of_ne _ _ _ different] at found
    exact ⟨definer, found, rfl⟩
  | attributed ref _ _ => exact honors.modify ref _ (fun _ => rfl) fun _ => rfl
  | located ref _ => exact honors.modify ref _ (fun _ => rfl) fun _ => rfl

/-- A change keeps a store sound if the supplied values are honored. -/
theorem Change.sound {before after : Operations} {supplied : List Value}
    (change : Change before supplied after) (sound : before.Sound)
    (honored : ∀ value ∈ supplied, before.Honors value) : after.Sound := by
  cases change with
  | unchanged => exact sound
  | created operation fresh taken alive =>
    exact sound.insert operation fresh alive fun operand member =>
      honored operand (taken ▸ member)
  | erased ref _ unused => exact sound.remove ref unused
  | attributed ref _ _ =>
    exact sound.modify ref _ (fun _ => rfl) (fun _ => rfl) fun _ => rfl
  | located ref _ => exact sound.modify ref _ (fun _ => rfl) (fun _ => rfl) fun _ => rfl

/-! ### What soundness gives -/

/-- The operation has an operand that the other one defines. -/
def Uses (operations : Operations) (user definer : OpRef) : Prop :=
  ∃ operation, operations.find? user = some operation ∧
    ∃ operand ∈ operation.operands, operand.definer = definer

theorem Sound.number_lt_of_uses {operations : Operations} (sound : operations.Sound)
    {user definer : OpRef} (uses : operations.Uses user definer) :
    definer.number < user.number := by
  obtain ⟨operation, found, operand, member, rfl⟩ := uses
  obtain ⟨other, otherFound, _, smaller⟩ :=
    sound.defined operation (mem_of_find? operations user operation found) operand member
  rw [ref_of_find? operations _ other otherFound, ref_of_find? operations _ operation found]
    at smaller
  exact smaller

theorem Sound.number_lt_of_transGen_uses {operations : Operations} (sound : operations.Sound)
    {user definer : OpRef} (path : Relation.TransGen operations.Uses user definer) :
    definer.number < user.number := by
  induction path with
  | single uses => exact sound.number_lt_of_uses uses
  | tail _ uses inductionHypothesis =>
    exact Nat.lt_trans (sound.number_lt_of_uses uses) inductionHypothesis

theorem Sound.operandTy?_isSome {operations : Operations} (sound : operations.Sound)
    (operation : Operation) (member : operation ∈ operations.live) (index : Nat)
    (bounded : index < operation.operands.length) :
    (operations.operandTy? operation index).isSome = true := by
  obtain ⟨definer, found, inResults, _⟩ :=
    sound.defined operation member operation.operands[index] (List.getElem_mem bounded)
  simp only [operandTy?, List.getElem?_eq_getElem bounded, tyOf?, found,
    List.getElem?_eq_getElem inResults, Option.isSome_some]

theorem Sound.danglingIndex?_eq_none {operations : Operations} (sound : operations.Sound)
    (operation : Operation) (member : operation ∈ operations.live) :
    operations.danglingIndex? operation.operands = none := by
  refine (danglingIndex?_eq_none_iff operations _).mpr fun operand operandMember => ?_
  obtain ⟨definer, found, _⟩ := sound.defined operation member operand operandMember
  exact (isAlive_iff operations operand.definer).mpr ⟨definer, found⟩

end Operations

end Polyglot
