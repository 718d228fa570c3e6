/-
This file proves that the operands of operations are in order throughout the life of a session:
each is a result of a live operation that was created earlier. So no operation depends on itself,
every operand has a type, and verification never meets an operand that is gone.

Every deed changes the store of operations in one of few ways, and each of these keeps the store
sound. What makes it go through is that a value that was given out once stays honored: its
definer keeps its results for as long as it is alive, and its number is not given out again.
-/

import Polyglot.Proofs.Workspace.Life

namespace Polyglot

/-! ### What a deed does to the operations -/

/-- A session accepts a draft exactly if the policy admits its name, its operands are alive and
its attributes have good names; the operation then is the one that the draft describes. -/
theorem Session.accept_eq_ok_iff {Custom : Type} (session : Session Custom) (draft : Draft)
    (id : OpId) (operation : Operation) :
    session.accept draft id = .ok operation ↔
      (session.isRegistered id = true ∨ session.allowsUnregistered = true) ∧
        session.operations.danglingIndex? draft.operands = none ∧
        ∃ attributes, AttributeDict.empty.setAll draft.attributes = .ok attributes ∧
          operation = ⟨session.operations.nextRef, id, draft.operands, draft.resultTypes,
            attributes, draft.location⟩ := by
  unfold accept
  by_cases admitted : session.isRegistered id = true ∨ session.allowsUnregistered = true
  · have passes : (!session.isRegistered id && !session.allowsUnregistered) = false := by
      rcases admitted with known | allowed
      · simp [known]
      · simp [allowed]
    rw [passes, if_neg Bool.false_ne_true]
    cases session.operations.danglingIndex? draft.operands with
    | some index => simp
    | none =>
      cases AttributeDict.empty.setAll draft.attributes with
      | error error => simp
      | ok attributes =>
        constructor
        · intro accepted
          exact ⟨admitted, rfl, attributes, rfl, (Except.ok.inj accepted).symm⟩
        · rintro ⟨_, _, found, same, rfl⟩
          rw [Except.ok.inj same]
  · simp only [not_or, Bool.not_eq_true] at admitted
    simp [admitted]

namespace Workspace

variable {Custom : Type}

theorem change_create (workspace : Workspace Custom) (draft : Draft) :
    workspace.session.operations.Change draft.operands
      (workspace.create draft).state.session.operations := by
  unfold create
  cases OpId.parse draft.name with
  | error error => exact .unchanged
  | ok id =>
    refine Attempt.state_andThen (motive := fun after : Workspace Custom =>
      workspace.session.operations.Change draft.operands after.session.operations)
      _ _ .unchanged fun found => ?_
    have untouched : (workspace.loadModule id.dialect).state.session = workspace.session := rfl
    rw [untouched]
    cases accepted : workspace.session.accept draft id with
    | error error => exact .unchanged
    | ok operation =>
      obtain ⟨_, alive, attributes, _, rfl⟩ :=
        (workspace.session.accept_eq_ok_iff draft id operation).mp accepted
      exact .created _ rfl rfl ((Operations.danglingIndex?_eq_none_iff _ _).mp alive)

theorem change_build (workspace : Workspace Custom) (opClass : OpClass) (draft : Draft) :
    workspace.session.operations.Change (workspace.preparedOperands opClass draft)
      (workspace.build opClass draft).state.session.operations := by
  unfold build preparedOperands
  cases opClass.prepare workspace.session.operations draft with
  | error error => exact .unchanged
  | ok prepared => exact workspace.change_create prepared

theorem change_eraseOrKeep (workspace : Workspace Custom) (ref : OpRef) :
    workspace.session.operations.Change []
      (workspace.eraseOrKeep ref).session.operations := by
  unfold eraseOrKeep Session.erase Operations.erase
  cases found : workspace.session.operations.find? ref with
  | none => exact .unchanged
  | some operation =>
    by_cases used : workspace.session.operations.isUsed ref = true
    · simp only [used, if_true]
      exact .unchanged
    · rw [Bool.not_eq_true] at used
      simp only [used]
      exact .erased ref ((Operations.isAlive_iff _ ref).mpr ⟨operation, found⟩) used

/-- Every deed changes the operations in one of the few ways that there are, and supplies no
operand that it does not ask for. -/
theorem change_perform (workspace : Workspace Custom) (deed : Deed Custom) :
    workspace.session.operations.Change (workspace.operandsOf deed)
      (workspace.perform deed).session.operations := by
  have same {after : Operations} (supplied : List Value)
      (equal : after = workspace.session.operations) :
      workspace.session.operations.Change supplied after := by
    rw [equal]
    exact .unchanged
  cases deed with
  | create draft => exact workspace.change_create draft
  | build opClass draft => exact workspace.change_build opClass draft
  | buildFrom view op draft =>
    dsimp only [operandsOf, perform, buildFrom]
    cases view.opClass op with
    | error error => exact .unchanged
    | ok opClass => exact workspace.change_build opClass draft
  | erase ref => exact workspace.change_eraseOrKeep ref
  | setAttribute ref name value => exact .attributed ref name value
  | setLocation ref location => exact .located ref location
  | descriptor name => exact same _ (workspace.operations_descriptor name)
  | view access name => exact same _ (workspace.operations_view access name)
  | loadAll => exact same _ (workspace.operations_loadEach workspace.environment.available)
  | setAllowsUnregistered allow => exact .unchanged
  | share deed => exact .unchanged

/-! ### What a life keeps -/

/-- At every time of a life the operations are sound, and every value that an operation produced
so far is honored. -/
theorem Life.sound {workspace : Workspace Custom} {past : List (Workspace Custom)}
    (life : Life (workspace :: past)) :
    workspace.session.operations.Sound ∧
      ∀ earlier ∈ workspace :: past, ∀ value ∈ earlier.session.operations.values,
        workspace.session.operations.Honors value := by
  generalize course : workspace :: past = lived at life
  induction life generalizing workspace past with
  | started environment options _ _ =>
    obtain ⟨rfl, rfl⟩ := List.cons.inj course
    have empty := operations_start environment options
    rw [empty]
    refine ⟨Operations.sound_empty, fun earlier member value produced => ?_⟩
    rw [List.mem_singleton.mp member, empty] at produced
    exact absurd produced List.not_mem_nil
  | performed before earlierPast deed _ drawn inductionHypothesis =>
    obtain ⟨rfl, rfl⟩ := List.cons.inj course
    obtain ⟨sound, honored⟩ := inductionHypothesis rfl
    have change := before.change_perform deed
    have soundAfter := change.sound sound fun value member => by
      obtain ⟨earlier, earlierMember, produced⟩ := drawn value member
      exact honored earlier earlierMember value produced
    refine ⟨soundAfter, fun earlier member value produced => ?_⟩
    rcases List.mem_cons.mp member with rfl | old
    · exact soundAfter.honors value produced
    · exact change.honors value (honored earlier old value produced)

/-- At every time of the life of a session, every operand of a live operation is a result of a
live operation that was created earlier. Hence no operation depends on itself, every operand has
a type, and verification finds no operand that is gone. -/
theorem Life.operands_defined {workspace : Workspace Custom} {past : List (Workspace Custom)}
    (life : Life (workspace :: past)) :
    (∀ operation ∈ workspace.session.operations.live, ∀ operand ∈ operation.operands,
      ∃ definer, workspace.session.operations.find? operand.definer = some definer ∧
        operand.index < definer.resultTypes.length ∧
        definer.ref.number < operation.ref.number) ∧
    (∀ ref, ¬ Relation.TransGen workspace.session.operations.Uses ref ref) ∧
    (∀ operation ∈ workspace.session.operations.live, ∀ index < operation.operands.length,
      (workspace.session.operations.operandTy? operation index).isSome = true) ∧
    ∀ operation ∈ workspace.session.operations.live,
      workspace.session.operations.danglingIndex? operation.operands = none := by
  have sound := life.sound.1
  refine ⟨sound.defined, fun ref path => ?_, sound.operandTy?_isSome, sound.danglingIndex?_eq_none⟩
  exact Nat.lt_irrefl _ (sound.number_lt_of_transGen_uses path)

/-- A session in which nothing happened yet and in which everything may be created. -/
def blank : Workspace Empty :=
  (start (.ofLoader 0 Loader.empty) ⟨some [], true⟩).state

/-- The session with an operation that has a result. -/
def withDefiner : Workspace Empty :=
  blank.perform (.create ⟨"t.definer", [], [.index], [], .unknown⟩)

/-- The session with an operation that takes that result twice. -/
def withUser : Workspace Empty :=
  withDefiner.perform (.create ⟨"t.user", [⟨⟨0⟩, 0⟩, ⟨⟨0⟩, 0⟩], [], [], .unknown⟩)

theorem operands_defined_withUser :
    Life [withUser, withDefiner, blank] ∧
      withUser.session.operations.live.map Operation.operands =
        [[], [⟨⟨0⟩, 0⟩, ⟨⟨0⟩, 0⟩]] ∧
      (∀ operation ∈ withUser.session.operations.live, ∀ operand ∈ operation.operands,
        ∃ definer, withUser.session.operations.find? operand.definer = some definer ∧
          operand.index < definer.resultTypes.length ∧
          definer.ref.number < operation.ref.number) ∧
      ¬ Relation.TransGen withUser.session.operations.Uses ⟨1⟩ ⟨1⟩ := by
  have start : Life [blank] := .started _ _ (.fresh 0 Loader.empty) rfl
  have defined : Life [withDefiner, blank] :=
    .performed _ _ _ start fun value member => absurd member List.not_mem_nil
  have used : Life [withUser, withDefiner, blank] := by
    refine .performed _ _ _ defined fun value member => ⟨withDefiner, List.mem_cons_self, ?_⟩
    have drawn : value = ⟨⟨0⟩, 0⟩ := by simpa [operandsOf] using member
    have produced : withDefiner.session.operations.values = [⟨⟨0⟩, 0⟩] := by decide +kernel
    rw [drawn, produced]
    exact List.mem_cons_self
  exact ⟨used, by decide +kernel, used.operands_defined.1, used.operands_defined.2.1 ⟨1⟩⟩

/-! ### A session with twins -/

/-- The session with an operation that has two results. -/
def withPair : Workspace Empty :=
  blank.perform (.create ⟨"t.pair", [], [.index, .function [.index] [.integer 32]],
    [("kind", .type (.foreign "t" "pair"))], .unknown⟩)

/-- A draft that takes both results, and says so in its attributes. -/
def noteDraft : Draft :=
  ⟨"t.note", [⟨⟨0⟩, 1⟩, ⟨⟨0⟩, 0⟩], [],
    [("flag", .unit), ("about", .array [.string "a \"pair\"]", .symbol "f", .unit,
      .integer (-3) (.function [.index] [])])], .unknown⟩

/-- The session with an operation that takes both results. -/
def withNote : Workspace Empty := withPair.perform (.create noteDraft)

/-- The session with two operations that take both results. -/
def withTwins : Workspace Empty := withNote.perform (.create noteDraft)

theorem life_withTwins : Life [withTwins, withNote, withPair, blank] := by
  have start : Life [blank] := .started _ _ (.fresh 0 Loader.empty) rfl
  have paired : Life [withPair, blank] :=
    .performed _ _ _ start fun value member => absurd member List.not_mem_nil
  have produced : withPair.session.operations.values = [⟨⟨0⟩, 0⟩, ⟨⟨0⟩, 1⟩] := by decide +kernel
  have drawn (value : Value) (member : value ∈ noteDraft.operands) :
      value ∈ withPair.session.operations.values := by
    rw [produced]
    simpa [noteDraft, or_comm] using member
  have noted : Life [withNote, withPair, blank] :=
    .performed _ _ _ paired fun value member =>
      ⟨withPair, List.mem_cons_self, drawn value member⟩
  exact .performed _ _ _ noted fun value member =>
    ⟨withPair, List.mem_cons_of_mem _ List.mem_cons_self, drawn value member⟩

end Workspace

end Polyglot
