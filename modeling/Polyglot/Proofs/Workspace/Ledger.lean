/-
This file proves that the store of operations is what the ledger of its creations and erasures
says. The ledger lists the operations that were created and erased, with success, in the order in
which this happened, and the operations alive are those created and not erased. So an operation
that was erased is never alive again and its reference is not given out again, and the numbers of
operations count the successful creations.

The invariant speaks of lists and not of sets, which makes it carry the order of the operations
and their number along. Nothing is asked of the operands of new operations here, not even that
they come from the same session.
-/

import Polyglot.Proofs.Workspace.Admission

namespace Polyglot

namespace Operations

/-! ### Ledgers -/

/-- What is entered into a ledger. -/
inductive Entry where
  | created (ref : OpRef)
  | erased (ref : OpRef)
  deriving DecidableEq

/-- The operations that were created, in the order of their creation. -/
def createdRefs : List Entry → List OpRef
  | [] => []
  | .created ref :: later => ref :: createdRefs later
  | .erased _ :: later => createdRefs later

/-- The operations that were created and not erased, in the order of their creation. -/
def standingRefs (ledger : List Entry) : List OpRef :=
  (createdRefs ledger).filter fun ref => .erased ref ∉ ledger

theorem mem_createdRefs (ledger : List Entry) (ref : OpRef) :
    ref ∈ createdRefs ledger ↔ .created ref ∈ ledger := by
  induction ledger with
  | nil => simp [createdRefs]
  | cons entry later inductionHypothesis =>
    cases entry <;> simp [createdRefs, inductionHypothesis]

theorem createdRefs_append (ledger later : List Entry) :
    createdRefs (ledger ++ later) = createdRefs ledger ++ createdRefs later := by
  induction ledger with
  | nil => rfl
  | cons entry rest inductionHypothesis =>
    cases entry <;> simp [createdRefs, inductionHypothesis]

theorem standingRefs_created (ledger : List Entry) (ref : OpRef)
    (unerased : .erased ref ∉ ledger) :
    standingRefs (ledger ++ [.created ref]) = standingRefs ledger ++ [ref] := by
  simp [standingRefs, createdRefs_append, createdRefs, unerased]

theorem standingRefs_erased (ledger : List Entry) (ref : OpRef) :
    standingRefs (ledger ++ [.erased ref]) = (standingRefs ledger).filter (· ≠ ref) := by
  rw [standingRefs, standingRefs, createdRefs_append, createdRefs, createdRefs, List.append_nil,
    List.filter_filter]
  refine List.filter_congr fun other _ => ?_
  simp [and_comm]

/-- What happens to a store, with the entries for it. -/
inductive Records (before : Operations) : List Entry → Operations → Prop where
  | kept (after : Operations)
      (sameRefs : after.live.map Operation.ref = before.live.map Operation.ref)
      (sameCount : after.created = before.created) : Records before [] after
  | created (operation : Operation) (fresh : operation.ref = before.nextRef) :
      Records before [.created operation.ref] (before.insert operation)
  | erased (ref : OpRef) (alive : before.isAlive ref = true) :
      Records before [.erased ref] (before.remove ref)

/-- The store is what the ledger says. -/
structure Replays (operations : Operations) (ledger : List Entry) : Prop where
  numbered : createdRefs ledger = (List.range operations.created).map OpRef.mk
  erased : ∀ ref, .erased ref ∈ ledger → .created ref ∈ ledger
  live : operations.live.map Operation.ref = standingRefs ledger

theorem replays_empty : empty.Replays [] :=
  ⟨rfl, fun _ member => absurd member List.not_mem_nil, rfl⟩

theorem isAlive_iff_mem (operations : Operations) (ref : OpRef) :
    operations.isAlive ref = true ↔ ref ∈ operations.live.map Operation.ref := by
  simp [isAlive, find?, List.find?_isSome]

namespace Replays

variable {operations : Operations} {ledger : List Entry} (replays : operations.Replays ledger)
include replays

theorem isAlive_iff (ref : OpRef) :
    operations.isAlive ref = true ↔ .created ref ∈ ledger ∧ .erased ref ∉ ledger := by
  rw [isAlive_iff_mem, replays.live, standingRefs, List.mem_filter, mem_createdRefs,
    decide_eq_true_eq]

theorem nodup_createdRefs : (createdRefs ledger).Nodup := by
  rw [replays.numbered]
  exact List.nodup_range.map fun _ _ same => congrArg OpRef.number same

/-- The next reference does not occur in the ledger. -/
theorem nextRef_unentered : .created operations.nextRef ∉ ledger := by
  rw [← mem_createdRefs, replays.numbered, List.mem_map]
  rintro ⟨number, inRange, same⟩
  exact Nat.ne_of_lt (List.mem_range.mp inRange) (congrArg OpRef.number same)

/-- The next reference is not in use. -/
theorem find?_nextRef : operations.find? operations.nextRef = none := by
  rw [← Option.isNone_iff_eq_none, ← Option.isSome_eq_false_iff, ← isAlive, ← Bool.not_eq_true,
    replays.isAlive_iff]
  exact fun alive => replays.nextRef_unentered alive.1

theorem records {entries : List Entry} {after : Operations}
    (records : operations.Records entries after) : after.Replays (ledger ++ entries) := by
  cases records with
  | kept _ sameRefs sameCount =>
    rw [List.append_nil]
    exact ⟨sameCount ▸ replays.numbered, replays.erased, sameRefs.trans replays.live⟩
  | created operation fresh =>
    have unerased : .erased operation.ref ∉ ledger := fun erased =>
      replays.nextRef_unentered (fresh ▸ replays.erased _ erased)
    refine ⟨?_, fun ref member => ?_, ?_⟩
    · rw [createdRefs_append, replays.numbered, createdRefs, createdRefs, fresh, insert,
        List.range_succ, List.map_append]
      rfl
    · exact List.mem_append_left _ (replays.erased ref (by simpa using member))
    · rw [standingRefs_created _ _ unerased, ← replays.live, insert, List.map_append]
      rfl
  | erased ref alive =>
    have created := ((replays.isAlive_iff ref).mp alive).1
    refine ⟨?_, fun other member => ?_, ?_⟩
    · rw [createdRefs_append, createdRefs, createdRefs, List.append_nil]
      exact replays.numbered
    · refine List.mem_append_left _ ?_
      rcases List.mem_append.mp member with old | new
      · exact replays.erased other old
      · cases List.mem_singleton.mp new
        exact created
    · rw [standingRefs_erased, ← replays.live, List.filter_map, remove]
      rfl

/-- An operation that was erased is not alive, so that nothing can be told of its results. -/
theorem gone_of_erased (ref : OpRef) (erased : .erased ref ∈ ledger) :
    operations.isAlive ref = false ∧ ∀ index, operations.tyOf? ⟨ref, index⟩ = none ∧
      operations.valueText ⟨ref, index⟩ = "%<erased>" := by
  have dead : operations.isAlive ref = false := by
    rw [← Bool.not_eq_true, replays.isAlive_iff]
    exact fun alive => alive.2 erased
  have absent : operations.find? ref = none := by
    rwa [isAlive, Option.isSome_eq_false_iff, Option.isNone_iff_eq_none] at dead
  exact ⟨dead, fun index => by simp [tyOf?, valueText, absent]⟩

end Replays

theorem refs_modify (operations : Operations) (ref : OpRef) (change : Operation → Operation)
    (keepsRef : ∀ operation, (change operation).ref = operation.ref) :
    (operations.modify ref change).live.map Operation.ref =
      operations.live.map Operation.ref := by
  rw [modify, List.map_map]
  refine List.map_congr_left fun operation _ => ?_
  by_cases same : operation.ref = ref <;> simp [same, keepsRef]

end Operations

namespace Session

variable {Custom : Type} {session : Session Custom} {ref : OpRef}

/-- What comes of an attempt to erase an operation. -/
inductive Erases (session : Session Custom) (ref : OpRef) :
    Except Error (Session Custom) → Prop where
  | gone (dead : session.operations.isAlive ref = false) :
      Erases session ref (.error (.argument .unknown .erasedTwice))
  | used (operation : Operation) (found : session.operations.find? ref = some operation)
      (used : session.operations.isUsed ref = true) :
      Erases session ref (.error (.argument operation.location (.erasedWhileUsed operation.id)))
  | erased (alive : session.operations.isAlive ref = true)
      (unused : session.operations.isUsed ref = false) :
      Erases session ref (.ok { session with operations := session.operations.remove ref })

theorem erases (session : Session Custom) (ref : OpRef) :
    session.Erases ref (session.erase ref) := by
  unfold erase Operations.erase
  cases found : session.operations.find? ref with
  | none => exact .gone (by rw [Operations.isAlive, found]; rfl)
  | some operation =>
    cases used : session.operations.isUsed ref with
    | true => exact .used operation found used
    | false => exact .erased (by rw [Operations.isAlive, found]; rfl) used

namespace Erases

theorem exists_ok_iff {answer : Except Error (Session Custom)}
    (erases : session.Erases ref answer) :
    (∃ after, answer = .ok after) ↔ session.operations.isAlive ref = true ∧
      ∀ user ∈ session.operations.live, ∀ operand ∈ user.operands, operand.definer ≠ ref := by
  rw [← Operations.isUsed_eq_false_iff]
  cases erases with
  | gone dead => exact iff_of_false nofun fun ⟨alive, _⟩ => by simp [dead] at alive
  | used _ _ used => exact iff_of_false nofun fun ⟨_, unused⟩ => by simp [used] at unused
  | erased alive unused => exact iff_of_true ⟨_, rfl⟩ ⟨alive, unused⟩

theorem eq_of_ok {after : Session Custom} (erases : session.Erases ref (.ok after)) :
    session.operations.isAlive ref = true ∧
      after = { session with operations := session.operations.remove ref } := by
  cases erases with
  | erased alive _ => exact ⟨alive, rfl⟩

theorem kind_of_error {error : Error} (erases : session.Erases ref (.error error)) :
    error.kind = .invalidArgument := by
  cases erases <;> rfl

end Erases

end Session

namespace Workspace

variable {Custom : Type}

/-! ### Runs -/

/-- The entry for an attempt to create an operation: the reference that it returned. -/
def entriesOf : Except Error Creation → List Operations.Entry
  | .ok creation => [.created creation.operation.ref]
  | .error _ => []

/-- The entries for a deed. Deeds that fail have none. -/
def entries (workspace : Workspace Custom) : Deed Custom → List Operations.Entry
  | .create draft => entriesOf (workspace.create draft).answer
  | .build opClass draft => entriesOf (workspace.build opClass draft).answer
  | .buildFrom view op draft => entriesOf (workspace.buildFrom view op draft).answer
  | .erase ref =>
    match workspace.session.erase ref with
    | .ok _ => [.erased ref]
    | .error _ => []
  | _ => []

/-- The workspace after deeds, one after the other. -/
def performAll (workspace : Workspace Custom) : List (Deed Custom) → Workspace Custom
  | [] => workspace
  | deed :: later => (workspace.perform deed).performAll later

/-- What every deed keeps holds on through all of them. -/
theorem performAll_of_perform {motive : Workspace Custom → Prop}
    (keeps : ∀ workspace deed, motive workspace → motive (workspace.perform deed))
    {workspace : Workspace Custom} (holds : motive workspace) (deeds : List (Deed Custom)) :
    motive (workspace.performAll deeds) := by
  induction deeds generalizing workspace with
  | nil => exact holds
  | cons deed later inductionHypothesis =>
    exact inductionHypothesis (keeps workspace deed holds)

/-- The ledger of deeds, one after the other. -/
def ledger (workspace : Workspace Custom) : List (Deed Custom) → List Operations.Entry
  | [] => []
  | deed :: later => workspace.entries deed ++ (workspace.perform deed).ledger later

/-- What a deed does to the operations, and what is entered for it. -/
inductive Effect (before : Operations) :
    Deed Custom → List Operations.Entry → Operations → Prop where
  | kept (deed : Deed Custom) : Effect before deed [] before
  | created (deed : Deed Custom) (operation : Operation) (fresh : operation.ref = before.nextRef)
      (alive : ∀ operand ∈ operation.operands, before.isAlive operand.definer = true) :
      Effect before deed [.created operation.ref] (before.insert operation)
  | erased (ref : OpRef) (alive : before.isAlive ref = true)
      (unused : before.isUsed ref = false) :
      Effect before (.erase ref) [.erased ref] (before.remove ref)
  | attributed (ref : OpRef) (name : Identifier) (value : Attribute) :
      Effect before (.setAttribute ref name value) [] (before.setAttribute ref name value)
  | located (ref : OpRef) (location : Location) :
      Effect before (.setLocation ref location) [] (before.setLocation ref location)

theorem Effect.records {before after : Operations} {deed : Deed Custom}
    {entries : List Operations.Entry} (effect : Effect before deed entries after) :
    before.Records entries after := by
  cases effect with
  | kept => exact .kept _ rfl rfl
  | created _ operation fresh => exact .created operation fresh
  | erased ref alive => exact .erased ref alive
  | attributed ref name value => exact .kept _ (Operations.refs_modify _ ref _ fun _ => rfl) rfl
  | located ref location => exact .kept _ (Operations.refs_modify _ ref _ fun _ => rfl) rfl

theorem Creates.effect {workspace : Workspace Custom} {draft : Draft}
    {answer : Except Error Creation} {after : Session Custom}
    (creates : workspace.Creates draft answer after) (deed : Deed Custom) :
    Effect workspace.session.operations deed (entriesOf answer) after.operations := by
  cases creates with
  | refused => exact .kept deed
  | admitted id admits _ _ operation described =>
    refine .created deed operation (by rw [described]) ?_
    rw [described]
    exact admits.alive

theorem effect_build (workspace : Workspace Custom) (opClass : OpClass) (draft : Draft)
    (deed : Deed Custom) :
    Effect workspace.session.operations deed (entriesOf (workspace.build opClass draft).answer)
      (workspace.build opClass draft).state.session.operations := by
  unfold build
  cases opClass.prepare workspace.session.operations draft with
  | error error => exact .kept deed
  | ok prepared => exact (workspace.creates prepared).effect deed

theorem effect_erase (workspace : Workspace Custom) (ref : OpRef) :
    Effect workspace.session.operations (.erase ref : Deed Custom) (workspace.entries (.erase ref))
      (workspace.perform (.erase ref)).session.operations := by
  have erases := workspace.session.erases ref
  dsimp only [entries, perform, eraseOrKeep]
  cases answered : workspace.session.erase ref with
  | error error => exact .kept _
  | ok after =>
    rw [answered] at erases
    cases erases with
    | erased alive unused => exact .erased ref alive unused

/-- Every deed has one of few effects on the operations, and only a deed that names an operation
touches one that is there. -/
theorem effect_perform (workspace : Workspace Custom) (deed : Deed Custom) :
    Effect workspace.session.operations deed (workspace.entries deed)
      (workspace.perform deed).session.operations := by
  have same {after : Operations} (equal : after = workspace.session.operations) :
      Effect workspace.session.operations deed [] after := by
    rw [equal]
    exact .kept deed
  cases deed with
  | create draft => exact (workspace.creates draft).effect _
  | build opClass draft => exact workspace.effect_build opClass draft _
  | buildFrom view op draft =>
    dsimp only [entries, perform, buildFrom]
    cases view.opClass op with
    | error error => exact .kept _
    | ok opClass => exact workspace.effect_build opClass draft _
  | erase ref => exact workspace.effect_erase ref
  | setAttribute ref name value => exact .attributed ref name value
  | setLocation ref location => exact .located ref location
  | descriptor name => exact same (workspace.operations_descriptor name)
  | view access name => exact same (workspace.operations_view access name)
  | loadAll => exact same (workspace.operations_loadEach workspace.environment.available)
  | setAllowsUnregistered allow => exact same rfl
  | share deed => exact same rfl

theorem replays_performAll (workspace : Workspace Custom) (past : List Operations.Entry)
    (replays : workspace.session.operations.Replays past) (deeds : List (Deed Custom)) :
    (workspace.performAll deeds).session.operations.Replays (past ++ workspace.ledger deeds) := by
  induction deeds generalizing workspace past with
  | nil =>
    rw [ledger, List.append_nil]
    exact replays
  | cons deed later inductionHypothesis =>
    rw [ledger, ← List.append_assoc]
    exact inductionHypothesis _ _ (replays.records (workspace.effect_perform deed).records)

/-- A session starts with an empty ledger. -/
theorem replays_start (environment : Environment Custom) (options : Start)
    (deeds : List (Deed Custom)) :
    ((start environment options).state.performAll deeds).session.operations.Replays
      ((start environment options).state.ledger deeds) := by
  have empty : (start environment options).state.session.operations.Replays [] := by
    rw [operations_start environment options]
    exact Operations.replays_empty
  exact (start environment options).state.replays_performAll [] empty deeds

/-- After any deeds of a session, the operations alive are those that the ledger has as created and
not as erased, and their number is the size of the store. An operation can be erased exactly if it
is alive and no operation alive has an operand that it defines; that takes it away and nothing
else, and a failure changes nothing. An operation that was erased is gone for good, and its
reference is not returned again. The operations created so far have the numbers from zero on, in
the order of their creation. -/
theorem operations_replay_ledger (environment : Environment Custom) (options : Start)
    (deeds : List (Deed Custom)) :
    let begun := (start environment options).state
    let ledger := begun.ledger deeds
    let now := begun.performAll deeds
    let operations := now.session.operations
    (∀ ref, operations.isAlive ref = true ↔ .created ref ∈ ledger ∧ .erased ref ∉ ledger) ∧
    operations.live.map Operation.ref =
      (Operations.createdRefs ledger).filter (fun ref => .erased ref ∉ ledger) ∧
    operations.size =
      ((Operations.createdRefs ledger).filter fun ref => .erased ref ∉ ledger).length ∧
    Operations.createdRefs ledger =
      (List.range (Operations.createdRefs ledger).length).map OpRef.mk ∧
    (∀ ref, (∃ after, now.session.erase ref = .ok after) ↔ operations.isAlive ref = true ∧
      ∀ user ∈ operations.live, ∀ operand ∈ user.operands, operand.definer ≠ ref) ∧
    (∀ ref after, now.session.erase ref = .ok after →
      now.perform (.erase ref) = { now with session := after } ∧
      after = { now.session with operations :=
        ⟨operations.live.filter fun operation => operation.ref ≠ ref, operations.created⟩ } ∧
      after.operations.find? ref = none ∧
      ∀ other, other ≠ ref → after.operations.find? other = operations.find? other) ∧
    (∀ ref error, now.session.erase ref = .error error →
      now.perform (.erase ref) = now ∧ error.kind = .invalidArgument) ∧
    ∀ ref, .erased ref ∈ ledger → ∀ later,
      (now.performAll later).session.operations.isAlive ref = false ∧
      .created ref ∉ now.ledger later ∧
      ∀ index, (now.performAll later).session.operations.tyOf? ⟨ref, index⟩ = none ∧
        (now.performAll later).session.operations.valueText ⟨ref, index⟩ = "%<erased>" := by
  intro begun ledger now operations
  have replays : operations.Replays ledger := replays_start environment options deeds
  refine ⟨replays.isAlive_iff, replays.live, ?_, ?_,
    fun ref => (now.session.erases ref).exists_ok_iff, fun ref after answered => ?_,
    fun ref error answered => ?_, fun ref erased later => ?_⟩
  · have sameLength := congrArg List.length replays.live
    rwa [List.length_map] at sameLength
  · have count := congrArg List.length replays.numbered
    rw [List.length_map, List.length_range] at count
    rw [count]
    exact replays.numbered
  · have erases := now.session.erases ref
    rw [answered] at erases
    obtain ⟨_, same⟩ := erases.eq_of_ok
    refine ⟨by rw [perform, eraseOrKeep, answered], same, ?_, fun other differs => ?_⟩
    · rw [same]
      exact Operations.find?_remove_self _ ref
    · rw [same]
      exact Operations.find?_remove_of_ne _ ref other differs
  · have erases := now.session.erases ref
    rw [answered] at erases
    exact ⟨by rw [perform, eraseOrKeep, answered], erases.kind_of_error⟩
  · have afterwards := now.replays_performAll ledger replays later
    obtain ⟨dead, gone⟩ := afterwards.gone_of_erased ref (List.mem_append_left _ erased)
    refine ⟨dead, fun again => ?_, gone⟩
    have distinct := afterwards.nodup_createdRefs
    rw [Operations.createdRefs_append] at distinct
    exact (List.nodup_append.mp distinct).2.2 ref
      ((Operations.mem_createdRefs _ _).mpr (replays.erased ref erased)) ref
      ((Operations.mem_createdRefs _ _).mpr again) rfl

/-- Creations and erasures, some of which fail: a name without a dot, an operation that is in use,
and one that is gone. -/
def bustle : List (Deed Empty) :=
  [.create ⟨"t.first", [], [.index], [], .unknown⟩, .create ⟨"t", [], [], [], .unknown⟩,
    .create ⟨"t.second", [⟨⟨0⟩, 0⟩], [], [], .unknown⟩, .erase ⟨0⟩, .erase ⟨1⟩, .erase ⟨1⟩,
    .create ⟨"t.third", [], [], [], .unknown⟩]

theorem operations_replay_ledger_bustle :
    blank.ledger bustle = [.created ⟨0⟩, .created ⟨1⟩, .erased ⟨1⟩, .created ⟨2⟩] ∧
      (blank.performAll bustle).session.operations.live.map Operation.ref = [⟨0⟩, ⟨2⟩] ∧
      (∃ after, (blank.performAll bustle).session.erase ⟨0⟩ = .ok after ∧
        after.operations.find? ⟨0⟩ = none) ∧
      (∃ error, (blank.performAll bustle).session.erase ⟨1⟩ = .error error ∧
        error.kind = .invalidArgument) ∧
      ∀ later,
        ((blank.performAll bustle).performAll later).session.operations.isAlive ⟨1⟩ = false := by
  have course : blank.ledger bustle = [.created ⟨0⟩, .created ⟨1⟩, .erased ⟨1⟩, .created ⟨2⟩] := by
    decide +kernel
  obtain ⟨_, live, _, _, erasable, erased, failed, gone⟩ :=
    operations_replay_ledger (.ofLoader 0 Loader.empty) ⟨some [], true⟩ bustle
  obtain ⟨after, success⟩ := (erasable ⟨0⟩).mpr (by decide +kernel)
  refine ⟨course, live.trans (course ▸ by decide), ⟨after, success, (erased _ _ success).2.2.1⟩, ?_,
    fun later => (gone ⟨1⟩ (course ▸ by decide) later).1⟩
  cases answered : (blank.performAll bustle).session.erase ⟨1⟩ with
  | ok after =>
    have alive := ((erasable ⟨1⟩).mp ⟨after, answered⟩).1
    have dead := (gone ⟨1⟩ (course ▸ by decide) []).1
    exact absurd (alive.symm.trans dead) Bool.noConfusion
  | error error => exact ⟨error, rfl, (failed _ _ answered).2⟩

end Workspace

end Polyglot
