/-
This file proves that verification comes to an end where verifiers have the operations verified
that define their operands. This recursion follows operands through the store of operations. What
makes it end is that operands are results of operations with smaller numbers, which are never given
out again, so that it does so after any creations and erasures.

The clients that are admitted may do much else in their verifiers, and their handlers must not emit
or verify. Handlers that emit while they are called for an emission need not come to an end.
-/

import Polyglot.Proofs.Channel.Depth
import Polyglot.Proofs.Channel.Nesting
import Polyglot.Proofs.Operation.Judgement
import Polyglot.Script.Client

namespace Polyglot

variable {Custom Handler Note : Type}

/-! ### The order of creation -/

namespace Operations

/-- Numbers are below the next one, and operands are defined by operations with smaller numbers than
their user has. -/
structure Founded (operations : Operations) : Prop where
  below : ∀ operation ∈ operations.live, operation.ref.number < operations.created
  earlier : ∀ operation ∈ operations.live, ∀ operand ∈ operation.operands,
    operand.definer.number < operation.ref.number

theorem founded_empty : empty.Founded :=
  ⟨fun _ member => absurd member List.not_mem_nil, fun _ member => absurd member List.not_mem_nil⟩

namespace Founded

variable {operations after : Operations} (founded : operations.Founded)
include founded

/-- What only drops operations, or leaves the numbers and the operands of operations alone. -/
theorem mono (created : after.created = operations.created)
    (old : ∀ operation ∈ after.live, ∃ other ∈ operations.live,
      operation.ref = other.ref ∧ operation.operands = other.operands) : after.Founded := by
  refine ⟨fun operation member => ?_, fun operation member operand operandMember => ?_⟩
  · obtain ⟨other, there, sameRef, _⟩ := old operation member
    rw [sameRef, created]
    exact founded.below other there
  · obtain ⟨other, there, sameRef, sameOperands⟩ := old operation member
    rw [sameRef]
    exact founded.earlier other there operand (sameOperands ▸ operandMember)

theorem insert (operation : Operation) (fresh : operation.ref = operations.nextRef)
    (alive : ∀ operand ∈ operation.operands, operations.isAlive operand.definer = true) :
    (operations.insert operation).Founded := by
  have number : operation.ref.number = operations.created := congrArg OpRef.number fresh
  refine ⟨fun other member => ?_, fun other member operand operandMember => ?_⟩
  · rcases List.mem_append.1 member with old | new
    · exact Nat.lt_succ_of_lt (founded.below other old)
    · rw [List.mem_singleton.1 new, number]
      exact Nat.lt_succ_self _
  · rcases List.mem_append.1 member with old | new
    · exact founded.earlier other old operand operandMember
    · rw [List.mem_singleton.1 new] at operandMember ⊢
      obtain ⟨definer, found⟩ := (operations.isAlive_iff _).1 (alive operand operandMember)
      rw [number, ← operations.ref_of_find? _ definer found]
      exact founded.below definer (operations.mem_of_find? _ definer found)

theorem modify (ref : OpRef) (change : Operation → Operation)
    (keepsRef : ∀ operation, (change operation).ref = operation.ref)
    (keepsOperands : ∀ operation, (change operation).operands = operation.operands) :
    (operations.modify ref change).Founded := by
  refine founded.mono rfl fun changed member => ?_
  obtain ⟨operation, there, rfl⟩ := List.mem_map.1 member
  refine ⟨operation, there, ?_⟩
  split
  · exact ⟨keepsRef operation, keepsOperands operation⟩
  · exact ⟨rfl, rfl⟩

end Founded

end Operations

namespace Workspace

theorem Effect.founded {before after : Operations} {deed : Deed Custom}
    {entries : List Operations.Entry} (effect : Effect before deed entries after)
    (founded : before.Founded) : after.Founded := by
  cases effect with
  | kept => exact founded
  | created _ operation fresh alive => exact founded.insert operation fresh alive
  | erased ref =>
    exact founded.mono rfl fun operation member =>
      ⟨operation, (List.mem_filter.1 member).1, rfl, rfl⟩
  | attributed ref => exact founded.modify ref _ (fun _ => rfl) fun _ => rfl
  | located ref => exact founded.modify ref _ (fun _ => rfl) fun _ => rfl

theorem founded_performAll (workspace : Workspace Custom)
    (founded : workspace.session.operations.Founded) (deeds : List (Deed Custom)) :
    (workspace.performAll deeds).session.operations.Founded :=
  performAll_of_perform (motive := fun after => after.session.operations.Founded)
    (fun before deed kept => (before.effect_perform deed).founded kept) founded deeds

/-- At every time of a session, operands are results of operations with smaller numbers. -/
theorem founded_start (environment : Environment Custom) (options : Start)
    (deeds : List (Deed Custom)) :
    ((start environment options).state.performAll deeds).session.operations.Founded := by
  refine founded_performAll _ ?_ deeds
  rw [operations_start environment options]
  exact Operations.founded_empty

end Workspace

/-! ### Examinations -/

/-- A verifier that is not a client's looks into no operation that is gone. -/
theorem Verifier.verdict?_ne_erasedOperation {verifier : Verifier Custom} {operations : Operations}
    {operation : Operation} {verdict : Verdict}
    (ruled : verifier.verdict? operations operation = some verdict) :
    verdict ≠ .brokenOff .erasedOperation := by
  by_cases faulty : verifier.looksAtResult = true ∧ operation.resultTypes = []
  · obtain ⟨looks, none⟩ := faulty
    have missing : verdict = .brokenOff .missingResult := by
      cases verifier with
      | sameIntegers | sameFloats =>
        cases ruled
        rw [Operations.sameTypesVerdict, none]
      | constant =>
        cases ruled
        rw [Operation.constantVerdict, none]
      | _ => cases looks
    rintro rfl
    cases missing
  · rcases Verifier.settles ruled fun looks none => faulty ⟨looks, none⟩ with rfl | ⟨cause, rfl⟩
    · exact fun same => by cases same
    · exact fun same => by cases same

theorem Judgement.verdict?_ne_erasedOperation {judgement : Judgement Custom}
    {operations : Operations} {operation : Operation} {verdict : Verdict}
    (ruled : judgement.verdict? operations operation = some verdict) :
    verdict ≠ .brokenOff .erasedOperation := by
  cases judgement with
  | accepted | refused =>
    cases ruled
    exact fun same => by cases same
  | deferred verifier => exact Verifier.verdict?_ne_erasedOperation ruled

namespace Conduct

variable {conduct : Conduct Custom Handler Note} {workspace : Workspace Custom}

/-- A client's verifier that is asked about an operation that is alive has nothing verified but what
defines one of its operands. -/
def Delegates (conduct : Conduct Custom Handler Note) (workspace : Workspace Custom) : Prop :=
  ∀ operation ∈ workspace.session.operations.live, ∀ custom,
    workspace.session.Asks operation (.custom custom) →
      (conduct.inspect custom operation).Delegates workspace operation.operands

/-- The handlers emit nothing and have nothing verified. -/
def Quiet (conduct : Conduct Custom Handler Note) (workspace : Workspace Custom) : Prop :=
  ∀ handler diagnostic, (conduct.react handler diagnostic).Quiet workspace

/-- Whoever decides, no operation is verified on the way but those that define operands. -/
theorem Delegates.examine (delegates : conduct.Delegates workspace)
    (anchored : workspace.session.operations.Anchored) {ref : OpRef} {operation : Operation}
    (found : workspace.session.operations.find? ref = some operation) :
    (workspace.session.examine conduct operation).Delegates workspace operation.operands := by
  rw [Session.examine_eq (anchored.danglingIndex?_eq_none found) conduct]
  by_cases asked : ∃ custom, workspace.session.Asks operation (.custom custom)
  · obtain ⟨custom, asks⟩ := asked
    rw [(Session.judgement_eq_deferred_iff _).2 asks]
    exact delegates operation (workspace.session.operations.mem_of_find? ref operation found)
      custom asks
  · obtain ⟨verdict, ruled⟩ := Session.exists_verdict_of_unasked (not_exists.1 asked)
    rw [Judgement.visit_of_verdict? ruled conduct]
    exact Judgement.verdict?_ne_erasedOperation ruled

/-! ### Verifications -/

theorem Quiet.emit (quiet : conduct.Quiet workspace) (depth : Nat) (operations : Operations)
    (limit : Nat) (diagnostic : Diagnostic) :
    Completes operations limit ((conduct.service workspace (depth + 1)).emit diagnostic) := by
  rw [emit_service]
  exact Channel.completes_emit (fun handler heard => completes_play (quiet handler heard) _)
    diagnostic

/-- The induction is on the number of the operation, as operands are defined by operations with
smaller numbers. A verification takes one level, and one more for the report of an error. -/
theorem Delegates.decides_verify (delegates : conduct.Delegates workspace)
    (quiet : conduct.Quiet workspace) (anchored : workspace.session.operations.Anchored)
    (founded : workspace.session.operations.Founded) {ref : OpRef} {depth : Nat}
    (enough : ref.number + 2 ≤ depth) (alive : workspace.session.operations.isAlive ref = true) :
    Decides workspace.session.operations (ref.number + 1)
      ((conduct.service workspace depth).verify ref) := by
  induction number : ref.number using Nat.strongRecOn generalizing ref depth with
  | ind count inductionHypothesis =>
    subst number
    obtain ⟨inner, rfl⟩ : ∃ inner, depth = inner + 2 := ⟨depth - 2, by omega⟩
    obtain ⟨operation, found⟩ := (Operations.isAlive_iff _ ref).1 alive
    have member := workspace.session.operations.mem_of_find? ref operation found
    have own : operation.ref = ref := workspace.session.operations.ref_of_find? ref operation found
    rw [conduct.verify_of_alive workspace (inner + 1) found]
    refine decides_verifyWith alive (quiet.emit inner _ _) ?_
    refine decides_play (delegates.examine anchored found) (quiet.emit inner _ _) ?_
    intro operand operandMember
    have smaller : operand.definer.number < ref.number :=
      own ▸ founded.earlier operation member operand operandMember
    have decides : Decides workspace.session.operations (operand.definer.number + 1)
        ((conduct.service workspace (inner + 1)).verify operand.definer) :=
      inductionHypothesis operand.definer.number smaller (by omega)
        (anchored operation member operand operandMember) rfl
    exact decides.weaken smaller

end Conduct

namespace Workspace

/-- **Recursive verification terminates.** At every time of a session, let the verifiers of clients
have no operations verified but those that define operands, such as all of them in turn, and look
into none that is gone on their own; let handlers neither emit nor have anything verified. Then the
verification of an operation that is alive comes to one and the same outcome with every depth that
is enough, and nobody looks into an operation that is gone. At every moment, the verifications that
are in progress on its account are of operations that are alive, with numbers that fall from the
outside to the inside. There are at most as many of them as the number of the operation and one
more. -/
theorem verification_terminates {environment : Environment Custom} {options : Start}
    {deeds : List (Deed Custom)} {workspace : Workspace Custom}
    (reached : workspace = (start environment options).state.performAll deeds)
    {conduct : Conduct Custom Handler Note} (delegates : conduct.Delegates workspace)
    (quiet : conduct.Quiet workspace) {ref : OpRef}
    (alive : workspace.session.operations.isAlive ref = true) (channel : Channel Handler Note) :
    ∃ verdict after later,
      (∀ depth, ref.number + 2 ≤ depth →
        conduct.run workspace depth (.verify ref .done) channel = some (verdict, after)) ∧
      verdict ≠ .brokenOff .erasedOperation ∧
      after.history = later ++ channel.history ∧
      ∀ doing, doing <:+ later → ∃ nest,
        History.verifying (doing ++ channel.history) =
          nest ++ History.verifying channel.history ∧
        nest.length ≤ ref.number + 1 ∧
        Nest workspace.session.operations (ref.number + 1) nest := by
  have anchored : workspace.session.operations.Anchored :=
    reached ▸ anchored_start environment options deeds
  have founded : workspace.session.operations.Founded :=
    reached ▸ founded_start environment options deeds
  obtain ⟨verdict, after, ran, present, ⟨later, history, nests⟩, _⟩ :=
    delegates.decides_verify quiet anchored founded (Nat.le_refl (ref.number + 2)) alive channel
  refine ⟨verdict, after, later, fun depth enough => ?_, present, history, fun doing suffix => ?_⟩
  · refine conduct.run_deeper workspace enough ?_
    exact (run_bind_of_eq_some ran).trans rfl
  · obtain ⟨nest, moment, isNest⟩ := (nests.of_suffix suffix).exists_nest
    exact ⟨nest, moment, isNest.length_le, isNest⟩

/-- A client whose verifier has all operands verified in turn, and whose handlers only say whether
they consume a diagnostic. -/
def relaying : Conduct Unit Bool Unit where
  inspect _ operation := Visit.verifyEach operation.operands
  react consumes _ := .done (consumes, consumes)
  listen consumes _ := ([], consumes, consumes)

/-- An environment with a dialect whose only operation has this verifier. -/
def linking : Environment Unit :=
  ((Environment.ofLoader 0 Loader.empty).register ((Dialect.ofName ⟨"chain"⟩).insertAll
    [⟨"link", .atLeast 0, .exactly 1, [], some (.custom ())⟩])).state

/-- The draft of an operation with these operands and one result. -/
def link (operands : List Value) : Draft :=
  ⟨"chain.link", operands, [.index], [], .unknown⟩

/-- Three operations, each of which has the ones before it as operands, and one that is erased. -/
def links : List (Deed Unit) :=
  [.create (link []), .create (link [⟨⟨0⟩, 0⟩]), .erase ⟨1⟩, .create (link [⟨⟨0⟩, 0⟩]),
    .create (link [⟨⟨2⟩, 0⟩, ⟨⟨0⟩, 0⟩])]

/-- The session with the links. -/
def chained : Workspace Unit :=
  (start linking ⟨some ["chain"], false⟩).state.performAll links

/-- The last link is accepted, with no more than four verifications in progress at any moment. -/
theorem verification_terminates_chained :
    ∃ after,
      (∀ depth, 5 ≤ depth →
        relaying.run chained depth (.verify ⟨3⟩ .done) .empty = some (.accepted, after)) ∧
      ∀ doing, doing <:+ after.history → (History.verifying doing).length ≤ 4 := by
  have reached : chained = (start linking ⟨some ["chain"], false⟩).state.performAll links := rfl
  have delegates : relaying.Delegates chained := fun operation _ _ _ =>
    Visit.delegates_verifyEach chained (List.Subset.refl operation.operands)
  have quiet : relaying.Quiet chained := fun _ _ => trivial
  have alive : chained.session.operations.isAlive ⟨3⟩ = true := by decide +kernel
  have accepted : (relaying.run chained 5 (.verify ⟨3⟩ .done) .empty).map Prod.fst =
      some .accepted := rfl
  obtain ⟨verdict, after, later, runs, _, history, nested⟩ :=
    verification_terminates reached delegates quiet alive .empty
  rw [runs 5 (Nat.le_refl 5)] at accepted
  cases accepted
  have still : (Channel.empty : Channel Bool Unit).history = [] := rfl
  rw [still, List.append_nil] at history
  refine ⟨after, runs, fun doing suffix => ?_⟩
  obtain ⟨nest, moment, bounded, _⟩ := nested doing (history ▸ suffix)
  rw [still, List.append_nil, History.verifying, List.append_nil] at moment
  rwa [moment]

end Workspace

/-- The verifiers of scripts have no operations verified but those that define operands. -/
theorem Script.delegates_conduct (names : OpNames) (workspace : Workspace ScriptVerifier) :
    (conduct names).Delegates workspace := by
  have definers (values : List Value) : verifyDefiners values = Visit.verifyEach values := by
    induction values with
    | nil => rfl
    | cons value rest inductionHypothesis =>
      refine congrArg (Visit.verify value.definer) (funext fun verdict => ?_)
      cases verdict with
      | accepted => exact inductionHypothesis
      | rejected | brokenOff => rfl
  intro operation _ verifier _
  have rejects : rejection operation ≠ .brokenOff .erasedOperation := fun same => by cases same
  cases verifier with
  | reject => exact rejects
  | emitAndAccept => exact fun same => by cases same
  | emitAndReject => exact rejects
  | verifyOperands =>
    show (verifyDefiners operation.operands).Delegates workspace operation.operands
    rw [definers]
    exact Visit.delegates_verifyEach workspace (List.Subset.refl _)

end Polyglot
