/-
This file proves how verification decides, at every time of a session. The operands of an operation
that is alive are alive too, so that verifying it is acting on what the session says of it: it is
accepted, or it is refused for the first check that fails, or a verifier decides. No check can
break off, and the standard verifiers cannot either where the standard schemas ask them.

Clients take part in two places only. Their verifiers may decide, and their handlers are called
when an error is reported while errors are emitted.
-/

import Polyglot.Proofs.Channel.Candid
import Polyglot.Proofs.Channel.Capture
import Polyglot.Proofs.Operation.Judgement

namespace Polyglot

variable {Custom Handler Note : Type}

/-! ### Running a verification -/

/-- An error that is captured does not reach anybody, and so reporting it comes to an end. -/
theorem Channel.emit_of_diverts {call : Call Handler Note Option} {channel : Channel Handler Note}
    {diagnostic : Diagnostic} (diverted : channel.diverts diagnostic = true) :
    (emit call diagnostic).run channel =
      some ((), (channel.record (.emitted diagnostic)).capture diagnostic) := by
  have read : (get : Turn Handler Note _).run channel = some (channel, channel) := rfl
  have recorded : (set (channel.record (.emitted diagnostic)) : Turn Handler Note Unit).run
      channel = some ((), channel.record (.emitted diagnostic)) := rfl
  refine (run_bind_of_eq_some read).trans ((run_bind_of_eq_some recorded).trans ?_)
  rw [diverts] at diverted
  rw [if_pos diverted]
  rfl

namespace Conduct

/-- The verification of the operation comes to accept it. -/
def Passes (conduct : Conduct Custom Handler Note) (workspace : Workspace Custom) (depth : Nat)
    (ref : OpRef) (channel : Channel Handler Note) : Prop :=
  ∃ after, conduct.run workspace (depth + 1) (.verify ref .done) channel = some (.accepted, after)

/-- The verification of the operation comes to an error of this cause and about this place and to
nothing else, and it comes to it once the report of the error has come to an end. -/
structure Fails (conduct : Conduct Custom Handler Note) (workspace : Workspace Custom)
    (depth : Nat) (ref : OpRef) (channel : Channel Handler Note) (location : Location)
    (cause : Cause) : Prop where
  ends : ∀ verdict after,
    conduct.run workspace (depth + 1) (.verify ref .done) channel = some (verdict, after) →
      ∃ diagnostics, verdict = .rejected ⟨.verificationFailed, cause, location, diagnostics⟩
  returns : ∀ reported, ((conduct.service workspace depth).emit
      (.error location cause.message)).run (channel.enter ref) = some ((), reported) →
    conduct.run workspace (depth + 1) (.verify ref .done) channel =
      some (.rejected ⟨.verificationFailed, cause, location, reported.closeScope.1⟩,
        reported.leave ref)

/-- Whatever is emitted, the handlers that are called for it come to an end. -/
def Attends (conduct : Conduct Custom Handler Note) (workspace : Workspace Custom)
    (depth : Nat) : Prop :=
  ∀ diagnostic before, ∃ after,
    ((conduct.service workspace depth).emit diagnostic).run before = some ((), after)

/-- The verifier, asked about the operation, comes to this opinion and leaves this channel. -/
def Opines (conduct : Conduct Custom Handler Note) (workspace : Workspace Custom) (depth : Nat)
    (operation : Operation) (channel : Channel Handler Note) (verifier : Verifier Custom)
    (opinion : Verdict) (examined : Channel Handler Note) : Prop :=
  ((verifier.inspect conduct workspace.session.operations operation).play workspace
    (conduct.service workspace depth)).run channel = some (opinion, examined)

theorem Fails.not_passes {conduct : Conduct Custom Handler Note} {workspace : Workspace Custom}
    {depth : Nat} {ref : OpRef} {channel : Channel Handler Note} {location : Location}
    {cause : Cause} (fails : conduct.Fails workspace depth ref channel location cause) :
    ¬ conduct.Passes workspace depth ref channel := by
  rintro ⟨after, ran⟩
  obtain ⟨_, rejected⟩ := fails.ends _ _ ran
  cases rejected

variable (conduct : Conduct Custom Handler Note) {workspace : Workspace Custom} (depth : Nat)
  {ref : OpRef} {operation : Operation} (channel : Channel Handler Note)
  (found : workspace.session.operations.find? ref = some operation)

include found in
theorem run_verify_eq : conduct.run workspace (depth + 1) (.verify ref .done) channel =
    (verifyWith (conduct.service workspace depth).emit
      ((workspace.session.examine conduct operation).play workspace
        (conduct.service workspace depth)) ref).run channel := by
  rw [← conduct.verify_of_alive workspace depth found]
  show (((conduct.service workspace (depth + 1)).verify ref) >>= pure).run channel = _
  rw [bind_pure]

variable (anchored : workspace.session.operations.Anchored)
include found anchored

/-- To verify an operation is to act on the judgement and to conclude. -/
theorem run_verify_eq_some_iff (verdict : Verdict) (after : Channel Handler Note) :
    conduct.run workspace (depth + 1) (.verify ref .done) channel = some (verdict, after) ↔
      ∃ opinion examined, (((workspace.session.judgement operation).visit conduct
          workspace.session.operations operation).play workspace
            (conduct.service workspace depth)).run (channel.enter ref) =
          some (opinion, examined) ∧
        Concludes (conduct.service workspace depth).emit ref examined opinion verdict after := by
  rw [conduct.run_verify_eq depth channel found,
    Session.examine_eq (anchored.danglingIndex?_eq_none found) conduct]
  exact ⟨concludes_of_run, fun ⟨_, _, ran, concludes⟩ => run_of_concludes ran concludes⟩

theorem passes_of_accepted (accepted : workspace.session.judgement operation = .accepted) :
    conduct.Passes workspace depth ref channel := by
  refine ⟨_, (conduct.run_verify_eq_some_iff depth channel found anchored _ _).mpr
    ⟨.accepted, channel.enter ref, ?_, .accepted⟩⟩
  rw [accepted]
  rfl

theorem fails_of_refused {cause : Cause}
    (refused : workspace.session.judgement operation = .refused cause) :
    conduct.Fails workspace depth ref channel operation.location cause := by
  have decides := conduct.run_verify_eq_some_iff depth channel found anchored
  rw [refused] at decides
  refine ⟨fun verdict after ran => ?_, fun reported ran => ?_⟩
  · obtain ⟨opinion, examined, examines, concludes⟩ := (decides verdict after).mp ran
    cases examines
    cases concludes
    exact ⟨_, rfl⟩
  · exact (decides _ _).mpr ⟨_, _, rfl, .rejected _ reported ran⟩

/-- Where a permission decides, the operation is accepted exactly if it is granted. -/
theorem passes_iff_of_permission {permitted : Bool} {cause : Cause}
    (judges : workspace.session.judgement operation =
      if permitted then .accepted else .refused cause) :
    (conduct.Passes workspace depth ref channel ↔ permitted = true) ∧
      (permitted = false →
        conduct.Fails workspace depth ref channel operation.location cause) := by
  cases permitted with
  | true =>
    exact ⟨iff_of_true (conduct.passes_of_accepted depth channel found anchored judges) rfl, nofun⟩
  | false =>
    have fails := conduct.fails_of_refused depth channel found anchored judges
    exact ⟨iff_of_false fails.not_passes Bool.false_ne_true, fun _ => fails⟩

theorem run_verify_of_asks {verifier : Verifier Custom}
    (asks : workspace.session.Asks operation verifier) (verdict : Verdict)
    (after : Channel Handler Note) :
    conduct.run workspace (depth + 1) (.verify ref .done) channel = some (verdict, after) ↔
      ∃ opinion examined,
        conduct.Opines workspace depth operation (channel.enter ref) verifier opinion examined ∧
        Concludes (conduct.service workspace depth).emit ref examined opinion verdict after := by
  rw [conduct.run_verify_eq_some_iff depth channel found anchored,
    (Session.judgement_eq_deferred_iff verifier).mpr asks]
  rfl

theorem passes_iff_of_asks {verifier : Verifier Custom}
    (asks : workspace.session.Asks operation verifier) :
    conduct.Passes workspace depth ref channel ↔ ∃ examined,
      conduct.Opines workspace depth operation (channel.enter ref) verifier .accepted examined := by
  have decides := conduct.run_verify_of_asks depth channel found anchored asks .accepted
  constructor
  · rintro ⟨after, ran⟩
    obtain ⟨_, examined, opines, concludes⟩ := (decides after).mp ran
    cases concludes
    exact ⟨examined, opines⟩
  · rintro ⟨examined, opines⟩
    exact ⟨_, (decides _).mpr ⟨_, examined, opines, .accepted⟩⟩

/-- An operation is accepted exactly if it fits and the verifier, if there is one, accepts it. -/
theorem passes_iff_of_schema? {schema : Schema Custom}
    (has : workspace.session.schema? operation.id = some schema) :
    conduct.Passes workspace depth ref channel ↔ schema.Fits operation ∧
      ∀ verifier, schema.verifier = some verifier → ∃ examined,
        conduct.Opines workspace depth operation (channel.enter ref) verifier .accepted
          examined := by
  have judges := Session.judgement_of_schema? has
  rcases schema.misshape?_cases operation with ⟨fits, _⟩ | ⟨cause, misfits, _⟩
  · cases own : schema.verifier with
    | none =>
      rw [Schema.judgement_of_fits fits, own] at judges
      exact iff_of_true (conduct.passes_of_accepted depth channel found anchored judges)
        ⟨fits, fun _ asked => by cases asked⟩
    | some verifier =>
      rw [conduct.passes_iff_of_asks depth channel found anchored ⟨schema, has, fits, own⟩]
      exact ⟨fun accepts => ⟨fits, fun _ asked => Option.some.inj asked ▸ accepts⟩,
        fun accepts => accepts.2 verifier rfl⟩
  · rw [Schema.judgement_of_misfits misfits] at judges
    have fails := conduct.fails_of_refused depth channel found anchored judges
    exact iff_of_false fails.not_passes fun accepts => accepts.1.not_misfits cause misfits

/-- A verification comes to a verdict if the handlers that are called and the verifier that is
asked do, and it does not break off unless the verifier does. -/
theorem exists_run_verify (attends : conduct.Attends workspace depth)
    (opines : ∀ verifier, workspace.session.Asks operation verifier → ∃ opinion examined,
      conduct.Opines workspace depth operation (channel.enter ref) verifier opinion examined ∧
        ∀ fault, opinion ≠ .brokenOff fault) :
    ∃ verdict after,
      conduct.run workspace (depth + 1) (.verify ref .done) channel = some (verdict, after) ∧
        ∀ fault, verdict ≠ .brokenOff fault := by
  cases judges : workspace.session.judgement operation with
  | accepted =>
    obtain ⟨after, ran⟩ := conduct.passes_of_accepted depth channel found anchored judges
    exact ⟨_, after, ran, fun fault same => by cases same⟩
  | refused cause =>
    have fails := conduct.fails_of_refused depth channel found anchored judges
    obtain ⟨reported, ran⟩ := attends (.error operation.location cause.message) (channel.enter ref)
    exact ⟨_, _, fails.returns reported ran, fun fault same => by cases same⟩
  | deferred verifier =>
    have asks := (Session.judgement_eq_deferred_iff verifier).mp judges
    have decides := conduct.run_verify_of_asks depth channel found anchored asks
    obtain ⟨opinion, examined, opines, unbroken⟩ := opines verifier asks
    cases opinion with
    | accepted =>
      exact ⟨_, _, (decides _ _).mpr ⟨_, _, opines, .accepted⟩, fun fault same => by cases same⟩
    | rejected error =>
      obtain ⟨reported, ran⟩ := attends error.diagnostic examined
      exact ⟨_, _, (decides _ _).mpr ⟨_, _, opines, .rejected error reported ran⟩,
        fun fault same => by cases same⟩
    | brokenOff fault => exact absurd rfl (unbroken fault)

/-- Only a verifier can make a verification break off. -/
theorem asks_of_brokenOff {fault : Fault} {after : Channel Handler Note}
    (ran : conduct.run workspace (depth + 1) (.verify ref .done) channel =
      some (.brokenOff fault, after)) :
    ∃ verifier, workspace.session.Asks operation verifier ∧
      conduct.Opines workspace depth operation (channel.enter ref) verifier (.brokenOff fault)
        after := by
  obtain ⟨opinion, examined, examines, concludes⟩ :=
    (conduct.run_verify_eq_some_iff depth channel found anchored _ _).mp ran
  cases concludes
  cases judges : workspace.session.judgement operation with
  | accepted | refused =>
    rw [judges] at examines
    cases examines
  | deferred verifier =>
    rw [judges] at examines
    exact ⟨verifier, (Session.judgement_eq_deferred_iff verifier).mp judges, examines⟩

/-- Where no client decides, there is one verdict to come to, up to what is captured. -/
theorem run_verify_of_ruled {opinion : Verdict}
    (ruled : (workspace.session.judgement operation).verdict? workspace.session.operations
      operation = some opinion) (verdict : Verdict) (after : Channel Handler Note) :
    conduct.run workspace (depth + 1) (.verify ref .done) channel = some (verdict, after) ↔
      Concludes (conduct.service workspace depth).emit ref (channel.enter ref) opinion verdict
        after := by
  rw [conduct.run_verify_eq_some_iff depth channel found anchored,
    Judgement.visit_of_verdict? ruled conduct]
  constructor
  · rintro ⟨_, _, examines, concludes⟩
    cases examines
    exact concludes
  · exact fun concludes => ⟨_, _, rfl, concludes⟩

/-- Where no client decides, an operation is accepted by all verifications or by none. -/
theorem passes_iff_of_ruled {opinion : Verdict}
    (ruled : (workspace.session.judgement operation).verdict? workspace.session.operations
      operation = some opinion) :
    conduct.Passes workspace depth ref channel ↔ opinion = .accepted := by
  have decides := conduct.run_verify_of_ruled depth channel found anchored ruled .accepted
  constructor
  · rintro ⟨after, ran⟩
    cases (decides after).mp ran
    rfl
  · rintro rfl
    exact ⟨_, (decides _).mpr .accepted⟩

/-- Where no client decides about the operations of a schema, the schema does. -/
theorem passes_iff_of_guarded {schema : Schema Custom}
    (has : workspace.session.schema? operation.id = some schema)
    (guarded : schema.isGuarded = true) :
    conduct.Passes workspace depth ref channel ↔
      (schema.judgement operation).verdict? workspace.session.operations operation =
        some .accepted := by
  obtain ⟨opinion, ruled, _⟩ :=
    schema.exists_verdict_of_isGuarded guarded workspace.session.operations operation
  rw [ruled, Option.some_inj]
  rw [← Session.judgement_of_schema? has] at ruled
  exact conduct.passes_iff_of_ruled depth channel found anchored ruled

/-- Where no client decides and errors are not emitted, a verification needs nobody else to come
to a verdict. -/
theorem exists_run_verify_of_silent {inner : Nat} (silent : channel.emitsErrors = false)
    (unasked : ∀ custom, ¬ workspace.session.Asks operation (.custom custom)) :
    ∃ verdict after,
      conduct.run workspace (inner + 2) (.verify ref .done) channel = some (verdict, after) := by
  obtain ⟨verdict, ruled⟩ := Session.exists_verdict_of_unasked unasked
  have decides := conduct.run_verify_of_ruled (inner + 1) channel found anchored ruled
  cases verdict with
  | accepted => exact ⟨_, _, (decides _ _).mpr .accepted⟩
  | rejected error =>
    have diverted : (channel.enter ref).diverts error.diagnostic = true := by
      show (true && true && !channel.emitsErrors) = true
      rw [silent]
      rfl
    exact ⟨_, _, (decides _ _).mpr (.rejected error _ (Channel.emit_of_diverts diverted))⟩
  | brokenOff fault => exact ⟨_, _, (decides _ _).mpr (.brokenOff fault)⟩

end Conduct

/-- The schema has a verdict on every operation, which settles it. -/
def Schema.Decisive (schema : Schema Custom) : Prop :=
  ∀ (operations : Operations) (operation : Operation), ∃ verdict, operation.Settles verdict ∧
    ∀ {Handler Note : Type} (conduct : Conduct Custom Handler Note),
      schema.examine conduct operations operation = .done verdict

theorem Schema.decisive_of_isGuarded {schema : Schema Custom} (guarded : schema.isGuarded = true) :
    schema.Decisive := by
  intro operations operation
  obtain ⟨verdict, ruled, settles⟩ :=
    schema.exists_verdict_of_isGuarded guarded operations operation
  refine ⟨verdict, settles, fun conduct => ?_⟩
  rw [examine_eq, Judgement.visit_of_verdict? ruled]

namespace Workspace

/-! ### The procedure -/

/-- At every time of a session, an operation that is alive is decided upon by the first of these
that applies. If its dialect is not loaded, unregistered dialects must be allowed. If its dialect
does not know it, the dialect must accept unknown operations. Else it must fit its schema, and the
verifier of the schema, if there is one, has the last word. Each failure is about the place of the
operation, and a schema reports the first of its checks that fails.

A verification comes to a verdict if the handlers that it calls and the verifier that it asks come
to an end, it calls no handlers if errors are not emitted, and it breaks off only if the verifier
does. The verifier of a standard schema never does, not even for an operation of another name. -/
theorem verification_decided (environment : Environment Custom) (options : Start)
    (deeds : List (Deed Custom)) (conduct : Conduct Custom Handler Note) (depth : Nat)
    (channel : Channel Handler Note) {ref : OpRef} {operation : Operation}
    (found : ((start environment options).state.performAll deeds).session.operations.find? ref =
      some operation) :
    let workspace := (start environment options).state.performAll deeds
    let session := workspace.session
    let verification := conduct.run workspace (depth + 1) (.verify ref .done) channel
    let passes := ∃ after, verification = some (.accepted, after)
    let fails := conduct.Fails workspace depth ref channel operation.location
    let opines := conduct.Opines workspace depth operation (channel.enter ref)
    (session.dialect? operation.id.dialect = none →
      (passes ↔ session.allowsUnregistered = true) ∧
      (session.allowsUnregistered = false → fails (.unregisteredDialect operation.id))) ∧
    (∀ dialect, session.dialect? operation.id.dialect = some dialect →
      (dialect.schema? operation.id.name = none →
        (passes ↔ dialect.allowsUnknown = true) ∧
        (dialect.allowsUnknown = false → fails (.unregisteredOp operation.id))) ∧
      ∀ schema, dialect.schema? operation.id.name = some schema →
        (passes ↔ schema.Fits operation ∧ ∀ verifier, schema.verifier = some verifier →
          ∃ examined, opines verifier .accepted examined) ∧
        (¬ schema.Fits operation ↔ ∃ cause, schema.Misfits operation cause) ∧
        (∀ cause, schema.Misfits operation cause → fails cause) ∧
        (schema.Fits operation → ∀ verifier, schema.verifier = some verifier →
          ∀ verdict after, verification = some (verdict, after) ↔ ∃ opinion examined,
            opines verifier opinion examined ∧
              Concludes (conduct.service workspace depth).emit ref examined opinion verdict
                after)) ∧
    (conduct.Attends workspace depth →
      (∀ verifier, session.Asks operation verifier → ∃ opinion examined,
        opines verifier opinion examined ∧ ∀ fault, opinion ≠ .brokenOff fault) →
      ∃ verdict after, verification = some (verdict, after) ∧
        ∀ fault, verdict ≠ .brokenOff fault) ∧
    (0 < depth → channel.emitsErrors = false →
      (∀ custom, ¬ session.Asks operation (.custom custom)) →
      ∃ verdict after, verification = some (verdict, after)) ∧
    (∀ fault after, verification = some (.brokenOff fault, after) →
      ∃ verifier, session.Asks operation verifier ∧ opines verifier (.brokenOff fault) after) ∧
    ∀ dialect ∈ (Standard.dialects : List (Dialect Custom)), ∀ op schema,
      dialect.schema? op = some schema → schema.Decisive := by
  intro workspace session verification passes fails opines
  have anchored : session.operations.Anchored := anchored_start environment options deeds
  refine ⟨fun unloaded => ?_, fun dialect loaded => ⟨fun unknown => ?_, fun schema has => ?_⟩,
    conduct.exists_run_verify depth channel found anchored, fun positive silent unasked => ?_,
    fun fault after => conduct.asks_of_brokenOff depth channel found anchored,
    fun dialect standard op schema has =>
      Schema.decisive_of_isGuarded (Standard.isGuarded_of_schema? standard has)⟩
  · exact conduct.passes_iff_of_permission depth channel found anchored
      (Session.judgement_of_unloaded unloaded)
  · exact conduct.passes_iff_of_permission depth channel found anchored
      (Session.judgement_of_unknown loaded unknown)
  · have registered : session.schema? operation.id = some schema :=
      Option.bind_eq_some_iff.mpr ⟨dialect, loaded, has⟩
    refine ⟨conduct.passes_iff_of_schema? depth channel found anchored registered,
      Schema.not_fits_iff, fun cause misfits => ?_, fun fits verifier own =>
        conduct.run_verify_of_asks depth channel found anchored ⟨schema, registered, fits, own⟩⟩
    exact conduct.fails_of_refused depth channel found anchored
      ((Session.judgement_of_schema? registered).trans (Schema.judgement_of_misfits misfits))
  · obtain ⟨inner, rfl⟩ := Nat.exists_eq_succ_of_ne_zero (Nat.ne_of_gt positive)
    exact conduct.exists_run_verify_of_silent channel found anchored silent unasked

/-- A constant, and a sum that has no result. -/
def sums : List (Deed Empty) :=
  [.create ⟨"arith.constant", [], [.integer 32], [("value", .integer 1 (.integer 32))], .unknown⟩,
    .create ⟨"arith.addi", [⟨⟨0⟩, 0⟩, ⟨⟨0⟩, 0⟩], [], [], .named "sum" .unknown⟩]

/-- The session with these operations. -/
def withSums : Workspace Empty :=
  (start (.ofLoader 0 Loader.empty) ⟨some ["arith"], false⟩).state.performAll sums

/-- The constant is accepted. The verifier of the sum is not asked, as it would miss the result. -/
theorem verification_decided_withSums :
    Plan.conduct.Passes withSums 0 ⟨0⟩ .empty ∧
      ∃ diagnostics after, Plan.conduct.run withSums 2 (.verify ⟨1⟩ .done) .empty =
        some (.rejected ⟨.verificationFailed,
          .wrongArity ⟨⟨"arith"⟩, "addi"⟩ .results (.exactly 1) 0, .named "sum" .unknown,
          diagnostics⟩, after) := by
  have loaded : withSums.session.dialect? ⟨"arith"⟩ = some Standard.arith := rfl
  refine ⟨?_, ?_⟩
  · have there : withSums.session.operations.find? ⟨0⟩ = some ⟨⟨0⟩, ⟨⟨"arith"⟩, "constant"⟩, [],
        [.integer 32], AttributeDict.empty.set ⟨"value", rfl⟩ (.integer 1 (.integer 32)),
        .unknown⟩ := rfl
    obtain ⟨_, known, _⟩ := verification_decided (.ofLoader 0 Loader.empty)
      ⟨some ["arith"], false⟩ sums Plan.conduct 0 .empty there
    obtain ⟨passes, _⟩ := (known _ loaded).2 Standard.constant rfl
    refine passes.mpr ⟨⟨rfl, rfl, fun name member => ?_⟩, fun verifier own => ?_⟩
    · rw [List.mem_singleton.mp member]
      rfl
    · cases own
      exact ⟨_, rfl⟩
  · have there : withSums.session.operations.find? ⟨1⟩ = some ⟨⟨1⟩, ⟨⟨"arith"⟩, "addi"⟩,
        [⟨⟨0⟩, 0⟩, ⟨⟨0⟩, 0⟩], [], .empty, .named "sum" .unknown⟩ := rfl
    obtain ⟨_, known, _, silent, _⟩ := verification_decided (.ofLoader 0 Loader.empty)
      ⟨some ["arith"], false⟩ sums Plan.conduct 1 .empty there
    obtain ⟨_, _, fails, _⟩ := (known _ loaded).2 (Standard.binary .sameIntegers "addi") rfl
    obtain ⟨verdict, after, ran⟩ := silent Nat.one_pos rfl fun custom => nomatch custom
    obtain ⟨diagnostics, rfl⟩ := (fails _ (.results rfl rfl)).ends verdict after ran
    exact ⟨diagnostics, after, ran⟩

end Workspace

end Polyglot
