/-
This file proves where the error for a refused draft is located. Four of the five conditions on a
draft are checked by the session, and whatever fails there is reported at the place that the draft
names. The remaining one is decided by a loader, and what a loader reports is passed on as it is.
So the place of the draft is lost exactly if the module of its dialect cannot be loaded and the
loader names another place, as module tables do, which name none.
-/

import Polyglot.Proofs.Workspace.Admission
import Polyglot.Proofs.Workspace.Handles

namespace Polyglot

variable {Custom : Type}

/-! ### Loaders that name no place -/

/-- Where the loader fails, its error names no place. -/
def Loader.Placeless (loader : Loader Custom) : Prop :=
  ∀ path error, loader path = .failed error → error.location = .unknown

theorem Loader.placeless_linked (modules : List (DialectModule Custom)) :
    Placeless (linked modules) := by
  intro path error failed
  unfold linked at failed
  split at failed <;> cases failed

/-- The errors of a table name no place if those of the loader name none that it falls back on. -/
theorem ModuleTable.placeless_load (table : ModuleTable Custom)
    (placeless : Loader.Placeless table.fallback) : Loader.Placeless table.load := by
  intro path error failed
  unfold load at failed
  split at failed
  · cases failed
    rfl
  · split at failed
    · cases failed
    · exact placeless path error failed

theorem Environment.Breaks.location {environment : Environment Custom} {name : DialectName}
    {error : Error} (breaks : environment.Breaks name error)
    (placeless : Loader.Placeless environment.searchPath.loader) : error.location = .unknown := by
  obtain ⟨_, _, _, root, _, _, _, there⟩ := breaks
  exact placeless _ error there

namespace Workspace

variable {workspace : Workspace Custom} {draft : Draft} {error : Error}

/-! ### Drafts whose module is broken -/

/-- The name of the draft is well formed, and the search for the module of its dialect comes upon
a failure. -/
def BreaksOn (workspace : Workspace Custom) (draft : Draft) (error : Error) : Prop :=
  ∃ id, OpId.ofString? draft.name = some id ∧ workspace.environment.Breaks id.dialect error

/-- The dialect in an operation name is well formed, so all that can keep its module from being
loaded is what the search comes upon. -/
theorem loadModule_eq_error_iff_of_named {id : OpId} (named : OpId.ofString? draft.name = some id)
    (error : Error) : (workspace.environment.loadModule id.dialect).answer = .error error ↔
      workspace.environment.Breaks id.dialect error :=
  workspace.environment.answer_loadModule_eq_error_iff
    (OpId.ofString?_eq_some_iff.mp named).2.1 error

theorem create_of_breaksOn (breaksOn : workspace.BreaksOn draft error) :
    (workspace.create draft).answer = .error error := by
  obtain ⟨id, named, breaks⟩ := breaksOn
  have failed : (workspace.loadModule id.dialect).answer = .error error :=
    (loadModule_eq_error_iff_of_named named error).mpr breaks
  rw [create, OpId.parse, named]
  dsimp only
  rw [Attempt.andThen_of_error _ _ error failed]

/-- What the session itself objects to is reported at the place of the draft. -/
theorem Refuses.located (refuses : workspace.Refuses draft error) :
    error.location = draft.location ∨ workspace.BreaksOn draft error := by
  cases refuses with
  | unresolved id named _ failed =>
    exact .inr ⟨id, named, (loadModule_eq_error_iff_of_named named error).mp failed⟩
  | malformedName | unregistered | danglingOperand | malformedAttribute => exact .inl rfl

theorem refuses_of_create (refused : (workspace.create draft).answer = .error error) :
    workspace.Refuses draft error := by
  have creates := workspace.creates draft
  rw [refused] at creates
  generalize (workspace.create draft).state.session = after at creates
  cases creates with
  | refused _ refuses => exact refuses

/-! ### The place of a refusal -/

/-- What a loader reports is passed on as it is. All other errors name the place of the draft, so
an error names that place exactly if no loader has reported one that does not. If the errors of the
loader name no place, this is so if the draft names none either, or no module is broken. -/
theorem refusal_located_iff (workspace : Workspace Custom) (draft : Draft) :
    (∀ failure, workspace.BreaksOn draft failure →
      (workspace.create draft).answer = .error failure) ∧
    ∀ error, (workspace.create draft).answer = .error error →
      (error.location = draft.location ↔
        ∀ failure, workspace.BreaksOn draft failure → failure.location = draft.location) ∧
      (Loader.Placeless workspace.environment.searchPath.loader →
        (error.location = draft.location ↔
          draft.location = .unknown ∨ ∀ failure, ¬ workspace.BreaksOn draft failure)) := by
  refine ⟨fun failure => create_of_breaksOn, fun error refused => ?_⟩
  have only {failure : Error} (breaksOn : workspace.BreaksOn draft failure) : failure = error :=
    Except.error.inj ((create_of_breaksOn breaksOn).symm.trans refused)
  rcases (refuses_of_create refused).located with located | breaksOn
  · refine ⟨iff_of_true located fun failure breaksOn => only breaksOn ▸ located,
      fun placeless => iff_of_true located ?_⟩
    by_cases broken : ∃ failure, workspace.BreaksOn draft failure
    · obtain ⟨failure, id, named, breaks⟩ := broken
      rw [← located, ← only ⟨id, named, breaks⟩]
      exact .inl (breaks.location placeless)
    · exact .inr (not_exists.mp broken)
  · refine ⟨⟨fun located failure other => only other ▸ located, fun all => all error breaksOn⟩,
      fun placeless => ?_⟩
    obtain ⟨id, named, breaks⟩ := breaksOn
    rw [breaks.location placeless, eq_comm]
    exact (or_iff_left fun unbroken => unbroken error ⟨id, named, breaks⟩).symm

/-- A session in an environment in which one module is broken. -/
def fragile : Workspace Empty :=
  ⟨.ofLoader 0 ((ModuleTable.ofFallback (.linked [])).insertBroken "dialects.bad" "boom").load,
    .empty⟩

/-- A draft of an operation at a place that is known. -/
def placed (name : String) : Draft := ⟨name, [], [], [], .file "f" 1 2⟩

/-- The same place is named for an operation that no dialect knows, and it is lost for one whose
module is broken. -/
theorem refusal_located_iff_fragile :
    (∃ error, (fragile.create (placed "good.op")).answer = .error error ∧
      error.location = .file "f" 1 2) ∧
    ∃ error, (fragile.create (placed "bad.op")).answer = .error error ∧
      error.location ≠ .file "f" 1 2 := by
  have placeless : Loader.Placeless fragile.environment.searchPath.loader :=
    ModuleTable.placeless_load _ (Loader.placeless_linked [])
  have breaksOn : fragile.BreaksOn (placed "bad.op") (.brokenModule "dialects.bad" "boom") :=
    ⟨⟨⟨"bad"⟩, "op"⟩, rfl, rfl, SearchPath.meets_failed_iff.mpr rfl⟩
  have unbroken (failure : Error) : ¬ fragile.BreaksOn (placed "good.op") failure := by
    rintro ⟨id, named, _, meets⟩
    cases (show some ⟨⟨"good"⟩, "op"⟩ = some id from named)
    cases SearchPath.meets_failed_iff.mp meets
  obtain ⟨_, located⟩ := refusal_located_iff fragile (placed "good.op")
  obtain ⟨broken, displaced⟩ := refusal_located_iff fragile (placed "bad.op")
  have refused : (fragile.create (placed "good.op")).answer = .error
      (.of .unregisteredDialect (.file "f" 1 2) (.unregisteredDialect ⟨⟨"good"⟩, "op"⟩)) := rfl
  have failed := broken _ breaksOn
  refine ⟨⟨_, refused, ((located _ refused).2 placeless).mpr (.inr unbroken)⟩, _, failed, ?_⟩
  intro same
  rcases ((displaced _ failed).2 placeless).mp same with unknown | none
  · cases unknown
  · exact none _ breaksOn

/-- A session that was started in this environment refuses a draft with an error that does not
name the place of the draft. -/
theorem place_lost : Life [fragile] ∧
    (fragile.create (placed "bad.op")).answer =
      .error (.brokenModule "dialects.bad" "boom") ∧
    (Error.brokenModule "dialects.bad" "boom").location ≠ (placed "bad.op").location :=
  ⟨.started fragile.environment ⟨some [], false⟩ (.fresh _ _) rfl, rfl, by decide⟩

end Workspace

end Polyglot
