/-
This file proves what the growth of an environment leaves alone. Whatever is done to an
environment, it stays the same environment, the modules that were loaded stay, and so do the
dialects that are available. So the class of a namespace stays once it is there, and whoever asks
for it gets that class.
-/

import Polyglot.Proofs.Environment.Supply

namespace Polyglot

namespace Environment

variable {Custom : Type}

/-- The class of the module that was loaded for a namespace. -/
def class? (environment : Environment Custom) (name : DialectName) : Option LoadedClass :=
  ((environment.searchPath.module? name).bind LoadedModule.dialectClass).map
    fun dialectClass => ⟨environment.stamp, dialectClass⟩

/-- The environment stays the same one, and so do the modules that were loaded. Dialects become
available behind those that are, and what is in order stays in order. -/
structure Grows (before after : Environment Custom) : Prop where
  stamp : after.stamp = before.stamp
  modules : ∀ name loaded, before.searchPath.module? name = some loaded →
    after.searchPath.module? name = some loaded
  available : before.available <+: after.available
  supplied : before.Supplied → after.Supplied

namespace Grows

theorem refl (environment : Environment Custom) : environment.Grows environment :=
  ⟨rfl, fun _ _ present => present, List.prefix_refl _, id⟩

variable {before between after : Environment Custom}

theorem trans (first : before.Grows between) (second : between.Grows after) :
    before.Grows after :=
  ⟨second.stamp.trans first.stamp,
    fun name loaded present => second.modules name loaded (first.modules name loaded present),
    first.available.trans second.available,
    fun supplied => second.supplied (first.supplied supplied)⟩

/-- A class that is there stays. -/
theorem class? (grows : before.Grows after) {name : DialectName} {loadedClass : LoadedClass}
    (present : before.class? name = some loadedClass) : after.class? name = some loadedClass := by
  rw [Environment.class?, Option.map_eq_some_iff] at present ⊢
  obtain ⟨dialectClass, found, same⟩ := present
  obtain ⟨loaded, loadedBefore, brought⟩ := Option.bind_eq_some_iff.mp found
  refine ⟨dialectClass, ?_, grows.stamp ▸ same⟩
  rw [grows.modules name loaded loadedBefore]
  exact brought

end Grows

/-! ### Loading modules -/

theorem searchPath_register (environment : Environment Custom) (dialect : Dialect Custom) :
    (environment.register dialect).state.searchPath = environment.searchPath := by
  unfold register
  split <;> rfl

theorem stamp_register (environment : Environment Custom) (dialect : Dialect Custom) :
    (environment.register dialect).state.stamp = environment.stamp := by
  unfold register
  split <;> rfl

/-- Loading a module is resolving its namespace; that a dialect may become available does not
show here. -/
theorem loadModule_resolves (environment : Environment Custom) (name : DialectName) :
    (environment.loadModule name).answer = (environment.searchPath.resolve name).answer ∧
      (environment.loadModule name).state.searchPath =
        (environment.searchPath.resolve name).state ∧
      (environment.loadModule name).state.stamp = environment.stamp := by
  unfold loadModule
  by_cases isLoaded : environment.searchPath.isLoaded name = true
  · rw [if_pos isLoaded, environment.searchPath.resolve_of_isLoaded name isLoaded]
    exact ⟨rfl, rfl, rfl⟩
  · rw [if_neg isLoaded]
    dsimp only [Attempt.andThen, Attempt.lift]
    cases (environment.searchPath.resolve name).answer with
    | error error => exact ⟨rfl, rfl, rfl⟩
    | ok found =>
      cases found with
      | false => exact ⟨rfl, rfl, rfl⟩
      | true =>
        dsimp only [Attempt.after]
        rw [if_pos rfl, adopt]
        split
        · exact ⟨rfl, searchPath_register _ _, stamp_register _ _⟩
        · exact ⟨rfl, rfl, rfl⟩

theorem isLoaded_loadModule (environment : Environment Custom) (name : DialectName) (found : Bool)
    (answered : (environment.loadModule name).answer = .ok found) :
    (environment.loadModule name).state.searchPath.isLoaded name = found := by
  obtain ⟨sameAnswer, sameState, _⟩ := environment.loadModule_resolves name
  rw [sameState]
  exact (environment.searchPath.resolves name).isLoaded found (sameAnswer ▸ answered)

theorem loadModule_of_isLoaded (environment : Environment Custom) (name : DialectName)
    (isLoaded : environment.searchPath.isLoaded name = true) :
    environment.loadModule name = .idle environment (.ok true) := by
  rw [loadModule, if_pos isLoaded]

theorem grows_loadModule (environment : Environment Custom) (name : DialectName) :
    environment.Grows (environment.loadModule name).state := by
  obtain ⟨_, sameState, sameStamp⟩ := environment.loadModule_resolves name
  obtain ⟨available, supplied⟩ := environment.supplies_loadModule name
  refine ⟨sameStamp, fun probe loaded present => ?_, available, supplied⟩
  rw [sameState]
  exact (environment.searchPath.resolves name).grows.modules probe loaded present

theorem grows_perform (environment : Environment Custom) (deed : Deed Custom) :
    environment.Grows (environment.perform deed) := by
  obtain ⟨available, supplied⟩ := environment.supplies_perform deed
  cases deed with
  | register dialect =>
    refine ⟨environment.stamp_register dialect, fun name loaded present => ?_, available, supplied⟩
    rw [perform, searchPath_register]
    exact present
  | appendRoot root =>
    exact ⟨rfl, (environment.searchPath.grows_append root).modules, available, supplied⟩
  | appendStartName name =>
    have same : (environment.appendStartName name).stamp = environment.stamp ∧
        (environment.appendStartName name).searchPath = environment.searchPath := by
      unfold appendStartName
      split <;> exact ⟨rfl, rfl⟩
    refine ⟨same.1, fun probe loaded present => ?_, available, supplied⟩
    rw [perform, same.2]
    exact present
  | setLoadsAll choice => exact ⟨rfl, fun _ _ present => present, available, supplied⟩
  | loadModule name => exact environment.grows_loadModule name

/-! ### Classes -/

/-- The answer is the class that is there now. -/
theorem class?_classOf (environment : Environment Custom) (name : DialectName)
    (found : Option LoadedClass) (answered : (environment.classOf name).answer = .ok found) :
    (environment.classOf name).state.class? name = found := by
  rw [state_classOf]
  cases loads : (environment.loadModule name).answer with
  | error error =>
    rw [classOf, Attempt.andThen_of_error _ _ error loads] at answered
    cases answered
  | ok isThere =>
    rw [classOf, Attempt.andThen_of_ok _ _ isThere loads] at answered
    have isLoaded := environment.isLoaded_loadModule name isThere loads
    rw [← Except.ok.inj answered]
    cases isThere with
    | true => rfl
    | false =>
      rw [class?, ((SearchPath.isLoaded_eq_false_iff _ name).mp isLoaded)]
      rfl

/-- A class that is there is the answer, and nothing happens. -/
theorem classOf_of_class? (environment : Environment Custom) (name : DialectName)
    (loadedClass : LoadedClass) (present : environment.class? name = some loadedClass) :
    environment.classOf name = .idle environment (.ok (some loadedClass)) := by
  have isLoaded : environment.searchPath.isLoaded name = true := by
    rw [← Bool.not_eq_false, SearchPath.isLoaded_eq_false_iff]
    intro absent
    rw [class?, absent] at present
    cases present
  rw [classOf, environment.loadModule_of_isLoaded name isLoaded,
    Attempt.andThen_of_ok _ _ true rfl, ← present]
  rfl

end Environment

end Polyglot
