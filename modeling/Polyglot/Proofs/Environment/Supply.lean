/-
This file proves what is available in an environment, whatever is done to it. No two available
dialects have one name, the standard dialects come first, and every module that was loaded has
seen to it that the name of its dialect is available.

A dialect that is offered under a name that is taken is not made available, whoever offers it. So
a name stands for one dialect from the moment it is available.
-/

import Polyglot.Proofs.Module.Resolution
import Polyglot.Proofs.Workspace.Life

namespace Polyglot

variable {Custom : Type}

/-! ### Dialects with names of their own -/

/-- A dialect of a new name can be put behind the others. -/
theorem Dialect.nodup_names_append {dialects : List (Dialect Custom)}
    (distinct : (dialects.map Dialect.name).Nodup) {dialect : Dialect Custom}
    (fresh : dialects.find? (fun other => other.name = dialect.name) = none) :
    ((dialects ++ [dialect]).map Dialect.name).Nodup := by
  rw [List.map_append, List.map_singleton]
  refine List.Nodup.append distinct (List.nodup_singleton _) ?_
  rw [List.disjoint_singleton]
  intro member
  obtain ⟨other, inside, same⟩ := List.mem_map.mp member
  exact absurd same (by simpa using List.find?_eq_none.mp fresh other inside)

namespace Environment

/-! ### What is available -/

/-- What is available, and what the modules that were loaded have brought, is in order. -/
structure Supplied (environment : Environment Custom) : Prop where
  distinct : environment.availableNames.Nodup
  standard : Standard.dialects <+: environment.available
  adopted : ∀ entry ∈ environment.searchPath.loaded, ∀ dialect, entry.2.dialect = some dialect →
    dialect.name ∈ environment.availableNames

theorem mem_availableNames_iff (environment : Environment Custom) (name : DialectName) :
    name ∈ environment.availableNames ↔ (environment.dialect? name).isSome = true := by
  rw [availableNames, List.mem_map, dialect?, List.find?_isSome]
  simp

theorem mem_of_dialect? {environment : Environment Custom} {name : DialectName}
    {dialect : Dialect Custom} (found : environment.dialect? name = some dialect) :
    dialect ∈ environment.available ∧ dialect.name = name :=
  ⟨List.mem_of_find?_eq_some found, by simpa using List.find?_some found⟩

/-- A name that is available stands for the same dialect later. -/
theorem dialect?_of_grown {before after : Environment Custom}
    (grown : before.available <+: after.available) {name : DialectName} {dialect : Dialect Custom}
    (found : before.dialect? name = some dialect) : after.dialect? name = some dialect :=
  grown.find?_eq_some found

theorem Supplied.dialect?_name {environment : Environment Custom} (supplied : environment.Supplied)
    {dialect : Dialect Custom} (member : dialect ∈ environment.available) :
    environment.dialect? dialect.name = some dialect :=
  find?_of_distinct Dialect.name supplied.distinct member

theorem supplied_ofLoader (stamp : Nat) (loader : Loader Custom) :
    (ofLoader stamp loader).Supplied where
  distinct := by
    show ((Standard.dialects : List (Dialect Custom)).map Dialect.name).Nodup
    rw [Standard.names_dialects]
    decide
  standard := List.prefix_refl _
  adopted entry member := absurd member List.not_mem_nil

/-! ### Dialects become available -/

/-- Registering a dialect leaves everything as it is if its name is taken, and else puts the
dialect behind those that are available. -/
theorem register_cases (environment : Environment Custom) (dialect : Dialect Custom) :
    (environment.register dialect).state = environment ∧
        (environment.dialect? dialect.name).isSome = true ∨
      (environment.register dialect).state =
          { environment with available := environment.available ++ [dialect] } ∧
        environment.dialect? dialect.name = none := by
  unfold register
  by_cases taken : (environment.dialect? dialect.name).isSome = true
  · rw [if_pos taken]
    exact .inl ⟨rfl, taken⟩
  · rw [if_neg taken]
    exact .inr ⟨rfl, Option.not_isSome_iff_eq_none.mp taken⟩

/-- Registering a dialect makes its name available and no other. -/
theorem mem_availableNames_register_iff (environment : Environment Custom)
    (dialect : Dialect Custom) (name : DialectName) :
    name ∈ (environment.register dialect).state.availableNames ↔
      name ∈ environment.availableNames ∨ dialect.name = name := by
  rcases environment.register_cases dialect with ⟨same, taken⟩ | ⟨grown, _⟩
  · rw [same, iff_self_or]
    rintro rfl
    exact (environment.mem_availableNames_iff dialect.name).mpr taken
  · rw [grown, availableNames, List.map_append, List.mem_append, List.map_singleton,
      List.mem_singleton]
    exact or_congr_right eq_comm

/-- The available names are in order except for what one module has brought. -/
theorem supplied_register {environment : Environment Custom} (dialect : Dialect Custom)
    (distinct : environment.availableNames.Nodup)
    (standard : Standard.dialects <+: environment.available)
    (adopted : ∀ entry ∈ environment.searchPath.loaded, ∀ brought, entry.2.dialect = some brought →
      brought.name ∈ environment.availableNames ∨ brought = dialect) :
    (environment.register dialect).state.Supplied := by
  have taken := (environment.mem_availableNames_register_iff dialect _).mpr (.inr rfl)
  rcases environment.register_cases dialect with ⟨same, _⟩ | ⟨grown, fresh⟩
  · rw [same] at taken ⊢
    exact ⟨distinct, standard, fun entry member brought brings =>
      (adopted entry member brought brings).elim id fun equal => equal ▸ taken⟩
  · rw [grown] at taken ⊢
    refine ⟨Dialect.nodup_names_append distinct fresh,
      standard.trans (List.prefix_append _ _), fun entry member brought brings => ?_⟩
    rcases adopted entry member brought brings with old | equal
    · rw [availableNames, List.map_append]
      exact List.mem_append_left _ old
    · exact equal ▸ taken

theorem Supplied.register {environment : Environment Custom} (supplied : environment.Supplied)
    (dialect : Dialect Custom) : (environment.register dialect).state.Supplied :=
  supplied_register dialect supplied.distinct supplied.standard fun entry member brought brings =>
    .inl (supplied.adopted entry member brought brings)

theorem available_adopt (environment : Environment Custom)
    (loaded : Option (LoadedModule Custom)) :
    environment.available <+: (environment.adopt loaded).state.available := by
  unfold adopt
  split
  · exact environment.available_register _
  · exact List.prefix_refl _

/-- A module that was just loaded is the only one whose dialect may be missing, and then the
dialect is made available. -/
theorem Supplied.adopt_keep {environment : Environment Custom} (supplied : environment.Supplied)
    (name : DialectName) (loaded : LoadedModule Custom) :
    (adopt { environment with searchPath := environment.searchPath.keep name loaded }
      (some loaded)).state.Supplied := by
  have adopted (entry : DialectName × LoadedModule Custom)
      (member : entry ∈ (environment.searchPath.keep name loaded).loaded) :
      entry ∈ environment.searchPath.loaded ∨ entry = (name, loaded) :=
    (List.mem_append.mp member).imp_right List.mem_singleton.mp
  unfold adopt
  dsimp only [Option.bind_some]
  cases brings : loaded.dialect with
  | none =>
    refine ⟨supplied.distinct, supplied.standard, fun entry member brought found => ?_⟩
    rcases adopted entry member with old | rfl
    · exact supplied.adopted entry old brought found
    · cases brings.symm.trans found
  | some dialect =>
    refine supplied_register dialect supplied.distinct supplied.standard
      fun entry member brought found => ?_
    rcases adopted entry member with old | rfl
    · exact .inl (supplied.adopted entry old brought found)
    · exact .inr (Option.some.inj (found.symm.trans brings))

theorem answer_adopt (environment : Environment Custom) (loaded : Option (LoadedModule Custom)) :
    (environment.adopt loaded).answer = .ok true := by
  unfold adopt
  split <;> rfl

/-- What asking for a module answers, and what it leaves behind: nothing changes unless a module is
found, which then is kept, and its dialect becomes available. -/
inductive Loads (environment : Environment Custom) (name : DialectName) :
    Except Error Bool → Environment Custom → Prop where
  | kept (answer : Except Error Bool)
      (unfound : environment.searchPath.isLoaded name = false → name.isValid = true →
        ∀ path dialectModule, SearchPath.search environment.searchPath.loader name
          environment.searchPath.roots ≠ .found path dialectModule) :
      Loads environment name answer environment
  | found (unloaded : environment.searchPath.isLoaded name = false) (valid : name.isValid = true)
      (path : String) (dialectModule : DialectModule Custom)
      (searched : SearchPath.search environment.searchPath.loader name
        environment.searchPath.roots = .found path dialectModule) :
      Loads environment name (.ok true)
        (adopt { environment with
            searchPath := environment.searchPath.keep name (dialectModule.load path) }
          (some (dialectModule.load path))).state

theorem loads (environment : Environment Custom) (name : DialectName) :
    environment.Loads name (environment.loadModule name).answer
      (environment.loadModule name).state := by
  have resolves := environment.searchPath.resolves name
  unfold loadModule
  by_cases isLoaded : environment.searchPath.isLoaded name = true
  · rw [if_pos isLoaded]
    exact .kept _ fun unloaded => absurd isLoaded (Bool.not_eq_true _ ▸ unloaded)
  · rw [if_neg isLoaded]
    generalize environment.searchPath.resolve name = attempt at resolves
    obtain ⟨answer, state, log⟩ := attempt
    cases resolves with
    | loaded present => exact absurd present isLoaded
    | invalid _ invalid =>
      exact .kept _ fun _ valid => absurd valid (Bool.not_eq_true _ ▸ invalid)
    | exhausted _ _ searched | failed _ _ _ searched =>
      exact .kept _ fun _ _ path dialectModule found => nomatch searched.symm.trans found
    | found unloaded valid path dialectModule searched =>
      let kept := environment.searchPath.keep name (dialectModule.load path)
      have present : kept.module? name = some (dialectModule.load path) :=
        environment.searchPath.module?_keep_self name _ unloaded
      show environment.Loads name
        (adopt { environment with searchPath := kept } (kept.module? name)).answer
        (adopt { environment with searchPath := kept } (kept.module? name)).state
      rw [present, answer_adopt]
      exact .found unloaded valid path dialectModule searched

/-- Loading a module keeps what is available in order, and only puts dialects behind the others. -/
theorem supplies_loadModule (environment : Environment Custom) (name : DialectName) :
    environment.available <+: (environment.loadModule name).state.available ∧
      (environment.Supplied → (environment.loadModule name).state.Supplied) := by
  have loads := environment.loads name
  generalize environment.loadModule name = attempt at loads ⊢
  obtain ⟨answer, after, log⟩ := attempt
  cases loads with
  | kept => exact ⟨List.prefix_refl _, id⟩
  | found _ _ path dialectModule =>
    exact ⟨available_adopt { environment with
        searchPath := environment.searchPath.keep name (dialectModule.load path) } _,
      fun supplied => supplied.adopt_keep name _⟩

theorem supplies_perform (environment : Environment Custom) (deed : Deed Custom) :
    environment.available <+: (environment.perform deed).available ∧
      (environment.Supplied → (environment.perform deed).Supplied) := by
  cases deed with
  | register dialect =>
    exact ⟨environment.available_register dialect, fun supplied => supplied.register dialect⟩
  | appendRoot root =>
    refine ⟨List.prefix_refl _, fun supplied => ⟨supplied.distinct, supplied.standard, ?_⟩⟩
    have same : (environment.searchPath.append root).state.loaded =
        environment.searchPath.loaded := by
      rw [(environment.searchPath.append_eq root).2]
    show ∀ entry ∈ (environment.searchPath.append root).state.loaded, _
    rw [same]
    exact supplied.adopted
  | appendStartName name =>
    dsimp only [perform, appendStartName]
    split
    · exact ⟨List.prefix_refl _, id⟩
    · exact ⟨List.prefix_refl _, fun supplied =>
        ⟨supplied.distinct, supplied.standard, supplied.adopted⟩⟩
  | setLoadsAll choice =>
    exact ⟨List.prefix_refl _, fun supplied =>
      ⟨supplied.distinct, supplied.standard, supplied.adopted⟩⟩
  | loadModule name => exact environment.supplies_loadModule name

theorem Reached.supplied {environment : Environment Custom} (reached : environment.Reached) :
    environment.Supplied := by
  induction reached with
  | fresh stamp loader => exact supplied_ofLoader stamp loader
  | performed environment deed _ inductionHypothesis =>
    exact (environment.supplies_perform deed).2 inductionHypothesis

end Environment

end Polyglot
