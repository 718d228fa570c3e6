/-
This file proves for which names there are handles. A name is looked for among the loaded dialects,
among the available ones, and last under the roots of the search path, where the first root that
has anything for the name decides. The module that is found there may bring no dialect, or one of
another name; after it was loaded there is a handle exactly if the name has become available.

A module that was loaded before decides nothing, as it is not loaded again, and what it brought was
made available then. So nothing is asked of the workspace here: what is found is told from what is
loaded, what is available, and what the loader has.
-/

import Polyglot.Proofs.Workspace.Misses

namespace Polyglot

variable {Custom : Type}

/-! ### What a search comes upon -/

/-- Where the loader fails, its error says that there is a module that cannot be loaded. -/
def Loader.Classifies (loader : Loader Custom) : Prop :=
  ∀ path error, loader path = .failed error → error.kind = .moduleLoadFailed

theorem Loader.classifies_linked (modules : List (DialectModule Custom)) :
    Classifies (linked modules) := by
  intro path error failed
  unfold linked at failed
  split at failed <;> cases failed

/-- The errors of a table are classified if those of the loader are that it falls back on. -/
theorem ModuleTable.classifies_load (table : ModuleTable Custom)
    (classifies : Loader.Classifies table.fallback) : Loader.Classifies table.load := by
  intro path error failed
  unfold load at failed
  split at failed
  · cases failed
    rfl
  · split at failed
    · cases failed
    · exact classifies path error failed

/-- What the loader has where a search ends. -/
def SearchEnd.finding : SearchEnd Custom → Finding Custom
  | exhausted => .missing
  | failed error => .failed error
  | found _ dialectModule => .found dialectModule

namespace SearchPath

/-- Under the first root under which the loader does not miss the module of the name, this is what
it has. -/
def Meets (searchPath : SearchPath Custom) (name : DialectName) (finding : Finding Custom) :
    Prop :=
  finding ≠ .missing ∧ ∃ front root back, searchPath.roots = front ++ root :: back ∧
    (∀ earlier ∈ front, searchPath.loader (modulePath earlier name) = .missing) ∧
    searchPath.loader (modulePath root name) = finding

theorem finding_search_cons (loader : Loader Custom) (name : DialectName) (root : String)
    (others : List String) (present : loader (modulePath root name) ≠ .missing) :
    (search loader name (root :: others)).finding = loader (modulePath root name) := by
  rw [search]
  cases there : loader (modulePath root name) with
  | missing => exact absurd there present
  | failed | found => rfl

/-- A search that does not exhaust the roots ends at the first that is not missing. -/
theorem exists_split_of_search (loader : Loader Custom) (name : DialectName) (roots : List String)
    (present : (search loader name roots).finding ≠ .missing) :
    ∃ front root back, roots = front ++ root :: back ∧
      (∀ earlier ∈ front, loader (modulePath earlier name) = .missing) ∧
      loader (modulePath root name) ≠ .missing := by
  induction roots with
  | nil => exact absurd rfl present
  | cons root others inductionHypothesis =>
    cases there : loader (modulePath root name) with
    | missing =>
      rw [search, there] at present
      obtain ⟨front, next, back, rfl, missing, presentNext⟩ := inductionHypothesis present
      exact ⟨root :: front, next, back, rfl, List.forall_mem_cons.mpr ⟨there, missing⟩,
        presentNext⟩
    | failed | found =>
      refine ⟨[], root, others, rfl, fun _ member => absurd member List.not_mem_nil, fun same => ?_⟩
      rw [there] at same
      cases same

theorem meets_iff (searchPath : SearchPath Custom) (name : DialectName)
    (finding : Finding Custom) : searchPath.Meets name finding ↔
      finding ≠ .missing ∧
        (search searchPath.loader name searchPath.roots).finding = finding := by
  refine and_congr_right fun present => ⟨?_, fun ends => ?_⟩
  · rintro ⟨front, root, back, split, missing, rfl⟩
    rw [split, search_append_of_missing _ _ _ _ missing, finding_search_cons _ _ _ _ present]
  · rw [← ends] at present ⊢
    obtain ⟨front, root, back, split, missing, there⟩ :=
      exists_split_of_search searchPath.loader name searchPath.roots present
    refine ⟨front, root, back, split, missing, ?_⟩
    rw [split, search_append_of_missing _ _ _ _ missing, finding_search_cons _ _ _ _ there]

variable {searchPath : SearchPath Custom} {name : DialectName}

theorem meets_failed_iff {error : Error} : searchPath.Meets name (.failed error) ↔
    search searchPath.loader name searchPath.roots = .failed error := by
  rw [meets_iff]
  cases search searchPath.loader name searchPath.roots <;> simp [SearchEnd.finding]

theorem meets_found_iff {dialectModule : DialectModule Custom} :
    searchPath.Meets name (.found dialectModule) ↔
      ∃ path, search searchPath.loader name searchPath.roots = .found path dialectModule := by
  rw [meets_iff]
  cases search searchPath.loader name searchPath.roots <;> simp [SearchEnd.finding]

end SearchPath

/-! ### What becomes available -/

namespace Environment

/-- The module of the name is not loaded yet, and the search comes upon one that brings a dialect
of this name. -/
def Brings (environment : Environment Custom) (name : DialectName) : Prop :=
  environment.searchPath.isLoaded name = false ∧ ∃ dialectModule dialect,
    environment.searchPath.Meets name (.found dialectModule) ∧
      dialectModule.dialect = some dialect ∧ dialect.name = name

/-- The module of the name is not loaded yet, and the search comes upon a failure. -/
def Breaks (environment : Environment Custom) (name : DialectName) (error : Error) : Prop :=
  environment.searchPath.isLoaded name = false ∧
    environment.searchPath.Meets name (.failed error)

theorem mem_availableNames_adopt_iff (environment : Environment Custom)
    (loaded : LoadedModule Custom) (name : DialectName) :
    name ∈ (environment.adopt (some loaded)).state.availableNames ↔
      name ∈ environment.availableNames ∨
        ∃ dialect, loaded.dialect = some dialect ∧ dialect.name = name := by
  unfold adopt
  dsimp only [Option.bind_some]
  cases loaded.dialect with
  | none => simp [Attempt.idle]
  | some dialect =>
    dsimp only
    rw [mem_availableNames_register_iff]
    simp

/-- Asking for its module makes a name available exactly if the module brings it. -/
theorem mem_availableNames_loadModule_iff (environment : Environment Custom) {name : DialectName}
    (valid : name.isValid = true) :
    name ∈ (environment.loadModule name).state.availableNames ↔
      name ∈ environment.availableNames ∨ environment.Brings name := by
  have loads := environment.loads name
  generalize environment.loadModule name = attempt at loads ⊢
  obtain ⟨answer, after, log⟩ := attempt
  cases loads with
  | kept _ unfound =>
    refine iff_self_or.mpr fun ⟨unloaded, dialectModule, _, meets, _⟩ => ?_
    obtain ⟨path, searched⟩ := SearchPath.meets_found_iff.mp meets
    exact absurd searched (unfound unloaded valid path dialectModule)
  | found unloaded _ path dialectModule searched =>
    dsimp only
    rw [mem_availableNames_adopt_iff]
    refine or_congr_right ⟨?_, ?_⟩
    · rintro ⟨dialect, brings, own⟩
      exact ⟨unloaded, dialectModule, dialect,
        SearchPath.meets_found_iff.mpr ⟨path, searched⟩, brings, own⟩
    · rintro ⟨_, other, dialect, meets, brings⟩
      obtain ⟨otherPath, otherSearched⟩ := SearchPath.meets_found_iff.mp meets
      cases searched.symm.trans otherSearched
      exact ⟨dialect, brings⟩

theorem answer_loadModule_eq_error_iff (environment : Environment Custom) {name : DialectName}
    (valid : name.isValid = true) (error : Error) :
    (environment.loadModule name).answer = .error error ↔ environment.Breaks name error := by
  rw [loadModule_eq_error_iff, Breaks, SearchPath.meets_failed_iff]
  simp [valid]

theorem Breaks.kind {environment : Environment Custom} {name : DialectName} {error : Error}
    (breaks : environment.Breaks name error)
    (classifies : Loader.Classifies environment.searchPath.loader) :
    error.kind = .moduleLoadFailed := by
  obtain ⟨_, _, _, root, _, _, _, there⟩ := breaks
  exact classifies _ error there

theorem Breaks.not_brings {environment : Environment Custom} {name : DialectName} {error : Error}
    (breaks : environment.Breaks name error) : ¬ environment.Brings name := by
  rintro ⟨_, dialectModule, _, meets, _⟩
  obtain ⟨path, searched⟩ := SearchPath.meets_found_iff.mp meets
  cases searched.symm.trans (SearchPath.meets_failed_iff.mp breaks.2)

end Environment

namespace Workspace

variable (workspace : Workspace Custom) {name : DialectName}

/-! ### What a handle is given out for -/

/-- The name is loaded or available. -/
def Has (name : DialectName) : Prop :=
  name ∈ workspace.session.loadedNames ∨ name ∈ workspace.environment.availableNames

theorem knows_eq_true_iff (valid : name.isValid = true) :
    workspace.knows name = true ↔ workspace.Has name := by
  rw [knows, valid, Bool.true_and, Bool.or_eq_true, Has, Session.mem_loadedNames_iff,
    Environment.mem_availableNames_iff]

theorem knows_loadModule_iff (valid : name.isValid = true) :
    (workspace.loadModule name).state.knows name = true ↔
      workspace.Has name ∨ workspace.environment.Brings name := by
  rw [knows_eq_true_iff _ valid, Has, Has, or_assoc]
  exact or_congr_right (workspace.environment.mem_availableNames_loadModule_iff valid)

theorem exists_descriptor_iff (valid : name.isValid = true) :
    (∃ descriptor, (workspace.descriptor name).answer = .ok descriptor) ↔
      workspace.Has name ∨ workspace.environment.Brings name := by
  rw [← workspace.knows_loadModule_iff valid]
  cases known : (workspace.loadModule name).state.knows name with
  | true => exact iff_of_true (workspace.descriptor_of_knows name known) rfl
  | false =>
    have denies := workspace.denies_descriptor name known
    refine iff_of_false (fun ⟨descriptor, answered⟩ => ?_) nofun
    cases answered.symm.trans denies.answer

/-- Where no handle is given out, the failure that the search came upon is reported, or a miss. -/
theorem descriptor_eq_error_iff (valid : name.isValid = true) (error : Error) :
    (workspace.descriptor name).answer = .error error ↔ ¬ workspace.Has name ∧
      (workspace.environment.Breaks name error ∨
        (∀ other, ¬ workspace.environment.Breaks name other) ∧
          ¬ workspace.environment.Brings name ∧ error = .unknownDialect name) := by
  have breaks (other : Error) : (workspace.loadModule name).answer = .error other ↔
      workspace.environment.Breaks name other :=
    workspace.environment.answer_loadModule_eq_error_iff valid other
  have knows := workspace.knows_loadModule_iff valid
  cases known : (workspace.loadModule name).state.knows name with
  | true =>
    obtain ⟨descriptor, answered⟩ := workspace.descriptor_of_knows name known
    refine iff_of_false (fun failed => nomatch answered.symm.trans failed) ?_
    rintro ⟨absent, broken | ⟨_, unbrought, _⟩⟩
    · exact broken.not_brings ((knows.mp known).resolve_left absent)
    · exact unbrought ((knows.mp known).resolve_left absent)
  | false =>
    rw [known, Bool.false_eq_true, false_iff, not_or] at knows
    rw [(workspace.denies_descriptor name known).answer, Except.error.injEq,
      and_iff_right knows.1]
    cases answered : (workspace.loadModule name).answer with
    | error broken =>
      have broke := (breaks broken).mp answered
      constructor
      · rintro rfl
        exact .inl broke
      · rintro (other | ⟨unbroken, _⟩)
        · exact Except.error.inj (answered.symm.trans ((breaks error).mpr other))
        · exact absurd broke (unbroken broken)
    | ok found =>
      have unbroken (other : Error) : ¬ workspace.environment.Breaks name other := fun broke =>
        nomatch answered.symm.trans ((breaks other).mpr broke)
      constructor
      · intro same
        exact .inr ⟨unbroken, knows.2, same.symm⟩
      · rintro (broke | ⟨_, _, same⟩)
        · exact absurd broke (unbroken error)
        · exact same.symm

/-! ### What a handle leads to -/

/-- If a handle is given out, the name is loaded behind the others. -/
def Extends (before : Workspace Custom) (name : DialectName)
    (attempt : Attempt (Workspace Custom) Descriptor) : Prop :=
  ∀ descriptor, attempt.answer = .ok descriptor →
    attempt.state.session.loadedNames = before.session.loadedNames ++ [name]

theorem extends_loadAvailable (absent : workspace.session.dialect? name = none) :
    workspace.Extends name (workspace.loadAvailable name) := by
  intro descriptor answered
  unfold loadAvailable at answered ⊢
  cases available : workspace.environment.dialect? name with
  | none =>
    rw [available] at answered
    cases answered
  | some dialect =>
    obtain ⟨_, rfl⟩ := Environment.mem_of_dialect? available
    have fresh := (workspace.session.descriptor?_eq_none_iff dialect.name).mpr absent
    show (workspace.session.load dialect).state.loadedNames = _
    rw [Session.load, fresh]
    exact List.map_append

theorem environment_loadAvailable (name : DialectName) :
    (workspace.loadAvailable name).state.environment = workspace.environment := by
  unfold loadAvailable
  split <;> rfl

theorem extends_descriptor (absent : workspace.session.dialect? name = none) :
    workspace.Extends name (workspace.descriptor name) := by
  have fresh := (workspace.session.descriptor?_eq_none_iff name).mpr absent
  intro descriptor answered
  have valid := workspace.isValid_of_descriptor name descriptor answered
  cases available : (workspace.environment.dialect? name).isSome with
  | true =>
    rw [workspace.descriptor_of_available valid fresh available] at answered ⊢
    exact workspace.extends_loadAvailable absent descriptor answered
  | false =>
    rw [workspace.descriptor_of_unavailable valid fresh available] at answered ⊢
    cases asked : (workspace.loadModule name).answer with
    | error error =>
      rw [Attempt.andThen_of_error _ _ error asked] at answered
      cases answered
    | ok found =>
      rw [Attempt.andThen_of_ok _ _ found asked] at answered ⊢
      cases found with
      | false => cases answered
      | true =>
        exact (workspace.loadModule name).state.extends_loadAvailable absent descriptor answered

theorem loadedNames_descriptor_of_mem (valid : name.isValid = true)
    (present : name ∈ workspace.session.loadedNames) :
    (workspace.descriptor name).state.session.loadedNames = workspace.session.loadedNames := by
  cases described : workspace.session.descriptor? name with
  | some descriptor =>
    rw [workspace.descriptor_of_loaded name descriptor valid described]
    rfl
  | none =>
    have absent := (workspace.session.descriptor?_eq_none_iff name).mp described
    rw [Session.mem_loadedNames_iff, absent] at present
    cases present

/-- A handle on a name that is loaded or available is given out without touching what sessions
share. -/
theorem environment_descriptor_of_has (valid : name.isValid = true) (has : workspace.Has name) :
    (workspace.descriptor name).state.environment = workspace.environment := by
  cases present : workspace.session.descriptor? name with
  | some descriptor =>
    rw [workspace.descriptor_of_loaded name descriptor valid present]
    rfl
  | none =>
    have absent := (workspace.session.descriptor?_eq_none_iff name).mp present
    have available : (workspace.environment.dialect? name).isSome = true := by
      rw [Has, Session.mem_loadedNames_iff, absent] at has
      exact (workspace.environment.mem_availableNames_iff name).mp (has.resolve_left nofun)
    rw [workspace.descriptor_of_available valid present available]
    exact workspace.environment_loadAvailable name

/-- In every workspace, asking for a handle on what is no name is refused and changes nothing. A
name gets a handle exactly if it is loaded, or available, or else if its module is not loaded yet
and the first root that has anything for it has a module that brings a dialect of this name. The
handle is for this name and leads to the dialect that is now loaded under it and bears it; what is
loaded is what was loaded, with the name behind if it is new, and what sessions share is changed
only if the name was neither loaded nor available. If there is no handle, the error is the failure
that the search came upon, or else says that the dialect is unknown. So if the errors of the loader
are classified, the kind of the error tells which it was. -/
theorem descriptors_exact (workspace : Workspace Custom) (name : DialectName) :
    let attempt := workspace.descriptor name
    let before := workspace.session
    let after := attempt.state.session
    let environment := workspace.environment
    (name.isValid = false → attempt = .idle workspace (.error (.unknownDialect name))) ∧
    (name.isValid = true →
      ((∃ descriptor, attempt.answer = .ok descriptor) ↔
        workspace.Has name ∨ environment.Brings name) ∧
      (∀ descriptor, attempt.answer = .ok descriptor →
        descriptor.name = name ∧
        (∃ dialect, after.dialectAt? descriptor = some dialect ∧
          after.dialect? name = some dialect ∧ dialect.name = name) ∧
        (name ∈ before.loadedNames → after.loadedNames = before.loadedNames) ∧
        (name ∉ before.loadedNames → after.loadedNames = before.loadedNames ++ [name])) ∧
      (workspace.Has name → attempt.state.environment = environment) ∧
      (∀ error, attempt.answer = .error error ↔ ¬ workspace.Has name ∧
        (environment.Breaks name error ∨ (∀ other, ¬ environment.Breaks name other) ∧
          ¬ environment.Brings name ∧ error = .unknownDialect name)) ∧
      (Loader.Classifies environment.searchPath.loader →
        ((∃ error, attempt.answer = .error error ∧ error.kind = .moduleLoadFailed) ↔
          ¬ workspace.Has name ∧ ∃ error, environment.Breaks name error) ∧
        ∀ error, attempt.answer = .error error →
          error.kind = .moduleLoadFailed ∨ error = .unknownDialect name)) := by
  intro attempt before after environment
  refine ⟨workspace.descriptor_of_invalid, fun valid => ⟨workspace.exists_descriptor_iff valid,
    fun descriptor answered => ?_, workspace.environment_descriptor_of_has valid,
    workspace.descriptor_eq_error_iff valid, fun classifies => ⟨⟨?_, ?_⟩, ?_⟩⟩⟩
  · have described := (workspace.describes_descriptor name).described descriptor answered
    obtain ⟨dialect, leads, own, loaded⟩ := Session.dialectAt?_of_descriptor? described
    refine ⟨after.name_of_descriptor? name descriptor described, ⟨dialect, leads, loaded, own⟩,
      fun present => ?_, fun absent => ?_⟩
    · exact workspace.loadedNames_descriptor_of_mem valid present
    · rw [Session.mem_loadedNames_iff, Option.not_isSome_iff_eq_none] at absent
      exact workspace.extends_descriptor absent descriptor answered
  · rintro ⟨error, failed, loadFailed⟩
    obtain ⟨absent, breaks | ⟨_, _, rfl⟩⟩ :=
      (workspace.descriptor_eq_error_iff valid error).mp failed
    · exact ⟨absent, error, breaks⟩
    · cases loadFailed
  · rintro ⟨absent, error, breaks⟩
    exact ⟨error, (workspace.descriptor_eq_error_iff valid error).mpr ⟨absent, .inl breaks⟩,
      breaks.kind classifies⟩
  · intro error failed
    obtain ⟨_, breaks | ⟨_, _, same⟩⟩ := (workspace.descriptor_eq_error_iff valid error).mp failed
    · exact .inl (breaks.kind classifies)
    · exact .inr same

/-- A table with a module that brings the dialect of its name, one that brings another, and a broken
one. -/
def varied : ModuleTable Empty :=
  (((ModuleTable.ofFallback (.linked [])).insert
      ⟨"dialects.own", none, some (.ofName ⟨"own"⟩)⟩).insert
    ⟨"dialects.odd", none, some (.ofName ⟨"other"⟩)⟩).insertBroken "dialects.bad" "boom"

/-- A session that has loaded nothing and finds these modules. -/
def explorer : Workspace Empty := ⟨.ofLoader 0 varied.load, .empty⟩

/-- One root is searched. -/
theorem meets_explorer {name : DialectName} {finding : Finding Empty}
    (there : varied.load (SearchPath.modulePath "dialects" name) = finding)
    (present : finding ≠ .missing) : explorer.environment.searchPath.Meets name finding :=
  ⟨present, [], "dialects", [], rfl, fun _ member => absurd member List.not_mem_nil, there⟩

/-- The module of the odd name is loaded, and even so there is no dialect of this name. -/
theorem descriptors_exact_explorer :
    (∃ descriptor, (explorer.descriptor ⟨"own"⟩).answer = .ok descriptor) ∧
      (explorer.descriptor ⟨"odd"⟩).answer = .error (.unknownDialect ⟨"odd"⟩) ∧
      (∃ error, (explorer.descriptor ⟨"bad"⟩).answer = .error error ∧
        error.kind = .moduleLoadFailed) ∧
      (explorer.descriptor ⟨"cf"⟩).state.environment = explorer.environment ∧
      explorer.descriptor ⟨"c.f"⟩ = .idle explorer (.error (.unknownDialect ⟨"c.f"⟩)) := by
  obtain ⟨found, _⟩ := (explorer.descriptors_exact ⟨"own"⟩).2 rfl
  obtain ⟨_, _, _, failed, _⟩ := (explorer.descriptors_exact ⟨"odd"⟩).2 rfl
  obtain ⟨_, _, _, _, kinds⟩ := (explorer.descriptors_exact ⟨"bad"⟩).2 rfl
  obtain ⟨_, _, shared, _⟩ := (explorer.descriptors_exact ⟨"cf"⟩).2 rfl
  have classifies := varied.classifies_load (Loader.classifies_linked [])
  refine ⟨found.mpr (.inr ?_), (failed _).mpr ⟨?_, .inr ⟨?_, ?_, rfl⟩⟩,
    (kinds classifies).1.mpr ⟨?_, ?_⟩, shared (.inr ?_),
    (explorer.descriptors_exact ⟨"c.f"⟩).1 rfl⟩
  · exact ⟨rfl, _, _, meets_explorer rfl nofun, rfl, rfl⟩
  · unfold Has
    decide
  · rintro other ⟨_, meets⟩
    cases SearchPath.meets_failed_iff.mp meets
  · rintro ⟨_, dialectModule, dialect, meets, brings, same⟩
    obtain ⟨path, searched⟩ := SearchPath.meets_found_iff.mp meets
    cases searched
    cases brings
    exact absurd same (by decide)
  · unfold Has
    decide
  · exact ⟨_, rfl, meets_explorer rfl nofun⟩
  · decide

end Workspace

end Polyglot
