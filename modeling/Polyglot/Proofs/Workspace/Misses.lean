/-
This file proves what failing lookups leave behind. A lookup may load a module, make the dialect of
that module available, load the dialect into the session and keep a view. It can fail after the
first two of these steps only, so a failure never shows in the session; and as a module that cannot
be loaded leaves no trace, such a failure shows nowhere.

A view asks for the module of its namespace and then for a handle, which asks for the module again.
The second request finds what the first one came to, so that a broken module is always reported by
the first, and what the second can report is a miss.
-/

import Polyglot.Proofs.Workspace.Views

namespace Polyglot

variable {Custom : Type}

/-- Only a search that comes upon a failure makes an error. -/
theorem SearchPath.Resolves.of_error {searchPath after : SearchPath Custom} {name : DialectName}
    {answer : Except Error Bool} (resolves : searchPath.Resolves name answer after) {error : Error}
    (failed : answer = .error error) :
    searchPath.isLoaded name = false ∧ name.isValid = true ∧
      search searchPath.loader name searchPath.roots = .failed error := by
  cases resolves with
  | failed unloaded valid other searched =>
    exact ⟨unloaded, valid, Except.error.inj failed ▸ searched⟩
  | _ => cases failed

namespace Environment

/-! ### Asking for a module twice -/

/-- Only a module that is there changes anything. -/
theorem loadModule_unchanged (environment : Environment Custom) (name : DialectName)
    (unsuccessful : (environment.loadModule name).answer ≠ .ok true) :
    (environment.loadModule name).state = environment := by
  have loads := environment.loads name
  generalize environment.loadModule name = attempt at loads unsuccessful ⊢
  obtain ⟨answer, after, log⟩ := attempt
  cases loads with
  | kept => rfl
  | found => exact absurd rfl unsuccessful

/-- Nothing more comes of asking again for a module, once there was an answer. -/
theorem loadModule_again (environment : Environment Custom) (name : DialectName) (found : Bool)
    (answered : (environment.loadModule name).answer = .ok found) :
    ((environment.loadModule name).state.loadModule name).answer = .ok found ∧
      ((environment.loadModule name).state.loadModule name).state =
        (environment.loadModule name).state := by
  cases found with
  | true =>
    rw [loadModule_of_isLoaded _ name (environment.isLoaded_loadModule name true answered)]
    exact ⟨rfl, rfl⟩
  | false =>
    have same := environment.loadModule_unchanged name (answered ▸ nofun)
    rw [same]
    exact ⟨answered, same⟩

/-- A module that cannot be loaded is one that the search comes upon. -/
theorem loadModule_eq_error_iff (environment : Environment Custom) (name : DialectName)
    (error : Error) :
    (environment.loadModule name).answer = .error error ↔
      environment.searchPath.isLoaded name = false ∧ name.isValid = true ∧
        SearchPath.search environment.searchPath.loader name environment.searchPath.roots =
          .failed error := by
  rw [(environment.loadModule_resolves name).1]
  constructor
  · exact (environment.searchPath.resolves name).of_error
  · rintro ⟨unloaded, valid, searched⟩
    simp [SearchPath.resolve, unloaded, valid, searched]

/-- There is no module for what is no name, and looking for one changes nothing. -/
theorem loadModule_of_invalid (environment : Environment Custom) (name : DialectName)
    (invalid : name.isValid = false) :
    (∃ found, (environment.loadModule name).answer = .ok found) ∧
      (environment.loadModule name).state = environment := by
  by_cases isLoaded : environment.searchPath.isLoaded name = true
  · rw [environment.loadModule_of_isLoaded name isLoaded]
    exact ⟨⟨true, rfl⟩, rfl⟩
  · simp [loadModule, SearchPath.resolve, isLoaded, invalid, Attempt.andThen, Attempt.lift,
      Attempt.idle, Attempt.after]

theorem answer_classOf_eq_error_iff (environment : Environment Custom) (name : DialectName)
    (error : Error) :
    (environment.classOf name).answer = .error error ↔
      (environment.loadModule name).answer = .error error := by
  cases answered : (environment.loadModule name).answer with
  | error other => rw [classOf, Attempt.andThen_of_error _ _ other answered]; simp
  | ok found =>
    rw [classOf, Attempt.andThen_of_ok _ _ found answered]
    constructor <;> intro failed <;> cases failed

end Environment

namespace Workspace

/-! ### Names and denials -/

/-- Does the name stand for a dialect that is loaded or available? -/
def knows (workspace : Workspace Custom) (name : DialectName) : Bool :=
  name.isValid &&
    ((workspace.session.dialect? name).isSome || (workspace.environment.dialect? name).isSome)

/-- If the attempt fails, nothing shows in the session, and nothing shows at all if it failed
because a module could not be loaded. -/
def Spares {Answer : Type} (before : Workspace Custom)
    (attempt : Attempt (Workspace Custom) Answer) : Prop :=
  ∀ error, attempt.answer = .error error →
    attempt.state.session = before.session ∧
      (error.kind = .moduleLoadFailed → attempt.state = before)

/-- The error of a lookup that fails, told from what asking for the module came to. -/
def denial (name : DialectName) : Except Error Bool → Error
  | .ok _ => .unknownDialect name
  | .error error => error

/-- The attempt fails, and leaves behind what asking for the module leaves. -/
structure Denies {Answer : Type} (before : Workspace Custom) (name : DialectName)
    (attempt : Attempt (Workspace Custom) Answer) : Prop where
  answer : attempt.answer = .error (denial name (before.loadModule name).answer)
  state : attempt.state = (before.loadModule name).state

theorem loadModule_unchanged (workspace : Workspace Custom) (name : DialectName)
    (unsuccessful : (workspace.loadModule name).answer ≠ .ok true) :
    (workspace.loadModule name).state = workspace :=
  congrArg (fun environment => { workspace with environment := environment })
    (workspace.environment.loadModule_unchanged name unsuccessful)

theorem Denies.spares {Answer : Type} {before : Workspace Custom} {name : DialectName}
    {attempt : Attempt (Workspace Custom) Answer} (denies : before.Denies name attempt) :
    before.Spares attempt := by
  intro error failed
  rw [denies.state]
  refine ⟨rfl, fun loadFailed => before.loadModule_unchanged name fun answered => ?_⟩
  cases Except.error.inj (denies.answer.symm.trans failed)
  rw [answered] at loadFailed
  cases loadFailed

theorem knows_loadModule (workspace : Workspace Custom) (name : DialectName)
    (known : workspace.knows name = true) :
    (workspace.loadModule name).state.knows name = true := by
  rw [knows, Bool.and_eq_true, Bool.or_eq_true] at known ⊢
  refine ⟨known.1, known.2.imp_right fun available => ?_⟩
  obtain ⟨dialect, found⟩ := Option.isSome_iff_exists.mp available
  exact Option.isSome_iff_exists.mpr ⟨dialect, Environment.dialect?_of_grown
    (workspace.environment.grows_loadModule name).available found⟩

/-! ### Handles -/

theorem exists_load_answer (workspace : Workspace Custom) (dialect : Dialect Custom) :
    ∃ descriptor, (workspace.load dialect).answer = .ok descriptor := by
  show ∃ descriptor, (workspace.session.load dialect).answer = .ok descriptor
  unfold Session.load
  split <;> exact ⟨_, rfl⟩

theorem exists_loadAvailable_answer (workspace : Workspace Custom) (name : DialectName)
    (available : (workspace.environment.dialect? name).isSome = true) :
    ∃ descriptor, (workspace.loadAvailable name).answer = .ok descriptor := by
  obtain ⟨dialect, found⟩ := Option.isSome_iff_exists.mp available
  rw [loadAvailable, found]
  exact workspace.exists_load_answer dialect

/-- A handle is given out if the name stands for a dialect, be it that it does so only once its
module has been asked for. -/
theorem descriptor_of_knows (workspace : Workspace Custom) (name : DialectName)
    (known : (workspace.loadModule name).state.knows name = true) :
    ∃ descriptor, (workspace.descriptor name).answer = .ok descriptor := by
  have valid : name.isValid = true := (Bool.and_eq_true_iff.mp known).1
  cases present : workspace.session.descriptor? name with
  | some loaded =>
    rw [workspace.descriptor_of_loaded name loaded valid present]
    exact ⟨loaded, rfl⟩
  | none =>
    have unloaded := (workspace.session.descriptor?_eq_none_iff name).mp present
    have available :
        ((workspace.loadModule name).state.environment.dialect? name).isSome = true := by
      have known := (Bool.and_eq_true_iff.mp known).2
      rw [show (workspace.loadModule name).state.session = workspace.session from rfl, unloaded]
        at known
      exact known
    cases already : (workspace.environment.dialect? name).isSome with
    | true =>
      rw [workspace.descriptor_of_available valid present already]
      exact workspace.exists_loadAvailable_answer name already
    | false =>
      -- The dialect has become available, so there was a module.
      have answered : (workspace.loadModule name).answer = .ok true := by
        by_contra unsuccessful
        rw [workspace.loadModule_unchanged name unsuccessful, already] at available
        cases available
      rw [workspace.descriptor_of_unavailable valid present already,
        Attempt.andThen_of_ok _ _ true answered]
      exact exists_loadAvailable_answer _ name available

/-- What is no name is refused before any module is asked for, which comes to the same. -/
theorem denies_descriptor_of_invalid (workspace : Workspace Custom) (name : DialectName)
    (invalid : name.isValid = false) : workspace.Denies name (workspace.descriptor name) := by
  obtain ⟨⟨found, answered⟩, same⟩ := workspace.environment.loadModule_of_invalid name invalid
  rw [workspace.descriptor_of_invalid invalid]
  refine ⟨?_, ?_⟩
  · show _ = Except.error (denial name (workspace.environment.loadModule name).answer)
    rw [answered]
    rfl
  · exact congrArg (fun environment => { workspace with environment := environment }) same.symm

theorem denies_descriptor (workspace : Workspace Custom) (name : DialectName)
    (unknown : (workspace.loadModule name).state.knows name = false) :
    workspace.Denies name (workspace.descriptor name) := by
  have before : workspace.knows name = false := by
    rw [← Bool.not_eq_true]
    intro known
    cases unknown.symm.trans (workspace.knows_loadModule name known)
  cases valid : name.isValid with
  | false => exact workspace.denies_descriptor_of_invalid name valid
  | true =>
    rw [knows, valid, Bool.true_and, Bool.or_eq_false_iff] at before unknown
    rw [Option.isSome_eq_false_iff, Option.isNone_iff_eq_none] at before
    have absent := (workspace.session.descriptor?_eq_none_iff name).mpr before.1
    rw [workspace.descriptor_of_unavailable valid absent before.2]
    cases answered : (workspace.loadModule name).answer with
    | error error =>
      rw [Attempt.andThen_of_error _ _ error answered]
      exact ⟨congrArg (Except.error ∘ denial name) answered.symm, rfl⟩
    | ok found =>
      rw [Attempt.andThen_of_ok _ _ found answered]
      have refused : (workspace.loadModule name).state.loadAvailable name =
          .idle (workspace.loadModule name).state (.error (.unknownDialect name)) := by
        rw [loadAvailable, Option.isNone_iff_eq_none.mp (Option.isSome_eq_false_iff.mp unknown.2)]
      rw [refused, ite_self]
      exact ⟨congrArg (Except.error ∘ denial name) answered.symm, rfl⟩

theorem spares_descriptor (workspace : Workspace Custom) (name : DialectName) :
    workspace.Spares (workspace.descriptor name) := by
  cases known : (workspace.loadModule name).state.knows name with
  | true =>
    obtain ⟨descriptor, answered⟩ := workspace.descriptor_of_knows name known
    intro error failed
    cases answered.symm.trans failed
  | false => exact (workspace.denies_descriptor name known).spares

/-! ### Views -/

theorem loadModule_again (workspace : Workspace Custom) (name : DialectName) (found : Bool)
    (answered : (workspace.loadModule name).answer = .ok found) :
    ((workspace.loadModule name).state.loadModule name).answer = .ok found ∧
      ((workspace.loadModule name).state.loadModule name).state =
        (workspace.loadModule name).state := by
  obtain ⟨sameAnswer, sameState⟩ := workspace.environment.loadModule_again name found answered
  exact ⟨sameAnswer,
    congrArg (fun environment => { workspace with environment := environment }) sameState⟩

/-- Where the module can be asked for, looking a view up comes to what asking for a handle after
that comes to. -/
theorem freshView_eq (workspace : Workspace Custom) (name : DialectName) (found : Bool)
    (answered : (workspace.loadModule name).answer = .ok found) :
    ∃ loadedClass log, workspace.freshView name =
      (((workspace.loadModule name).state.descriptor name).andThen fun descriptor last =>
        .idle { last with session := last.session.keepView ⟨descriptor, loadedClass⟩ }
          (.ok ⟨descriptor, loadedClass⟩)).after log := by
  cases asked : (workspace.environment.classOf name).answer with
  | error error =>
    have failed := (workspace.environment.answer_classOf_eq_error_iff name error).mp asked
    cases answered.symm.trans failed
  | ok loadedClass =>
    refine ⟨loadedClass, (workspace.environment.classOf name).log, ?_⟩
    have lifted : ((workspace.environment.classOf name).lift fun environment =>
      ({ workspace with environment := environment } : Workspace Custom)).answer =
        .ok loadedClass := asked
    rw [freshView, Attempt.andThen_of_ok _ _ loadedClass lifted]
    show Attempt.after _ (Attempt.andThen (descriptor { workspace with
      environment := (workspace.environment.classOf name).state } name) _) = _
    rw [Environment.state_classOf]
    rfl

theorem freshView_of_knows (workspace : Workspace Custom) (name : DialectName) (found : Bool)
    (answered : (workspace.loadModule name).answer = .ok found)
    (known : (workspace.loadModule name).state.knows name = true) :
    ∃ view, (workspace.freshView name).answer = .ok view := by
  obtain ⟨loadedClass, log, same⟩ := workspace.freshView_eq name found answered
  obtain ⟨_, again⟩ := workspace.loadModule_again name found answered
  obtain ⟨descriptor, described⟩ := (workspace.loadModule name).state.descriptor_of_knows name
    (by rwa [again])
  rw [same, Attempt.andThen_of_ok _ _ descriptor described]
  exact ⟨_, rfl⟩

theorem denies_freshView (workspace : Workspace Custom) (name : DialectName)
    (unknown : ∀ found, (workspace.loadModule name).answer = .ok found →
      (workspace.loadModule name).state.knows name = false) :
    workspace.Denies name (workspace.freshView name) := by
  cases answered : (workspace.loadModule name).answer with
  | error error =>
    have asked : ((workspace.environment.classOf name).lift fun environment =>
      ({ workspace with environment := environment } : Workspace Custom)).answer = .error error :=
        (workspace.environment.answer_classOf_eq_error_iff name error).mpr answered
    rw [freshView, Attempt.andThen_of_error _ _ error asked]
    refine ⟨congrArg (Except.error ∘ denial name) answered.symm, ?_⟩
    exact congrArg (fun environment => { workspace with environment := environment })
      (workspace.environment.state_classOf name)
  | ok found =>
    obtain ⟨loadedClass, log, same⟩ := workspace.freshView_eq name found answered
    obtain ⟨sameAnswer, again⟩ := workspace.loadModule_again name found answered
    have denies := (workspace.loadModule name).state.denies_descriptor name
      (by rw [again, unknown found answered])
    rw [same, Attempt.andThen_of_error _ _ _ denies.answer]
    refine ⟨?_, denies.state.trans again⟩
    rw [answered, ← sameAnswer]
    rfl

/-- The view is looked for, the module of the name can be asked for, and even so there is no
dialect of the name. -/
def Misses (workspace : Workspace Custom) (name : DialectName) : Prop :=
  workspace.settledView? name = none ∧ (∃ found, (workspace.loadModule name).answer = .ok found) ∧
    (workspace.loadModule name).state.knows name = false

/-- The view is looked for, and the search for the module comes upon one that cannot be loaded. -/
def Breaks (workspace : Workspace Custom) (name : DialectName) (error : Error) : Prop :=
  workspace.settledView? name = none ∧
    workspace.environment.searchPath.isLoaded name = false ∧ name.isValid = true ∧
    SearchPath.search workspace.environment.searchPath.loader name
      workspace.environment.searchPath.roots = .failed error

theorem lookUp_of_misses {workspace : Workspace Custom} {name : DialectName}
    (misses : workspace.Misses name) :
    (workspace.lookUp name).answer = .error (.unknownDialect name) := by
  obtain ⟨unsettled, ⟨found, answered⟩, unknown⟩ := misses
  have denies := workspace.denies_freshView name fun _ _ => unknown
  rw [lookUp, unsettled]
  exact denies.answer.trans (by rw [answered]; rfl)

theorem lookUp_of_breaks {workspace : Workspace Custom} {name : DialectName} {error : Error}
    (breaks : workspace.Breaks name error) : (workspace.lookUp name).answer = .error error := by
  obtain ⟨unsettled, broken⟩ := breaks
  have failed : (workspace.loadModule name).answer = .error error :=
    (workspace.environment.loadModule_eq_error_iff name error).mpr broken
  have denies := workspace.denies_freshView name fun found answered => by
    cases failed.symm.trans answered
  rw [lookUp, unsettled]
  exact denies.answer.trans (by rw [failed]; rfl)

/-- A view is found, or the lookup fails in one of two ways. -/
theorem lookUp_cases (workspace : Workspace Custom) (name : DialectName) :
    (∃ view, (workspace.lookUp name).answer = .ok view) ∨
      (workspace.Misses name ∨ ∃ error, workspace.Breaks name error) ∧
        workspace.Denies name (workspace.lookUp name) := by
  unfold lookUp
  cases unsettled : workspace.settledView? name with
  | some view => exact .inl ⟨view, rfl⟩
  | none =>
    cases answered : (workspace.loadModule name).answer with
    | error error =>
      refine .inr ⟨.inr ⟨error, unsettled, ?_⟩,
        workspace.denies_freshView name fun found other => ?_⟩
      · exact (workspace.environment.loadModule_eq_error_iff name error).mp answered
      · cases answered.symm.trans other
    | ok found =>
      cases known : (workspace.loadModule name).state.knows name with
      | true => exact .inl (workspace.freshView_of_knows name found answered known)
      | false =>
        exact .inr ⟨.inl ⟨unsettled, ⟨found, answered⟩, known⟩,
          workspace.denies_freshView name fun _ _ => known⟩

theorem spares_lookUp (workspace : Workspace Custom) (name : DialectName) :
    workspace.Spares (workspace.lookUp name) := by
  rcases workspace.lookUp_cases name with ⟨view, answered⟩ | ⟨_, denies⟩
  · intro error failed
    cases answered.symm.trans failed
  · exact denies.spares

/-! ### Ways of asking -/

theorem kind_reportMiss_ne (access : Access) (error : Error) :
    (reportMiss access error).kind ≠ .unknownDialect := by
  unfold reportMiss
  split
  · cases access <;> exact nofun
  next other => exact other

/-- Another way of asking changes the kind of an error and nothing else, and this only for a
miss. -/
theorem reportMiss_congr (access other : Access) (error : Error) :
    (reportMiss access error).cause = (reportMiss other error).cause ∧
      (reportMiss access error).location = (reportMiss other error).location ∧
      (reportMiss access error).diagnostics = (reportMiss other error).diagnostics := by
  unfold reportMiss
  split <;> exact ⟨rfl, rfl, rfl⟩

theorem view_eq_error_iff (workspace : Workspace Custom) (access : Access) (name : DialectName)
    (error : Error) : (workspace.view access name).answer = .error error ↔
      ∃ reason, (workspace.lookUp name).answer = .error reason ∧
        error = reportMiss access reason := by
  rw [Workspace.view, Attempt.mapError]
  cases (workspace.lookUp name).answer <;> simp [Except.mapError, eq_comm]

theorem spares_view (workspace : Workspace Custom) (access : Access) (name : DialectName) :
    workspace.Spares (workspace.view access name) := by
  intro error failed
  obtain ⟨reason, answered, rfl⟩ := (workspace.view_eq_error_iff access name error).mp failed
  obtain ⟨session, unchanged⟩ := workspace.spares_lookUp name reason answered
  refine ⟨session, fun loadFailed => unchanged ?_⟩
  unfold reportMiss at loadFailed
  split at loadFailed
  · cases access <;> cases loadFailed
  · exact loadFailed

/-- A handle or a view that is refused leaves the session as it was, and a module that cannot be
loaded leaves the environment as it was, too. A view is refused only for these reasons, a miss being
reported in the words of whoever asks, and no error says that a dialect is unknown. Whichever way a
view is asked for, the same is found and left behind, or the same is reported, up to the kind. -/
theorem lookups_spare (workspace : Workspace Custom) (name : DialectName) :
    workspace.Spares (workspace.descriptor name) ∧
    ∀ access, workspace.Spares (workspace.view access name) ∧
      (workspace.Misses name → (workspace.view access name).answer =
        .error ⟨access.missKind, .unknownDialect name, .unknown, []⟩) ∧
      (∀ broken, workspace.Breaks name broken →
        (workspace.view access name).answer = .error (reportMiss access broken) ∧
          (broken.kind = .moduleLoadFailed →
            (workspace.view access name).answer = .error broken)) ∧
      (∀ error, (workspace.view access name).answer = .error error →
        error.kind ≠ .unknownDialect ∧
          (workspace.Misses name ∨ ∃ broken, workspace.Breaks name broken)) ∧
      ∀ other, (workspace.view access name).state = (workspace.view other name).state ∧
        (∀ view, (workspace.view access name).answer = .ok view →
          (workspace.view other name).answer = .ok view) ∧
        ∀ error, (workspace.view access name).answer = .error error →
          ∃ sibling, (workspace.view other name).answer = .error sibling ∧
            error.cause = sibling.cause ∧ error.location = sibling.location ∧
            error.diagnostics = sibling.diagnostics := by
  refine ⟨workspace.spares_descriptor name, fun access =>
    ⟨workspace.spares_view access name, ?_, ?_, ?_, fun other => ⟨rfl, ?_, ?_⟩⟩⟩
  · intro misses
    exact (workspace.view_eq_error_iff access name _).mpr ⟨_, lookUp_of_misses misses, rfl⟩
  · intro broken breaks
    have reported : (workspace.view access name).answer = .error (reportMiss access broken) :=
      (workspace.view_eq_error_iff access name _).mpr ⟨broken, lookUp_of_breaks breaks, rfl⟩
    refine ⟨reported, fun loadFailed => reported.trans ?_⟩
    rw [reportMiss, loadFailed]
    rfl
  · intro error failed
    obtain ⟨reason, answered, rfl⟩ := (workspace.view_eq_error_iff access name error).mp failed
    refine ⟨kind_reportMiss_ne access reason, ?_⟩
    rcases workspace.lookUp_cases name with ⟨view, found⟩ | ⟨ways, _⟩
    · cases found.symm.trans answered
    · exact ways
  · intro view answered
    have found := (workspace.view_eq_ok_iff access name view).mp answered
    exact (workspace.view_eq_ok_iff other name view).mpr found
  · intro error failed
    obtain ⟨reason, answered, rfl⟩ := (workspace.view_eq_error_iff access name error).mp failed
    exact ⟨reportMiss other reason,
      (workspace.view_eq_error_iff other name _).mpr ⟨reason, answered, rfl⟩,
      reportMiss_congr access other reason⟩

/-- A loader with a module that brings a dialect of another name, and with a broken module. -/
def treacherous : Loader Empty := fun path =>
  if path = "dialects.vec" then .found ⟨path, none, some (.ofName ⟨"other"⟩)⟩
  else if path = "dialects.bad" then .failed (.brokenModule path "boom")
  else .missing

/-- A session that has loaded nothing. -/
def unwary : Workspace Empty := ⟨.ofLoader 0 treacherous, .empty⟩

/-- The miss shows in the environment, which has the other dialect now, and the broken module does
not. -/
theorem lookups_spare_unwary :
    (unwary.view .byAttribute ⟨"vec"⟩).answer =
        .error ⟨.attributeNotFound, .unknownDialect ⟨"vec"⟩, .unknown, []⟩ ∧
      (unwary.view .byIndex ⟨"vec"⟩).answer =
        .error ⟨.indexOutOfRange, .unknownDialect ⟨"vec"⟩, .unknown, []⟩ ∧
      (unwary.view .byAttribute ⟨"vec"⟩).state.session = unwary.session ∧
      (unwary.view .byAttribute ⟨"vec"⟩).state.environment.availableNames ≠
        unwary.environment.availableNames ∧
      ∀ access, (unwary.view access ⟨"bad"⟩).answer = .error (.brokenModule "dialects.bad" "boom") ∧
        (unwary.view access ⟨"bad"⟩).state = unwary := by
  have misses : unwary.Misses ⟨"vec"⟩ := ⟨rfl, ⟨true, rfl⟩, rfl⟩
  have breaks : unwary.Breaks ⟨"bad"⟩ (.brokenModule "dialects.bad" "boom") := ⟨rfl, rfl, rfl, rfl⟩
  obtain ⟨spares, missed, _⟩ := (unwary.lookups_spare ⟨"vec"⟩).2 .byAttribute
  obtain ⟨_, missedAgain, _⟩ := (unwary.lookups_spare ⟨"vec"⟩).2 .byIndex
  refine ⟨missed misses, missedAgain misses, (spares _ (missed misses)).1, by decide,
    fun access => ?_⟩
  obtain ⟨spares, _, broken, _⟩ := (unwary.lookups_spare ⟨"bad"⟩).2 access
  have failed := (broken _ breaks).2 rfl
  exact ⟨failed, (spares _ failed).2 rfl⟩

end Workspace

end Polyglot
