/-
This file proves what becomes of the views that a session hands out. A view that is kept is backed:
its handle is the one that the session gives out for the name, and its class, if it has one, is the
class that the environment has for the name. Whatever is done to the workspace, what backs a view
stays, and every view that is kept is backed.

So a view that is answered without a search is the view that a search would come to. What is kept
only saves the search.
-/

import Polyglot.Proofs.Environment.Growth
import Polyglot.Proofs.Workspace.Ledger
import Polyglot.Proofs.Workspace.Stock

namespace Polyglot

/-- What is found under a key once the entries of some key are gone. -/
theorem find?_filter_key {Entry Key : Type} [DecidableEq Key] (key : Entry → Key)
    (entries : List Entry) (gone probe : Key) :
    (entries.filter fun entry => key entry ≠ gone).find? (fun entry => key entry = probe) =
      if probe = gone then none else entries.find? fun entry => key entry = probe := by
  rw [List.find?_filter]
  by_cases same : probe = gone
  · rw [if_pos same, List.find?_eq_none]
    simp [same]
  · rw [if_neg same]
    refine congrArg (List.find? · entries) (funext fun entry => ?_)
    by_cases found : key entry = probe
    · simp [found, same]
    · simp [found]

namespace Session

variable {Custom : Type}

/-! ### Handles -/

theorem name_of_descriptor? (session : Session Custom) (name : DialectName)
    (descriptor : Descriptor) (present : session.descriptor? name = some descriptor) :
    descriptor.name = name := by
  obtain ⟨_, _, same⟩ := Option.map_eq_some_iff.mp present
  exact same ▸ rfl

/-- A handle that was given out is given out later. -/
theorem descriptor?_of_grown {before after : Session Custom}
    (grown : before.loaded <+: after.loaded) {name : DialectName} {descriptor : Descriptor}
    (present : before.descriptor? name = some descriptor) :
    after.descriptor? name = some descriptor := by
  obtain ⟨more, split⟩ := grown
  obtain ⟨position, found, same⟩ := Option.map_eq_some_iff.mp present
  refine Option.map_eq_some_iff.mpr ⟨position, ?_, same⟩
  rw [← split, List.findIdx?_append, found]
  rfl

theorem descriptor?_load (session : Session Custom) (dialect : Dialect Custom)
    (descriptor : Descriptor) (answered : (session.load dialect).answer = .ok descriptor) :
    (session.load dialect).state.descriptor? dialect.name = some descriptor := by
  unfold load at answered ⊢
  cases present : session.descriptor? dialect.name with
  | some loaded =>
    rw [present] at answered
    exact present.trans (congrArg some (Except.ok.inj answered))
  | none =>
    rw [present] at answered
    have absent := Option.map_eq_none_iff.mp present
    rw [← Except.ok.inj answered]
    simp [descriptor?, List.findIdx?_append, absent]

theorem views_load (session : Session Custom) (dialect : Dialect Custom) :
    (session.load dialect).state.views = session.views := by
  unfold load
  split <;> rfl

/-! ### Kept views -/

/-- The session without the view that is kept for a name. -/
def forgetView (session : Session Custom) (name : DialectName) : Session Custom :=
  { session with views := session.views.filter fun entry => entry.1 ≠ name }

theorem view?_forgetView (session : Session Custom) (name probe : DialectName) :
    (session.forgetView name).view? probe =
      if probe = name then none else session.view? probe := by
  rw [view?, forgetView, find?_filter_key]
  split <;> rfl

theorem view?_keepView (session : Session Custom) (view : DialectView) (probe : DialectName) :
    (session.keepView view).view? probe =
      if probe = view.name then some view else session.view? probe := by
  have rest := session.view?_forgetView view.name probe
  simp only [view?, keepView, forgetView, List.find?_cons] at rest ⊢
  by_cases same : probe = view.name
  · simp [same]
  · rw [if_neg same] at rest ⊢
    rw [decide_eq_false (Ne.symm same)]
    exact rest

end Session

namespace Workspace

variable {Custom : Type}

/-! ### What backs a view -/

/-- The view is what there is to be seen of a name. -/
structure Backs (workspace : Workspace Custom) (name : DialectName) (view : DialectView) :
    Prop where
  valid : name.isValid = true
  descriptor : workspace.session.descriptor? name = some view.descriptor
  loadedClass : ∀ loadedClass, view.loadedClass = some loadedClass →
    workspace.environment.class? name = some loadedClass

/-- Every view that is kept is backed. -/
def Coherent (workspace : Workspace Custom) : Prop :=
  ∀ name view, workspace.session.view? name = some view → workspace.Backs name view

theorem coherent_empty (environment : Environment Custom) :
    Coherent ⟨environment, Session.empty⟩ := by
  intro name view kept
  cases kept

/-- What was loaded stays, what is loaded now is available or was loaded before, and a view that
is kept is one from before or is backed. -/
structure Evolves (before after : Workspace Custom) : Prop where
  environment : before.environment.Grows after.environment
  loaded : before.session.loaded <+: after.session.loaded
  distinct : before.session.loadedNames.Nodup → after.session.loadedNames.Nodup
  available : ∀ dialect ∈ after.session.loaded,
    dialect ∈ before.session.loaded ∨ dialect ∈ after.environment.available
  views : ∀ name view, after.session.view? name = some view →
    before.session.view? name = some view ∨ after.Backs name view

namespace Evolves

variable {before between after : Workspace Custom}

theorem backs (evolves : before.Evolves after) {name : DialectName} {view : DialectView}
    (backs : before.Backs name view) : after.Backs name view :=
  ⟨backs.valid, Session.descriptor?_of_grown evolves.loaded backs.descriptor,
    fun loadedClass present => evolves.environment.class? (backs.loadedClass loadedClass present)⟩

theorem stocked (evolves : before.Evolves after) (stocked : before.Stocked) : after.Stocked := by
  refine ⟨evolves.distinct stocked.distinct, fun dialect member => ?_⟩
  rcases evolves.available dialect member with old | available
  · exact evolves.environment.available.subset (stocked.available dialect old)
  · exact available

theorem coherent (evolves : before.Evolves after) (coherent : before.Coherent) :
    after.Coherent := by
  intro name view kept
  rcases evolves.views name view kept with old | backs
  · exact evolves.backs (coherent name view old)
  · exact backs

/-- As long as the views and the loaded dialects stay the same, only the environment counts. -/
theorem of_same (environment : before.environment.Grows after.environment)
    (loaded : after.session.loaded = before.session.loaded)
    (views : after.session.views = before.session.views) : before.Evolves after where
  environment := environment
  loaded := loaded ▸ List.prefix_refl _
  distinct distinct := by rwa [Session.loadedNames, loaded]
  available dialect member := .inl (loaded ▸ member)
  views name view kept := .inl (by rwa [Session.view?, views] at kept)

theorem refl (workspace : Workspace Custom) : workspace.Evolves workspace :=
  .of_same (.refl _) rfl rfl

theorem trans (first : before.Evolves between) (second : between.Evolves after) :
    before.Evolves after where
  environment := first.environment.trans second.environment
  loaded := first.loaded.trans second.loaded
  distinct distinct := second.distinct (first.distinct distinct)
  available dialect member := by
    rcases second.available dialect member with old | available
    · exact (first.available dialect old).imp_right fun there =>
        second.environment.available.subset there
    · exact .inr available
  views name view kept := by
    rcases second.views name view kept with old | backs
    · exact (first.views name view old).imp_right second.backs
    · exact .inr backs

/-- What two attempts in a row come to, if each step evolves. -/
theorem andThen {Answer Other : Type} {attempt : Attempt (Workspace Custom) Answer}
    {next : Answer → Workspace Custom → Attempt (Workspace Custom) Other}
    (first : before.Evolves attempt.state)
    (second : ∀ answer, attempt.state.Evolves (next answer attempt.state).state) :
    before.Evolves (attempt.andThen next).state :=
  Attempt.state_andThen (motive := before.Evolves) attempt next first
    fun answer => first.trans (second answer)

end Evolves

/-! ### Handles on dialects -/

theorem evolves_environment (workspace : Workspace Custom) {environment : Environment Custom}
    (grows : workspace.environment.Grows environment) :
    workspace.Evolves { workspace with environment := environment } :=
  .of_same grows rfl rfl

/-- A handle that is answered is the one that the session gives out from now on. -/
structure Describes (before : Workspace Custom) (name : DialectName)
    (attempt : Attempt (Workspace Custom) Descriptor) : Prop where
  evolves : before.Evolves attempt.state
  described : ∀ descriptor, attempt.answer = .ok descriptor →
    attempt.state.session.descriptor? name = some descriptor

theorem Describes.refused (workspace : Workspace Custom) (name : DialectName) (error : Error) :
    workspace.Describes name (.idle workspace (.error error)) :=
  ⟨.refl _, nofun⟩

theorem evolves_load (workspace : Workspace Custom) (dialect : Dialect Custom)
    (available : dialect ∈ workspace.environment.available) :
    workspace.Evolves (workspace.load dialect).state where
  environment := .refl _
  loaded := workspace.session.loaded_load dialect
  distinct distinct := workspace.session.nodup_loadedNames_load dialect distinct
  available other member := by
    rcases workspace.session.mem_loaded_load dialect other member with old | rfl
    · exact .inl old
    · exact .inr available
  views name view kept := by
    change (workspace.session.load dialect).state.view? name = some view at kept
    rw [Session.view?, workspace.session.views_load dialect] at kept
    exact .inl kept

theorem describes_load (workspace : Workspace Custom) (dialect : Dialect Custom)
    (available : dialect ∈ workspace.environment.available) :
    workspace.Describes dialect.name (workspace.load dialect) :=
  ⟨workspace.evolves_load dialect available, workspace.session.descriptor?_load dialect⟩

theorem describes_loadAvailable (workspace : Workspace Custom) (name : DialectName) :
    workspace.Describes name (workspace.loadAvailable name) := by
  unfold loadAvailable
  cases available : workspace.environment.dialect? name with
  | none => exact .refused workspace name _
  | some dialect =>
    obtain ⟨member, rfl⟩ := Environment.mem_of_dialect? available
    exact workspace.describes_load dialect member

theorem descriptor_of_invalid (workspace : Workspace Custom) {name : DialectName}
    (invalid : name.isValid = false) :
    workspace.descriptor name = .idle workspace (.error (.unknownDialect name)) := by
  rw [descriptor, invalid]
  rfl

theorem isValid_of_descriptor (workspace : Workspace Custom) (name : DialectName)
    (descriptor : Descriptor) (answered : (workspace.descriptor name).answer = .ok descriptor) :
    name.isValid = true := by
  cases valid : name.isValid with
  | true => rfl
  | false =>
    rw [workspace.descriptor_of_invalid valid] at answered
    cases answered

theorem descriptor_of_loaded (workspace : Workspace Custom) (name : DialectName)
    (descriptor : Descriptor) (valid : name.isValid = true)
    (present : workspace.session.descriptor? name = some descriptor) :
    workspace.descriptor name = .idle workspace (.ok descriptor) := by
  rw [Workspace.descriptor, valid, present]
  rfl

/-- A name that is available gets its handle without a search. -/
theorem descriptor_of_available (workspace : Workspace Custom) {name : DialectName}
    (valid : name.isValid = true) (absent : workspace.session.descriptor? name = none)
    (available : (workspace.environment.dialect? name).isSome = true) :
    workspace.descriptor name = workspace.loadAvailable name := by
  rw [descriptor, valid, absent]
  exact if_pos available

/-- A name that is not available gets its handle, if at all, after its module was asked for. -/
theorem descriptor_of_unavailable (workspace : Workspace Custom) {name : DialectName}
    (valid : name.isValid = true) (absent : workspace.session.descriptor? name = none)
    (unavailable : (workspace.environment.dialect? name).isSome = false) :
    workspace.descriptor name = (workspace.loadModule name).andThen fun found after =>
      if found then after.loadAvailable name
      else .idle after (.error (.unknownDialect name)) := by
  rw [descriptor, valid, absent]
  exact if_neg (unavailable ▸ Bool.false_ne_true)

theorem describes_descriptor (workspace : Workspace Custom) (name : DialectName) :
    workspace.Describes name (workspace.descriptor name) := by
  cases valid : name.isValid with
  | false =>
    rw [workspace.descriptor_of_invalid valid]
    exact .refused workspace name _
  | true =>
    cases present : workspace.session.descriptor? name with
    | some loaded =>
      rw [workspace.descriptor_of_loaded name loaded valid present]
      exact ⟨.refl _, fun _ answered => present.trans (congrArg some (Except.ok.inj answered))⟩
    | none =>
      cases available : (workspace.environment.dialect? name).isSome with
      | true =>
        rw [workspace.descriptor_of_available valid present available]
        exact workspace.describes_loadAvailable name
      | false =>
        rw [workspace.descriptor_of_unavailable valid present available]
        have loads : workspace.Evolves (workspace.loadModule name).state :=
          workspace.evolves_environment (workspace.environment.grows_loadModule name)
        cases answered : (workspace.loadModule name).answer with
        | error error =>
          rw [Attempt.andThen_of_error _ _ error answered]
          exact ⟨loads, nofun⟩
        | ok found =>
          rw [Attempt.andThen_of_ok _ _ found answered]
          have describes : (workspace.loadModule name).state.Describes name
              (if found then (workspace.loadModule name).state.loadAvailable name
                else .idle (workspace.loadModule name).state (.error (.unknownDialect name))) := by
            split
            · exact describes_loadAvailable _ name
            · exact .refused _ name _
          exact ⟨loads.trans describes.evolves, describes.described⟩

/-! ### Looking views up -/

/-- What a lookup comes to: a view that is answered is backed and kept, and if there was a class
for the name, it is the class of the view. -/
structure Shows (before : Workspace Custom) (name : DialectName)
    (attempt : Attempt (Workspace Custom) DialectView) : Prop where
  evolves : before.Evolves attempt.state
  backs : ∀ view, attempt.answer = .ok view → attempt.state.Backs name view
  kept : ∀ view, attempt.answer = .ok view → attempt.state.session.view? name = some view
  loadedClass : ∀ view, attempt.answer = .ok view → ∀ loadedClass,
    before.environment.class? name = some loadedClass → view.loadedClass = some loadedClass

theorem Backs.name_eq {workspace : Workspace Custom} {name : DialectName} {view : DialectView}
    (backs : workspace.Backs name view) : view.name = name :=
  workspace.session.name_of_descriptor? name view.descriptor backs.descriptor

/-- Keeping a view that is backed. -/
theorem Backs.evolves {workspace : Workspace Custom} {name : DialectName} {view : DialectView}
    (backs : workspace.Backs name view) :
    workspace.Evolves { workspace with session := workspace.session.keepView view } := by
  refine ⟨.refl _, List.prefix_refl _, id, fun _ member => .inl member,
    fun probe other kept => ?_⟩
  rw [Session.view?_keepView, backs.name_eq] at kept
  by_cases same : probe = name
  · rw [if_pos same] at kept
    rw [same, ← Option.some.inj kept]
    exact .inr ⟨backs.valid, backs.descriptor, backs.loadedClass⟩
  · rw [if_neg same] at kept
    exact .inl kept

/-- A handle is looked for and the view of it is kept, with the class that there is. -/
theorem shows_of_class (workspace : Workspace Custom) (name : DialectName)
    (found : Option LoadedClass) (present : workspace.environment.class? name = found) :
    workspace.Shows name ((workspace.descriptor name).andThen fun descriptor last =>
      .idle { last with session := last.session.keepView ⟨descriptor, found⟩ }
        (.ok ⟨descriptor, found⟩)) := by
  have describes := workspace.describes_descriptor name
  cases answered : (workspace.descriptor name).answer with
  | error error =>
    rw [Attempt.andThen_of_error _ _ error answered]
    exact ⟨describes.evolves, nofun, nofun, nofun⟩
  | ok descriptor =>
    rw [Attempt.andThen_of_ok _ _ descriptor answered]
    have backs : (workspace.descriptor name).state.Backs name ⟨descriptor, found⟩ :=
      ⟨workspace.isValid_of_descriptor name descriptor answered,
        describes.described descriptor answered,
        fun loadedClass same => describes.evolves.environment.class? (present.trans same)⟩
    refine ⟨describes.evolves.trans backs.evolves, fun view same => ?_, fun view same => ?_,
      fun view same loadedClass there => ?_⟩
    all_goals cases Except.ok.inj same
    · exact ⟨backs.valid, backs.descriptor, backs.loadedClass⟩
    · exact (Session.view?_keepView _ _ name).trans (if_pos backs.name_eq.symm)
    · exact present.symm.trans there

theorem shows_freshView (workspace : Workspace Custom) (name : DialectName) :
    workspace.Shows name (workspace.freshView name) := by
  have grows : workspace.environment.Grows (workspace.environment.classOf name).state := by
    rw [Environment.state_classOf]
    exact workspace.environment.grows_loadModule name
  have asked := workspace.evolves_environment grows
  unfold freshView Attempt.andThen
  dsimp only [Attempt.lift]
  cases answered : (workspace.environment.classOf name).answer with
  | error error => exact ⟨asked, nofun, nofun, nofun⟩
  | ok found =>
    have shows := shows_of_class { workspace with
      environment := (workspace.environment.classOf name).state } name found
      (workspace.environment.class?_classOf name found answered)
    exact ⟨asked.trans shows.evolves, shows.backs, shows.kept,
      fun view same loadedClass there =>
        shows.loadedClass view same loadedClass (grows.class? there)⟩

/-- Where the views are backed, looking one up comes to what looking it up anew comes to. -/
theorem shows_lookUp (workspace : Workspace Custom) (coherent : workspace.Coherent)
    (name : DialectName) : workspace.Shows name (workspace.lookUp name) := by
  unfold lookUp
  cases settled : workspace.settledView? name with
  | none => exact workspace.shows_freshView name
  | some view =>
    obtain ⟨kept, hasClass⟩ := Option.filter_eq_some_iff.mp settled
    refine ⟨.refl _, fun other same => ?_, fun other same => ?_,
      fun other same loadedClass there => ?_⟩
    all_goals cases Except.ok.inj same
    · exact coherent name view kept
    · exact kept
    · obtain ⟨ownClass, own⟩ := Option.isSome_iff_exists.mp hasClass
      rw [own, ← (coherent name view kept).loadedClass ownClass own, there]

theorem view_eq_ok_iff (workspace : Workspace Custom) (access : Access) (name : DialectName)
    (view : DialectView) : (workspace.view access name).answer = .ok view ↔
      (workspace.lookUp name).answer = .ok view := by
  rw [Workspace.view, Attempt.mapError]
  cases (workspace.lookUp name).answer <;> simp [Except.mapError]

theorem shows_view (workspace : Workspace Custom) (coherent : workspace.Coherent)
    (access : Access) (name : DialectName) :
    workspace.Shows name (workspace.view access name) := by
  have shows := workspace.shows_lookUp coherent name
  have answers {view : DialectView} (answered : (workspace.view access name).answer = .ok view) :
      (workspace.lookUp name).answer = .ok view :=
    (workspace.view_eq_ok_iff access name view).mp answered
  exact ⟨shows.evolves, fun view answered => shows.backs view (answers answered),
    fun view answered => shows.kept view (answers answered),
    fun view answered => shows.loadedClass view (answers answered)⟩

/-! ### Deeds -/

theorem evolves_create (workspace : Workspace Custom) (draft : Draft) :
    workspace.Evolves (workspace.create draft).state := by
  unfold create
  split
  · exact .refl _
  · refine .andThen (workspace.evolves_environment (workspace.environment.grows_loadModule _))
      fun _ => ?_
    split
    · exact .refl _
    · exact .of_same (.refl _) rfl rfl

theorem evolves_build (workspace : Workspace Custom) (opClass : OpClass) (draft : Draft) :
    workspace.Evolves (workspace.build opClass draft).state := by
  unfold build
  split
  · exact .refl _
  · exact workspace.evolves_create _

theorem evolves_buildFrom (workspace : Workspace Custom) (view : DialectView) (op : String)
    (draft : Draft) : workspace.Evolves (workspace.buildFrom view op draft).state := by
  unfold buildFrom
  split
  · exact .refl _
  · exact workspace.evolves_build _ draft

theorem evolves_eraseOrKeep (workspace : Workspace Custom) (ref : OpRef) :
    workspace.Evolves (workspace.eraseOrKeep ref) := by
  unfold eraseOrKeep Session.erase
  cases workspace.session.operations.erase ref with
  | error error => exact .refl _
  | ok operations => exact .of_same (.refl _) rfl rfl

theorem evolves_view (workspace : Workspace Custom) (access : Access) (name : DialectName) :
    workspace.Evolves (workspace.view access name).state := by
  show workspace.Evolves (workspace.lookUp name).state
  unfold lookUp
  split
  · exact .refl _
  · exact (workspace.shows_freshView name).evolves

theorem evolves_loadEach (workspace : Workspace Custom) (dialects : List (Dialect Custom))
    (available : ∀ dialect ∈ dialects, dialect ∈ workspace.environment.available) :
    workspace.Evolves (workspace.loadEach dialects).state := by
  induction dialects generalizing workspace with
  | nil => exact .refl _
  | cons dialect rest inductionHypothesis =>
    rw [List.forall_mem_cons] at available
    exact (workspace.evolves_load dialect available.1).trans
      (inductionHypothesis (workspace.load dialect).state available.2)

theorem evolves_loadAll (workspace : Workspace Custom) :
    workspace.Evolves workspace.loadAll.state :=
  workspace.evolves_loadEach workspace.environment.available fun _ member => member

theorem evolves_perform (workspace : Workspace Custom) (deed : Deed Custom) :
    workspace.Evolves (workspace.perform deed) := by
  cases deed with
  | create draft => exact workspace.evolves_create draft
  | build opClass draft => exact workspace.evolves_build opClass draft
  | buildFrom view op draft => exact workspace.evolves_buildFrom view op draft
  | erase ref => exact workspace.evolves_eraseOrKeep ref
  | setAttribute ref name value => exact .of_same (.refl _) rfl rfl
  | setLocation ref location => exact .of_same (.refl _) rfl rfl
  | descriptor name => exact (workspace.describes_descriptor name).evolves
  | view access name => exact workspace.evolves_view access name
  | loadAll => exact workspace.evolves_loadAll
  | setAllowsUnregistered allow => exact .of_same (.refl _) rfl rfl
  | share deed => exact workspace.evolves_environment (workspace.environment.grows_perform deed)

theorem evolves_performAll (workspace : Workspace Custom) (deeds : List (Deed Custom)) :
    workspace.Evolves (workspace.performAll deeds) :=
  performAll_of_perform (motive := workspace.Evolves)
    (fun between deed evolves => evolves.trans (between.evolves_perform deed)) (.refl _) deeds

/-! ### Starting a session -/

theorem evolves_demandEach (workspace : Workspace Custom) (names : List String) :
    workspace.Evolves (workspace.demandEach names).state := by
  induction names generalizing workspace with
  | nil => exact .refl _
  | cons name rest inductionHypothesis =>
    exact .andThen (workspace.evolves_view .byIndex ⟨name⟩) fun _ => inductionHypothesis _

theorem evolves_tryEach (workspace : Workspace Custom) (names : List String) :
    workspace.Evolves (workspace.tryEach names).state := by
  induction names generalizing workspace with
  | nil => exact .refl _
  | cons name rest inductionHypothesis =>
    exact (workspace.evolves_view .byIndex ⟨name⟩).trans (inductionHypothesis _)

theorem evolves_start (environment : Environment Custom) (options : Start) :
    Evolves ⟨environment, Session.empty⟩ (start environment options).state := by
  refine .andThen ?_ fun _ => .of_same (.refl _) rfl rfl
  cases options.names with
  | some names => exact evolves_demandEach _ names
  | none =>
    show Evolves _ (loadByDefault ⟨environment, Session.empty⟩).state
    unfold loadByDefault
    split
    · exact evolves_loadAll _
    · exact evolves_tryEach _ _

/-- A session starts empty, and every time of it comes of that. -/
theorem evolves_start_performAll (environment : Environment Custom) (options : Start)
    (deeds : List (Deed Custom)) :
    Evolves ⟨environment, Session.empty⟩ ((start environment options).state.performAll deeds) :=
  (evolves_start environment options).trans (evolves_performAll _ deeds)

/-- At every time of a session, what is loaded is in order. -/
theorem stocked_start (environment : Environment Custom) (options : Start)
    (deeds : List (Deed Custom)) :
    ((start environment options).state.performAll deeds).Stocked :=
  (evolves_start_performAll environment options deeds).stocked (stocked_empty environment)

/-- At every time of a session, what is available in its environment is in order. -/
theorem supplied_start {environment : Environment Custom} (reached : environment.Reached)
    (options : Start) (deeds : List (Deed Custom)) :
    ((start environment options).state.performAll deeds).environment.Supplied :=
  (evolves_start_performAll environment options deeds).environment.supplied reached.supplied

/-! ### Lookups without a search -/

/-- A view with a class that is backed, but not kept, is found again and kept. -/
theorem Backs.view_eq {workspace : Workspace Custom} {name : DialectName} {view : DialectView}
    (backs : workspace.Backs name view) (hasClass : view.loadedClass.isSome = true)
    (absent : workspace.session.view? name = none) (access : Access) :
    workspace.view access name =
      .idle { workspace with session := workspace.session.keepView view } (.ok view) := by
  obtain ⟨loadedClass, own⟩ := Option.isSome_iff_exists.mp hasClass
  have asked := workspace.environment.classOf_of_class? name loadedClass
    (backs.loadedClass loadedClass own)
  have described := workspace.descriptor_of_loaded name view.descriptor backs.valid
    backs.descriptor
  obtain ⟨descriptor, _⟩ := view
  cases own
  rw [Workspace.view, lookUp, settledView?, absent, Option.filter_none]
  dsimp only
  rw [freshView, asked]
  dsimp only [Attempt.andThen, Attempt.lift, Attempt.idle]
  rw [described]
  rfl

/-- A view that is answered without a search is the view that a search would come to, and the
search would leave everything as it is, up to the order in which views are kept. -/
theorem Coherent.view_forgotten {workspace : Workspace Custom} (coherent : workspace.Coherent)
    {name : DialectName} {view : DialectView} (settled : workspace.settledView? name = some view)
    (access : Access) :
    let known := workspace.view access name
    let anew := { workspace with session := workspace.session.forgetView name }.view access name
    known.answer = .ok view ∧ anew.answer = .ok view ∧
      (∃ views, anew.state =
        { known.state with session := { known.state.session with views := views } }) ∧
      ∀ probe, anew.state.session.view? probe = known.state.session.view? probe := by
  intro known anew
  obtain ⟨kept, hasClass⟩ := Option.filter_eq_some_iff.mp settled
  have backs := coherent name view kept
  have asked : known = .idle workspace (.ok view) := by
    show (workspace.lookUp name).mapError (reportMiss access) = _
    rw [lookUp, settled]
    rfl
  have backsForgotten : Backs { workspace with session := workspace.session.forgetView name }
      name view := ⟨backs.valid, backs.descriptor, backs.loadedClass⟩
  have found : anew = .idle _ (.ok view) := backsForgotten.view_eq hasClass
    ((workspace.session.view?_forgetView name name).trans (if_pos rfl)) access
  rw [asked, found]
  refine ⟨rfl, rfl, ⟨_, rfl⟩, fun probe => ?_⟩
  show ((workspace.session.forgetView name).keepView view).view? probe =
    workspace.session.view? probe
  rw [Session.view?_keepView, Session.view?_forgetView, backs.name_eq]
  by_cases same : probe = name
  · rw [if_pos same, same, kept]
  · rw [if_neg same, if_neg same]

end Workspace

end Polyglot
