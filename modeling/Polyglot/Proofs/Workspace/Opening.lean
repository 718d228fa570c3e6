/-
This file proves what a session loads when it is started, name by name and in order. A start that
is given names looks them up one after the other, each in the state that the one before left behind,
and fails at the first that is not found. A start that is given none loads all that is available, or
goes through the start names of its environment and skips those that are not found.

A lookup that finds its name puts it behind the loaded names, unless it is among them, and one that
fails loads nothing, whatever modules it brings in on the way. So the loaded names are a matter of
which lookups succeed, each at its turn.
-/

import Polyglot.Proofs.Workspace.Handles
import Mathlib.Data.List.Induction

namespace Polyglot

/-- A list with one more element behind is split at that element or within the list. -/
theorem split_concat {Element : Type} {elements front back : List Element}
    {last element : Element} (split : elements ++ [last] = front ++ element :: back) :
    (elements = front ∧ last = element ∧ back = []) ∨
      ∃ rest, back = rest ++ [last] ∧ elements = front ++ element :: rest := by
  rcases List.eq_nil_or_concat back with rfl | ⟨rest, other, rfl⟩
  · obtain ⟨same, ends⟩ := List.append_inj' split rfl
    exact .inl ⟨same, List.singleton_inj.1 ends, rfl⟩
  · rw [List.concat_eq_append, ← List.cons_append, ← List.append_assoc] at split
    obtain ⟨same, ends⟩ := List.append_inj' split rfl
    cases List.singleton_inj.1 ends
    exact .inr ⟨rest, List.concat_eq_append, same⟩

namespace Environment

variable {Custom : Type}

theorem startNames_register (environment : Environment Custom) (dialect : Dialect Custom) :
    (environment.register dialect).state.startNames = environment.startNames := by
  rcases environment.register_cases dialect with ⟨same, _⟩ | ⟨grown, _⟩
  · rw [same]
  · rw [grown]

theorem startNames_loadModule (environment : Environment Custom) (name : DialectName) :
    (environment.loadModule name).state.startNames = environment.startNames := by
  have loads := environment.loads name
  generalize environment.loadModule name = attempt at loads ⊢
  obtain ⟨answer, after, log⟩ := attempt
  cases loads with
  | kept => rfl
  | found _ _ path dialectModule =>
    dsimp only
    rw [adopt]
    split
    · exact startNames_register _ _
    · rfl

/-- No name is among the start names twice. -/
theorem Reached.nodup_startNames {environment : Environment Custom}
    (reached : environment.Reached) : environment.startNames.Nodup := by
  induction reached with
  | fresh stamp loader => exact List.nodup_nil
  | performed environment deed _ inductionHypothesis =>
    cases deed with
    | register dialect => rwa [perform, environment.startNames_register dialect]
    | appendRoot root => exact inductionHypothesis
    | appendStartName name =>
      rw [perform, appendStartName]
      split
      · exact inductionHypothesis
      next absent =>
        refine inductionHypothesis.append (List.nodup_singleton name) ?_
        rw [List.disjoint_singleton]
        simpa using absent
    | setLoadsAll choice => exact inductionHypothesis
    | loadModule name => rwa [perform, environment.startNames_loadModule name]

end Environment

namespace Workspace

variable {Custom : Type} (workspace : Workspace Custom)

/-! ### One lookup -/

/-- A handle that is given out leaves its name loaded, behind the others if it is new. -/
theorem loadedNames_descriptor {name : DialectName} {descriptor : Descriptor}
    (answered : (workspace.descriptor name).answer = .ok descriptor) :
    (workspace.descriptor name).state.session.loadedNames =
      if name ∈ workspace.session.loadedNames then workspace.session.loadedNames
      else workspace.session.loadedNames ++ [name] := by
  have valid := workspace.isValid_of_descriptor name descriptor answered
  by_cases present : name ∈ workspace.session.loadedNames
  · rw [if_pos present]
    exact workspace.loadedNames_descriptor_of_mem valid present
  · rw [if_neg present]
    have absent := (workspace.session.not_mem_loadedNames_iff name).1 present
    exact workspace.extends_descriptor absent descriptor answered

theorem loadedNames_freshView {name : DialectName} {view : DialectView}
    (answered : (workspace.freshView name).answer = .ok view) :
    (workspace.freshView name).state.session.loadedNames =
      if name ∈ workspace.session.loadedNames then workspace.session.loadedNames
      else workspace.session.loadedNames ++ [name] := by
  cases asked : (workspace.loadModule name).answer with
  | error error =>
    have denies := workspace.denies_freshView name fun found other => by
      cases asked.symm.trans other
    cases answered.symm.trans denies.answer
  | ok found =>
    obtain ⟨loadedClass, log, same⟩ := workspace.freshView_eq name found asked
    rw [same] at answered ⊢
    cases described : ((workspace.loadModule name).state.descriptor name).answer with
    | error error =>
      rw [Attempt.andThen_of_error _ _ error described] at answered
      cases answered
    | ok descriptor =>
      rw [Attempt.andThen_of_ok _ _ descriptor described]
      exact (workspace.loadModule name).state.loadedNames_descriptor described

/-- A view that is found leaves its name loaded, behind the others if it is new. -/
theorem Coherent.loadedNames_view {workspace : Workspace Custom} (coherent : workspace.Coherent)
    {access : Access} {name : DialectName} {view : DialectView}
    (answered : (workspace.view access name).answer = .ok view) :
    (workspace.view access name).state.session.loadedNames =
      if name ∈ workspace.session.loadedNames then workspace.session.loadedNames
      else workspace.session.loadedNames ++ [name] := by
  have found := (workspace.view_eq_ok_iff access name view).1 answered
  change (workspace.lookUp name).state.session.loadedNames = _
  unfold lookUp at found ⊢
  cases settled : workspace.settledView? name with
  | none =>
    rw [settled] at found
    exact workspace.loadedNames_freshView found
  | some kept =>
    have backs := coherent name kept (Option.filter_eq_some_iff.1 settled).1
    obtain ⟨dialect, _, _, loaded⟩ := Session.dialectAt?_of_descriptor? backs.descriptor
    have present : name ∈ workspace.session.loadedNames :=
      (workspace.session.mem_loadedNames_iff name).2 (Option.isSome_of_eq_some loaded)
    rw [if_pos present]
    rfl

/-! ### Lookups in turn -/

/-- The workspace after names were looked up one after the other, found or not. -/
def askAll (names : List String) : Workspace Custom :=
  names.foldl (fun before name => (before.view .byIndex ⟨name⟩).state) workspace

/-- Looking the name up succeeds. -/
def Finds (name : String) : Prop :=
  ∃ view, (workspace.view .byIndex ⟨name⟩).answer = .ok view

/-- Looking the names up one after the other succeeds throughout. -/
def FindsAll (names : List String) : Prop :=
  ∀ front name back, names = front ++ name :: back → (workspace.askAll front).Finds name

/-- The texts of the loaded names, in the order of their loading. -/
def listing : List String :=
  workspace.session.loadedNames.map DialectName.text

theorem askAll_concat (names : List String) (last : String) :
    workspace.askAll (names ++ [last]) =
      ((workspace.askAll names).view .byIndex ⟨last⟩).state := by
  rw [askAll, List.foldl_append]
  rfl

theorem evolves_askAll (names : List String) : workspace.Evolves (workspace.askAll names) := by
  induction names generalizing workspace with
  | nil => exact .refl _
  | cons name rest inductionHypothesis =>
    exact (workspace.evolves_view .byIndex ⟨name⟩).trans (inductionHypothesis _)

theorem finds_or_fails (name : String) :
    workspace.Finds name ∨ ∃ error, (workspace.view .byIndex ⟨name⟩).answer = .error error := by
  cases answered : (workspace.view .byIndex ⟨name⟩).answer with
  | ok view => exact .inl ⟨view, answered⟩
  | error error => exact .inr ⟨error, rfl⟩

theorem findsAll_concat (names : List String) (last : String) :
    workspace.FindsAll (names ++ [last]) ↔
      workspace.FindsAll names ∧ (workspace.askAll names).Finds last := by
  constructor
  · intro found
    refine ⟨fun front name back split => ?_, found names last [] rfl⟩
    exact found front name (back ++ [last]) (by rw [split, List.append_assoc, List.cons_append])
  · rintro ⟨found, foundLast⟩ front name back split
    rcases split_concat split with ⟨rfl, rfl, _⟩ | ⟨rest, _, within⟩
    · exact foundLast
    · exact found front name rest within

theorem findsAll_cons (name : String) (rest : List String) :
    workspace.FindsAll (name :: rest) ↔
      workspace.Finds name ∧ (workspace.view .byIndex ⟨name⟩).state.FindsAll rest := by
  constructor
  · intro found
    exact ⟨found [] name rest rfl, fun front other back split =>
      found (name :: front) other back (by rw [split, List.cons_append])⟩
  · rintro ⟨foundFirst, found⟩ front other back split
    cases front with
    | nil =>
      cases split
      exact foundFirst
    | cons first front =>
      cases split
      exact found front other back rfl

/-- Lookups in turn all succeed, or there is a first one that fails. -/
theorem findsAll_or_fails (names : List String) :
    workspace.FindsAll names ∨ ∃ front name back error, names = front ++ name :: back ∧
      workspace.FindsAll front ∧
        ((workspace.askAll front).view .byIndex ⟨name⟩).answer = .error error := by
  induction names using List.reverseRecOn with
  | nil => exact .inl fun front name back split => absurd split (by simp)
  | append_singleton names last inductionHypothesis =>
    rcases inductionHypothesis with found | ⟨front, name, back, error, split, found, failed⟩
    · rcases (workspace.askAll names).finds_or_fails last with foundLast | ⟨error, failed⟩
      · exact .inl ((workspace.findsAll_concat names last).2 ⟨found, foundLast⟩)
      · exact .inr ⟨names, last, [], error, rfl, found, failed⟩
    · exact .inr ⟨front, name, back ++ [last], error,
        by rw [split, List.append_assoc, List.cons_append], found, failed⟩

/-- What is listed after one more lookup. -/
theorem listing_view (coherent : workspace.Coherent) (name : String) :
    (workspace.Finds name ∧ (workspace.view .byIndex ⟨name⟩).state.listing =
        if name ∈ workspace.listing then workspace.listing else workspace.listing ++ [name]) ∨
      (¬ workspace.Finds name ∧
        (workspace.view .byIndex ⟨name⟩).state.listing = workspace.listing) := by
  rcases workspace.finds_or_fails name with ⟨view, answered⟩ | ⟨error, failed⟩
  · refine .inl ⟨⟨view, answered⟩, ?_⟩
    have listed : name ∈ workspace.listing ↔ ⟨name⟩ ∈ workspace.session.loadedNames := by
      rw [listing, List.mem_map]
      constructor
      · rintro ⟨⟨_⟩, member, rfl⟩
        exact member
      · exact fun member => ⟨_, member, rfl⟩
    by_cases present : (⟨name⟩ : DialectName) ∈ workspace.session.loadedNames
    · rw [if_pos (listed.2 present), listing, coherent.loadedNames_view answered, if_pos present,
        listing]
    · rw [if_neg (present ∘ listed.1), listing, coherent.loadedNames_view answered,
        if_neg present, List.map_append]
      rfl
  · refine .inr ⟨fun ⟨view, answered⟩ => ?_, ?_⟩
    · cases answered.symm.trans failed
    · rw [listing, (workspace.spares_view .byIndex ⟨name⟩ error failed).1, listing]

/-- Where nothing is loaded, lookups that all succeed load each name once, at its first turn. -/
theorem listing_askAll_of_findsAll (coherent : workspace.Coherent)
    (blank : workspace.session.loaded = []) {names : List String}
    (found : workspace.FindsAll names) :
    (workspace.askAll names).listing = names.eraseDups := by
  induction names using List.reverseRecOn with
  | nil => rw [askAll, List.foldl_nil, listing, Session.loadedNames, blank]; rfl
  | append_singleton names last inductionHypothesis =>
    obtain ⟨foundFront, foundLast⟩ := (workspace.findsAll_concat names last).1 found
    have front := inductionHypothesis foundFront
    have coherentThen := (workspace.evolves_askAll names).coherent coherent
    rcases listing_view _ coherentThen last with ⟨_, listed⟩ | ⟨missed, _⟩
    · rw [askAll_concat, listed, front, List.eraseDups_append]
      by_cases earlier : last ∈ names
      · rw [if_pos (List.mem_eraseDups.2 earlier)]
        simp [List.removeAll, earlier]
      · rw [if_neg (earlier ∘ List.mem_eraseDups.1)]
        simp [List.removeAll, earlier, List.eraseDups_cons]
    · exact absurd foundLast missed

/-- Where nothing is loaded, lookups of different names load those that succeed at their turn, in
order. -/
theorem listing_askAll_of_nodup (coherent : workspace.Coherent)
    (blank : workspace.session.loaded = []) {names : List String} (distinct : names.Nodup) :
    (workspace.askAll names).listing.Sublist names ∧
      ∀ front name back, names = front ++ name :: back →
        (name ∈ (workspace.askAll names).listing ↔ (workspace.askAll front).Finds name) := by
  induction names using List.reverseRecOn with
  | nil =>
    refine ⟨?_, fun front name back split => absurd split (by simp)⟩
    rw [askAll, List.foldl_nil, listing, Session.loadedNames, blank]
    exact List.Sublist.slnil
  | append_singleton names last inductionHypothesis =>
    obtain ⟨distinctFront, _, apart⟩ := List.nodup_append.1 distinct
    obtain ⟨sub, turns⟩ := inductionHypothesis distinctFront
    have new : last ∉ names := fun member => apart last member last List.mem_cons_self rfl
    have unlisted : last ∉ (workspace.askAll names).listing := fun member => new (sub.subset member)
    have coherentThen := (workspace.evolves_askAll names).coherent coherent
    rw [askAll_concat]
    rcases listing_view _ coherentThen last with ⟨foundLast, listed⟩ | ⟨missed, listed⟩
    · rw [listed, if_neg unlisted]
      refine ⟨sub.append (List.Sublist.refl _), fun front name back split => ?_⟩
      rw [List.mem_append, List.mem_singleton]
      rcases split_concat split with ⟨rfl, rfl, _⟩ | ⟨rest, _, within⟩
      · exact iff_of_true (.inr rfl) foundLast
      · have other : name ≠ last := by
          rintro rfl
          exact new (by simp [within])
        rw [← turns front name rest within]
        exact or_iff_left other
    · rw [listed]
      refine ⟨sub.trans (List.sublist_append_left _ _), fun front name back split => ?_⟩
      rcases split_concat split with ⟨rfl, rfl, _⟩ | ⟨rest, _, within⟩
      · exact iff_of_false unlisted missed
      · exact turns front name rest within

/-! ### Demanding names and trying them -/

theorem demandEach_of_findsAll {names : List String} (found : workspace.FindsAll names) :
    (workspace.demandEach names).answer = .ok () ∧
      (workspace.demandEach names).state = workspace.askAll names := by
  induction names generalizing workspace with
  | nil => exact ⟨rfl, rfl⟩
  | cons name rest inductionHypothesis =>
    obtain ⟨⟨view, answered⟩, foundRest⟩ := (workspace.findsAll_cons name rest).1 found
    rw [demandEach, Attempt.andThen_of_ok _ _ view answered]
    exact inductionHypothesis _ foundRest

theorem answer_demandEach_of_fails {front : List String} {name : String} {error : Error}
    (found : workspace.FindsAll front)
    (failed : ((workspace.askAll front).view .byIndex ⟨name⟩).answer = .error error)
    (back : List String) :
    (workspace.demandEach (front ++ name :: back)).answer = .error error := by
  induction front generalizing workspace with
  | nil =>
    rw [List.nil_append, demandEach]
    rw [askAll, List.foldl_nil] at failed
    rw [Attempt.andThen_of_error _ _ error failed]
  | cons first front inductionHypothesis =>
    obtain ⟨⟨view, answered⟩, foundRest⟩ := (workspace.findsAll_cons first front).1 found
    rw [List.cons_append, demandEach, Attempt.andThen_of_ok _ _ view answered]
    exact inductionHypothesis _ foundRest failed

/-- Demanding names succeeds if they are all found. -/
theorem demandEach_eq_ok_iff (names : List String) :
    (workspace.demandEach names).answer = .ok () ↔ workspace.FindsAll names := by
  refine ⟨fun answered => ?_, fun found => (workspace.demandEach_of_findsAll found).1⟩
  rcases workspace.findsAll_or_fails names with
    found | ⟨front, name, back, error, rfl, found, failed⟩
  · exact found
  · cases answered.symm.trans (workspace.answer_demandEach_of_fails found failed back)

/-- Demanding names fails with what the first of them that is not found is reported with. -/
theorem demandEach_eq_error_iff (names : List String) (error : Error) :
    (workspace.demandEach names).answer = .error error ↔
      ∃ front name back, names = front ++ name :: back ∧ workspace.FindsAll front ∧
        ((workspace.askAll front).view .byIndex ⟨name⟩).answer = .error error := by
  constructor
  · intro answered
    rcases workspace.findsAll_or_fails names with found |
      ⟨front, name, back, other, rfl, found, failed⟩
    · cases answered.symm.trans (workspace.demandEach_of_findsAll found).1
    · cases answered.symm.trans (workspace.answer_demandEach_of_fails found failed back)
      exact ⟨front, name, back, rfl, found, failed⟩
  · rintro ⟨front, name, back, rfl, found, failed⟩
    exact workspace.answer_demandEach_of_fails found failed back

theorem tryEach_asks (names : List String) :
    (workspace.tryEach names).answer = .ok () ∧
      (workspace.tryEach names).state = workspace.askAll names := by
  induction names generalizing workspace with
  | nil => exact ⟨rfl, rfl⟩
  | cons name rest inductionHypothesis =>
    exact inductionHypothesis (workspace.view .byIndex ⟨name⟩).state

/-! ### Loading all that is available -/

/-- Loading dialects of different names puts those behind that are not loaded yet. -/
theorem loadedNames_loadEach {dialects : List (Dialect Custom)}
    (distinct : (dialects.map Dialect.name).Nodup) :
    (workspace.loadEach dialects).state.session.loadedNames =
      workspace.session.loadedNames ++
        (dialects.map Dialect.name).filter (· ∉ workspace.session.loadedNames) := by
  induction dialects generalizing workspace with
  | nil => exact (List.append_nil _).symm
  | cons dialect rest inductionHypothesis =>
    obtain ⟨new, distinctRest⟩ := List.nodup_cons.1 distinct
    change ((workspace.load dialect).state.loadEach rest).state.session.loadedNames = _
    rw [inductionHypothesis _ distinctRest, List.map_cons, List.filter_cons]
    change (workspace.session.load dialect).state.loadedNames ++
      List.filter (· ∉ (workspace.session.load dialect).state.loadedNames) _ = _
    by_cases loaded : dialect.name ∈ workspace.session.loadedNames
    · obtain ⟨descriptor, same⟩ := workspace.session.load_of_mem loaded
      rw [same, if_neg (by simpa using loaded)]
      rfl
    · rw [workspace.session.loadedNames_load_of_not_mem loaded, if_pos (by simpa using loaded),
        List.append_assoc, List.singleton_append]
      -- What was just loaded is not among the names that are still to come.
      have others : ∀ name ∈ rest.map Dialect.name, name ≠ dialect.name :=
        fun name member same => new (same ▸ member)
      congr 2
      refine List.filter_congr fun name member => ?_
      simp [others name member]

theorem environment_loadEach (dialects : List (Dialect Custom)) :
    (workspace.loadEach dialects).state.environment = workspace.environment := by
  induction dialects generalizing workspace with
  | nil => rfl
  | cons dialect rest inductionHypothesis =>
    exact inductionHypothesis (workspace.load dialect).state

theorem loadEach_of_loaded {dialects : List (Dialect Custom)}
    (loaded : ∀ dialect ∈ dialects, dialect.name ∈ workspace.session.loadedNames) :
    workspace.loadEach dialects = .idle workspace (.ok ()) := by
  induction dialects with
  | nil => rfl
  | cons dialect rest inductionHypothesis =>
    obtain ⟨loadedFirst, loadedRest⟩ := List.forall_mem_cons.1 loaded
    obtain ⟨descriptor, same⟩ := workspace.session.load_of_mem loadedFirst
    rw [loadEach, load, same]
    dsimp only [Attempt.lift, Attempt.idle]
    rw [inductionHypothesis loadedRest]
    rfl

/-- Loading all that is available puts what is not loaded yet behind, in the order of registration,
and leaves nothing to do. -/
theorem loadAll_exact (distinct : workspace.environment.availableNames.Nodup) :
    let after := workspace.loadAll.state
    after.session.loadedNames = workspace.session.loadedNames ++
        workspace.environment.availableNames.filter (· ∉ workspace.session.loadedNames) ∧
      after.loadAll = .idle after (.ok ()) := by
  intro after
  have names : after.session.loadedNames = workspace.session.loadedNames ++
      workspace.environment.availableNames.filter (· ∉ workspace.session.loadedNames) :=
    workspace.loadedNames_loadEach distinct
  refine ⟨names, after.loadEach_of_loaded fun dialect member => ?_⟩
  have kept : after.environment = workspace.environment := workspace.environment_loadEach _
  rw [kept] at member
  have available : dialect.name ∈ workspace.environment.availableNames := List.mem_map_of_mem member
  rw [names, List.mem_append, List.mem_filter]
  by_cases loaded : dialect.name ∈ workspace.session.loadedNames
  · exact .inl loaded
  · exact .inr ⟨available, by simpa using loaded⟩

theorem answer_loadAll : workspace.loadAll.answer = .ok () := by
  rw [loadAll]
  induction workspace.environment.available generalizing workspace with
  | nil => rfl
  | cons dialect rest inductionHypothesis =>
    exact inductionHypothesis (workspace.load dialect).state

/-- A start that is given no names has nothing to fail at. -/
theorem answer_loadByDefault : workspace.loadByDefault.answer = .ok () := by
  rw [loadByDefault]
  cases workspace.environment.loadsAll with
  | true => exact workspace.answer_loadAll
  | false => exact (workspace.tryEach_asks _).1

/-! ### Starting a session -/

/-- The policy on unregistered dialects is set at the end of a start and changes nothing else. -/
theorem settle (loading : Attempt (Workspace Custom) Unit) (allows : Bool) :
    let settled := (loading.andThen fun _ after =>
      .idle (after.setAllowsUnregistered allows) (.ok ())).after [.sessionCreated]
    settled.answer = loading.answer ∧ settled.state.listing = loading.state.listing := by
  cases answered : loading.answer with
  | ok =>
    rw [Attempt.andThen_of_ok _ _ () answered]
    exact ⟨rfl, rfl⟩
  | error error =>
    rw [Attempt.andThen_of_error _ _ error answered]
    exact ⟨rfl, rfl⟩

/-- **What a session loads when it is started.** If names are given, the start succeeds exactly if
looking them up one after the other succeeds throughout, and then they are what is loaded, without
the later of equal ones; otherwise it fails as the first lookup that fails. If none are given, the
start succeeds. It loads what is available, in the order of registration, or goes through the start
names, which are all different and of which those are loaded whose lookup succeeds at its turn. At
any time of a session, loading all that is available puts what is not loaded yet behind the others,
in the order of registration, and then there is nothing left to load. -/
theorem start_loads_exactly {environment : Environment Custom} (reached : environment.Reached) :
    let fresh : Workspace Custom := ⟨environment, Session.empty⟩
    (∀ names allows,
      let opened := start environment ⟨some names, allows⟩
      (opened.answer = .ok () ↔ fresh.FindsAll names) ∧
      (fresh.FindsAll names → opened.state.listing = names.eraseDups) ∧
      ∀ error, opened.answer = .error error ↔
        ∃ front name back, names = front ++ name :: back ∧ fresh.FindsAll front ∧
          ((fresh.askAll front).view .byIndex ⟨name⟩).answer = .error error) ∧
    (∀ allows,
      let opened := start environment ⟨none, allows⟩
      opened.answer = .ok () ∧
      (environment.loadsAll = true →
        opened.state.listing = environment.availableNames.map DialectName.text) ∧
      (environment.loadsAll = false →
        environment.startNames.Nodup ∧ opened.state.listing.Sublist environment.startNames ∧
        ∀ front name back, environment.startNames = front ++ name :: back →
          (name ∈ opened.state.listing ↔ (fresh.askAll front).Finds name))) ∧
    ∀ options deeds,
      let workspace := (start environment options).state.performAll deeds
      let after := workspace.loadAll.state
      after.session.loadedNames = workspace.session.loadedNames ++
          workspace.environment.availableNames.filter (· ∉ workspace.session.loadedNames) ∧
        after.loadAll = .idle after (.ok ()) := by
  intro fresh
  have coherent : fresh.Coherent := coherent_empty environment
  refine ⟨fun names allows => ?_, fun allows => ?_, fun options deeds => ?_⟩
  · intro opened
    obtain ⟨answer, listing⟩ := settle (fresh.demandEach names) allows
    change opened.answer = _ at answer
    change opened.state.listing = _ at listing
    rw [answer, listing]
    refine ⟨fresh.demandEach_eq_ok_iff names, fun found => ?_, fresh.demandEach_eq_error_iff names⟩
    rw [(fresh.demandEach_of_findsAll found).2]
    exact fresh.listing_askAll_of_findsAll coherent rfl found
  · intro opened
    obtain ⟨answer, listing⟩ := settle fresh.loadByDefault allows
    change opened.answer = _ at answer
    change opened.state.listing = _ at listing
    rw [answer, listing, loadByDefault]
    cases loadsAll : environment.loadsAll with
    | true =>
      rw [if_pos rfl]
      refine ⟨fresh.answer_loadAll, fun _ => ?_, fun never => absurd never.symm Bool.false_ne_true⟩
      obtain ⟨names, _⟩ := fresh.loadAll_exact reached.supplied.distinct
      rw [Workspace.listing, names]
      simp [fresh, Session.loadedNames, Session.empty]
    | false =>
      rw [if_neg Bool.false_ne_true]
      obtain ⟨tried, asked⟩ := fresh.tryEach_asks environment.startNames
      refine ⟨tried, fun never => absurd never Bool.false_ne_true, fun _ => ?_⟩
      rw [asked]
      exact ⟨reached.nodup_startNames,
        fresh.listing_askAll_of_nodup coherent rfl reached.nodup_startNames⟩
  · exact loadAll_exact _ (supplied_start reached options deeds).distinct

/-- An environment whose start names begin with one that has a module with a dialect of another
name, which comes next, and one that has a broken module. -/
def winding : Environment Empty :=
  ((((Environment.ofLoader 0 treacherous).perform (.setLoadsAll false)).perform
    (.appendStartName "vec")).perform (.appendStartName "other")).perform (.appendStartName "bad")

/-- The other dialect is there when its turn comes, and it is not if it is asked for without the
name that has it. -/
theorem start_loads_exactly_winding :
    ((start winding ⟨none, false⟩).answer = .ok () ∧
      "other" ∈ (start winding ⟨none, false⟩).state.listing ∧
      "vec" ∉ (start winding ⟨none, false⟩).state.listing ∧
      "bad" ∉ (start winding ⟨none, false⟩).state.listing) ∧
    (start winding ⟨some ["func", "cf", "func"], false⟩).state.listing = ["func", "cf"] ∧
    (start winding ⟨some ["cf", "other", "vec"], false⟩).answer =
      .error ⟨.indexOutOfRange, .unknownDialect ⟨"other"⟩, .unknown, []⟩ := by
  have reached : winding.Reached :=
    .performed _ _ (.performed _ _ (.performed _ _ (.performed _ _ (.fresh 0 treacherous))))
  obtain ⟨given, byDefault, _⟩ := start_loads_exactly reached
  obtain ⟨answered, _, tried⟩ := byDefault false
  obtain ⟨_, _, turns⟩ := tried rfl
  refine ⟨⟨answered, ?_, ?_, ?_⟩, ?_, ?_⟩
  · exact (turns ["vec"] "other" ["bad"] rfl).2 ⟨_, rfl⟩
  · rw [turns [] "vec" ["other", "bad"] rfl]
    rintro ⟨view, found⟩
    cases found
  · rw [turns ["vec", "other"] "bad" [] rfl]
    rintro ⟨view, found⟩
    cases found
  · obtain ⟨found, listing, _⟩ := given ["func", "cf", "func"] false
    exact listing (found.1 rfl)
  · obtain ⟨_, _, fails⟩ := given ["cf", "other", "vec"] false
    exact (fails _).2 ⟨["cf"], "other", ["vec"], rfl, (given ["cf"] false).1.1 rfl, rfl⟩

end Workspace

end Polyglot
