/-
This file proves what a search path does over whole runs of appending roots and resolving
namespaces. A namespace without a module is decided by the first root under which there is
something for it, be it a module or a failure; what stands behind that root does not count, and
what is appended later stands behind it. A namespace with a module keeps it.

Two facts carry this: roots are only appended, and so are modules, each for a valid namespace
that has none, at a path made of a root and the namespace. As a valid namespace has no dot, the
last dot of such a path tells the namespace.
-/

import Mathlib.Data.List.Basic
import Polyglot.Module.SearchPath
import Polyglot.Proofs.Name.Reading

namespace Polyglot

/-! ### Paths -/

/-- What stands behind the last dot is determined by the whole. -/
theorem OpId.behind_injective (before other behind rest : List Char) (noDot : '.' ∉ behind)
    (noDotRest : '.' ∉ rest) (same : before ++ '.' :: behind = other ++ '.' :: rest) :
    behind = rest := by
  have reversed : behind.reverse ++ '.' :: before.reverse =
      rest.reverse ++ '.' :: other.reverse := by
    simpa using congrArg List.reverse same
  have split := splitAtDot_append behind.reverse before.reverse (by simpa using noDot)
  rw [reversed, splitAtDot_append rest.reverse other.reverse (by simpa using noDotRest)] at split
  exact (List.reverse_inj.mp (Prod.mk.inj (Option.some.inj split)).1).symm

namespace SearchPath

variable {Custom : Type}

/-- The path of a module tells its namespace. -/
theorem modulePath_injective (root other : String) (name probe : DialectName)
    (valid : name.isValid = true) (probeValid : probe.isValid = true)
    (same : modulePath root name = modulePath other probe) : name = probe := by
  have characters : root.toList ++ '.' :: name.text.toList =
      other.toList ++ '.' :: probe.text.toList := by
    simpa [modulePath] using congrArg String.toList same
  have texts := OpId.behind_injective _ _ _ _ (name.not_mem_dot valid)
    (probe.not_mem_dot probeValid) characters
  cases name
  cases probe
  exact congrArg DialectName.mk (String.toList_inj.mp texts)

/-! ### Searches -/

/-- Roots without anything for the namespace are passed over. -/
theorem search_append_of_missing (loader : Loader Custom) (name : DialectName)
    (front rest : List String)
    (missing : ∀ root ∈ front, loader (modulePath root name) = .missing) :
    search loader name (front ++ rest) = search loader name rest := by
  induction front with
  | nil => rfl
  | cons root others inductionHypothesis =>
    rw [List.cons_append, search, missing root List.mem_cons_self]
    exact inductionHypothesis fun other member => missing other (List.mem_cons_of_mem _ member)

theorem missed_append_of_missing (loader : Loader Custom) (name : DialectName)
    (front rest : List String)
    (missing : ∀ root ∈ front, loader (modulePath root name) = .missing) :
    missed loader name (front ++ rest) =
      front.map (modulePath · name) ++ missed loader name rest := by
  induction front with
  | nil => rfl
  | cons root others inductionHypothesis =>
    rw [List.cons_append, missed, missing root List.mem_cons_self]
    exact congrArg (modulePath root name :: ·)
      (inductionHypothesis fun other member => missing other (List.mem_cons_of_mem _ member))

/-- A search that comes upon something comes upon the same with more roots behind. -/
theorem search_append (loader : Loader Custom) (name : DialectName) (roots more : List String)
    (decided : search loader name roots ≠ .exhausted) :
    search loader name (roots ++ more) = search loader name roots := by
  induction roots with
  | nil => exact absurd rfl decided
  | cons root others inductionHypothesis =>
    rw [List.cons_append]
    simp only [search] at decided ⊢
    cases there : loader (modulePath root name) with
    | missing =>
      rw [there] at decided
      exact inductionHypothesis decided
    | failed error => rfl
    | found dialectModule => rfl

/-- A module that is found is found under one of the roots. -/
theorem path_of_search (loader : Loader Custom) (name : DialectName) (roots : List String)
    (path : String) (dialectModule : DialectModule Custom)
    (found : search loader name roots = .found path dialectModule) :
    ∃ root ∈ roots, path = modulePath root name := by
  induction roots with
  | nil => cases found
  | cons root others inductionHypothesis =>
    rw [search] at found
    cases there : loader (modulePath root name) with
    | missing =>
      rw [there] at found
      obtain ⟨other, member, same⟩ := inductionHypothesis found
      exact ⟨other, List.mem_cons_of_mem _ member, same⟩
    | failed error =>
      rw [there] at found
      cases found
    | found other =>
      rw [there] at found
      cases found
      exact ⟨root, List.mem_cons_self, rfl⟩

/-! ### What resolving a namespace can come to -/

/-- What resolving a namespace answers, and what it leaves behind. -/
inductive Resolves (searchPath : SearchPath Custom) (name : DialectName) :
    Except Error Bool → SearchPath Custom → Prop where
  | loaded (isLoaded : searchPath.isLoaded name = true) :
      Resolves searchPath name (.ok true) searchPath
  | invalid (unloaded : searchPath.isLoaded name = false) (invalid : name.isValid = false) :
      Resolves searchPath name (.ok false) searchPath
  | exhausted (unloaded : searchPath.isLoaded name = false) (valid : name.isValid = true)
      (searched : search searchPath.loader name searchPath.roots = .exhausted) :
      Resolves searchPath name (.ok false) searchPath
  | failed (unloaded : searchPath.isLoaded name = false) (valid : name.isValid = true)
      (error : Error) (searched : search searchPath.loader name searchPath.roots = .failed error) :
      Resolves searchPath name (.error error) searchPath
  | found (unloaded : searchPath.isLoaded name = false) (valid : name.isValid = true)
      (path : String) (dialectModule : DialectModule Custom)
      (searched : search searchPath.loader name searchPath.roots = .found path dialectModule) :
      Resolves searchPath name (.ok true) (searchPath.keep name (dialectModule.load path))

theorem resolves (searchPath : SearchPath Custom) (name : DialectName) :
    searchPath.Resolves name (searchPath.resolve name).answer (searchPath.resolve name).state := by
  unfold resolve
  by_cases isLoaded : searchPath.isLoaded name = true
  · rw [if_pos isLoaded]
    exact .loaded isLoaded
  · rw [if_neg isLoaded]
    rw [Bool.not_eq_true] at isLoaded
    cases valid : name.isValid with
    | false => exact .invalid isLoaded valid
    | true =>
      cases searched : search searchPath.loader name searchPath.roots with
      | exhausted => exact .exhausted isLoaded valid searched
      | failed error => exact .failed isLoaded valid error searched
      | found path dialectModule => exact .found isLoaded valid path dialectModule searched

theorem module?_keep (searchPath : SearchPath Custom) (name probe : DialectName)
    (loaded : LoadedModule Custom) :
    (searchPath.keep name loaded).module? probe =
      (searchPath.module? probe).or (if name = probe then some loaded else none) := by
  simp only [module?, keep, List.find?_append, List.find?_singleton, decide_eq_true_eq]
  cases searchPath.loaded.find? fun entry => decide (entry.1 = probe) with
  | some entry => rfl
  | none => by_cases same : name = probe <;> simp [same]

theorem isLoaded_eq_false_iff (searchPath : SearchPath Custom) (name : DialectName) :
    searchPath.isLoaded name = false ↔ searchPath.module? name = none := by
  rw [isLoaded, Option.isSome_eq_false_iff, Option.isNone_iff_eq_none]

theorem module?_keep_self (searchPath : SearchPath Custom) (name : DialectName)
    (loaded : LoadedModule Custom) (unloaded : searchPath.isLoaded name = false) :
    (searchPath.keep name loaded).module? name = some loaded := by
  rw [module?_keep, (searchPath.isLoaded_eq_false_iff name).mp unloaded, if_pos rfl, Option.none_or]

namespace Resolves

variable {searchPath after : SearchPath Custom} {name : DialectName} {answer : Except Error Bool}
  (resolves : searchPath.Resolves name answer after)
include resolves

/-- Only a success changes anything. -/
theorem unchanged (unsuccessful : answer ≠ .ok true) : after = searchPath := by
  cases resolves with
  | found => exact absurd rfl unsuccessful
  | _ => rfl

/-- What is answered without an error is whether the namespace has a module now. -/
theorem isLoaded (found : Bool) (answered : answer = .ok found) : after.isLoaded name = found := by
  cases resolves with
  | loaded isLoaded => exact Except.ok.inj answered ▸ isLoaded
  | invalid unloaded => exact Except.ok.inj answered ▸ unloaded
  | exhausted unloaded => exact Except.ok.inj answered ▸ unloaded
  | failed => cases answered
  | found unloaded =>
    rw [SearchPath.isLoaded, module?_keep_self _ _ _ unloaded]
    exact Except.ok.inj answered

end Resolves

/-! ### Runs -/

/-- What can be done to a search path. -/
inductive Deed where
  | append (root : String)
  | resolve (name : DialectName)

/-- The search path after a deed, whether it succeeded or failed. -/
def perform (searchPath : SearchPath Custom) : Deed → SearchPath Custom
  | .append root => (searchPath.append root).state
  | .resolve name => (searchPath.resolve name).state

/-- The search path after deeds, one after the other. -/
def performAll (searchPath : SearchPath Custom) (deeds : List Deed) : SearchPath Custom :=
  deeds.foldl perform searchPath

/-- Appending a root succeeds if it is new, and puts it behind all others. -/
theorem append_eq (searchPath : SearchPath Custom) (root : String) :
    (searchPath.append root).answer = .ok (decide (root ∉ searchPath.roots)) ∧
      (searchPath.append root).state = { searchPath with
        roots := if root ∈ searchPath.roots then searchPath.roots
          else searchPath.roots ++ [root] } := by
  unfold append
  by_cases present : root ∈ searchPath.roots
  · simp [present, Attempt.idle]
  · simp [present]

/-- What was appended and loaded stays in its place, and what was loaded since was found by the
search that could be made now. -/
structure Grows (before after : SearchPath Custom) : Prop where
  loader : after.loader = before.loader
  roots : before.roots <+: after.roots
  modules : ∀ name loaded, before.module? name = some loaded → after.module? name = some loaded
  searched : ∀ name loaded, after.module? name = some loaded → before.module? name = some loaded ∨
    ∃ path dialectModule, search after.loader name after.roots = .found path dialectModule ∧
      loaded = dialectModule.load path

namespace Grows

theorem refl (searchPath : SearchPath Custom) : searchPath.Grows searchPath :=
  ⟨rfl, List.prefix_refl _, fun _ _ present => present, fun _ _ present => .inl present⟩

variable {before between after : SearchPath Custom}

/-- What a search has come upon it comes upon later. -/
theorem search_eq (grows : before.Grows after) (name : DialectName)
    (decided : search before.loader name before.roots ≠ .exhausted) :
    search after.loader name after.roots = search before.loader name before.roots := by
  obtain ⟨more, split⟩ := grows.roots
  rw [← split, grows.loader]
  exact search_append _ _ _ _ decided

theorem trans (first : before.Grows between) (second : between.Grows after) :
    before.Grows after where
  loader := second.loader.trans first.loader
  roots := first.roots.trans second.roots
  modules name loaded present := second.modules name loaded (first.modules name loaded present)
  searched name loaded present := by
    rcases second.searched name loaded present with old | new
    · rcases first.searched name loaded old with older | ⟨path, dialectModule, found, same⟩
      · exact .inl older
      · refine .inr ⟨path, dialectModule, ?_, same⟩
        rw [second.search_eq name (by simp [found]), found]
    · exact .inr new

end Grows

theorem grows_append (searchPath : SearchPath Custom) (root : String) :
    searchPath.Grows (searchPath.append root).state := by
  rw [(searchPath.append_eq root).2]
  refine ⟨rfl, ?_, fun _ _ present => present, fun _ _ present => .inl present⟩
  dsimp only
  split
  · exact List.prefix_refl _
  · exact List.prefix_append _ _

theorem Resolves.grows {searchPath after : SearchPath Custom} {name : DialectName}
    {answer : Except Error Bool} (resolves : searchPath.Resolves name answer after) :
    searchPath.Grows after := by
  cases resolves with
  | found unloaded valid path dialectModule searched =>
    refine ⟨rfl, List.prefix_refl _, fun probe loaded present => ?_, fun probe loaded present => ?_⟩
    · rw [module?_keep, present, Option.some_or]
    · rw [module?_keep] at present
      rcases Option.or_eq_some_iff.mp present with old | ⟨_, new⟩
      · exact .inl old
      · obtain ⟨rfl, rfl⟩ : name = probe ∧ dialectModule.load path = loaded := by simpa using new
        exact .inr ⟨path, dialectModule, searched, rfl⟩
  | _ => exact .refl _

theorem grows_performAll (searchPath : SearchPath Custom) (deeds : List Deed) :
    searchPath.Grows (searchPath.performAll deeds) := by
  induction deeds generalizing searchPath with
  | nil => exact .refl _
  | cons deed later inductionHypothesis =>
    refine Grows.trans ?_ (inductionHypothesis (searchPath.perform deed))
    cases deed with
    | append root => exact searchPath.grows_append root
    | resolve name => exact (searchPath.resolves name).grows

/-- A module that came meanwhile is the one that the search had come upon before. -/
theorem Grows.load_of_searched {before after : SearchPath Custom} (grows : before.Grows after)
    {name : DialectName} (unloaded : before.isLoaded name = false) {loaded : LoadedModule Custom}
    (present : after.module? name = some loaded)
    (decided : search before.loader name before.roots ≠ .exhausted) :
    ∃ path dialectModule, search before.loader name before.roots = .found path dialectModule ∧
      loaded = dialectModule.load path := by
  rw [← grows.search_eq name decided]
  refine (grows.searched name loaded present).resolve_left fun old => ?_
  rw [(before.isLoaded_eq_false_iff name).mp unloaded] at old
  cases old

/-- What was decided for a namespace is decided in the same way later. -/
theorem Resolves.later {before between after : SearchPath Custom} {name : DialectName}
    {answer : Except Error Bool} (resolves : before.Resolves name answer between)
    (grows : before.Grows after) (decided : answer ≠ .ok false) :
    (after.resolve name).answer = answer ∧
      (after.resolve name).state.module? name = between.module? name := by
  cases resolves with
  | loaded isLoaded =>
    obtain ⟨loaded, present⟩ := Option.isSome_iff_exists.mp isLoaded
    have still : after.isLoaded name = true :=
      Option.isSome_iff_exists.mpr ⟨loaded, grows.modules name loaded present⟩
    rw [after.resolve_of_isLoaded name still]
    exact ⟨rfl, (grows.modules name loaded present).trans present.symm⟩
  | invalid => exact absurd rfl decided
  | exhausted => exact absurd rfl decided
  | failed unloaded valid error searched =>
    have absent : after.module? name = none := by
      refine Option.eq_none_iff_forall_ne_some.mpr fun loaded present => ?_
      obtain ⟨path, dialectModule, found, _⟩ :=
        grows.load_of_searched unloaded present (by simp [searched])
      rw [searched] at found
      cases found
    have still := (after.isLoaded_eq_false_iff name).mpr absent
    have again := (grows.search_eq name (by simp [searched])).trans searched
    simp only [resolve, still, valid, again]
    exact ⟨rfl, absent.trans ((before.isLoaded_eq_false_iff name).mp unloaded).symm⟩
  | found unloaded valid path dialectModule searched =>
    rw [module?_keep_self _ _ _ unloaded]
    cases still : after.isLoaded name with
    | true =>
      obtain ⟨loaded, present⟩ := Option.isSome_iff_exists.mp still
      obtain ⟨otherPath, other, found, same⟩ :=
        grows.load_of_searched unloaded present (by simp [searched])
      rw [searched] at found
      cases found
      rw [after.resolve_of_isLoaded name still]
      exact ⟨rfl, same ▸ present⟩
    | false =>
      have again := (grows.search_eq name (by simp [searched])).trans searched
      simp only [resolve, still, valid, again]
      exact ⟨rfl, after.module?_keep_self name _ still⟩

/-- The roots differ, and each module is one of a valid namespace, at a path made of a root and
the namespace, with which its class is labelled. -/
structure Orderly (searchPath : SearchPath Custom) : Prop where
  nodup : searchPath.roots.Nodup
  valid : ∀ name loaded, searchPath.module? name = some loaded → name.isValid = true
  placed : ∀ name loaded, searchPath.module? name = some loaded →
    (∃ root ∈ searchPath.roots, loaded.path = modulePath root name) ∧
      ∀ dialectClass, loaded.dialectClass = some dialectClass → dialectClass.path = loaded.path

theorem Orderly.append {searchPath : SearchPath Custom} (orderly : searchPath.Orderly)
    (root : String) : (searchPath.append root).state.Orderly := by
  rw [(searchPath.append_eq root).2]
  by_cases present : root ∈ searchPath.roots
  · rw [if_pos present]
    exact orderly
  · rw [if_neg present]
    have nodup : (searchPath.roots ++ [root]).Nodup :=
      List.nodup_append.mpr ⟨orderly.nodup, List.pairwise_singleton _ root,
        fun other member last same equal =>
          present (List.mem_singleton.mp same ▸ equal ▸ member)⟩
    refine ⟨nodup, orderly.valid, fun name loaded found => ?_⟩
    obtain ⟨⟨other, member, path⟩, labelled⟩ := orderly.placed name loaded found
    exact ⟨⟨other, List.mem_append_left _ member, path⟩, labelled⟩

theorem path_load (dialectModule : DialectModule Custom) (path : String)
    (dialectClass : DialectClass)
    (present : (dialectModule.load path).dialectClass = some dialectClass) :
    dialectClass.path = path := by
  obtain ⟨found, _, rfl⟩ := Option.map_eq_some_iff.mp present
  rfl

theorem Resolves.orderly {searchPath after : SearchPath Custom} {name : DialectName}
    {answer : Except Error Bool} (resolves : searchPath.Resolves name answer after)
    (orderly : searchPath.Orderly) : after.Orderly := by
  cases resolves with
  | found unloaded valid path dialectModule searched =>
    have new (probe : DialectName) (loaded : LoadedModule Custom)
        (present : (searchPath.keep name (dialectModule.load path)).module? probe = some loaded) :
        searchPath.module? probe = some loaded ∨
          name = probe ∧ dialectModule.load path = loaded := by
      rw [module?_keep] at present
      exact (Option.or_eq_some_iff.mp present).imp_right fun absent => by simpa using absent.2
    refine ⟨orderly.nodup, fun probe loaded present => ?_, fun probe loaded present => ?_⟩
    · rcases new probe loaded present with old | ⟨rfl, _⟩
      · exact orderly.valid probe loaded old
      · exact valid
    · rcases new probe loaded present with old | ⟨rfl, rfl⟩
      · exact orderly.placed probe loaded old
      · exact ⟨path_of_search _ _ _ _ _ searched, path_load dialectModule path⟩
  | _ => exact orderly

theorem Orderly.performAll {searchPath : SearchPath Custom} (orderly : searchPath.Orderly)
    (deeds : List Deed) : (searchPath.performAll deeds).Orderly := by
  induction deeds generalizing searchPath with
  | nil => exact orderly
  | cons deed later inductionHypothesis =>
    refine inductionHypothesis ?_
    cases deed with
    | append root => exact orderly.append root
    | resolve name => exact (searchPath.resolves name).orderly orderly

theorem orderly_ofLoader (loader : Loader Custom) : (ofLoader loader).Orderly :=
  ⟨List.nodup_nil, fun _ _ present => (nomatch present), fun _ _ present => (nomatch present)⟩

theorem Orderly.path_ne {searchPath : SearchPath Custom} (orderly : searchPath.Orderly)
    {name other : DialectName} {loaded otherLoaded : LoadedModule Custom}
    (present : searchPath.module? name = some loaded)
    (otherPresent : searchPath.module? other = some otherLoaded) (different : name ≠ other) :
    loaded.path ≠ otherLoaded.path := by
  obtain ⟨⟨root, _, path⟩, _⟩ := orderly.placed name loaded present
  obtain ⟨⟨otherRoot, _, otherPath⟩, _⟩ := orderly.placed other otherLoaded otherPresent
  rw [path, otherPath]
  exact fun same => different (modulePath_injective root otherRoot name other
    (orderly.valid name loaded present) (orderly.valid other otherLoaded otherPresent) same)

theorem Orderly.resolve_of_invalid {searchPath : SearchPath Custom} (orderly : searchPath.Orderly)
    (name : DialectName) (invalid : name.isValid = false) :
    searchPath.resolve name = .idle searchPath (.ok false) := by
  have absent : searchPath.module? name = none :=
    Option.eq_none_iff_forall_ne_some.mpr fun loaded present => by
      have valid := orderly.valid name loaded present
      rw [invalid] at valid
      cases valid
  simp [resolve, (searchPath.isLoaded_eq_false_iff name).mpr absent, invalid]

section First

variable {searchPath : SearchPath Custom} {name : DialectName} (valid : name.isValid = true)
  (unloaded : searchPath.isLoaded name = false) {front back : List String} {root : String}
  (split : searchPath.roots = front ++ root :: back)
  (missing : ∀ earlier ∈ front, searchPath.loader (modulePath earlier name) = .missing)
include valid unloaded split missing

/-- The first root with something for the namespace has a module. -/
theorem resolve_of_found (dialectModule : DialectModule Custom)
    (there : searchPath.loader (modulePath root name) = .found dialectModule) :
    searchPath.resolve name =
      ⟨.ok true, searchPath.keep name (dialectModule.load (modulePath root name)),
        front.map (fun earlier => .moduleMissing (modulePath earlier name)) ++
          [.moduleLoaded (modulePath root name)]⟩ := by
  simp [resolve, valid, unloaded, split, search_append_of_missing _ _ _ _ missing,
    missed_append_of_missing _ _ _ _ missing, search, missed, there]

/-- The first root with something for the namespace has a failure. -/
theorem resolve_of_failed (error : Error)
    (there : searchPath.loader (modulePath root name) = .failed error) :
    searchPath.resolve name =
      ⟨.error error, searchPath,
        front.map fun earlier => .moduleMissing (modulePath earlier name)⟩ := by
  simp [resolve, valid, unloaded, split, search_append_of_missing _ _ _ _ missing,
    missed_append_of_missing _ _ _ _ missing, search, missed, there]

end First

/-- No root has anything for the namespace. -/
theorem resolve_of_missing {searchPath : SearchPath Custom} {name : DialectName}
    (valid : name.isValid = true) (unloaded : searchPath.isLoaded name = false)
    (missing : ∀ root ∈ searchPath.roots, searchPath.loader (modulePath root name) = .missing) :
    searchPath.resolve name =
      ⟨.ok false, searchPath,
        searchPath.roots.map fun root => .moduleMissing (modulePath root name)⟩ := by
  have exhausted := search_append_of_missing _ _ _ [] missing
  have missed := missed_append_of_missing _ _ _ [] missing
  rw [List.append_nil] at exhausted missed
  simp [resolve, valid, unloaded, exhausted, missed, search, SearchPath.missed]

/-- At every time of a run: the roots differ, and later ones come behind. The outcome for a
namespace without a module is that of the first root with something for it. What is decided once,
be it by a module or by a failure, is decided in the same way ever after; otherwise nothing is
remembered. A module that was loaded stays, the loader is not asked for it again, and its path,
made of a root and its namespace, is no other namespace's. -/
theorem performAll_resolves (loader : Loader Custom) (deeds : List Deed) :
    let searchPath := (ofLoader loader).performAll deeds
    searchPath.roots.Nodup ∧
    (∀ later, searchPath.roots <+: (searchPath.performAll later).roots) ∧
    (∀ root, (searchPath.append root).answer = .ok (decide (root ∉ searchPath.roots)) ∧
      (searchPath.append root).state = { searchPath with
        roots := if root ∈ searchPath.roots then searchPath.roots
          else searchPath.roots ++ [root] }) ∧
    (∀ name, name.isValid = true → searchPath.isLoaded name = false →
      (∀ front root back, searchPath.roots = front ++ root :: back →
        (∀ earlier ∈ front, loader (modulePath earlier name) = .missing) →
        (∀ dialectModule, loader (modulePath root name) = .found dialectModule →
          let kept : LoadedModule Custom :=
            { path := modulePath root name
              dialectClass := dialectModule.dialectClass.map fun declared =>
                { declared with path := modulePath root name }
              dialect := dialectModule.dialect }
          searchPath.resolve name = ⟨.ok true, searchPath.keep name kept,
            front.map (fun earlier => .moduleMissing (modulePath earlier name)) ++
              [.moduleLoaded (modulePath root name)]⟩ ∧
          (searchPath.resolve name).state.module? name = some kept) ∧
        ∀ error, loader (modulePath root name) = .failed error →
          searchPath.resolve name =
            ⟨.error error, searchPath,
              front.map fun earlier => .moduleMissing (modulePath earlier name)⟩) ∧
      ((∀ root ∈ searchPath.roots, loader (modulePath root name) = .missing) →
        searchPath.resolve name =
          ⟨.ok false, searchPath,
            searchPath.roots.map fun root => .moduleMissing (modulePath root name)⟩)) ∧
    (∀ name, (searchPath.resolve name).answer ≠ .ok false → ∀ later,
      ((searchPath.performAll later).resolve name).answer = (searchPath.resolve name).answer ∧
        ((searchPath.performAll later).resolve name).state.module? name =
          (searchPath.resolve name).state.module? name) ∧
    (∀ name, (searchPath.resolve name).answer ≠ .ok true →
      (searchPath.resolve name).state = searchPath) ∧
    (∀ name, name.isValid = false → searchPath.resolve name = .idle searchPath (.ok false)) ∧
    (∀ name loaded, searchPath.module? name = some loaded →
      (∀ later, (searchPath.performAll later).module? name = some loaded) ∧
      (∀ other : Loader Custom, { searchPath with loader := other }.resolve name =
        .idle { searchPath with loader := other } (.ok true)) ∧
      (∃ root ∈ searchPath.roots, loaded.path = root ++ "." ++ name.text) ∧
      ∀ dialectClass, loaded.dialectClass = some dialectClass →
        dialectClass.path = loaded.path) ∧
    ∀ name other loaded otherLoaded, searchPath.module? name = some loaded →
      searchPath.module? other = some otherLoaded → name ≠ other →
        loaded.path ≠ otherLoaded.path := by
  intro searchPath
  have orderly : searchPath.Orderly := (orderly_ofLoader loader).performAll deeds
  have same : searchPath.loader = loader := ((ofLoader loader).grows_performAll deeds).loader
  refine ⟨orderly.nodup, fun later => (searchPath.grows_performAll later).roots,
    searchPath.append_eq, fun name valid unloaded => ⟨?_, ?_⟩, fun name decided later => ?_,
    fun name => (searchPath.resolves name).unchanged, orderly.resolve_of_invalid, ?_, ?_⟩
  · intro front root back split missing
    rw [← same] at missing ⊢
    refine ⟨fun dialectModule there => ?_, resolve_of_failed valid unloaded split missing⟩
    have found := resolve_of_found valid unloaded split missing dialectModule there
    refine ⟨found, ?_⟩
    rw [found]
    exact searchPath.module?_keep_self name _ unloaded
  · intro missing
    rw [← same] at missing
    exact resolve_of_missing valid unloaded missing
  · exact (searchPath.resolves name).later (searchPath.grows_performAll later) decided
  · intro name loaded present
    have isLoaded : searchPath.isLoaded name = true := Option.isSome_iff_exists.mpr ⟨_, present⟩
    exact ⟨fun later => (searchPath.grows_performAll later).modules name loaded present,
      fun other => resolve_of_isLoaded { searchPath with loader := other } name isLoaded,
      orderly.placed name loaded present⟩
  · intro name other loaded otherLoaded present otherPresent different
    exact orderly.path_ne present otherPresent different

/-- A loader with a good and a bad module under one root. -/
def sparse : Loader Empty := fun path =>
  if path = "mid.good" then .found ⟨"elsewhere",
    some ((DialectClass.ofName ⟨"good"⟩).insert "op" .plain), some (.ofName ⟨"good"⟩)⟩
  else if path = "mid.bad" then .failed (.brokenModule path "no symbol")
  else .missing

/-- A root without anything stands in front of the one with the modules, and the good module is
resolved in vain before that root is appended. -/
def sparsePath : SearchPath Empty :=
  (ofLoader sparse).performAll [.append "front", .resolve ⟨"good"⟩, .append "mid"]

theorem performAll_resolves_sparse :
    sparsePath.roots = ["front", "mid"] ∧
      (sparsePath.resolve ⟨"good"⟩).log = [.moduleMissing "front.good", .moduleLoaded "mid.good"] ∧
      (∃ kept own brought, (sparsePath.resolve ⟨"good"⟩).state.module? ⟨"good"⟩ = some kept ∧
        kept.path = "mid.good" ∧ kept.dialectClass = some own ∧ own.path = "mid.good" ∧
        own.name = ⟨"good"⟩ ∧ own.opNames = ["op"] ∧ kept.dialect = some brought ∧
        brought.name = ⟨"good"⟩) ∧
      (sparsePath.resolve ⟨"bad"⟩).answer = .error (.brokenModule "mid.bad" "no symbol") ∧
      (∀ later, ((sparsePath.performAll later).resolve ⟨"bad"⟩).answer =
        .error (.brokenModule "mid.bad" "no symbol")) ∧
      (sparsePath.resolve ⟨"neither"⟩).answer = .ok false ∧
      (sparsePath.resolve ⟨"no.name"⟩).answer = .ok false ∧
      ∀ later, ((sparsePath.perform (.resolve ⟨"good"⟩)).performAll later).isLoaded ⟨"good"⟩ =
        true := by
  obtain ⟨_, _, _, decides, decided, _, invalid, _⟩ := performAll_resolves sparse
    [.append "front", .resolve ⟨"good"⟩, .append "mid"]
  have roots : sparsePath.roots = ["front", "mid"] := by decide +kernel
  have missing (name : DialectName) (absent : sparse (modulePath "front" name) = .missing) :
      ∀ earlier ∈ ["front"], sparse (modulePath earlier name) = .missing :=
    fun earlier member => List.mem_singleton.mp member ▸ absent
  obtain ⟨found, present⟩ := ((decides ⟨"good"⟩ (by decide +kernel) (by decide +kernel)).1 ["front"]
    "mid" [] roots (missing _ rfl)).1 _ rfl
  have failed := ((decides ⟨"bad"⟩ (by decide +kernel) (by decide +kernel)).1 ["front"] "mid" []
    roots (missing _ rfl)).2 _ rfl
  have exhausted := (decides ⟨"neither"⟩ (by decide +kernel) (by decide +kernel)).2
    fun root member => by
      rcases List.mem_pair.mp (roots ▸ member) with rfl | rfl <;> rfl
  have answered : (sparsePath.resolve ⟨"bad"⟩).answer =
      .error (.brokenModule "mid.bad" "no symbol") := congrArg Attempt.answer failed
  refine ⟨roots, congrArg Attempt.log found,
    ⟨_, _, _, present, rfl, rfl, rfl, rfl, rfl, rfl, rfl⟩, answered, fun later => ?_,
    congrArg Attempt.answer exhausted,
    congrArg Attempt.answer (invalid ⟨"no.name"⟩ (by decide +kernel)), fun later => ?_⟩
  · exact ((decided ⟨"bad"⟩ (answered ▸ nofun) later).1).trans answered
  · obtain ⟨_, _, _, _, _, _, _, loaded, _⟩ := performAll_resolves sparse
      [.append "front", .resolve ⟨"good"⟩, .append "mid", .resolve ⟨"good"⟩]
    exact Option.isSome_iff_exists.mpr ⟨_, (loaded ⟨"good"⟩ _ present).1 later⟩

end SearchPath

end Polyglot
