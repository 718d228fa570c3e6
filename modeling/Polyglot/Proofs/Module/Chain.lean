/-
This file proves what a chain of module tables says about a path. Each table of a chain is the
fallback of the one in front of it, and was filled by putting modules in and marking paths broken,
in any order. The outermost table that mentions the path decides alone: if the path was ever marked
broken there, the last reason counts, and otherwise the last module that was put in at the path. A
path that no table mentions is left to the end of the chain.

Two facts carry this. What is put into a table at other paths does not show at this one, so only
the last entry of each kind counts; and a table that does not mention a path says what its fallback
says.
-/

import Polyglot.Module.Loader

namespace Polyglot

variable {Custom : Type}

/-- The last element of a list that has a property. -/
theorem exists_last {Element : Type} (holds : Element → Prop) {elements : List Element}
    (present : ∃ element ∈ elements, holds element) :
    ∃ before element after, elements = before ++ element :: after ∧ holds element ∧
      ∀ other ∈ after, ¬ holds other := by
  induction elements with
  | nil => simp at present
  | cons first rest inductionHypothesis =>
    by_cases later : ∃ element ∈ rest, holds element
    · obtain ⟨before, element, after, rfl, held, last⟩ := inductionHypothesis later
      exact ⟨first :: before, element, after, rfl, held, last⟩
    · obtain ⟨element, member, held⟩ := present
      rcases List.mem_cons.mp member with rfl | inRest
      · exact ⟨[], element, rest, rfl, held, fun other inRest held => later ⟨other, inRest, held⟩⟩
      · exact absurd ⟨element, inRest, held⟩ later

/-! ### Filling a table -/

namespace ModuleTable

/-- What can be put into a table. -/
inductive Entry (Custom : Type) where
  /-- A module, at its own path. -/
  | sound (dialectModule : DialectModule Custom)
  /-- The mark that the module at a path is broken, and the reason. -/
  | broken (path reason : String)

/-- The path that an entry is about. -/
def Entry.path : Entry Custom → String
  | .sound dialectModule => dialectModule.path
  | .broken path _ => path

/-- The table with one more entry. -/
def put (table : ModuleTable Custom) : Entry Custom → ModuleTable Custom
  | .sound dialectModule => table.insert dialectModule
  | .broken path reason => table.insertBroken path reason

/-- The table with more entries, put in one after the other. -/
def putAll (table : ModuleTable Custom) (entries : List (Entry Custom)) : ModuleTable Custom :=
  entries.foldl put table

/-- Is one of the entries about the path? -/
def Mentions (entries : List (Entry Custom)) (path : String) : Prop :=
  ∃ entry ∈ entries, entry.path = path

theorem fallback_putAll (table : ModuleTable Custom) (entries : List (Entry Custom)) :
    (table.putAll entries).fallback = table.fallback := by
  refine List.foldlRecOn (motive := fun filled => filled.fallback = table.fallback) entries put rfl
    fun filled same entry _ => ?_
  cases entry <;> exact same

/-- Entries that mark other paths leave alone what is marked at this one. -/
theorem broken_putAll (table : ModuleTable Custom) {entries : List (Entry Custom)} {path : String}
    (unmarked : ∀ reason, .broken path reason ∉ entries) :
    (table.putAll entries).broken.find? path = table.broken.find? path := by
  refine List.foldlRecOn (motive := fun filled =>
    filled.broken.find? path = table.broken.find? path) entries put rfl
    fun filled same entry member => ?_
  cases entry with
  | sound dialectModule => exact same
  | broken other reason =>
    have elsewhere : path ≠ other := by
      rintro rfl
      exact unmarked reason member
    exact ((filled.broken.find?_insert other path reason).trans (if_neg elsewhere)).trans same

/-- Modules at other paths leave alone what is found at this one. -/
theorem modules_putAll (table : ModuleTable Custom) {entries : List (Entry Custom)} {path : String}
    (elsewhere : ∀ dialectModule, .sound dialectModule ∈ entries → dialectModule.path ≠ path) :
    (table.putAll entries).modules.find? path = table.modules.find? path := by
  refine List.foldlRecOn (motive := fun filled =>
    filled.modules.find? path = table.modules.find? path) entries put rfl
    fun filled same entry member => ?_
  cases entry with
  | sound dialectModule =>
    have other : path ≠ dialectModule.path := (elsewhere dialectModule member).symm
    exact ((filled.modules.find?_insert dialectModule.path path dialectModule).trans
      (if_neg other)).trans same
  | broken other reason => exact same

theorem putAll_split (table : ModuleTable Custom) (before after : List (Entry Custom))
    (entry : Entry Custom) :
    table.putAll (before ++ entry :: after) = ((table.putAll before).put entry).putAll after :=
  List.foldl_append

/-- Of several marks at a path the last one counts. -/
theorem broken_putAll_of_last (table : ModuleTable Custom) {before after : List (Entry Custom)}
    {path reason : String} (last : ∀ other, .broken path other ∉ after) :
    (table.putAll (before ++ .broken path reason :: after)).broken.find? path = some reason := by
  rw [putAll_split, broken_putAll _ last]
  exact ((table.putAll before).broken.find?_insert path path reason).trans (if_pos rfl)

/-- Of several modules at a path the last one counts. -/
theorem modules_putAll_of_last (table : ModuleTable Custom) {before after : List (Entry Custom)}
    {dialectModule : DialectModule Custom}
    (last : ∀ other, .sound other ∈ after → other.path ≠ dialectModule.path) :
    (table.putAll (before ++ .sound dialectModule :: after)).modules.find? dialectModule.path =
      some dialectModule := by
  rw [putAll_split, modules_putAll _ last]
  exact ((table.putAll before).modules.find?_insert _ _ dialectModule).trans (if_pos rfl)

/-! ### What a table decides -/

/-- What the entries of a table that mentions a path decide about it. -/
inductive Decides (path : String) (entries : List (Entry Custom)) : Finding Custom → Prop where
  /-- The path was marked broken, and this was the last reason. -/
  | broken (before after : List (Entry Custom)) (reason : String)
      (split : entries = before ++ .broken path reason :: after)
      (last : ∀ other, .broken path other ∉ after) :
      Decides path entries (.failed (.brokenModule path reason))
  /-- The path was never marked broken, and this was the last module that was put in at it. -/
  | sound (before after : List (Entry Custom)) (dialectModule : DialectModule Custom)
      (unmarked : ∀ reason, .broken path reason ∉ entries)
      (split : entries = before ++ .sound dialectModule :: after)
      (own : dialectModule.path = path)
      (last : ∀ other, .sound other ∈ after → other.path ≠ path) :
      Decides path entries (.found dialectModule)

variable {path : String} {entries : List (Entry Custom)}

theorem broken_filled_of_unmarked (fallback : Loader Custom)
    (unmarked : ∀ reason, .broken path reason ∉ entries) :
    ((ofFallback fallback).putAll entries).broken.find? path = none :=
  ((ofFallback fallback).broken_putAll unmarked).trans (Dictionary.find?_empty path)

/-- A filled table says what its entries decide, whatever its fallback says. -/
theorem Decides.load_eq {finding : Finding Custom} (decides : Decides path entries finding)
    (fallback : Loader Custom) : ((ofFallback fallback).putAll entries).load path = finding := by
  cases decides with
  | broken before after reason split last =>
    rw [split]
    exact load_of_broken _ path reason ((ofFallback fallback).broken_putAll_of_last last)
  | sound before after dialectModule unmarked split own last =>
    have intact := broken_filled_of_unmarked fallback unmarked
    have present : ((ofFallback fallback).putAll entries).modules.find? path =
        some dialectModule := by
      rw [split]
      subst own
      exact (ofFallback fallback).modules_putAll_of_last last
    rw [load, intact, present]

/-- A filled table that does not mention a path says what its fallback says. -/
theorem load_of_silent (fallback : Loader Custom) (silent : ¬ Mentions entries path) :
    ((ofFallback fallback).putAll entries).load path = fallback path := by
  have intact := broken_filled_of_unmarked fallback fun reason member =>
    silent ⟨.broken path reason, member, rfl⟩
  have absent : ((ofFallback fallback).putAll entries).modules.find? path = none :=
    ((ofFallback fallback).modules_putAll fun dialectModule member own =>
      silent ⟨.sound dialectModule, member, own⟩).trans (Dictionary.find?_empty path)
  rw [load, intact, absent, fallback_putAll]
  rfl

/-- The entries of a table that mentions a path decide something about it. -/
theorem exists_decides (mentions : Mentions entries path) :
    ∃ finding, Decides path entries finding := by
  by_cases marked : ∃ reason, .broken path reason ∈ entries
  · obtain ⟨reason, member⟩ := marked
    obtain ⟨before, entry, after, split, ⟨latest, rfl⟩, last⟩ :=
      exists_last (fun entry => ∃ reason, entry = .broken path reason)
        ⟨_, member, reason, rfl⟩
    exact ⟨_, .broken before after latest split fun other inAfter =>
      last _ inAfter ⟨other, rfl⟩⟩
  · have unmarked (reason : String) : .broken path reason ∉ entries := fun member =>
      marked ⟨reason, member⟩
    obtain ⟨entry, member, own⟩ := mentions
    have hasSound : ∃ entry ∈ entries, ∃ dialectModule : DialectModule Custom,
        entry = .sound dialectModule ∧ dialectModule.path = path := by
      cases entry with
      | sound dialectModule => exact ⟨_, member, dialectModule, rfl, own⟩
      | broken other reason => exact absurd (own ▸ member) (unmarked reason)
    obtain ⟨before, entry, after, split, ⟨dialectModule, rfl, own⟩, last⟩ :=
      exists_last _ hasSound
    exact ⟨_, .sound before after dialectModule unmarked split own fun other inAfter sameOwn =>
      last _ inAfter ⟨other, rfl, sameOwn⟩⟩

end ModuleTable

/-! ### Chains -/

namespace Loader

/-- What lies behind the last table of a chain: nothing, or the linked modules. -/
def behind : Option (List (DialectModule Custom)) → Loader Custom
  | none => empty
  | some modules => linked modules

/-- The loader of a chain of tables, the outermost first, each given by what was put into it. -/
def chain (linked : Option (List (DialectModule Custom))) :
    List (List (ModuleTable.Entry Custom)) → Loader Custom
  | [] => behind linked
  | entries :: inner => ((ModuleTable.ofFallback (chain linked inner)).putAll entries).load

/-- What the end of a chain says about a path. -/
inductive Ends (path : String) : Option (List (DialectModule Custom)) → Finding Custom → Prop where
  /-- There are no linked modules. -/
  | nothing : Ends path none .missing
  /-- The first linked module at the path. -/
  | first (before after : List (DialectModule Custom)) (dialectModule : DialectModule Custom)
      (own : dialectModule.path = path) (first : ∀ other ∈ before, other.path ≠ path) :
      Ends path (some (before ++ dialectModule :: after)) (.found dialectModule)
  /-- No linked module is at the path. -/
  | unlinked (modules : List (DialectModule Custom))
      (elsewhere : ∀ dialectModule ∈ modules, dialectModule.path ≠ path) :
      Ends path (some modules) .missing

theorem ends_behind (linked : Option (List (DialectModule Custom))) (path : String) :
    Ends path linked (behind linked path) := by
  cases linked with
  | none => exact .nothing
  | some modules =>
    rw [behind, Loader.linked]
    cases found : modules.find? fun linked => linked.path = path with
    | none =>
      rw [List.find?_eq_none] at found
      exact .unlinked modules fun dialectModule member own => found _ member (by simpa using own)
    | some dialectModule =>
      obtain ⟨own, before, after, rfl, first⟩ := List.find?_eq_some_iff_append.mp found
      exact .first before after dialectModule (by simpa using own) fun other member =>
        by simpa using first other member

theorem Ends.eq_behind {linked : Option (List (DialectModule Custom))} {path : String}
    {finding : Finding Custom} (ends : Ends path linked finding) : behind linked path = finding := by
  cases ends with
  | nothing => rfl
  | first before after dialectModule own first =>
    have found : (before ++ dialectModule :: after).find? (fun linked => linked.path = path) =
        some dialectModule :=
      List.find?_eq_some_iff_append.mpr
        ⟨decide_eq_true own, before, after, rfl, fun other member => by simp [first other member]⟩
    rw [behind, Loader.linked, found]
  | unlinked modules elsewhere =>
    have absent : modules.find? (fun linked => linked.path = path) = none :=
      List.find?_eq_none.mpr fun dialectModule member => by simp [elsewhere dialectModule member]
    rw [behind, Loader.linked, absent]

/-- What a chain of tables says about a path, from what was put into the tables alone. -/
inductive Settles (path : String) (linked : Option (List (DialectModule Custom)))
    (tables : List (List (ModuleTable.Entry Custom))) : Finding Custom → Prop where
  /-- The outermost table that mentions the path decides. -/
  | decided (outer inner : List (List (ModuleTable.Entry Custom)))
      (entries : List (ModuleTable.Entry Custom)) (finding : Finding Custom)
      (split : tables = outer ++ entries :: inner)
      (silent : ∀ table ∈ outer, ¬ ModuleTable.Mentions table path)
      (decides : ModuleTable.Decides path entries finding) : Settles path linked tables finding
  /-- No table mentions the path, and what lies behind them decides. -/
  | left (finding : Finding Custom)
      (silent : ∀ table ∈ tables, ¬ ModuleTable.Mentions table path)
      (ends : Ends path linked finding) : Settles path linked tables finding

variable (linked : Option (List (DialectModule Custom))) (path : String)

/-- Tables that do not mention a path are passed over. -/
theorem chain_append_of_silent {outer : List (List (ModuleTable.Entry Custom))}
    (silent : ∀ table ∈ outer, ¬ ModuleTable.Mentions table path)
    (inner : List (List (ModuleTable.Entry Custom))) :
    chain linked (outer ++ inner) path = chain linked inner path := by
  induction outer with
  | nil => rfl
  | cons entries rest inductionHypothesis =>
    obtain ⟨silentFirst, silentRest⟩ := List.forall_mem_cons.mp silent
    rw [List.cons_append, chain, ModuleTable.load_of_silent _ silentFirst,
      inductionHypothesis silentRest]

/-- What a chain says is settled by what was put into its tables. -/
theorem settles_chain (tables : List (List (ModuleTable.Entry Custom))) :
    Settles path linked tables (chain linked tables path) := by
  induction tables with
  | nil =>
    exact .left _ (fun table member => absurd member List.not_mem_nil) (ends_behind linked path)
  | cons entries inner inductionHypothesis =>
    by_cases mentions : ModuleTable.Mentions entries path
    · obtain ⟨finding, decides⟩ := ModuleTable.exists_decides mentions
      rw [chain, decides.load_eq]
      exact .decided [] inner entries finding rfl
        (fun table member => absurd member List.not_mem_nil) decides
    · rw [chain, ModuleTable.load_of_silent _ mentions]
      cases inductionHypothesis with
      | decided outer rest table _ split silent decides =>
        exact .decided (entries :: outer) rest table _ (congrArg (entries :: ·) split)
          (List.forall_mem_cons.mpr ⟨mentions, silent⟩) decides
      | left _ silent ends =>
        exact .left _ (List.forall_mem_cons.mpr ⟨mentions, silent⟩) ends

/-- **A chain of tables, of any depth and filled in any order, says about a path exactly what is
settled by what was put in**: the outermost table that mentions the path decides, by the last reason
for which the path was marked broken there if it ever was, and else by the last module at the path;
if no table mentions the path, the first linked module at it counts. -/
theorem chain_eq_iff (tables : List (List (ModuleTable.Entry Custom)))
    (finding : Finding Custom) :
    chain linked tables path = finding ↔ Settles path linked tables finding := by
  constructor
  · rintro rfl
    exact settles_chain linked path tables
  · intro settles
    cases settles with
    | decided outer inner entries _ split silent decides =>
      rw [split, chain_append_of_silent linked path silent, chain]
      exact decides.load_eq _
    | left _ silent ends =>
      have passed := chain_append_of_silent linked path silent []
      rw [List.append_nil] at passed
      exact passed.trans ends.eq_behind

/-- What was put into two tables. In the outer one a path is marked broken twice, with a module put
in between, and another path has two modules; the inner one mentions that path, too. -/
def layered : List (List (ModuleTable.Entry Empty)) :=
  [[.broken "m.b" "old", .sound ⟨"m.b", none, none⟩, .broken "m.b" "new",
      .sound ⟨"m.a", none, none⟩, .sound ⟨"m.a", some (.ofName ⟨"a"⟩), none⟩],
    [.broken "m.a" "hidden", .broken "m.c" "gone", .sound ⟨"m.c", none, none⟩]]

/-- Linked modules, two of which are at one path. -/
def paired : Option (List (DialectModule Empty)) :=
  some [⟨"m.d", some (.ofName ⟨"d"⟩), none⟩, ⟨"m.d", none, none⟩]

theorem chain_eq_iff_layered :
    chain paired layered "m.b" = .failed (.brokenModule "m.b" "new") ∧
      chain paired layered "m.a" = .found ⟨"m.a", some (.ofName ⟨"a"⟩), none⟩ ∧
      chain paired layered "m.c" = .failed (.brokenModule "m.c" "gone") ∧
      chain paired layered "m.d" = .found ⟨"m.d", some (.ofName ⟨"d"⟩), none⟩ ∧
      chain paired layered "m.e" = .missing := by
  refine ⟨(chain_eq_iff ..).mpr ?_, (chain_eq_iff ..).mpr ?_, (chain_eq_iff ..).mpr ?_,
    (chain_eq_iff ..).mpr ?_, (chain_eq_iff ..).mpr ?_⟩
  · exact .decided [] _ _ _ rfl (by simp) (.broken [_, _] _ "new" rfl (by simp))
  · exact .decided [] _ _ _ rfl (by simp) (.sound [_, _, _, _] [] _ (by simp) rfl rfl (by simp))
  · exact .decided [_] [] _ _ rfl (by simp [ModuleTable.Mentions, ModuleTable.Entry.path])
      (.broken [_] _ "gone" rfl (by simp))
  · exact .left _ (by simp [layered, ModuleTable.Mentions, ModuleTable.Entry.path])
      (.first [] _ _ rfl (by simp))
  · exact .left _ (by simp [layered, ModuleTable.Mentions, ModuleTable.Entry.path])
      (.unlinked _ (by simp))

end Loader

end Polyglot
