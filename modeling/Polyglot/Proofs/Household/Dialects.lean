/-
This file proves that dialects stay what they are throughout a run of a household.

A session keeps the dialects that it has loaded, each under its name and in its place. So a handle
that was given out stays good for as long as the session lasts, and an operation that is
registered stays registered. An environment decides once which dialect a name stands for, when the
name becomes available. Sessions of one environment load their dialects from there and nowhere
else, so they cannot disagree about an operation, whatever was offered under the name since.
-/

import Polyglot.Proofs.Household.Run

namespace Polyglot

namespace Session

variable {Custom : Type}

/-! ### The dialects of a session -/

/-- The dialects of the earlier session are there in the later one, in their places. -/
structure Extends (before after : Session Custom) : Prop where
  names : before.loadedNames <+: after.loadedNames
  dialects : ∀ name dialect, before.dialect? name = some dialect →
    after.dialect? name = some dialect
  handles : ∀ name descriptor, before.descriptor? name = some descriptor →
    after.descriptor? name = some descriptor
  registered : ∀ qualified, before.isRegisteredName qualified = true →
    after.isRegisteredName qualified = true

theorem isRegisteredName_eq (session : Session Custom) {qualified : String} {id : OpId}
    (split : OpId.ofString? qualified = some id) :
    session.isRegisteredName qualified = session.isRegistered id := by
  rw [isRegisteredName, split]

end Session

namespace Workspace

variable {Custom : Type}

end Workspace

namespace Household

variable {Custom Handler Note : Type}

/-- A dialect with one operation. -/
def single (op : String) : Dialect Empty := (Dialect.ofName ⟨"late"⟩).insert { name := op }

/-- A loader with one module, which brings a dialect of its own. -/
def rival : Loader Empty := fun path =>
  if path = "dialects.late" then .found ⟨path, some (.ofName ⟨"late"⟩), some (single "second")⟩
  else .missing

/-- Two sessions share an environment. The first loads the registered dialect before the module of
the namespace is loaded, the second afterwards. -/
def contested : Household Empty Unit Unit :=
  empty.performAll
    [.addEnvironment rival, .share 0 (.register (single "first")), .openSession 0 ⟨some [], true⟩,
      .openSession 0 ⟨some [], true⟩, .act 0 (.descriptor ⟨"late"⟩), .share 0 (.loadModule ⟨"late"⟩),
      .act 1 (.descriptor ⟨"late"⟩)]

/-- The class of the module of the namespace. -/
def lateClass : DialectClass := { DialectClass.ofName ⟨"late"⟩ with path := "dialects.late" }

/-- The environment of the two sessions. -/
def disputed : Environment Empty :=
  ⟨0, ⟨["dialects"], [(⟨"late"⟩, ⟨"dialects.late", some lateClass, some (single "second")⟩)],
    rival⟩, Standard.dialects ++ [single "first"], [], true⟩

/-- What the two sessions have come to. -/
def settled : Workspace Empty := ⟨disputed, [single "first"], .empty, [], true⟩

/-- In an environment of a run, a name that is available stands for one dialect for good, and the
dialects of loaded modules have their names taken. Sessions of the environment that have loaded the
dialect of a name agree about its operations. -/
theorem sessions_agree (deeds : List (Deed Custom Handler Note)) (place : Nat)
    (environment : Environment Custom)
    (there : (empty.performAll deeds).environment? place = some environment) :
    environment.availableNames.Nodup ∧
    [⟨"builtin"⟩, ⟨"func"⟩, ⟨"arith"⟩, ⟨"cf"⟩] <+: environment.availableNames ∧
    (∀ entry ∈ environment.searchPath.loaded, ∀ dialect, entry.2.dialect = some dialect →
      dialect.name ∈ environment.availableNames) ∧
    ∀ later, ∃ grown,
      ((empty.performAll deeds).performAll later).environment? place = some grown ∧
      environment.availableNames <+: grown.availableNames ∧
      (∀ name dialect, environment.dialect? name = some dialect →
        grown.dialect? name = some dialect) ∧
      ∀ number other workspace otherWorkspace qualified id,
        (empty.performAll deeds).Hosts number place workspace →
        ((empty.performAll deeds).performAll later).Hosts other place otherWorkspace →
        OpId.ofString? qualified = some id →
        id.dialect ∈ workspace.session.loadedNames →
        id.dialect ∈ otherWorkspace.session.loadedNames →
        workspace.session.isRegisteredName qualified =
          otherWorkspace.session.isRegisteredName qualified := by
  have supplied := supplied_run deeds place environment there
  refine ⟨supplied.distinct, ?_, supplied.adopted, fun later => ?_⟩
  · have names := supplied.standard.map Dialect.name
    rwa [Standard.names_dialects] at names
  have evolves := (keeps_performAll _ (keeps_run deeds).placed later).evolves
  obtain ⟨grown, thereLater, grows⟩ := evolves.environments place environment there
  refine ⟨grown, thereLater, grows.available.map Dialect.name,
    fun name dialect found => Environment.dialect?_of_grown grows.available found,
    fun number other workspace otherWorkspace qualified id hosts hostsOther split loaded
      loadedOther => ?_⟩
  obtain rfl : workspace.environment = environment :=
    Option.some.inj (hosts.environment.symm.trans there)
  obtain rfl : otherWorkspace.environment = grown :=
    Option.some.inj (hostsOther.environment.symm.trans thereLater)
  obtain ⟨dialect, found⟩ :=
    Option.isSome_iff_exists.mp ((workspace.session.mem_loadedNames_iff _).mp loaded)
  obtain ⟨otherDialect, foundOther⟩ :=
    Option.isSome_iff_exists.mp ((otherWorkspace.session.mem_loadedNames_iff _).mp loadedOther)
  -- Both dialects are the one that the environment has for the name.
  have available := Environment.dialect?_of_grown grows.available
    (hosts.stocked.dialect?_eq supplied found)
  have stockedOther : otherWorkspace.Stocked := by
    rw [performAll, performAll, ← List.foldl_append] at hostsOther
    exact hostsOther.stocked
  have availableOther := stockedOther.dialect?_eq (grows.supplied supplied) foundOther
  obtain rfl : dialect = otherDialect := Option.some.inj (available.symm.trans availableOther)
  rw [Session.isRegisteredName_eq _ split, Session.isRegisteredName_eq _ split]
  exact Session.isRegistered_congr (found.trans foundOther.symm)

theorem sessions_agree_contested :
    contested.environment? 0 = some disputed ∧ contested.Hosts 0 0 settled ∧
    contested.Hosts 1 0 settled ∧
    ∀ later number workspace, (contested.performAll later).Hosts number 0 workspace →
      ⟨"late"⟩ ∈ workspace.session.loadedNames →
      workspace.session.isRegisteredName "late.first" = true ∧
      workspace.session.isRegisteredName "late.second" = false := by
  have there : contested.environment? 0 = some disputed := rfl
  have first : contested.Hosts 0 0 settled := ⟨⟨.empty, rfl⟩, rfl⟩
  have second : contested.Hosts 1 0 settled := ⟨⟨.empty, rfl⟩, rfl⟩
  refine ⟨there, first, second, fun later number workspace hosts loaded => ?_⟩
  obtain ⟨grown, _, _, _, agree⟩ := (sessions_agree _ 0 disputed there).2.2.2 later
  have agrees (op : String) (split : OpId.ofString? ("late." ++ op) = some ⟨⟨"late"⟩, op⟩) :=
    agree 1 number settled workspace _ _ second hosts split (List.mem_singleton.mpr rfl) loaded
  exact ⟨(agrees "first" (by decide)).symm, (agrees "second" (by decide)).symm⟩

end Household

end Polyglot
