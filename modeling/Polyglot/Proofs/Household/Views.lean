/-
This file proves that views agree throughout a run of a household. A session hands out the same
handle for a name each time. The class of a name may be missing at first; once some session has
come upon it, every session of the environment has that class for the name from then on.

Hence it does not matter whether a view is answered from what the session keeps or is looked up
anew, although the two ways ask different parts of the household, which other sessions may have
changed meanwhile.
-/

import Polyglot.Proofs.Household.Run

namespace Polyglot

namespace Household

variable {Custom Handler Note : Type}

/-- What the sessions of an environment find for a name agrees with a view that a session had of
it: the session itself finds the same handle, and all find the same class if the view has one. -/
def Agrees (household : Household Custom Handler Note) (number place : Nat) (name : DialectName)
    (view : DialectView) : Prop :=
  ∀ other workspace access found, household.Hosts other place workspace →
    (workspace.view access name).answer = .ok found →
      (other = number → found.descriptor = view.descriptor) ∧
      ∀ loadedClass, view.loadedClass = some loadedClass → found.loadedClass = some loadedClass

/-- Whatever happens, what is found later agrees with a view that is backed. -/
theorem agrees_of_backs {before after : Household Custom Handler Note} (placed : before.Placed)
    (evolves : before.Evolves after)
    (coherent : ∀ number place workspace, after.Hosts number place workspace → workspace.Coherent)
    {number place : Nat} {workspace : Workspace Custom}
    (hosts : before.Hosts number place workspace) {name : DialectName} {view : DialectView}
    (backs : workspace.Backs name view) : after.Agrees number place name view := by
  intro other later access found hostsLater answered
  have shows := later.shows_view (coherent other place later hostsLater) access name
  refine ⟨fun same => ?_, fun loadedClass own => ?_⟩
  · subst same
    have evolved := (evolves.same_session placed hosts hostsLater).2
    have still := shows.evolves.backs (evolved.backs backs)
    exact Option.some.inj ((shows.backs found answered).descriptor.symm.trans still.descriptor)
  · obtain ⟨environment, there, grows⟩ := evolves.environments place _ hosts.environment
    obtain rfl : environment = later.environment :=
      Option.some.inj (there.symm.trans hostsLater.environment)
    exact shows.loadedClass found answered loadedClass
      (grows.class? (backs.loadedClass loadedClass own))

/-- In any session of any run, a view that is answered without a search is the one that is found
if what is kept for the name is forgotten, and this leaves everything as it is, up to the order in
which views are kept. What was found by a lookup, or is kept, agrees with what this session and
the other sessions of its environment find from then on. -/
theorem lookups_agree (deeds : List (Deed Custom Handler Note)) (number place : Nat)
    (workspace : Workspace Custom) (name : DialectName)
    (hosts : (empty.performAll deeds).Hosts number place workspace) :
    (∀ view, workspace.settledView? name = some view → ∀ access,
      let known := workspace.view access name
      let anew := { workspace with session := workspace.session.forgetView name }.view access name
      known.answer = .ok view ∧ anew.answer = .ok view ∧
        (∃ views, anew.state =
          { known.state with session := { known.state.session with views := views } }) ∧
        ∀ probe, anew.state.session.view? probe = known.state.session.view? probe) ∧
    (∀ access view, (workspace.view access name).answer = .ok view → ∀ later,
      (((empty.performAll deeds).perform (.act number (.view access name))).performAll later).Agrees
        number place name view) ∧
    ∀ view, workspace.session.view? name = some view → ∀ later,
      ((empty.performAll deeds).performAll later).Agrees number place name view := by
  have coherent := hosts.coherent
  have placed := (empty.keeps_performAll placed_empty deeds).placed
  have coherentLater (later : List (Deed Custom Handler Note)) (other probe : Nat)
      (found : Workspace Custom)
      (hostsLater : ((empty.performAll deeds).performAll later).Hosts other probe found) :
      found.Coherent := by
    rw [performAll, performAll, ← List.foldl_append] at hostsLater
    exact hostsLater.coherent
  refine ⟨fun view settled access => coherent.view_forgotten settled access,
    fun access view answered later => ?_, fun view kept later => ?_⟩
  · have keeps := keeps_perform _ placed (.act number (.view access name))
    exact agrees_of_backs keeps.placed (keeps_performAll _ keeps.placed later).evolves
      (coherentLater (.act number (.view access name) :: later)) (hosts.act (.view access name))
      ((workspace.shows_view coherent access name).backs view answered)
  · exact agrees_of_backs placed (keeps_performAll _ placed later).evolves (coherentLater later)
      hosts (coherent name view kept)

/-- A loader with one module, which brings a class. -/
def late : Loader Empty := fun path =>
  if path = "back.late" then .found ⟨path, some (.ofName ⟨"late"⟩), none⟩ else .missing

/-- Two sessions share an environment. The first looks the dialect up before the root of its
module is appended. -/
def shared : Household Empty Unit Unit :=
  empty.performAll
    [.addEnvironment late, .share 0 (.register (.ofName ⟨"late"⟩)), .openSession 0 ⟨some [], true⟩,
      .openSession 0 ⟨some [], true⟩, .act 0 (.view .byAttribute ⟨"late"⟩),
      .share 0 (.appendRoot "back")]

/-- The environment of the two sessions. -/
def common : Environment Empty :=
  ⟨0, ⟨["dialects", "back"], [], late⟩, Standard.dialects ++ [.ofName ⟨"late"⟩], [], true⟩

/-- The first session has a view of the dialect, without a class. -/
def early : Workspace Empty :=
  ⟨common, [.ofName ⟨"late"⟩], .empty, [(⟨"late"⟩, ⟨⟨⟨"late"⟩, 0⟩, none⟩)], true⟩

/-- The second session has no view yet. -/
def unaware : Workspace Empty := ⟨common, [], .empty, [], true⟩

theorem lookups_agree_shared :
    shared.Hosts 0 0 early ∧ shared.Hosts 1 0 unaware ∧
      ∃ view loadedClass, (unaware.view .byIndex ⟨"late"⟩).answer = .ok view ∧
        view.loadedClass = some loadedClass ∧ loadedClass.dialectClass.path = "back.late" ∧
        ∀ later workspace access found,
          ((shared.perform (.act 1 (.view .byIndex ⟨"late"⟩))).performAll later).Hosts 0 0
            workspace →
          (workspace.view access ⟨"late"⟩).answer = .ok found →
          found.descriptor = ⟨⟨"late"⟩, 0⟩ ∧ found.loadedClass = some loadedClass := by
  have first : shared.Hosts 0 0 early := ⟨⟨.empty, rfl⟩, rfl⟩
  have second : shared.Hosts 1 0 unaware := ⟨⟨.empty, rfl⟩, rfl⟩
  have answered : (unaware.view .byIndex ⟨"late"⟩).answer =
    .ok ⟨⟨⟨"late"⟩, 0⟩, some ⟨0, { DialectClass.ofName ⟨"late"⟩ with path := "back.late" }⟩⟩ := rfl
  refine ⟨first, second, _, _, answered, rfl, rfl,
    fun later workspace access found hosts asked => ?_⟩
  have kept := (lookups_agree _ 0 0 early ⟨"late"⟩ first).2.2 _ rfl
    (.act 1 (.view .byIndex ⟨"late"⟩) :: later) 0 workspace access found hosts asked
  have shown := (lookups_agree _ 1 0 unaware ⟨"late"⟩ second).2.1 .byIndex _ answered later 0
    workspace access found hosts asked
  exact ⟨kept.1 rfl, shown.2 _ rfl⟩

end Household

end Polyglot
