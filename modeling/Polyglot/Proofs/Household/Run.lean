/-
This file defines runs of households and proves what they keep. In a run environments are added,
sessions are opened and closed, deeds are done in sessions, and environments are changed from
outside, in any order.

Every environment of a household grows, and every session that is there is either one from before,
in the same environment, or was opened meanwhile and has a number that was not given out before.
So whatever a deed of one session does to an environment, the other sessions of that environment
see it grow and nothing else.
-/

import Polyglot.Household
import Polyglot.Proofs.Workspace.Views

namespace Polyglot

namespace Household

variable {Custom Handler Note : Type}

/-! ### Deeds -/

/-- What can be done to a household. -/
inductive Deed (Custom Handler Note : Type) where
  | addEnvironment (loader : Loader Custom)
  | openSession (place : Nat) (options : Workspace.Start)
  | closeSession (number : Nat)
  /-- Something is done in a session. -/
  | act (number : Nat) (deed : Workspace.Deed Custom)
  /-- The channel of a session is used, which may leave any channel behind. -/
  | converse (number : Nat) (channel : Channel Handler Note)
  /-- Something is done to an environment. -/
  | share (place : Nat) (deed : Environment.Deed Custom)

/-- The household after something was done in a session. -/
def act (household : Household Custom Handler Note) (number : Nat)
    (deed : Workspace.Deed Custom) : Household Custom Handler Note :=
  match household.member? number with
  | none => household
  | some member =>
    match household.workspace? member with
    | none => household
    | some workspace => household.setWorkspace number member (workspace.perform deed)

/-- The household after a deed, whether it succeeded or failed. Deeds in sessions and environments
that are not there do nothing. -/
def perform (household : Household Custom Handler Note) :
    Deed Custom Handler Note → Household Custom Handler Note
  | .addEnvironment loader => (household.addEnvironment loader).2
  | .openSession place options =>
    match household.environment? place with
    | none => household
    | some environment => (household.openSession place environment options).state
  | .closeSession number => household.closeSession number
  | .act number deed => household.act number deed
  | .converse number channel =>
    match household.member? number with
    | none => household
    | some member => household.setMember number { member with channel := channel }
  | .share place deed =>
    match household.environment? place with
    | none => household
    | some environment => household.setEnvironment place (environment.perform deed)

/-- The household after deeds, one after the other. -/
def performAll (household : Household Custom Handler Note)
    (deeds : List (Deed Custom Handler Note)) : Household Custom Handler Note :=
  deeds.foldl perform household

/-! ### Sessions and environments -/

/-- The household has a session of this number, which shares the environment of that number, and
this is its workspace. -/
structure Hosts (household : Household Custom Handler Note) (number place : Nat)
    (workspace : Workspace Custom) : Prop where
  member : ∃ channel, household.member? number = some ⟨place, workspace.session, channel⟩
  environment : household.environment? place = some workspace.environment

theorem Hosts.unique {household : Household Custom Handler Note} {number place : Nat}
    {workspace other : Workspace Custom} (hosts : household.Hosts number place workspace)
    (hostsOther : household.Hosts number place other) : workspace = other := by
  obtain ⟨⟨channel, present⟩, there⟩ := hosts
  obtain ⟨⟨otherChannel, presentOther⟩, thereOther⟩ := hostsOther
  rw [present] at presentOther
  rw [there] at thereOther
  cases workspace
  cases other
  cases presentOther
  cases thereOther
  rfl

theorem environment?_setEnvironment (household : Household Custom Handler Note)
    (place probe : Nat) (environment changed : Environment Custom)
    (there : household.environment? place = some environment) :
    (household.setEnvironment place changed).environment? probe =
      if probe = place then some changed else household.environment? probe := by
  have inside := (List.getElem?_eq_some_iff.mp there).1
  rw [environment?, setEnvironment, List.getElem?_set, if_pos inside]
  by_cases same : probe = place
  · rw [if_pos same, if_pos same.symm]
  · rw [if_neg same, if_neg (Ne.symm same)]
    rfl

theorem member?_setMember (household : Household Custom Handler Note) (number probe : Nat)
    (member : Member Custom Handler Note) :
    (household.setMember number member).member? probe =
      if probe = number then (household.member? number).map fun _ => member
      else household.member? probe := by
  have sameKey (entry : Nat × Member Custom Handler Note) :
      (if entry.1 = number then (number, member) else entry).1 = entry.1 := by
    by_cases same : entry.1 = number <;> simp [same]
  simp only [member?, setMember, List.find?_map, Function.comp_def, sameKey, Option.map_map]
  by_cases same : probe = number
  · subst same
    rw [if_pos rfl]
    refine Option.map_congr fun entry found => ?_
    have key : entry.1 = probe := by simpa using List.find?_some found
    simp [key]
  · rw [if_neg same]
    refine Option.map_congr fun entry found => ?_
    have key : entry.1 = probe := by simpa using List.find?_some found
    simp [key, same]

theorem member?_addMember (household : Household Custom Handler Note) (place probe : Nat)
    (session : Session Custom) :
    (household.addMember place session).member? probe = (household.member? probe).or
      (if household.opened = probe then some ⟨place, session, .empty⟩ else none) := by
  rw [member?, addMember, List.find?_append, Option.map_or, List.find?_singleton]
  by_cases same : household.opened = probe <;> simp [same, member?]

theorem member?_of_closeSession (household : Household Custom Handler Note) (number probe : Nat)
    (member : Member Custom Handler Note)
    (present : (household.closeSession number).member? probe = some member) :
    household.member? probe = some member := by
  unfold closeSession at present
  split at present
  · rw [member?] at present
    change Option.map Prod.snd ((household.members.filter _).find? _) = _ at present
    rw [find?_filter_key] at present
    split at present
    · cases present
    · exact present
  · exact present

/-! ### Places -/

/-- Every session has a number that was given out, and shares an environment that is there. -/
def Placed (household : Household Custom Handler Note) : Prop :=
  ∀ entry ∈ household.members,
    entry.1 < household.opened ∧ entry.2.environment < household.environments.length

theorem Placed.of_member? {household : Household Custom Handler Note} (placed : household.Placed)
    {number : Nat} {member : Member Custom Handler Note}
    (present : household.member? number = some member) :
    number < household.opened ∧ member.environment < household.environments.length := by
  obtain ⟨entry, found, rfl⟩ := Option.map_eq_some_iff.mp present
  have key : entry.1 = number := by simpa using List.find?_some found
  exact key ▸ placed entry (List.mem_of_find?_eq_some found)

theorem Placed.setEnvironment {household : Household Custom Handler Note}
    (placed : household.Placed) (place : Nat) (changed : Environment Custom) :
    (household.setEnvironment place changed).Placed := by
  intro entry member
  rw [Household.setEnvironment, List.length_set]
  exact placed entry member

theorem Placed.setMember {household : Household Custom Handler Note} (placed : household.Placed)
    (number : Nat) (member changed : Member Custom Handler Note)
    (present : household.member? number = some member)
    (samePlace : changed.environment = member.environment) :
    (household.setMember number changed).Placed := by
  intro entry inside
  obtain ⟨old, oldInside, rfl⟩ := List.mem_map.mp inside
  by_cases same : old.1 = number
  · rw [if_pos same]
    exact samePlace ▸ placed.of_member? present
  · rw [if_neg same]
    exact placed old oldInside

theorem Placed.addMember {household : Household Custom Handler Note} (placed : household.Placed)
    (place : Nat) (session : Session Custom) (there : place < household.environments.length) :
    (household.addMember place session).Placed := by
  intro entry inside
  rcases List.mem_append.mp inside with old | new
  · have ⟨numbered, lies⟩ := placed entry old
    exact ⟨Nat.lt_succ_of_lt numbered, lies⟩
  · rw [List.mem_singleton.mp new]
    exact ⟨Nat.lt_succ_self _, there⟩

theorem Placed.closeSession {household : Household Custom Handler Note}
    (placed : household.Placed) (number : Nat) : (household.closeSession number).Placed := by
  unfold Household.closeSession
  split
  · exact fun entry inside => placed entry (List.mem_of_mem_filter inside)
  · exact placed

/-! ### What a deed does to sessions and environments -/

/-- What is available in the environments is in order. -/
def Supplied (household : Household Custom Handler Note) : Prop :=
  ∀ place environment, household.environment? place = some environment → environment.Supplied

/-- Environments grow, and a session that is there is one from before or started empty
meanwhile. -/
structure Evolves (before after : Household Custom Handler Note) : Prop where
  environments : ∀ place environment, before.environment? place = some environment →
    ∃ later, after.environment? place = some later ∧ environment.Grows later
  supplied : before.Supplied → after.Supplied
  opened : before.opened ≤ after.opened
  hosts : ∀ number place workspace, after.Hosts number place workspace →
    (before.opened ≤ number ∧
      ∃ environment, Workspace.Evolves ⟨environment, Session.empty⟩ workspace) ∨
      ∃ past, before.Hosts number place past ∧ past.Evolves workspace

namespace Evolves

variable {before between after : Household Custom Handler Note}

/-- As long as the environments stay the same and sessions only go. -/
theorem of_members (environments : after.environments = before.environments)
    (opened : after.opened = before.opened)
    (members : ∀ number member, after.member? number = some member →
      before.member? number = some member) : before.Evolves after where
  environments place environment there := by
    refine ⟨environment, ?_, .refl _⟩
    rw [environment?, environments]
    exact there
  supplied supplied place environment there := by
    rw [environment?, environments] at there
    exact supplied place environment there
  opened := Nat.le_of_eq opened.symm
  hosts number place workspace := by
    rintro ⟨⟨channel, present⟩, there⟩
    refine .inr ⟨workspace, ⟨⟨channel, members _ _ present⟩, ?_⟩, .refl _⟩
    rw [environment?, ← environments]
    exact there

theorem refl (household : Household Custom Handler Note) : household.Evolves household :=
  .of_members rfl rfl fun _ _ present => present

theorem trans (first : before.Evolves between) (second : between.Evolves after) :
    before.Evolves after where
  environments place environment there := by
    obtain ⟨middle, thereThen, growsThen⟩ := first.environments place environment there
    obtain ⟨later, thereNow, growsNow⟩ := second.environments place middle thereThen
    exact ⟨later, thereNow, growsThen.trans growsNow⟩
  supplied supplied := second.supplied (first.supplied supplied)
  opened := Nat.le_trans first.opened second.opened
  hosts number place workspace hosts := by
    rcases second.hosts number place workspace hosts with ⟨new, started⟩ | ⟨past, old, evolves⟩
    · exact .inl ⟨Nat.le_trans first.opened new, started⟩
    · rcases first.hosts number place past old with
        ⟨new, environment, started⟩ | ⟨older, oldest, evolved⟩
      · exact .inl ⟨new, environment, started.trans evolves⟩
      · exact .inr ⟨older, oldest, evolved.trans evolves⟩

end Evolves

theorem evolves_setEnvironment (household : Household Custom Handler Note) (place : Nat)
    (environment changed : Environment Custom)
    (there : household.environment? place = some environment) (grows : environment.Grows changed) :
    household.Evolves (household.setEnvironment place changed) where
  environments probe other present := by
    rw [household.environment?_setEnvironment place probe environment changed there]
    by_cases same : probe = place
    · rw [if_pos same]
      rw [same, there] at present
      exact ⟨changed, rfl, Option.some.inj present ▸ grows⟩
    · rw [if_neg same]
      exact ⟨other, present, .refl _⟩
  supplied supplied probe other present := by
    rw [household.environment?_setEnvironment place probe environment changed there] at present
    by_cases same : probe = place
    · rw [if_pos same] at present
      exact Option.some.inj present ▸ grows.supplied (supplied place environment there)
    · rw [if_neg same] at present
      exact supplied probe other present
  opened := Nat.le_refl _
  hosts number probe workspace := by
    rintro ⟨⟨channel, present⟩, lies⟩
    rw [household.environment?_setEnvironment place probe environment changed there] at lies
    by_cases same : probe = place
    · rw [if_pos same] at lies
      refine .inr ⟨⟨environment, workspace.session⟩, ⟨⟨channel, present⟩, same ▸ there⟩, ?_⟩
      exact Workspace.evolves_environment ⟨environment, workspace.session⟩
        (Option.some.inj lies ▸ grows)
    · rw [if_neg same] at lies
      exact .inr ⟨workspace, ⟨⟨channel, present⟩, lies⟩, .refl _⟩

theorem evolves_setMember (household : Household Custom Handler Note) (number : Nat)
    (member changed : Member Custom Handler Note)
    (present : household.member? number = some member)
    (samePlace : changed.environment = member.environment)
    (evolves : ∀ environment, household.environment? member.environment = some environment →
      Workspace.Evolves ⟨environment, member.session⟩ ⟨environment, changed.session⟩) :
    household.Evolves (household.setMember number changed) where
  environments _ environment there := ⟨environment, there, .refl _⟩
  supplied := id
  opened := Nat.le_refl _
  hosts probe place workspace := by
    rintro ⟨⟨channel, found⟩, there⟩
    rw [member?_setMember] at found
    by_cases same : probe = number
    · rw [if_pos same, present] at found
      obtain rfl : changed = ⟨place, workspace.session, channel⟩ := Option.some.inj found
      obtain rfl : place = member.environment := samePlace
      exact .inr ⟨⟨workspace.environment, member.session⟩,
        ⟨⟨member.channel, same ▸ present⟩, there⟩, evolves workspace.environment there⟩
    · rw [if_neg same] at found
      exact .inr ⟨workspace, ⟨⟨channel, found⟩, there⟩, .refl _⟩

theorem evolves_addEnvironment (household : Household Custom Handler Note)
    (placed : household.Placed) (loader : Loader Custom) :
    household.Evolves (household.addEnvironment loader).2 where
  environments place environment there := by
    have lies := (List.getElem?_eq_some_iff.mp there).1
    exact ⟨environment, (List.getElem?_append_left lies).trans there, .refl _⟩
  supplied supplied place environment there := by
    rcases List.mem_append.mp (List.mem_of_getElem? there) with old | new
    · obtain ⟨position, present⟩ := List.getElem?_of_mem old
      exact supplied position environment present
    · exact List.mem_singleton.mp new ▸ Environment.supplied_ofLoader _ loader
  opened := Nat.le_refl _
  hosts number place workspace := by
    rintro ⟨⟨channel, present⟩, there⟩
    have lies := (placed.of_member? present).2
    refine .inr ⟨workspace, ⟨⟨channel, present⟩, ?_⟩, .refl _⟩
    exact (List.getElem?_append_left lies).symm.trans there

theorem evolves_addMember (household : Household Custom Handler Note) (place : Nat)
    (environment origin : Environment Custom) (session : Session Custom)
    (there : household.environment? place = some environment)
    (started : Workspace.Evolves ⟨origin, Session.empty⟩ ⟨environment, session⟩) :
    household.Evolves (household.addMember place session) where
  environments _ other present := ⟨other, present, .refl _⟩
  supplied := id
  opened := Nat.le_succ _
  hosts number probe workspace := by
    rintro ⟨⟨channel, present⟩, lies⟩
    rw [member?_addMember, Option.or_eq_some_iff] at present
    rcases present with old | ⟨_, new⟩
    · exact .inr ⟨workspace, ⟨⟨channel, old⟩, lies⟩, .refl _⟩
    · by_cases same : household.opened = number
      · rw [if_pos same] at new
        obtain ⟨rfl, rfl, _⟩ := Member.mk.inj (Option.some.inj new)
        obtain rfl : environment = workspace.environment := Option.some.inj (there.symm.trans lies)
        exact .inl ⟨Nat.le_of_eq same, origin, started⟩
      · rw [if_neg same] at new
        cases new

/-! ### What a deed keeps -/

/-- What a deed in a placed household comes to. -/
structure Keeps (before after : Household Custom Handler Note) : Prop where
  placed : after.Placed
  evolves : before.Evolves after

theorem keeps_addEnvironment (household : Household Custom Handler Note)
    (placed : household.Placed) (loader : Loader Custom) :
    household.Keeps (household.addEnvironment loader).2 := by
  refine ⟨fun entry inside => ?_, household.evolves_addEnvironment placed loader⟩
  have ⟨numbered, lies⟩ := placed entry inside
  refine ⟨numbered, ?_⟩
  exact Nat.lt_of_lt_of_le lies (List.length_append ▸ Nat.le_add_right _ _)

/-- A start that succeeds gives out the next number and adds the session. One that fails leaves
behind what the environment has learned, and nothing else. -/
theorem openSession_cases (household : Household Custom Handler Note) (place : Nat)
    (environment : Environment Custom) (options : Workspace.Start) :
    let attempt := Workspace.start environment options
    let opening := household.openSession place environment options
    let learned := household.raise.setEnvironment place attempt.state.environment
    (attempt.answer = .ok () ∧ opening.answer = .ok household.opened ∧
        opening.state = learned.addMember place attempt.state.session) ∨
      ∃ error, attempt.answer = .error error ∧ opening.answer = .error error ∧
        opening.state = learned.lower := by
  unfold openSession
  generalize Workspace.start environment options = attempt
  dsimp only
  cases attempt.answer with
  | ok _ => exact .inl ⟨rfl, rfl, rfl⟩
  | error error => exact .inr ⟨error, rfl, rfl, rfl⟩

theorem keeps_openSession (household : Household Custom Handler Note) (placed : household.Placed)
    (place : Nat) (environment : Environment Custom) (options : Workspace.Start)
    (there : household.environment? place = some environment) :
    household.Keeps (household.openSession place environment options).state := by
  have started := Workspace.evolves_start environment options
  have opening := household.openSession_cases place environment options
  generalize Workspace.start environment options = attempt at started opening
  have raised : household.Evolves household.raise := .of_members rfl rfl fun _ _ present => present
  have learned := raised.trans
    (household.raise.evolves_setEnvironment place environment _ there started.environment)
  have stillPlaced : (household.raise.setEnvironment place attempt.state.environment).Placed :=
    placed.setEnvironment place attempt.state.environment
  have lies : (household.raise.setEnvironment place attempt.state.environment).environment? place =
      some attempt.state.environment :=
    (household.environment?_setEnvironment place place _ _ there).trans (if_pos rfl)
  rcases opening with ⟨_, _, after⟩ | ⟨_, _, _, after⟩
  · rw [after]
    exact ⟨stillPlaced.addMember place _ (List.getElem?_eq_some_iff.mp lies).1,
      learned.trans (evolves_addMember _ place _ environment _ lies started)⟩
  · rw [after]
    exact ⟨stillPlaced, learned.trans (.of_members rfl rfl fun _ _ present => present)⟩

theorem keeps_closeSession (household : Household Custom Handler Note)
    (placed : household.Placed) (number : Nat) :
    household.Keeps (household.closeSession number) := by
  refine ⟨placed.closeSession number,
    .of_members ?_ ?_ (household.member?_of_closeSession number)⟩
  · unfold closeSession
    split <;> rfl
  · unfold closeSession
    split <;> rfl

theorem keeps_setMember (household : Household Custom Handler Note) (placed : household.Placed)
    (number : Nat) (member changed : Member Custom Handler Note)
    (present : household.member? number = some member)
    (samePlace : changed.environment = member.environment)
    (evolves : ∀ environment, household.environment? member.environment = some environment →
      Workspace.Evolves ⟨environment, member.session⟩ ⟨environment, changed.session⟩) :
    household.Keeps (household.setMember number changed) :=
  ⟨placed.setMember number member changed present samePlace,
    household.evolves_setMember number member changed present samePlace evolves⟩

theorem keeps_act (household : Household Custom Handler Note) (placed : household.Placed)
    (number : Nat) (deed : Workspace.Deed Custom) :
    household.Keeps (household.act number deed) := by
  unfold act
  cases present : household.member? number with
  | none => exact ⟨placed, .refl _⟩
  | some member =>
    dsimp only
    cases found : household.workspace? member with
    | none => exact ⟨placed, .refl _⟩
    | some workspace =>
      obtain ⟨environment, there, rfl⟩ := Option.map_eq_some_iff.mp found
      dsimp only
      have evolves := Workspace.evolves_perform ⟨environment, member.session⟩ deed
      generalize Workspace.perform ⟨environment, member.session⟩ deed = after at evolves
      -- The environment changes first, for all sessions that share it, and then the session.
      have grown := household.evolves_setEnvironment member.environment environment
        after.environment there evolves.environment
      have keeps := keeps_setMember (household.setEnvironment member.environment after.environment)
        (placed.setEnvironment _ _) number member { member with session := after.session } present
        rfl fun changed lies => by
          rw [environment?_setEnvironment _ _ _ _ _ there, if_pos rfl] at lies
          cases Option.some.inj lies
          exact ⟨.refl _, evolves.loaded, evolves.distinct, evolves.available, evolves.views⟩
      exact ⟨keeps.placed, grown.trans keeps.evolves⟩

/-- A deed in a session is done in its workspace. -/
theorem Hosts.act {household : Household Custom Handler Note} {number place : Nat}
    {workspace : Workspace Custom} (hosts : household.Hosts number place workspace)
    (deed : Workspace.Deed Custom) :
    (household.act number deed).Hosts number place (workspace.perform deed) := by
  obtain ⟨⟨channel, present⟩, there⟩ := hosts
  have found : household.workspace? ⟨place, workspace.session, channel⟩ = some workspace := by
    rw [workspace?, there]
    rfl
  rw [Household.act, present]
  dsimp only
  rw [found]
  refine ⟨⟨channel, ?_⟩, ?_⟩
  · refine (member?_setMember _ number number _).trans ?_
    rw [if_pos rfl]
    exact congrArg (Option.map _) present
  · exact (household.environment?_setEnvironment place place _ _ there).trans (if_pos rfl)

theorem keeps_perform (household : Household Custom Handler Note) (placed : household.Placed)
    (deed : Deed Custom Handler Note) : household.Keeps (household.perform deed) := by
  cases deed with
  | addEnvironment loader => exact household.keeps_addEnvironment placed loader
  | openSession place options =>
    dsimp only [perform]
    cases there : household.environment? place with
    | none => exact ⟨placed, .refl _⟩
    | some environment =>
      exact household.keeps_openSession placed place environment options there
  | closeSession number => exact household.keeps_closeSession placed number
  | act number deed => exact household.keeps_act placed number deed
  | converse number channel =>
    dsimp only [perform]
    cases present : household.member? number with
    | none => exact ⟨placed, .refl _⟩
    | some member =>
      exact household.keeps_setMember placed number member _ present rfl fun _ _ => .refl _
  | share place deed =>
    dsimp only [perform]
    cases there : household.environment? place with
    | none => exact ⟨placed, .refl _⟩
    | some environment =>
      exact ⟨placed.setEnvironment place _,
        household.evolves_setEnvironment place environment _ there (environment.grows_perform deed)⟩

theorem keeps_performAll (household : Household Custom Handler Note) (placed : household.Placed)
    (deeds : List (Deed Custom Handler Note)) : household.Keeps (household.performAll deeds) := by
  induction deeds generalizing household with
  | nil => exact ⟨placed, .refl _⟩
  | cons deed later inductionHypothesis =>
    have keeps := household.keeps_perform placed deed
    have keepsLater := inductionHypothesis (household.perform deed) keeps.placed
    exact ⟨keepsLater.placed, keeps.evolves.trans keepsLater.evolves⟩

theorem placed_empty : (empty : Household Custom Handler Note).Placed :=
  fun _ inside => absurd inside List.not_mem_nil

theorem keeps_run (deeds : List (Deed Custom Handler Note)) :
    empty.Keeps (empty.performAll deeds) :=
  empty.keeps_performAll placed_empty deeds

/-- Every session of a run started empty. -/
theorem Hosts.started {deeds : List (Deed Custom Handler Note)} {number place : Nat}
    {workspace : Workspace Custom}
    (hosts : (empty.performAll deeds).Hosts number place workspace) :
    ∃ environment, Workspace.Evolves ⟨environment, Session.empty⟩ workspace := by
  rcases (keeps_run deeds).evolves.hosts number place workspace hosts with ⟨_, started⟩ | ⟨_, old, _⟩
  · exact started
  · obtain ⟨_, present⟩ := old.member
    cases present

/-- The views that the sessions of a run keep are backed. -/
theorem Hosts.coherent {deeds : List (Deed Custom Handler Note)} {number place : Nat}
    {workspace : Workspace Custom}
    (hosts : (empty.performAll deeds).Hosts number place workspace) : workspace.Coherent := by
  obtain ⟨environment, started⟩ := hosts.started
  exact started.coherent (Workspace.coherent_empty environment)

/-- What the sessions of a run have loaded is in order. -/
theorem Hosts.stocked {deeds : List (Deed Custom Handler Note)} {number place : Nat}
    {workspace : Workspace Custom}
    (hosts : (empty.performAll deeds).Hosts number place workspace) : workspace.Stocked := by
  obtain ⟨environment, started⟩ := hosts.started
  exact started.stocked (Workspace.stocked_empty environment)

theorem supplied_run (deeds : List (Deed Custom Handler Note)) :
    (empty.performAll deeds).Supplied :=
  (keeps_run deeds).evolves.supplied nofun

/-- A session that was there before is the session of its number later. -/
theorem Evolves.same_session {before after : Household Custom Handler Note}
    (evolves : before.Evolves after) (placed : before.Placed) {number place placeLater : Nat}
    {workspace later : Workspace Custom} (hosts : before.Hosts number place workspace)
    (hostsLater : after.Hosts number placeLater later) :
    placeLater = place ∧ workspace.Evolves later := by
  obtain ⟨_, present⟩ := hosts.member
  rcases evolves.hosts number placeLater later hostsLater with ⟨new, _⟩ | ⟨past, old, evolved⟩
  · -- A session that was opened meanwhile has another number.
    exact absurd (placed.of_member? present).1 (Nat.not_lt_of_le new)
  · obtain ⟨_, presentOld⟩ := old.member
    rw [present, Option.some.injEq] at presentOld
    obtain rfl : place = placeLater := congrArg Member.environment presentOld
    exact ⟨rfl, old.unique hosts ▸ evolved⟩

end Household

end Polyglot
