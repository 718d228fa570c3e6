/-
This file proves what there is to say of the loaded dialects of one session. The names of the
loaded dialects differ, the handle on a dialect leads to the dialect of that name, and whatever is
loaded is one of the dialects that are available.

Dialects are loaded from three places: a handle is asked for, a view is asked for, or all available
dialects are loaded. All three load a dialect that is available, and only if its name is new.
-/

import Polyglot.Proofs.Environment.Supply

namespace Polyglot

variable {Custom : Type}

namespace Session

/-! ### Names and handles -/

theorem mem_loadedNames_iff (session : Session Custom) (name : DialectName) :
    name ∈ session.loadedNames ↔ (session.dialect? name).isSome = true := by
  rw [loadedNames, List.mem_map, dialect?, List.find?_isSome]
  simp

theorem not_mem_loadedNames_iff (session : Session Custom) (name : DialectName) :
    name ∉ session.loadedNames ↔ session.dialect? name = none := by
  rw [mem_loadedNames_iff, Option.not_isSome_iff_eq_none]

/-- The dialect of a name is the one that its handle leads to. -/
theorem dialect?_eq_bind (session : Session Custom) (name : DialectName) :
    session.dialect? name = (session.descriptor? name).bind session.dialectAt? := by
  rw [dialect?, List.find?_eq_bind_findIdx?_getElem?, descriptor?, Option.bind_map]
  rfl

theorem mem_of_dialect? {session : Session Custom} {name : DialectName} {dialect : Dialect Custom}
    (found : session.dialect? name = some dialect) :
    dialect ∈ session.loaded ∧ dialect.name = name :=
  ⟨List.mem_of_find?_eq_some found, by simpa using List.find?_some found⟩

/-- A handle that is given out leads to a loaded dialect that carries the name. -/
theorem dialectAt?_of_descriptor? {session : Session Custom} {name : DialectName}
    {descriptor : Descriptor} (present : session.descriptor? name = some descriptor) :
    ∃ dialect, session.dialectAt? descriptor = some dialect ∧ dialect.name = name ∧
      session.dialect? name = some dialect := by
  obtain ⟨position, found, rfl⟩ := Option.map_eq_some_iff.mp present
  obtain ⟨inside, sameName, _⟩ := List.findIdx?_eq_some_iff_getElem.mp found
  have leads : session.dialectAt? ⟨name, position⟩ = some session.loaded[position] :=
    List.getElem?_eq_getElem inside
  refine ⟨session.loaded[position], leads, of_decide_eq_true sameName, ?_⟩
  rw [dialect?_eq_bind, present]
  exact leads

theorem descriptor?_eq_none_iff (session : Session Custom) (name : DialectName) :
    session.descriptor? name = none ↔ session.dialect? name = none := by
  rw [descriptor?, Option.map_eq_none_iff, List.findIdx?_eq_none_iff, dialect?,
    List.find?_eq_none]
  simp

/-- The dialect of a name stays the same as long as dialects are loaded behind the others. -/
theorem dialect?_of_grown {before after : Session Custom} (grown : before.loaded <+: after.loaded)
    {name : DialectName} {dialect : Dialect Custom} (found : before.dialect? name = some dialect) :
    after.dialect? name = some dialect :=
  grown.find?_eq_some found

/-- Two sessions in which a name stands for one dialect have the same registered operations. -/
theorem isRegistered_congr {first second : Session Custom} {id : OpId}
    (same : first.dialect? id.dialect = second.dialect? id.dialect) :
    first.isRegistered id = second.isRegistered id := by
  rw [isRegistered, isRegistered, schema?, schema?, same]

/-- Loading a dialect leaves everything as it is if its name is taken, and else puts the dialect
behind those that are loaded. -/
theorem load_cases (session : Session Custom) (dialect : Dialect Custom) :
    (session.load dialect).state = session ∨
      (session.load dialect).state =
          { session with loaded := session.loaded ++ [dialect] } ∧
        session.dialect? dialect.name = none := by
  unfold load
  cases present : session.descriptor? dialect.name with
  | some descriptor => exact .inl rfl
  | none => exact .inr ⟨rfl, (session.descriptor?_eq_none_iff dialect.name).mp present⟩

theorem load_of_mem (session : Session Custom) {dialect : Dialect Custom}
    (loaded : dialect.name ∈ session.loadedNames) :
    ∃ descriptor, session.load dialect = .idle session (.ok descriptor) := by
  rw [load]
  cases present : session.descriptor? dialect.name with
  | some descriptor => exact ⟨descriptor, rfl⟩
  | none =>
    have absent := (session.descriptor?_eq_none_iff dialect.name).mp present
    exact absurd loaded ((session.not_mem_loadedNames_iff dialect.name).mpr absent)

theorem loadedNames_load_of_not_mem (session : Session Custom) {dialect : Dialect Custom}
    (new : dialect.name ∉ session.loadedNames) :
    (session.load dialect).state.loadedNames = session.loadedNames ++ [dialect.name] := by
  have absent := (session.not_mem_loadedNames_iff dialect.name).mp new
  rw [load, (session.descriptor?_eq_none_iff dialect.name).mpr absent]
  exact List.map_append

theorem nodup_loadedNames_load (session : Session Custom) (dialect : Dialect Custom)
    (distinct : session.loadedNames.Nodup) :
    (session.load dialect).state.loadedNames.Nodup := by
  rcases session.load_cases dialect with same | ⟨grown, fresh⟩
  · rwa [same]
  · rw [grown]
    exact Dialect.nodup_names_append distinct fresh

theorem mem_loaded_load (session : Session Custom) (dialect other : Dialect Custom)
    (member : other ∈ (session.load dialect).state.loaded) :
    other ∈ session.loaded ∨ other = dialect := by
  rcases session.load_cases dialect with same | ⟨grown, _⟩
  · rw [same] at member
    exact .inl member
  · rw [grown] at member
    exact (List.mem_append.mp member).imp_right List.mem_singleton.mp

end Session

namespace Workspace

/-! ### What is loaded -/

/-- The loaded dialects have names of their own, and are available. -/
structure Stocked (workspace : Workspace Custom) : Prop where
  distinct : workspace.session.loadedNames.Nodup
  available : ∀ dialect ∈ workspace.session.loaded, dialect ∈ workspace.environment.available

theorem stocked_empty (environment : Environment Custom) : Stocked ⟨environment, Session.empty⟩ :=
  ⟨List.nodup_nil, fun _ member => absurd member List.not_mem_nil⟩

/-- The dialect of a name that is loaded is the one that is available under the name. -/
theorem Stocked.dialect?_eq {workspace : Workspace Custom} (stocked : workspace.Stocked)
    (supplied : workspace.environment.Supplied)
    {name : DialectName} {dialect : Dialect Custom}
    (found : workspace.session.dialect? name = some dialect) :
    workspace.environment.dialect? name = some dialect := by
  obtain ⟨member, rfl⟩ := Session.mem_of_dialect? found
  exact supplied.dialect?_name (stocked.available dialect member)

/-- A standard dialect that is loaded is what the standard says, as nobody else gets its name. -/
theorem Stocked.dialect?_of_standard {workspace : Workspace Custom} (stocked : workspace.Stocked)
    (supplied : workspace.environment.Supplied) {dialect : Dialect Custom}
    (standard : dialect ∈ Standard.dialects)
    (loaded : dialect.name ∈ workspace.session.loadedNames) :
    workspace.session.dialect? dialect.name = some dialect := by
  obtain ⟨other, found⟩ :=
    Option.isSome_iff_exists.mp ((workspace.session.mem_loadedNames_iff dialect.name).mp loaded)
  have same : some other = some dialect :=
    (stocked.dialect?_eq supplied found).symm.trans
      (supplied.dialect?_name (supplied.standard.subset standard))
  exact found.trans same

end Workspace

end Polyglot
