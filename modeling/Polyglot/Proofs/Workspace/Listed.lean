/-
This file proves which of the dialects that a session has loaded can be asked for by name. Names
are not checked where dialects are registered and operations are added to them, but they are where
they are asked for: a malformed name is a name of nothing. So a loaded dialect has a handle exactly
if its name is well formed, and its operations are registered exactly if their names are
identifiers as well.
-/

import Polyglot.Proofs.Household.Dialects
import Polyglot.Proofs.Lookup
import Polyglot.Proofs.Name.Reading

namespace Polyglot

variable {Custom : Type}

/-! ### Names of operations -/

theorem Dialect.mem_opNames_iff (dialect : Dialect Custom) (op : String) :
    op ∈ dialect.opNames ↔ (dialect.schema? op).isSome = true :=
  dialect.schemas.mem_keys_iff op

namespace Session

/-- Whether an operation is registered that is one of a loaded dialect is decided by its name. -/
theorem isRegisteredName_text_iff {session : Session Custom} {dialect : Dialect Custom}
    (loaded : session.dialect? dialect.name = some dialect) (valid : dialect.name.isValid = true)
    {op : String} (known : op ∈ dialect.opNames) :
    session.isRegisteredName (OpId.text ⟨dialect.name, op⟩) = true ↔
      Identifier.isValid op = true := by
  constructor
  · intro registered
    unfold isRegisteredName at registered
    split at registered
    next id named =>
      obtain ⟨text, idValid, opValid⟩ := OpId.ofString?_eq_some_iff.mp named
      obtain rfl : id = ⟨dialect.name, op⟩ := OpId.eq_of_text_eq idValid valid text
      exact opValid
    next => cases registered
  · intro opValid
    rw [session.isRegisteredName_eq (OpId.ofString?_text ⟨dialect.name, op⟩ valid opValid),
      isRegistered, schema?, loaded]
    exact (dialect.mem_opNames_iff op).mp known

end Session

namespace Workspace

/-! ### Loaded dialects -/

/-- At every time of a session, a loaded dialect is the one of its name. If the name is well formed,
asking for a handle on it gives one and changes nothing, and the operations with identifiers as
names are registered. If it is not, there is no handle, and no qualified name is one
of an operation of the dialect. -/
theorem loaded_found_by_name (environment : Environment Custom) (options : Start)
    (deeds : List (Deed Custom)) :
    let workspace := (start environment options).state.performAll deeds
    ∀ dialect ∈ workspace.session.loaded,
      workspace.session.dialect? dialect.name = some dialect ∧
      (dialect.name.isValid = true →
        (∃ descriptor, workspace.descriptor dialect.name = .idle workspace (.ok descriptor) ∧
          workspace.session.dialectAt? descriptor = some dialect) ∧
        ∀ op ∈ dialect.opNames,
          (workspace.session.isRegisteredName (OpId.text ⟨dialect.name, op⟩) = true ↔
            Identifier.isValid op = true)) ∧
      (dialect.name.isValid = false →
        workspace.descriptor dialect.name =
          .idle workspace (.error (.unknownDialect dialect.name)) ∧
        ∀ written id, OpId.ofString? written = some id → id.dialect ≠ dialect.name) := by
  intro workspace dialect member
  have stocked : workspace.Stocked := stocked_start environment options deeds
  have loaded : workspace.session.dialect? dialect.name = some dialect :=
    find?_of_distinct Dialect.name stocked.distinct member
  refine ⟨loaded, fun valid => ⟨?_, fun op known => ?_⟩, fun invalid => ⟨?_, ?_⟩⟩
  · cases described : workspace.session.descriptor? dialect.name with
    | none =>
      rw [(workspace.session.descriptor?_eq_none_iff dialect.name).mp described] at loaded
      cases loaded
    | some descriptor =>
      obtain ⟨other, leads, _, found⟩ := Session.dialectAt?_of_descriptor? described
      cases found.symm.trans loaded
      exact ⟨descriptor, workspace.descriptor_of_loaded _ descriptor valid described, leads⟩
  · exact Session.isRegisteredName_text_iff loaded valid known
  · exact workspace.descriptor_of_invalid invalid
  · intro written id named same
    have valid := (OpId.ofString?_eq_some_iff.mp named).2.1
    rw [same, invalid] at valid
    cases valid

/-- A dialect one operation of which has a name that is no identifier. -/
def toy : Dialect Empty :=
  (Dialect.ofName ⟨"toy"⟩).insertAll [{ name := "print" }, { name := "9x" }]

/-- A dialect with a malformed name. -/
def dotted : Dialect Empty :=
  (Dialect.ofName ⟨"a.b"⟩).insertAll [{ name := "print" }]

/-- An environment in which both are available. -/
def hospitable : Environment Empty :=
  ((Environment.ofLoader 0 .empty).perform (.register toy)).perform (.register dotted)

/-- A session that has loaded all that is available there. -/
def crowded : Workspace Empty := (start hospitable ⟨none, false⟩).state

theorem loaded_found_by_name_crowded :
    (∃ descriptor, crowded.descriptor ⟨"toy"⟩ = .idle crowded (.ok descriptor) ∧
      crowded.session.dialectAt? descriptor = some toy) ∧
    crowded.session.isRegisteredName "toy.print" = true ∧
    crowded.descriptor ⟨"a.b"⟩ = .idle crowded (.error (.unknownDialect ⟨"a.b"⟩)) := by
  have found := loaded_found_by_name hospitable ⟨none, false⟩ []
  have loaded : crowded.session.loaded = Standard.dialects ++ [toy, dotted] := rfl
  obtain ⟨_, reachable, _⟩ := found toy (show toy ∈ crowded.session.loaded by simp [loaded])
  obtain ⟨_, _, lost⟩ := found dotted (show dotted ∈ crowded.session.loaded by simp [loaded])
  obtain ⟨handle, registered⟩ := reachable rfl
  exact ⟨handle, (registered "print" (by decide +kernel)).mpr rfl, (lost rfl).1⟩

/-- A session lists a name that it knows nothing of, and an operation of a dialect that it has
loaded is not registered. -/
theorem listed_but_lost : Life [crowded] ∧
    (⟨"a.b"⟩ ∈ crowded.session.loadedNames ∧
      (crowded.descriptor ⟨"a.b"⟩).answer = .error (.unknownDialect ⟨"a.b"⟩)) ∧
    crowded.session.dialect? ⟨"toy"⟩ = some toy ∧ "9x" ∈ toy.opNames ∧
    crowded.session.isRegisteredName "toy.9x" = false := by
  have reached : hospitable.Reached := .performed _ _ (.performed _ _ (.fresh 0 .empty))
  exact ⟨.started hospitable ⟨none, false⟩ reached rfl, ⟨by decide +kernel, rfl⟩, rfl,
    by decide +kernel, rfl⟩

end Workspace

end Polyglot
