/-
This file proves what a builder that is looked up by name builds. The builders of a class are for
operations of the dialect that the class is declared for, whereas a class is looked up by the
namespace at whose path its module was found, and nothing compares the two. So a builder that was
found under a name builds operations of that name exactly if the class is declared for the
namespace it was found under.
-/

import Polyglot.Proofs.Workspace.Admission
import Polyglot.Proofs.Workspace.Handles

namespace Polyglot

variable {Custom : Type}

/-! ### What is looked up -/

/-- A builder that is found is one of the class of the namespace. -/
theorem Environment.class?_opClassOf {environment : Environment Custom} {written : String}
    {opClass : OpClass} (answered : (environment.opClassOf written).answer = .ok (some opClass)) :
    ∃ id loadedClass, OpId.ofString? written = some id ∧
      (environment.opClassOf written).state = (environment.loadModule id.dialect).state ∧
      (environment.loadModule id.dialect).state.class? id.dialect = some loadedClass ∧
      loadedClass.dialectClass.find? id.name = some opClass := by
  unfold opClassOf OpId.parse at answered ⊢
  cases named : OpId.ofString? written with
  | none =>
    rw [named] at answered
    cases answered
  | some id =>
    rw [named] at answered
    dsimp only at answered ⊢
    cases asked : (environment.classOf id.dialect).answer with
    | error error =>
      rw [Attempt.andThen_of_error _ _ error asked] at answered
      cases answered
    | ok found =>
      rw [Attempt.andThen_of_ok _ _ found asked] at answered ⊢
      obtain ⟨loadedClass, rfl, present⟩ := Option.bind_eq_some_iff.mp (Except.ok.inj answered)
      have there := environment.class?_classOf id.dialect _ asked
      have same := environment.state_classOf id.dialect
      exact ⟨id, loadedClass, rfl, same, same ▸ there, present⟩

theorem DialectView.opClass_eq_ok_iff (view : DialectView) (op : String) (opClass : OpClass) :
    view.opClass op = .ok opClass ↔ ∃ loadedClass, view.loadedClass = some loadedClass ∧
      loadedClass.dialectClass.find? op = some opClass := by
  unfold DialectView.opClass dialectClass
  cases view.loadedClass with
  | none => simp
  | some loadedClass => cases found : loadedClass.dialectClass.find? op <;> simp [found]

/-! ### What is built -/

/-- What the builder hands on bears the name that it was given. -/
def Builder.KeepsName (builder : Builder) : Prop :=
  ∀ operations draft prepared, builder operations draft = .ok prepared → prepared.name = draft.name

namespace Workspace

variable {workspace : Workspace Custom} {draft : Draft} {creation : Creation}

/-- An operation that is created bears the name of its draft. -/
theorem named_of_create (created : (workspace.create draft).answer = .ok creation) :
    OpId.ofString? draft.name = some creation.operation.id := by
  have creates := workspace.creates draft
  rw [created] at creates
  generalize (workspace.create draft).state.session = after at creates
  cases creates with
  | admitted id admits _ _ operation described =>
    rw [described]
    exact admits.named

theorem named_of_buildFrom {view : DialectView} {op : String} {opClass : OpClass}
    (has : view.opClass op = .ok opClass) (keeps : opClass.builder.KeepsName)
    (built : (workspace.buildFrom view op draft).answer = .ok creation) :
    OpId.ofString? opClass.id.text = some creation.operation.id := by
  rw [buildFrom, has] at built
  dsimp only at built
  unfold build at built
  split at built
  next => cases built
  next prepared ready =>
    have name : prepared.name = opClass.id.text := keeps _ _ prepared ready
    rw [← name]
    exact named_of_create built

/-- A builder that is looked up by a qualified name has that name, and what is built through a view
has the name that was asked of the view, exactly if the class that was loaded for the namespace is
declared for it. In any case the builder is one of the dialect that the class is declared for. -/
theorem builders_named (environment : Environment Custom) :
    (∀ written opClass, (environment.opClassOf written).answer = .ok (some opClass) →
      ∃ id loadedClass, OpId.ofString? written = some id ∧
        (environment.opClassOf written).state.class? id.dialect = some loadedClass ∧
        opClass.id = ⟨loadedClass.dialectClass.name, id.name⟩ ∧
        (opClass.id.text = written ↔ loadedClass.dialectClass.name = id.dialect)) ∧
    ∀ options deeds access name view op opClass,
      let viewed := ((start environment options).state.performAll deeds).view access name
      viewed.answer = .ok view → view.opClass op = .ok opClass →
      ∃ loadedClass, viewed.state.environment.class? name = some loadedClass ∧
        opClass.id = ⟨loadedClass.dialectClass.name, op⟩ ∧
        (opClass.builder.KeepsName → ∀ (target : Workspace Custom) draft creation,
          (target.buildFrom view op draft).answer = .ok creation →
            creation.operation.id.text = opClass.id.text ∧
              (creation.operation.id = ⟨name, op⟩ ↔ loadedClass.dialectClass.name = name)) := by
  refine ⟨fun written opClass answered => ?_, ?_⟩
  · obtain ⟨id, loadedClass, named, state, present, found⟩ :=
      Environment.class?_opClassOf answered
    have label := loadedClass.dialectClass.labelled id.name opClass found
    refine ⟨id, loadedClass, named, state ▸ present, label, ?_⟩
    rw [label, ← (OpId.ofString?_eq_some_iff.mp named).1]
    exact OpId.text_eq_text_iff _ _ _
  · intro options deeds access name view op opClass viewed answered has
    have coherent : ((start environment options).state.performAll deeds).Coherent :=
      (evolves_start_performAll environment options deeds).coherent (coherent_empty environment)
    have backs := (shows_view _ coherent access name).backs view answered
    obtain ⟨loadedClass, carried, found⟩ := (view.opClass_eq_ok_iff op opClass).mp has
    have present := backs.loadedClass loadedClass carried
    have label := loadedClass.dialectClass.labelled op opClass found
    refine ⟨loadedClass, present, label, fun keeps target draft creation built => ?_⟩
    obtain ⟨text, valid, _⟩ := OpId.ofString?_eq_some_iff.mp (named_of_buildFrom has keeps built)
    refine ⟨text, fun same => ?_, fun same => ?_⟩
    · rw [same, label] at text
      exact ((OpId.text_eq_text_iff _ _ op).mp text).symm
    · rw [label, same] at text
      exact OpId.eq_of_text_eq valid backs.valid text

/-- A class with one builder. -/
def printing (name : String) : DialectClass :=
  (DialectClass.ofName ⟨name⟩).insertAll [("print", .plain)]

/-- Two modules with classes and dialects, the second of which has a class that is declared for a
further namespace. -/
def careless : List (DialectModule Empty) :=
  [⟨"dialects.toy", some (printing "toy"), some (.ofName ⟨"toy"⟩)⟩,
    ⟨"dialects.odd", some (printing "other"), some (.ofName ⟨"odd"⟩)⟩]

/-- An environment with these modules. -/
def bazaar : Environment Empty := .ofLoader 0 (.linked careless)

/-- The options of a session that loads nothing at first and accepts all operations. -/
def lenient : Start := ⟨some [], true⟩

/-- The view of a dialect that is loaded first, with a class. -/
def firstView (name declared : String) : DialectView :=
  ⟨⟨⟨name⟩, 0⟩, some ⟨0, { printing declared with path := "dialects." ++ name }⟩⟩

/-- A draft that leaves its name to a builder. -/
def nameless : Draft := ⟨"", [], [], [], .unknown⟩

/-- Where class and namespace agree, the builder and what it builds have the name asked for. -/
theorem builders_named_bazaar :
    (∃ opClass, (bazaar.opClassOf "toy.print").answer = .ok (some opClass) ∧
      opClass.id.text = "toy.print") ∧
    ∃ creation, ((start bazaar lenient).state.buildFrom (firstView "toy" "toy") "print"
      nameless).answer = .ok creation ∧ creation.operation.id = ⟨⟨"toy"⟩, "print"⟩ := by
  obtain ⟨looked, viewed⟩ := builders_named bazaar
  constructor
  · obtain ⟨id, loadedClass, named, present, _, law⟩ := looked "toy.print" _ rfl
    cases (show some ⟨⟨"toy"⟩, "print"⟩ = some id from named)
    cases (show some ⟨0, { printing "toy" with path := "dialects.toy" }⟩ = some loadedClass from
      present)
    exact ⟨_, rfl, law.mpr rfl⟩
  · obtain ⟨loadedClass, present, _, law⟩ := viewed lenient [] .byAttribute ⟨"toy"⟩
      (firstView "toy" "toy") "print" _ rfl rfl
    cases (show some ⟨0, { printing "toy" with path := "dialects.toy" }⟩ = some loadedClass from
      present)
    have keeps : Builder.plain.KeepsName := by
      intro _ _ _ ready
      cases ready
      rfl
    exact ⟨_, rfl, (law keeps (start bazaar lenient).state nameless _ rfl).2.mpr rfl⟩

/-- A builder that was found under a name has another one, and so has what is built through the view
in whose class it is. -/
theorem builder_misnamed : bazaar.Reached ∧
    (∃ opClass, (bazaar.opClassOf "odd.print").answer = .ok (some opClass) ∧
      opClass.id.text ≠ "odd.print") ∧
    ∃ view creation, ((start bazaar lenient).state.view .byAttribute ⟨"odd"⟩).answer = .ok view ∧
      (((start bazaar lenient).state.view .byAttribute ⟨"odd"⟩).state.buildFrom view "print"
        nameless).answer = .ok creation ∧ creation.operation.id ≠ ⟨⟨"odd"⟩, "print"⟩ :=
  ⟨.fresh 0 _, ⟨_, rfl, by decide⟩, firstView "odd" "other",
    ⟨⟨⟨0⟩, ⟨⟨"other"⟩, "print"⟩, [], [], .empty, .unknown⟩, some _⟩, rfl, rfl, by decide⟩

end Workspace

end Polyglot
