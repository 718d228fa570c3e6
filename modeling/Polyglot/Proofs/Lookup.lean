/-
This file proves what is found under a key. Where no two entries of a list have one key, every
entry is found under its own. Where entries are put into a dictionary one after the other, the
last one with a key is found under it; dialects and classes of builders are put together in this
way, and so are the attributes of a draft. As a dictionary is in the order of its keys, what is
found in it settles all of it.
-/

import Mathlib.Data.List.Forall2
import Mathlib.Data.List.Nodup
import Mathlib.Data.String.Basic
import Polyglot.Proofs.Name.Reading
import Polyglot.Standard
import Polyglot.Workspace.Creation

namespace Polyglot

variable {Custom Value : Type}

/-- Where no two entries have one key, an entry is found under its key. -/
theorem find?_of_distinct {Entry Key : Type} [DecidableEq Key] (key : Entry → Key)
    {entries : List Entry} (distinct : (entries.map key).Nodup) {entry : Entry}
    (member : entry ∈ entries) :
    entries.find? (fun other => key other = key entry) = some entry := by
  obtain ⟨found, foundSome⟩ :
      ∃ found, entries.find? (fun other => key other = key entry) = some found :=
    Option.isSome_iff_exists.mp (List.find?_isSome.mpr ⟨entry, member, by simp⟩)
  have same : found = entry :=
    List.inj_on_of_nodup_map distinct (List.mem_of_find?_eq_some foundSome) member
      (by simpa using List.find?_some foundSome)
  rw [foundSome, same]

/-- The value that counts for a key in a list, which is the last one. -/
def lastUnder (entries : List (String × Value)) (key : String) : Option Value :=
  (entries.reverse.find? fun entry => entry.1 = key).map Prod.snd

theorem lastUnder_cons (entry : String × Value) (rest : List (String × Value)) (key : String) :
    lastUnder (entry :: rest) key =
      (lastUnder rest key).or (if entry.1 = key then some entry.2 else none) := by
  unfold lastUnder
  rw [List.reverse_cons, List.find?_append, Option.map_or, List.find?_singleton]
  by_cases same : entry.1 = key <;> simp [same]

theorem mem_of_lastUnder {entries : List (String × Value)} {key : String} {value : Value}
    (found : lastUnder entries key = some value) : (key, value) ∈ entries := by
  obtain ⟨entry, there, rfl⟩ := Option.map_eq_some_iff.mp found
  have own : entry.1 = key := by simpa using List.find?_some there
  exact own ▸ List.mem_reverse.mp (List.mem_of_find?_eq_some there)

theorem lastUnder_of_distinct {entries : List (String × Value)}
    (distinct : (entries.map Prod.fst).Nodup) {key : String} {value : Value}
    (member : (key, value) ∈ entries) : lastUnder entries key = some value := by
  have reversed : (entries.reverse.map Prod.fst).Nodup := by
    rw [List.map_reverse]
    exact List.nodup_reverse.mpr distinct
  rw [lastUnder, find?_of_distinct Prod.fst reversed (List.mem_reverse.mpr member)]
  rfl

/-- What is found in a dictionary after entries were put in. -/
theorem Dictionary.find?_insertAll (dictionary : Dictionary Value)
    (entries : List (String × Value)) (key : String) :
    (dictionary.insertAll entries).find? key =
      (lastUnder entries key).or (dictionary.find? key) := by
  induction entries generalizing dictionary with
  | nil => rfl
  | cons entry rest inductionHypothesis =>
    show ((dictionary.insert entry.1 entry.2).insertAll rest).find? key = _
    rw [inductionHypothesis, find?_insert, lastUnder_cons, Option.or_assoc]
    by_cases same : key = entry.1
    · rw [if_pos same, if_pos same.symm, Option.some_or]
    · rw [if_neg same, if_neg (Ne.symm same), Option.none_or]

/-! ### What is found settles the entries -/

namespace Dictionary

theorem found_first (entry : String × Value) (rest : List (String × Value)) :
    findEntry? entry.1 (entry :: rest) = some entry.2 :=
  if_pos rfl

theorem found_behind {key : String} {entry : String × Value} (other : key ≠ entry.1)
    (rest : List (String × Value)) : findEntry? key (entry :: rest) = findEntry? key rest :=
  if_neg other

/-- There is a value under the keys and under no other text. -/
theorem mem_keys_iff (dictionary : Dictionary Value) (key : String) :
    key ∈ dictionary.keys ↔ (dictionary.find? key).isSome = true := by
  show key ∈ dictionary.entries.map Prod.fst ↔ ( findEntry? key dictionary.entries).isSome = true
  induction dictionary.entries with
  | nil => simp [ findEntry?]
  | cons entry rest inductionHypothesis =>
    rw [List.map_cons, List.mem_cons, inductionHypothesis]
    by_cases same : key = entry.1
    · rw [same, found_first]
      exact iff_of_true (.inl rfl) rfl
    · rw [found_behind same, or_iff_right same]

theorem absent_of_lt {key : String} {entries : List (String × Value)}
    (smaller : ∀ entry ∈ entries, key < entry.1) : findEntry? key entries = none := by
  induction entries with
  | nil => rfl
  | cons first rest inductionHypothesis =>
    obtain ⟨firstSmaller, restSmaller⟩ := List.forall_mem_cons.1 smaller
    have other : key ≠ first.1 := fun same => String.lt_irrefl key (same ▸ firstSmaller)
    exact (found_behind other rest).trans (inductionHypothesis restSmaller)

/-- Ordered entries in which related values are found under every key have the same keys, and
their values are related one by one. -/
theorem forall₂_of_related {Other : Type} {Related : Value → Other → Prop}
    {entries : List (String × Value)} {others : List (String × Other)} (ordered : Ordered entries)
    (othersOrdered : Ordered others)
    (related : ∀ key, Option.Rel Related ( findEntry? key entries) ( findEntry? key others)) :
    List.Forall₂ (fun entry other => entry.1 = other.1 ∧ Related entry.2 other.2) entries
      others := by
  induction entries generalizing others with
  | nil =>
    cases others with
    | nil => exact .nil
    | cons other behind =>
      have found := related other.1
      rw [found_first] at found
      cases found
  | cons entry rest inductionHypothesis =>
    obtain ⟨restBehind, restOrdered⟩ := List.pairwise_cons.1 ordered
    cases others with
    | nil =>
      have found := related entry.1
      rw [found_first] at found
      cases found
    | cons other behind =>
      obtain ⟨othersBehind, behindOrdered⟩ := List.pairwise_cons.1 othersOrdered
      -- The smaller of two different first keys would be found in one list alone.
      rcases lt_trichotomy entry.1 other.1 with smaller | same | greater
      · have absent : findEntry? entry.1 (other :: behind) = none :=
          absent_of_lt (List.forall_mem_cons.2
            ⟨smaller, fun _ member => smaller.trans (othersBehind _ member)⟩)
        have found := related entry.1
        rw [absent, found_first] at found
        cases found
      · have found := related entry.1
        rw [found_first, same, found_first] at found
        refine .cons ⟨same, Option.rel_some_some.1 found⟩
          (inductionHypothesis restOrdered behindOrdered fun key => ?_)
        by_cases first : key = entry.1
        · rw [first, absent_of_lt restBehind, absent_of_lt (same ▸ othersBehind)]
          exact .none
        · have found := related key
          rwa [found_behind first, found_behind (same ▸ first)] at found
      · have absent : findEntry? other.1 (entry :: rest) = none :=
          absent_of_lt (List.forall_mem_cons.2
            ⟨greater, fun _ member => greater.trans (restBehind _ member)⟩)
        have found := related other.1
        rw [absent, found_first] at found
        cases found

/-- A dictionary is settled by what is found in it. -/
theorem ext_of_find? {dictionary other : Dictionary Value}
    (same : ∀ key, dictionary.find? key = other.find? key) : dictionary = other := by
  have related (key : String) : Option.Rel Eq (dictionary.find? key) (other.find? key) := by
    rw [same key]
    cases other.find? key with
    | none => exact .none
    | some value => exact .some rfl
  have entries := forall₂_of_related dictionary.ordered other.ordered related
  have paired : List.Forall₂ Eq dictionary.entries other.entries :=
    entries.imp fun _ _ parts => Prod.ext parts.1 parts.2
  rw [List.forall₂_eq_eq_eq] at paired
  obtain ⟨entries, ordered⟩ := dictionary
  cases paired
  rfl

end Dictionary

/-! ### Attributes -/

/-- Setting attributes one after the other gives the last one of each name. -/
theorem AttributeDict.find?_setAll {attributes result : AttributeDict}
    {entries : List (String × Attribute)} (set : attributes.setAll entries = .ok result)
    (name : String) :
    result.find? name = (lastUnder entries name).or (attributes.find? name) := by
  induction entries generalizing attributes with
  | nil =>
    cases set
    rfl
  | cons entry rest inductionHypothesis =>
    rw [setAll] at set
    cases parsed : Identifier.parse entry.1 with
    | error error =>
      rw [parsed] at set
      cases set
    | ok identifier =>
      rw [parsed] at set
      rw [inductionHypothesis set, find?_set, Identifier.text_of_parse parsed, lastUnder_cons,
        Option.or_assoc]
      by_cases same : name = entry.1
      · rw [if_pos same, if_pos same.symm, Option.some_or]
      · rw [if_neg same, if_neg (Ne.symm same), Option.none_or]

/-- The attribute of a draft that counts for a name is the one that its operation carries. -/
theorem Draft.attribute?_eq {draft : Draft} {attributes : AttributeDict}
    (set : AttributeDict.empty.setAll draft.attributes = .ok attributes) (name : String) :
    attributes.find? name = draft.attribute? name :=
  (AttributeDict.find?_setAll set name).trans Option.or_none

/-! ### Dialects and classes of builders -/

namespace Dialect

theorem schemas_insertAll (dialect : Dialect Custom) (schemas : List (Schema Custom)) :
    (dialect.insertAll schemas).schemas =
      dialect.schemas.insertAll (schemas.map fun schema => (schema.name, schema)) := by
  induction schemas generalizing dialect with
  | nil => rfl
  | cons schema rest inductionHypothesis => exact inductionHypothesis (dialect.insert schema)

variable {name : DialectName} {schemas : List (Schema Custom)}

theorem schema?_insertAll (op : String) : ((ofName name).insertAll schemas).schema? op =
    lastUnder (schemas.map fun schema => (schema.name, schema)) op := by
  rw [schema?, schemas_insertAll, Dictionary.find?_insertAll]
  exact Option.or_none

/-- A schema that is found was put in, under its name. -/
theorem mem_of_schema? {op : String} {schema : Schema Custom}
    (found : ((ofName name).insertAll schemas).schema? op = some schema) :
    schema ∈ schemas ∧ schema.name = op := by
  rw [schema?_insertAll] at found
  obtain ⟨other, member, same⟩ := List.mem_map.mp (mem_of_lastUnder found)
  obtain ⟨own, rfl⟩ := Prod.mk.inj same
  exact ⟨member, own⟩

/-- Where no two schemas have one name, each is found under its name. -/
theorem schema?_of_mem (distinct : (schemas.map Schema.name).Nodup) {schema : Schema Custom}
    (member : schema ∈ schemas) :
    ((ofName name).insertAll schemas).schema? schema.name = some schema := by
  rw [schema?_insertAll]
  refine lastUnder_of_distinct ?_ (List.mem_map_of_mem member)
  rwa [List.map_map]

end Dialect

namespace DialectClass

theorem builders_insertAll (dialectClass : DialectClass) (entries : List (String × Builder)) :
    (dialectClass.insertAll entries).builders = dialectClass.builders.insertAll
      (entries.map fun entry => (entry.1, ⟨⟨dialectClass.name, entry.1⟩, entry.2⟩)) := by
  induction entries generalizing dialectClass with
  | nil => rfl
  | cons entry rest inductionHypothesis =>
    exact inductionHypothesis (dialectClass.insert entry.1 entry.2)

/-- A builder that is found was put in, for the operation of its name. -/
theorem mem_of_find? {name : DialectName} {entries : List (String × Builder)} {op : String}
    {opClass : OpClass} (found : ((ofName name).insertAll entries).find? op = some opClass) :
    opClass.id = ⟨name, op⟩ ∧ (op, opClass.builder) ∈ entries := by
  rw [find?, builders_insertAll, Dictionary.find?_insertAll] at found
  have last := (Option.or_none).symm.trans found
  obtain ⟨entry, member, same⟩ := List.mem_map.mp (mem_of_lastUnder last)
  obtain ⟨rfl, rfl⟩ := Prod.mk.inj same
  exact ⟨rfl, member⟩

end DialectClass

end Polyglot
