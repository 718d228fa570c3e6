/-
This file defines dictionaries from texts to values, kept in the strict order of their keys. So
a key occurs once, and a later value for it replaces the earlier one.
-/

namespace Polyglot

/-- Are the entries in the strict order of their keys? -/
def Ordered {Value : Type} (entries : List (String × Value)) : Prop :=
  entries.Pairwise fun first second => first.1 < second.1

/-- Values under texts, in the order of the texts. -/
structure Dictionary (Value : Type) where
  entries : List (String × Value)
  ordered : Ordered entries

namespace Dictionary

variable {Value : Type}

/-- The dictionary with no keys. -/
def empty : Dictionary Value := ⟨[], List.Pairwise.nil⟩

/-- Put a value at its place among ordered entries. -/
def insertEntry (key : String) (value : Value) : List (String × Value) → List (String × Value)
  | [] => [(key, value)]
  | (other, present) :: rest =>
    if key = other then (key, value) :: rest
    else if key < other then (key, value) :: (other, present) :: rest
    else (other, present) :: insertEntry key value rest

/-- The keys after an insertion are the new one and those before. -/
theorem key_of_mem_insertEntry (key : String) (value : Value) (entries : List (String × Value))
    (entry : String × Value) (member : entry ∈ insertEntry key value entries) :
    entry.1 = key ∨ entry ∈ entries := by
  induction entries with
  | nil => simp_all [insertEntry]
  | cons first rest inductionHypothesis =>
    obtain ⟨other, present⟩ := first
    by_cases same : key = other
    · simp only [insertEntry, if_pos same, List.mem_cons] at member
      rcases member with equal | inRest
      · exact .inl (congrArg Prod.fst equal)
      · exact .inr (List.mem_cons_of_mem _ inRest)
    · by_cases before : key < other
      · simp only [insertEntry, if_neg same, if_pos before] at member
        rcases List.mem_cons.1 member with equal | present
        · exact .inl (congrArg Prod.fst equal)
        · exact .inr present
      · simp only [insertEntry, if_neg same, if_neg before, List.mem_cons] at member
        rcases member with equal | inRest
        · exact .inr (equal ▸ List.mem_cons_self)
        · exact (inductionHypothesis inRest).imp_right (List.mem_cons_of_mem _)

/-- Putting a value at its place keeps the order. -/
theorem ordered_insertEntry (key : String) (value : Value) (entries : List (String × Value))
    (ordered : Ordered entries) : Ordered (insertEntry key value entries) := by
  induction entries with
  | nil => exact List.pairwise_singleton _ _
  | cons first rest inductionHypothesis =>
    obtain ⟨other, present⟩ := first
    obtain ⟨behind, restOrdered⟩ := List.pairwise_cons.1 ordered
    by_cases same : key = other
    · subst same
      rw [insertEntry, if_pos rfl]
      exact List.pairwise_cons.2 ⟨behind, restOrdered⟩
    · by_cases before : key < other
      · rw [insertEntry, if_neg same, if_pos before]
        refine List.pairwise_cons.2 ⟨fun entry member => ?_, ordered⟩
        rcases List.mem_cons.1 member with equal | inRest
        · exact equal ▸ before
        · exact String.lt_trans before (behind entry inRest)
      · rw [insertEntry, if_neg same, if_neg before]
        refine List.pairwise_cons.2
          ⟨fun entry member => ?_, inductionHypothesis restOrdered⟩
        rcases key_of_mem_insertEntry key value rest entry member with isKey | inRest
        · have after : other < key := by grind
          exact isKey ▸ after
        · exact behind entry inRest

/-- Put a value under a key. -/
def insert (dictionary : Dictionary Value) (key : String) (value : Value) : Dictionary Value :=
  ⟨insertEntry key value dictionary.entries,
    ordered_insertEntry key value dictionary.entries dictionary.ordered⟩

/-- The dictionary without a key. -/
def erase (dictionary : Dictionary Value) (key : String) : Dictionary Value :=
  ⟨dictionary.entries.filter fun entry => entry.1 ≠ key,
    dictionary.ordered.sublist List.filter_sublist⟩

/-- The value under the first entry with the key. -/
def findEntry? (key : String) : List (String × Value) → Option Value
  | [] => none
  | (other, value) :: rest => if key = other then some value else findEntry? key rest

/-- The value under a key. -/
def find? (dictionary : Dictionary Value) (key : String) : Option Value :=
  findEntry? key dictionary.entries

/-- The keys, in order. -/
def keys (dictionary : Dictionary Value) : List String :=
  dictionary.entries.map Prod.fst

/-- Is there a value under the key? -/
def contains (dictionary : Dictionary Value) (key : String) : Bool :=
  (dictionary.find? key).isSome

/-- Has the dictionary no keys? -/
def isEmpty (dictionary : Dictionary Value) : Bool :=
  dictionary.entries.isEmpty

/-- Put the entries of a list in, one after the other. -/
def insertAll (dictionary : Dictionary Value) (entries : List (String × Value)) :
    Dictionary Value :=
  entries.foldl (fun result (key, value) => result.insert key value) dictionary

@[simp]
theorem find?_empty (key : String) : (empty : Dictionary Value).find? key = none := rfl

theorem findEntry?_insertEntry (key probe : String) (value : Value)
    (entries : List (String × Value)) :
    findEntry? probe (insertEntry key value entries) =
      if probe = key then some value else findEntry? probe entries := by
  induction entries with
  | nil => simp [insertEntry, findEntry?]
  | cons entry rest inductionHypothesis =>
    obtain ⟨other, present⟩ := entry
    by_cases same : key = other
    · subst same
      by_cases found : probe = key <;> simp [insertEntry, findEntry?, found]
    · by_cases before : key < other
      · by_cases found : probe = key <;> simp [insertEntry, findEntry?, same, before, found]
      · by_cases found : probe = other
        · have differs : probe ≠ key := fun equal => same (equal ▸ found)
          subst found
          simp [insertEntry, findEntry?, same, before, differs]
        · simp [insertEntry, findEntry?, same, before, found, inductionHypothesis]

/-- A value is found under its key, and other keys keep theirs. -/
theorem find?_insert (dictionary : Dictionary Value) (key probe : String) (value : Value) :
    (dictionary.insert key value).find? probe =
      if probe = key then some value else dictionary.find? probe :=
  findEntry?_insertEntry key probe value dictionary.entries

end Dictionary

end Polyglot
