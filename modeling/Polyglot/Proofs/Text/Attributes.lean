/-
This file proves that attributes are legible if they hold no floating point numbers and their types
and symbols have proper names, and that a dictionary of such attributes is told by its text,
whatever stands behind it. The first two characters tell which kind of attribute it is. Only a type
can start with a letter other than those of `unit`, `true` and `false`, and a format starts like
`false` does, but goes on with a digit.
-/

import Polyglot.Attribute
import Polyglot.Proofs.Text.Literal
import Polyglot.Proofs.Text.Types

namespace Polyglot

open Text

namespace Attribute

/-! ### Plain attributes -/

mutual

/-- Are there no floating point numbers in it, and have its symbols and types proper names? -/
def isPlain : Attribute → Bool
  | .integer _ ty => ty.isPlain
  | .float _ _ => false
  | .symbol name => Identifier.isValid name
  | .type ty => ty.isPlain
  | .array elements => arePlain elements
  | _ => true

/-- Are all of the attributes plain? -/
def arePlain : List Attribute → Bool
  | [] => true
  | first :: rest => first.isPlain && arePlain rest

end

theorem arePlain_iff (attributes : List Attribute) :
    arePlain attributes = true ↔ ∀ constant ∈ attributes, constant.isPlain = true := by
  induction attributes with
  | nil => simp [arePlain]
  | cons first rest inductionHypothesis => simp [arePlain, inductionHypothesis]

/-! ### The first characters -/

/-- The kinds of plain attributes, the two truth values told apart. -/
inductive Shape where
  | unit
  | bool (value : Bool)
  | integer
  | string
  | symbol
  | type
  | array

/-- The kind of a plain attribute. -/
def shape : Attribute → Shape
  | .unit => .unit
  | .bool value => .bool value
  | .integer _ _ => .integer
  | .float _ _ => .integer
  | .string _ => .string
  | .symbol _ => .symbol
  | .type _ => .type
  | .array _ => .array

/-- The kind of attribute that a text starts like. -/
def shapeOf : List Char → Shape
  | [] => .type
  | first :: rest =>
    if first.isDigit || first = '-' then .integer
    else if first = '"' then .string
    else if first = '@' then .symbol
    else if first = '[' then .array
    else if first = 'u' then .unit
    else if first = 't' then .bool true
    else if first = 'f' && rest.head? = some 'a' then .bool false
    else .type

theorem toList_text_integer (value : Int) (ty : Ty) : (integer value ty).text.toList =
    (toString value).toList ++ ' ' :: ':' :: ' ' :: ty.text.toList := by
  simp [text]

theorem toList_text_symbol (name : String) : (symbol name).text.toList = '@' :: name.toList := by
  simp [text]

theorem toList_text_array (elements : List Attribute) : (array elements).text.toList =
    '[' :: ((", ".intercalate (elements.map text)).toList ++ [']']) := by
  simp [text, texts_eq_map]

theorem toList_text_string (value : String) :
    (string value).text.toList = '"' :: (value.toList.flatMap escape ++ ['"']) := by
  rw [text, toList_quoted]
  rfl

/-- An integer starts with a digit or a sign. -/
theorem integer_starts (value : Int) : ∃ first others, (toString value).toList = first :: others ∧
    (first.isDigit || first = '-') = true := by
  by_cases nonneg : 0 ≤ value
  · obtain ⟨first, others, written, digit⟩ := toString_starts value.toNat
    rw [toList_toString_of_nonneg nonneg]
    exact ⟨first, others, written, by rw [digit, Bool.true_or]⟩
  · rw [toList_toString_of_neg nonneg]
    exact ⟨_, _, rfl, rfl⟩

theorem shapeOf_type (ty : Ty) (rest : List Char) : shapeOf (ty.text.toList ++ rest) = .type := by
  cases ty with
  | integer width =>
    rw [Ty.toList_text_integer]
    rfl
  | float kind => cases kind <;> rfl
  | index => rfl
  | function inputs results =>
    rw [Ty.toList_text_function]
    rfl
  | nothing => rfl
  | foreign dialect data =>
    rw [Ty.toList_text_foreign]
    rfl

/-- The text of a plain attribute starts like its kind. -/
theorem shapeOf_text (constant : Attribute) (plain : constant.isPlain = true)
    (rest : List Char) : shapeOf (constant.text.toList ++ rest) = constant.shape := by
  cases constant with
  | unit => rfl
  | bool value => cases value <;> rfl
  | integer value ty =>
    obtain ⟨first, others, written, starts⟩ := integer_starts value
    rw [toList_text_integer, written]
    exact if_pos starts
  | float value ty => cases plain
  | string value =>
    rw [toList_text_string]
    rfl
  | symbol name =>
    rw [toList_text_symbol]
    rfl
  | type ty => exact shapeOf_type ty rest
  | array elements =>
    rw [toList_text_array]
    rfl

theorem starts_text (constant : Attribute) (plain : constant.isPlain = true) :
    Starts constant.text := by
  cases constant with
  | unit => exact starts_of_first (rfl : "unit".toList = 'u' :: "nit".toList) (by decide)
  | bool value =>
    cases value with
    | true => exact starts_of_first (rfl : "true".toList = 't' :: "rue".toList) (by decide)
    | false => exact starts_of_first (rfl : "false".toList = 'f' :: "alse".toList) (by decide)
  | integer value ty =>
    obtain ⟨first, others, written, starts⟩ := integer_starts value
    have start : (integer value ty).text.toList =
        first :: (others ++ ' ' :: ':' :: ' ' :: ty.text.toList) := by
      rw [toList_text_integer, written, List.cons_append]
    exact starts_of_first start
      (not_ending (fun character => character.isDigit || character = '-') starts (by decide))
  | float value ty => cases plain
  | string value => exact starts_of_first (toList_text_string value) (by decide)
  | symbol name => exact starts_of_first (toList_text_symbol name) (by decide)
  | type ty => exact ty.starts_text
  | array elements => exact starts_of_first (toList_text_array elements) (by decide)

/-! ### Legible attributes -/

/-- An attribute need only be told from those of its kind. -/
theorem legible_of_shape {constant : Attribute} (plain : constant.isPlain = true)
    (told : ∀ other, other.isPlain = true → constant.shape = other.shape → ∀ rest more, Ends rest →
      Ends more → constant.text.toList ++ rest = other.text.toList ++ more →
      constant = other ∧ rest = more) :
    Legible text (·.isPlain = true) constant := by
  intro other plainOther rest more ends endsOther same
  have sameShape : constant.shape = other.shape := by
    rw [← constant.shapeOf_text plain rest, same, other.shapeOf_text plainOther]
  exact told other plainOther sameShape rest more ends endsOther same

theorem legible_unit : Legible text (·.isPlain = true) .unit := by
  refine legible_of_shape rfl fun other plainOther sameShape rest more _ _ same => ?_
  cases other with
  | unit => exact ⟨rfl, List.append_cancel_left same⟩
  | _ => cases sameShape

theorem legible_bool (value : Bool) :
    Legible text (·.isPlain = true) (.bool value) := by
  refine legible_of_shape rfl fun other plainOther sameShape rest more _ _ same => ?_
  cases other with
  | bool otherValue =>
    cases sameShape
    exact ⟨rfl, List.append_cancel_left same⟩
  | _ => cases sameShape

theorem legible_integer (value : Int) (ty : Ty) (plain : ty.isPlain = true) :
    Legible text (·.isPlain = true) (.integer value ty) := by
  refine legible_of_shape plain fun other plainOther sameShape rest more ends endsOther same => ?_
  cases other with
  | integer otherValue otherTy =>
    simp only [toList_text_integer, List.cons_append, List.append_assoc] at same
    obtain ⟨rfl, sameTy⟩ := integer_append_eq (stops_cons rfl _) (stops_cons rfl _) same
    simp only [List.cons.injEq, true_and] at sameTy
    obtain ⟨rfl, sameRest⟩ := ty.legible plain otherTy plainOther rest more ends endsOther sameTy
    exact ⟨rfl, sameRest⟩
  | float => cases plainOther
  | _ => cases sameShape

theorem legible_string (value : String) :
    Legible text (·.isPlain = true) (.string value) := by
  refine legible_of_shape rfl fun other plainOther sameShape rest more _ _ same => ?_
  cases other with
  | string otherValue =>
    rw [text, text] at same
    obtain ⟨rfl, sameRest⟩ := quoted_append_eq same
    exact ⟨rfl, sameRest⟩
  | _ => cases sameShape

theorem legible_symbol (name : String) (valid : Identifier.isValid name = true) :
    Legible text (·.isPlain = true) (.symbol name) := by
  refine legible_of_shape valid fun other validOther sameShape rest more ends endsOther same => ?_
  cases other with
  | symbol otherName =>
    rw [toList_text_symbol, toList_text_symbol] at same
    obtain ⟨rfl, sameRest⟩ := identifier_append_eq valid validOther (ends.stops (by decide))
      (endsOther.stops (by decide)) (List.cons.inj same).2
    exact ⟨rfl, sameRest⟩
  | _ => cases sameShape

theorem legible_type (ty : Ty) (plain : ty.isPlain = true) :
    Legible text (·.isPlain = true) (.type ty) := by
  refine legible_of_shape plain fun other plainOther sameShape rest more ends endsOther same => ?_
  cases other with
  | type otherTy =>
    rw [text, text] at same
    obtain ⟨rfl, sameRest⟩ := ty.legible plain otherTy plainOther rest more ends endsOther same
    exact ⟨rfl, sameRest⟩
  | _ => cases sameShape

theorem legible_array (elements : List Attribute) (plain : arePlain elements = true)
    (legible : ∀ element ∈ elements, Legible text (·.isPlain = true) element) :
    Legible text (·.isPlain = true) (.array elements) := by
  refine legible_of_shape plain fun other plainOther sameShape rest more _ _ same => ?_
  cases other with
  | array otherElements =>
    simp only [toList_text_array, List.cons_append, List.append_assoc, List.nil_append,
      List.cons.injEq, true_and] at same
    obtain ⟨rfl, sameRest⟩ := listing_append_eq (by decide) starts_text
      ((arePlain_iff elements).mp plain) legible ((arePlain_iff otherElements).mp plainOther) same
    exact ⟨rfl, sameRest⟩
  | _ => cases sameShape

mutual

/-- A plain attribute is told by its text, as an item of a list. -/
theorem legible : (constant : Attribute) → constant.isPlain = true →
    Legible text (·.isPlain = true) constant
  | .unit, _ => legible_unit
  | .bool value, _ => legible_bool value
  | .integer value ty, plain => legible_integer value ty plain
  | .float _ _, plain => absurd plain Bool.false_ne_true
  | .string value, _ => legible_string value
  | .symbol name, valid => legible_symbol name valid
  | .type ty, plain => legible_type ty plain
  | .array elements, plain => legible_array elements plain (legible_all elements plain)

theorem legible_all : (attributes : List Attribute) → arePlain attributes = true →
    ∀ constant ∈ attributes, Legible text (·.isPlain = true) constant
  | [], _ => fun _ member => absurd member List.not_mem_nil
  | first :: rest, plain =>
    have both := Bool.and_eq_true_iff.mp plain
    List.forall_mem_cons.mpr ⟨first.legible both.1, legible_all rest both.2⟩

end

end Attribute

namespace AttributeDict

/-! ### Dictionaries -/

/-- Are all attributes plain? -/
def isPlain (attributes : AttributeDict) : Bool :=
  attributes.entries.entries.all fun entry => entry.2.isPlain

/-- An attribute behind its name, which is an identifier. -/
def ProperEntry (entry : String × Attribute) : Prop :=
  Identifier.isValid entry.1 = true ∧ entry.2.isPlain = true

/-- What stands behind the name of an attribute. -/
def behindName : Attribute → List Char
  | .unit => []
  | value => ' ' :: '=' :: ' ' :: value.text.toList

theorem toList_entryText (name : String) (value : Attribute) :
    (entryText (name, value)).toList = name.toList ++ behindName value := by
  cases value <;> simp [entryText, behindName]

theorem behindName_cases (value : Attribute) : value = .unit ∧ behindName value = [] ∨
    behindName value = ' ' :: '=' :: ' ' :: value.text.toList := by
  cases value with
  | unit => exact .inl ⟨rfl, rfl⟩
  | _ => exact .inr rfl

theorem stops_behindName (value : Attribute) {rest : List Char} (ends : Ends rest) :
    Stops Identifier.isFollowing (behindName value ++ rest) := by
  rcases behindName_cases value with ⟨rfl, _⟩ | written
  · exact ends.stops (by decide)
  · rw [written]
    exact stops_cons rfl _

/-- Whether there is a value behind the name is told by the space there. -/
theorem behindName_append_eq {value other : Attribute} (plain : value.isPlain = true)
    (plainOther : other.isPlain = true) {rest more : List Char} (ends : Ends rest)
    (endsOther : Ends more) (same : behindName value ++ rest = behindName other ++ more) :
    value = other ∧ rest = more := by
  have noSpace {rest behind : List Char} (ends : Ends rest) : rest ≠ ' ' :: behind := by
    rintro rfl
    exact absurd (ends ' ' rfl) (by decide)
  rcases behindName_cases value with ⟨rfl, written⟩ | written
  · rcases behindName_cases other with ⟨rfl, writtenOther⟩ | writtenOther
    · exact ⟨rfl, same⟩
    · rw [written, writtenOther] at same
      exact absurd same (noSpace ends)
  · rcases behindName_cases other with ⟨rfl, writtenOther⟩ | writtenOther
    · rw [written, writtenOther] at same
      exact absurd same.symm (noSpace endsOther)
    · simp only [written, writtenOther, List.cons_append, List.cons.injEq, true_and] at same
      exact value.legible plain other plainOther rest more ends endsOther same

theorem starts_entryText (entry : String × Attribute) (proper : ProperEntry entry) :
    Starts (entryText entry) := by
  obtain ⟨name, value⟩ := entry
  have valid : Identifier.accepts name.toList = true := proper.1
  cases written : name.toList with
  | nil =>
    rw [written] at valid
    cases valid
  | cons first others =>
    have start : (entryText (name, value)).toList = first :: (others ++ behindName value) := by
      rw [toList_entryText, written, List.cons_append]
    have following := Identifier.isFollowing_of_mem _ valid first (written ▸ List.mem_cons_self)
    exact starts_of_first start (not_ending Identifier.isFollowing following (by decide))

theorem legible_entry (entry : String × Attribute) (proper : ProperEntry entry) :
    Legible entryText ProperEntry entry := by
  intro other properOther rest more ends endsOther same
  obtain ⟨name, value⟩ := entry
  obtain ⟨otherName, otherValue⟩ := other
  rw [toList_entryText, toList_entryText, List.append_assoc, List.append_assoc] at same
  obtain ⟨rfl, behind⟩ := identifier_append_eq proper.1 properOther.1
    (stops_behindName value ends) (stops_behindName otherValue endsOther) same
  obtain ⟨rfl, sameRest⟩ :=
    behindName_append_eq proper.2 properOther.2 ends endsOther behind
  exact ⟨rfl, sameRest⟩

/-- Are all names of attributes identifiers? -/
def Named (attributes : AttributeDict) : Prop :=
  ∀ entry ∈ attributes.entries.entries, Identifier.isValid entry.1 = true

theorem Named.proper {attributes : AttributeDict} (named : attributes.Named)
    (plain : attributes.isPlain = true) :
    ∀ entry ∈ attributes.entries.entries, ProperEntry entry :=
  fun entry member => ⟨named entry member, List.all_eq_true.mp plain entry member⟩

/-- A dictionary of plain attributes is told by its text, whatever stands behind it. -/
theorem text_append_eq {attributes other : AttributeDict} (named : attributes.Named)
    (plain : attributes.isPlain = true) (namedOther : other.Named)
    (plainOther : other.isPlain = true) {rest more : List Char}
    (same : attributes.text.toList ++ rest = other.text.toList ++ more) :
    attributes = other ∧ rest = more := by
  have written (attributes : AttributeDict) : attributes.text.toList = '\x7b' ::
      ((", ".intercalate (attributes.entries.entries.map entryText)).toList ++ ['\x7d']) := by
    simp [text]
  simp only [written, List.cons_append, List.append_assoc, List.nil_append, List.cons.injEq,
    true_and] at same
  have proper := named.proper plain
  obtain ⟨sameEntries, sameRest⟩ := listing_append_eq (by decide) starts_entryText proper
    (fun entry member => legible_entry entry (proper entry member))
    (namedOther.proper plainOther) same
  obtain ⟨⟨entries, ordered⟩⟩ := attributes
  obtain ⟨⟨otherEntries, otherOrdered⟩⟩ := other
  cases sameEntries
  exact ⟨rfl, sameRest⟩

end AttributeDict

end Polyglot
