/-
This file proves that types are legible if the dialect types in them have proper names. The first
two characters of a text tell which kind of type it is, and the parts of a function type stand
between brackets, or are its only result. A result that stands alone is no function type, so it
does not start with a bracket, and brackets around results are told from it by that. In particular
no two such types have the same text.
-/

import Polyglot.Proofs.Text.Legible
import Polyglot.Ty

namespace Polyglot

open Text

theorem FloatKind.text_injective {kind other : FloatKind} (same : kind.text = other.text) :
    kind = other := by
  cases kind <;> cases other <;> first | rfl | exact absurd same (by decide)

theorem FloatKind.length_text (kind : FloatKind) : kind.text.toList.length = 3 := by
  cases kind <;> rfl

namespace Ty

/-! ### Plain types -/

mutual

/-- Do all dialect types in it have a well formed dialect name, and an identifier for data? -/
def isPlain : Ty → Bool
  | .function inputs results => arePlain inputs && arePlain results
  | .foreign dialect data => DialectName.isWellFormed dialect && Identifier.isValid data
  | _ => true

/-- Are all of the types plain? -/
def arePlain : List Ty → Bool
  | [] => true
  | first :: rest => first.isPlain && arePlain rest

end

theorem arePlain_iff (types : List Ty) :
    arePlain types = true ↔ ∀ ty ∈ types, ty.isPlain = true := by
  induction types with
  | nil => simp [arePlain]
  | cons first rest inductionHypothesis => simp [arePlain, inductionHypothesis]

/-! ### The first characters -/

/-- The kinds of types. -/
inductive Shape where
  | integer
  | float
  | index
  | function
  | nothing
  | foreign

/-- The kind of a type. -/
def shape : Ty → Shape
  | .integer _ => .integer
  | .float _ => .float
  | .index => .index
  | .function _ _ => .function
  | .nothing => .nothing
  | .foreign _ _ => .foreign

/-- The kind of type that a text starts like. -/
def shapeOf : List Char → Shape
  | 'i' :: 'n' :: _ => .index
  | 'i' :: _ => .integer
  | 'f' :: _ => .float
  | '(' :: _ => .function
  | 'n' :: _ => .nothing
  | _ => .foreign

theorem toList_text_integer (width : Nat) :
    (integer width).text.toList = 'i' :: (toString width).toList := by
  rw [text, String.toList_append]
  rfl

theorem toList_text_foreign (dialect data : String) :
    (foreign dialect data).text.toList = '!' :: (OpId.mk ⟨dialect⟩ data).text.toList := by
  simp [text, OpId.text]

/-- The text of the results of a function. -/
def resultsText (results : List Ty) : String :=
  if standAlone results then ", ".intercalate (results.map text)
  else "(" ++ ", ".intercalate (results.map text) ++ ")"

theorem toList_text_function (inputs results : List Ty) :
    (function inputs results).text.toList = '(' :: ((", ".intercalate (inputs.map text)).toList ++
      ')' :: ' ' :: '-' :: '>' :: ' ' :: (resultsText results).toList) := by
  simp [text, resultsText, texts_eq_map]

/-- The text of a type starts like its kind. -/
theorem shapeOf_text (ty : Ty) (rest : List Char) :
    shapeOf (ty.text.toList ++ rest) = ty.shape := by
  cases ty with
  | integer width =>
    obtain ⟨first, others, written, digit⟩ := toString_starts width
    rw [toList_text_integer, written]
    have noIndex : first ≠ 'n' := by
      rintro rfl
      cases digit
    simp [shapeOf, shape, noIndex]
  | float kind => cases kind <;> rfl
  | index => rfl
  | function inputs results =>
    rw [toList_text_function]
    rfl
  | nothing => rfl
  | foreign dialect data =>
    rw [toList_text_foreign]
    rfl

theorem starts_text (ty : Ty) : Starts ty.text := by
  cases ty with
  | integer width => exact starts_of_first (toList_text_integer width) (by decide)
  | float kind => cases kind <;> exact starts_of_first rfl (by decide)
  | index => exact starts_of_first (rfl : "index".toList = 'i' :: "ndex".toList) (by decide)
  | function inputs results =>
    exact starts_of_first (toList_text_function inputs results) (by decide)
  | nothing => exact starts_of_first (rfl : "none".toList = 'n' :: "one".toList) (by decide)
  | foreign dialect data => exact starts_of_first (toList_text_foreign dialect data) (by decide)

/-! ### Legible types -/

/-- Results that stand alone are one type, which is no function type, and all others stand between
brackets. -/
theorem resultsText_cases (results : List Ty) :
    (∃ ty, results = [ty] ∧ ty.shape ≠ .function ∧ resultsText results = ty.text) ∨
      (resultsText results).toList =
        '(' :: ((", ".intercalate (results.map text)).toList ++ [')']) := by
  have bracketed (listed : standAlone results = false) : (resultsText results).toList =
      '(' :: ((", ".intercalate (results.map text)).toList ++ [')']) := by
    simp [resultsText, listed]
  match results with
  | [] => exact .inr (bracketed rfl)
  | first :: second :: rest => exact .inr (bracketed (by simp [standAlone]))
  | [ty] =>
    cases ty with
    | function inputs results => exact .inr (bracketed rfl)
    | _ => exact .inl ⟨_, rfl, nofun, rfl⟩

theorem results_append_eq {results others : List Ty}
    (plain : ∀ ty ∈ results, ty.isPlain = true)
    (legible : ∀ ty ∈ results, Legible text (·.isPlain = true) ty)
    (plainOthers : ∀ ty ∈ others, ty.isPlain = true) {rest more : List Char} (ends : Ends rest)
    (endsOther : Ends more)
    (same : (resultsText results).toList ++ rest = (resultsText others).toList ++ more) :
    results = others ∧ rest = more := by
  -- A type that starts with a bracket is a function type.
  have noBracket {ty : Ty} (noFunction : ty.shape ≠ .function) (before behind : List Char) :
      ty.text.toList ++ before ≠ '(' :: behind := by
    intro equal
    rw [← shapeOf_text ty before, equal] at noFunction
    exact noFunction rfl
  rcases resultsText_cases results with ⟨ty, rfl, noFunction, written⟩ | written
  · rcases resultsText_cases others with ⟨other, rfl, _, writtenOther⟩ | writtenOther
    · rw [written, writtenOther] at same
      obtain ⟨rfl, sameRest⟩ := legible ty List.mem_cons_self other
        (plainOthers other List.mem_cons_self) rest more ends endsOther same
      exact ⟨rfl, sameRest⟩
    · rw [written, writtenOther] at same
      exact absurd same (noBracket noFunction _ _)
  · rcases resultsText_cases others with ⟨other, rfl, noFunction, writtenOther⟩ | writtenOther
    · rw [written, writtenOther] at same
      exact absurd same.symm (noBracket noFunction _ _)
    · simp only [written, writtenOther, List.cons_append, List.append_assoc, List.nil_append,
        List.cons.injEq, true_and] at same
      exact listing_append_eq (by decide) (fun ty _ => ty.starts_text) plain legible plainOthers
        same

/-- A type need only be told from those of its kind. -/
theorem legible_of_shape {ty : Ty} (told : ∀ other, other.isPlain = true → ty.shape = other.shape →
      ∀ rest more, Ends rest → Ends more → ty.text.toList ++ rest = other.text.toList ++ more →
      ty = other ∧ rest = more) : Legible text (·.isPlain = true) ty := by
  intro other plainOther rest more ends endsOther same
  have sameShape : ty.shape = other.shape := by
    rw [← ty.shapeOf_text rest, same, other.shapeOf_text]
  exact told other plainOther sameShape rest more ends endsOther same

theorem legible_integer (width : Nat) :
    Legible text (·.isPlain = true) (.integer width) := by
  refine legible_of_shape fun other _ sameShape rest more ends endsOther same => ?_
  cases other with
  | integer otherWidth =>
    rw [toList_text_integer, toList_text_integer] at same
    obtain ⟨rfl, sameRest⟩ := number_append_eq (ends.stops (by decide))
      (endsOther.stops (by decide)) (List.cons.inj same).2
    exact ⟨rfl, sameRest⟩
  | _ => cases sameShape

theorem legible_float (kind : FloatKind) :
    Legible text (·.isPlain = true) (.float kind) := by
  refine legible_of_shape fun other _ sameShape rest more _ _ same => ?_
  cases other with
  | float otherKind =>
    obtain ⟨sameKind, sameRest⟩ := List.append_inj same
      ((FloatKind.length_text kind).trans (FloatKind.length_text otherKind).symm)
    obtain rfl := FloatKind.text_injective (String.toList_inj.mp sameKind)
    exact ⟨rfl, sameRest⟩
  | _ => cases sameShape

theorem legible_index : Legible text (·.isPlain = true) .index := by
  refine legible_of_shape fun other _ sameShape rest more _ _ same => ?_
  cases other with
  | index => exact ⟨rfl, List.append_cancel_left same⟩
  | _ => cases sameShape

theorem legible_nothing : Legible text (·.isPlain = true) .nothing := by
  refine legible_of_shape fun other _ sameShape rest more _ _ same => ?_
  cases other with
  | nothing => exact ⟨rfl, List.append_cancel_left same⟩
  | _ => cases sameShape

theorem legible_foreign (dialect data : String) (plain : (foreign dialect data).isPlain = true) :
    Legible text (·.isPlain = true) (.foreign dialect data) := by
  refine legible_of_shape fun other plainOther sameShape rest more ends endsOther same => ?_
  cases other with
  | foreign otherDialect otherData =>
    rw [isPlain, Bool.and_eq_true] at plain plainOther
    rw [toList_text_foreign, toList_text_foreign] at same
    obtain ⟨sameName, sameRest⟩ := qualified_append_eq ⟨⟨dialect⟩, data⟩
      ⟨⟨otherDialect⟩, otherData⟩ plain.1 plain.2 plainOther.1 plainOther.2
      (ends.stops (by decide)) (endsOther.stops (by decide)) (List.cons.inj same).2
    cases sameName
    exact ⟨rfl, sameRest⟩
  | _ => cases sameShape

theorem legible_function (inputs results : List Ty) (plainInputs : arePlain inputs = true)
    (plainResults : arePlain results = true)
    (legibleInputs : ∀ ty ∈ inputs, Legible text (·.isPlain = true) ty)
    (legibleResults : ∀ ty ∈ results, Legible text (·.isPlain = true) ty) :
    Legible text (·.isPlain = true) (.function inputs results) := by
  refine legible_of_shape fun other plainOther sameShape rest more ends endsOther same => ?_
  cases other with
  | function otherInputs otherResults =>
    rw [isPlain, Bool.and_eq_true, arePlain_iff, arePlain_iff] at plainOther
    simp only [toList_text_function, List.cons_append, List.append_assoc, List.cons.injEq,
      true_and] at same
    obtain ⟨rfl, sameResults⟩ := listing_append_eq (by decide) (fun ty _ => ty.starts_text)
      ((arePlain_iff inputs).mp plainInputs) legibleInputs plainOther.1 same
    simp only [List.cons.injEq, true_and] at sameResults
    obtain ⟨rfl, sameRest⟩ := results_append_eq ((arePlain_iff results).mp plainResults)
      legibleResults plainOther.2 ends endsOther sameResults
    exact ⟨rfl, sameRest⟩
  | _ => cases sameShape

mutual

/-- A plain type is told by its text, as an item of a list. -/
theorem legible : (ty : Ty) → ty.isPlain = true →
    Legible text (·.isPlain = true) ty
  | .integer width, _ => legible_integer width
  | .float kind, _ => legible_float kind
  | .index, _ => legible_index
  | .function inputs results, plain =>
    have both := Bool.and_eq_true_iff.mp plain
    legible_function inputs results both.1 both.2 (legible_all inputs both.1)
      (legible_all results both.2)
  | .nothing, _ => legible_nothing
  | .foreign dialect data, plain => legible_foreign dialect data plain

theorem legible_all : (types : List Ty) → arePlain types = true →
    ∀ ty ∈ types, Legible text (·.isPlain = true) ty
  | [], _ => fun _ member => absurd member List.not_mem_nil
  | first :: rest, plain =>
    have both := Bool.and_eq_true_iff.mp plain
    List.forall_mem_cons.mpr ⟨first.legible both.1, legible_all rest both.2⟩

end

/-! ### Whole texts -/

/-- **Types are told by their texts.** Two types, nested to any depth, in which every dialect type
has a well formed dialect name and an identifier for data are written in the same way exactly if
they are the same. -/
theorem plain_text_eq_iff (first second : Ty) (plain : first.isPlain = true)
    (plainOther : second.isPlain = true) : first.text = second.text ↔ first = second := by
  refine ⟨fun same => ?_, congrArg text⟩
  have characters : first.text.toList ++ [] = second.text.toList ++ [] := by rw [same]
  exact (first.legible plain second plainOther [] [] ends_nil ends_nil characters).1

/-- A function whose only result is a function type, which is put between brackets. -/
def single : Ty := .function [] [.function [.foreign "vec" "v4"] [.integer 1]]

/-- A function with the same result and one more, so that the brackets enclose both. -/
def several : Ty := .function [] [.function [.foreign "vec" "v4"] [.integer 1], .integer 1]

theorem plain_text_eq_iff_single :
    single.isPlain = true ∧ several.isPlain = true ∧ single.text ≠ several.text := by
  have plain : single.isPlain = true := by decide +kernel
  have plainOther : several.isPlain = true := by decide +kernel
  refine ⟨plain, plainOther, fun same => ?_⟩
  cases (plain_text_eq_iff single several plain plainOther).mp same

end Ty

end Polyglot
