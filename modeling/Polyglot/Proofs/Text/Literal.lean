/-
This file proves that a string literal tells its text, whatever stands behind it. The escapes of
characters are a prefix code: a backslash and a mark, a backslash and a code point between braces,
or a character that is neither a backslash nor a double quote. So each character is told by its
escape, and the first double quote that is no part of an escape ends the literal.
-/

import Polyglot.Proofs.Text.Legible
import Polyglot.Text.Quoted

namespace Polyglot.Text

/-! ### Hexadecimal digits -/

theorem digitChar_injective : ∀ digit < 16, ∀ other < 16,
    Nat.digitChar digit = Nat.digitChar other → digit = other := by
  decide

theorem exists_digit_of_mem_toDigits {number : Nat} {character : Char}
    (member : character ∈ Nat.toDigits 16 number) :
    ∃ digit < 16, character = Nat.digitChar digit := by
  induction number using Nat.strongRecOn with
  | ind number inductionHypothesis =>
    rw [Nat.toDigits_eq_if (by decide)] at member
    split at member
    next small => exact ⟨number, small, List.mem_singleton.mp member⟩
    next large =>
      rcases List.mem_append.mp member with front | last
      · exact inductionHypothesis _ (Nat.div_lt_self (by omega) (by decide)) front
      · exact ⟨number % 16, Nat.mod_lt _ (by decide), List.mem_singleton.mp last⟩

theorem toDigits_injective {number other : Nat}
    (same : Nat.toDigits 16 number = Nat.toDigits 16 other) : number = other := by
  induction number using Nat.strongRecOn generalizing other with
  | ind number inductionHypothesis =>
    have single (digit : Nat) (large : Nat) :
        [] ++ [Nat.digitChar digit] ≠
          Nat.toDigits 16 (large / 16) ++ [Nat.digitChar (large % 16)] := by
      intro equal
      exact Nat.toDigits_ne_nil (List.append_inj' equal rfl).1.symm
    rw [Nat.toDigits_eq_if (by decide), Nat.toDigits_eq_if (n := other) (by decide)] at same
    split at same
    next small =>
      split at same
      next smallOther =>
        exact digitChar_injective _ small _ smallOther (List.singleton_inj.mp same)
      next largeOther => exact absurd same (single _ _)
    next large =>
      split at same
      next smallOther => exact absurd same.symm (single _ _)
      next largeOther =>
        obtain ⟨sameFront, sameLast⟩ := List.append_inj' same rfl
        have quotients := inductionHypothesis _ (Nat.div_lt_self (by omega) (by decide)) sameFront
        have remainders := digitChar_injective _ (Nat.mod_lt _ (by decide)) _
          (Nat.mod_lt _ (by decide)) (List.singleton_inj.mp sameLast)
        omega

/-! ### Escapes -/

/-- The character that stands for itself behind a backslash, or for a control. -/
def meaning : Char → Char
  | '0' => Char.ofNat 0
  | 't' => '\t'
  | 'r' => '\r'
  | 'n' => '\n'
  | mark => mark

/-- The forms that the escape of a character can take. -/
inductive Escapes (character : Char) : List Char → Prop where
  | marked (mark : Char) (meant : character = meaning mark) (noCode : mark ≠ 'u') :
      Escapes character ['\\', mark]
  | code : Escapes character (codeEscape character)
  | plain (noBackslash : character ≠ '\\') (noQuote : character ≠ '"') :
      Escapes character [character]

theorem escapes (character : Char) : Escapes character (escape character) := by
  unfold escape
  split
  next zero => exact .marked '0' (Char.toNat_inj.mp zero) (by decide)
  split
  next tab => exact .marked 't' tab (by decide)
  split
  next carriageReturn => exact .marked 'r' carriageReturn (by decide)
  split
  next newline => exact .marked 'n' newline (by decide)
  split
  next backslash => exact .marked '\\' backslash (by decide)
  next noBackslash =>
    split
    next quote => exact .marked '"' quote (by decide)
    next noQuote =>
      split
      · exact .code
      · exact .plain noBackslash noQuote

theorem codeEscape_append_eq {character other : Char} {rest more : List Char}
    (same : codeEscape character ++ rest = codeEscape other ++ more) :
    character = other ∧ rest = more := by
  have digits (character : Char) :
      ∀ digit ∈ Nat.toDigits 16 character.toNat, (digit != '\x7d') = true := by
    intro digit member
    have noBrace : ∀ value < 16, (Nat.digitChar value != '\x7d') = true := by decide
    obtain ⟨value, small, rfl⟩ := exists_digit_of_mem_toDigits member
    exact noBrace value small
  simp only [codeEscape, List.append_assoc, List.cons_append, List.nil_append,
    List.cons.injEq, true_and] at same
  obtain ⟨sameDigits, sameRest⟩ := append_eq_of_stops (digits character) (digits other)
    (stops_cons rfl rest) (stops_cons rfl more) same
  exact ⟨Char.toNat_inj.mp (toDigits_injective sameDigits), (List.cons.inj sameRest).2⟩

/-- A character is told by its escape, whatever form it takes. -/
theorem Escapes.append_eq {character other : Char} {written writtenOther rest more : List Char}
    (escapes : Escapes character written) (escapesOther : Escapes other writtenOther)
    (same : written ++ rest = writtenOther ++ more) : character = other ∧ rest = more := by
  cases escapes with
  | marked mark meant noCode =>
    cases escapesOther with
    | marked _ meantOther _ =>
      obtain ⟨rfl, sameRest⟩ := List.cons.inj (List.cons.inj same).2
      exact ⟨meant.trans meantOther.symm, sameRest⟩
    | code => exact absurd (List.cons.inj (List.cons.inj same).2).1 noCode
    | plain noBackslash _ => exact absurd (List.cons.inj same).1.symm noBackslash
  | code =>
    cases escapesOther with
    | marked _ _ noCode => exact absurd (List.cons.inj (List.cons.inj same).2).1.symm noCode
    | code => exact codeEscape_append_eq same
    | plain noBackslash _ => exact absurd (List.cons.inj same).1.symm noBackslash
  | plain noBackslash _ =>
    cases escapesOther with
    | plain _ _ => exact List.cons.inj same
    | _ => exact absurd (List.cons.inj same).1 noBackslash

/-- No escape starts with a double quote. -/
theorem Escapes.append_ne_quote {character : Char} {written : List Char}
    (escapes : Escapes character written) (rest more : List Char) :
    written ++ rest ≠ '"' :: more := by
  intro same
  cases escapes with
  | plain _ noQuote => exact noQuote (List.cons.inj same).1
  | _ => exact absurd (List.cons.inj same).1 (by decide)

/-! ### Literals -/

theorem escapes_append_eq {characters others rest more : List Char}
    (same : characters.flatMap escape ++ '"' :: rest = others.flatMap escape ++ '"' :: more) :
    characters = others ∧ rest = more := by
  induction characters generalizing others with
  | nil =>
    cases others with
    | nil => exact ⟨rfl, (List.cons.inj same).2⟩
    | cons other others =>
      rw [List.flatMap_cons, List.append_assoc] at same
      exact absurd same.symm ((escapes other).append_ne_quote _ _)
  | cons character characters inductionHypothesis =>
    rw [List.flatMap_cons, List.append_assoc] at same
    cases others with
    | nil => exact absurd same ((escapes character).append_ne_quote _ _)
    | cons other others =>
      rw [List.flatMap_cons, List.append_assoc] at same
      obtain ⟨sameFirst, sameRest⟩ := (escapes character).append_eq (escapes other) same
      obtain ⟨sameOthers, sameMore⟩ := inductionHypothesis sameRest
      exact ⟨sameFirst ▸ sameOthers ▸ rfl, sameMore⟩

/-- A text is told by its literal, whatever stands behind it. -/
theorem quoted_append_eq {text other : String} {rest more : List Char}
    (same : (quoted text).toList ++ rest = (quoted other).toList ++ more) :
    text = other ∧ rest = more := by
  simp only [toList_quoted, List.append_assoc, List.cons_append, List.nil_append,
    List.cons.injEq, true_and] at same
  obtain ⟨sameCharacters, sameRest⟩ := escapes_append_eq same
  exact ⟨String.toList_inj.mp sameCharacters, sameRest⟩

end Polyglot.Text
