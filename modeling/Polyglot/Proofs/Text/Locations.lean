/-
This file proves that locations are told by their texts if the names in them contain no round or
square brackets, colons, commas or blanks. Every text starts with a word, which is a name or one of
the words that are always the same, and the character behind the word tells a place in a file from
several places and from places between brackets. A place that is named `callsite` starts like a
call; the two are told apart by what stands behind the first place between the brackets, which is a
bracket for the one and a blank for the other.
-/

import Polyglot.Location
import Polyglot.Proofs.Text.Legible

namespace Polyglot.Location

open Text

/-! ### Plain locations -/

/-- The characters that stand between the parts of locations. -/
def separators : List Char := ['(', ')', '[', ']', ':', ',', ' ']

/-- Is the character none of the separators? -/
def isInner (character : Char) : Bool := !separators.contains character

mutual

/-- Are the names of files and places in it free of separators? -/
def isPlain : Location → Bool
  | .unknown => true
  | .file name _ _ => name.toList.all isInner
  | .fused parts => arePlain parts
  | .named name place => name.toList.all isInner && place.isPlain
  | .call callee caller => callee.isPlain && caller.isPlain

/-- Are all of the locations plain? -/
def arePlain : List Location → Bool
  | [] => true
  | first :: rest => first.isPlain && arePlain rest

end

theorem arePlain_iff (locations : List Location) :
    arePlain locations = true ↔ ∀ location ∈ locations, location.isPlain = true := by
  induction locations with
  | nil => simp [arePlain]
  | cons first rest inductionHypothesis => simp [arePlain, inductionHypothesis]

/-! ### The first word -/

/-- The characters that stand behind locations within others. -/
def followers : List Char := [',', ' ', ')', ']']

/-- The word that the text of a location starts with. -/
def word : Location → String
  | .unknown => "?"
  | .file name _ _ => name
  | .fused _ => "fused"
  | .named name _ => name
  | .call _ _ => "callsite"

/-- What stands behind the first word. -/
def behindWord : Location → List Char
  | .unknown => []
  | .file _ line column => ':' :: ((toString line).toList ++ ':' :: (toString column).toList)
  | .fused parts => '[' :: ((", ".intercalate (parts.map text)).toList ++ [']'])
  | .named _ place => '(' :: (place.text.toList ++ [')'])
  | .call callee caller =>
    '(' :: (callee.text.toList ++ ' ' :: 'a' :: 't' :: ' ' :: (caller.text.toList ++ [')']))

theorem toList_text (location : Location) :
    location.text.toList = location.word.toList ++ location.behindWord := by
  cases location <;> simp [text, word, behindWord, texts_eq_map]

theorem isInner_of_mem_word {location : Location} (plain : location.isPlain = true) :
    ∀ character ∈ location.word.toList, isInner character = true := by
  cases location with
  | unknown => exact List.all_eq_true.mp (rfl : "?".toList.all isInner = true)
  | file name line column => exact List.all_eq_true.mp plain
  | fused parts => exact List.all_eq_true.mp (rfl : "fused".toList.all isInner = true)
  | named name place => exact List.all_eq_true.mp (Bool.and_eq_true_iff.mp plain).1
  | call callee caller => exact List.all_eq_true.mp (rfl : "callsite".toList.all isInner = true)

/-- The first word ends where a separator follows. -/
theorem stops_behindWord (location : Location) {rest : List Char} (opens : Opens followers rest) :
    Stops isInner (location.behindWord ++ rest) := by
  cases location with
  | unknown => exact opens.stops (by decide)
  | _ => exact stops_cons (by decide) _

/-- The ways in which a text goes on behind its first word. -/
inductive Shape where
  | bare
  | position
  | several
  | bracketed

/-- The way in which the text of a location goes on. -/
def shape : Location → Shape
  | .unknown => .bare
  | .file _ _ _ => .position
  | .fused _ => .several
  | .named _ _ => .bracketed
  | .call _ _ => .bracketed

/-- The way in which a text goes on that has these characters behind its first word. -/
def shapeOf : List Char → Shape
  | ':' :: _ => .position
  | '[' :: _ => .several
  | '(' :: _ => .bracketed
  | _ => .bare

theorem shapeOf_of_opens {rest : List Char} (opens : Opens followers rest) :
    shapeOf rest = .bare := by
  cases rest with
  | nil => rfl
  | cons first others =>
    have follower : first ∈ followers := opens first rfl
    simp only [followers, List.mem_cons, List.not_mem_nil, or_false] at follower
    rcases follower with rfl | rfl | rfl | rfl <;> rfl

theorem shapeOf_behindWord (location : Location) {rest : List Char}
    (opens : Opens followers rest) : shapeOf (location.behindWord ++ rest) = location.shape := by
  cases location with
  | unknown => exact shapeOf_of_opens opens
  | _ => rfl

/-- Two texts that are the same start with the same word and go on in the same way. -/
theorem word_append_eq {location other : Location} (plain : location.isPlain = true)
    (plainOther : other.isPlain = true) {rest more : List Char} (opens : Opens followers rest)
    (opensOther : Opens followers more)
    (same : location.text.toList ++ rest = other.text.toList ++ more) :
    location.word = other.word ∧ location.shape = other.shape ∧
      location.behindWord ++ rest = other.behindWord ++ more := by
  rw [toList_text, toList_text, List.append_assoc, List.append_assoc] at same
  obtain ⟨sameWord, sameRest⟩ := append_eq_of_stops (isInner_of_mem_word plain)
    (isInner_of_mem_word plainOther) (location.stops_behindWord opens)
    (other.stops_behindWord opensOther) same
  refine ⟨String.toList_inj.mp sameWord, ?_, sameRest⟩
  rw [← location.shapeOf_behindWord opens, sameRest, other.shapeOf_behindWord opensOther]

/-- No text starts with the bracket that ends several places. -/
theorem text_append_ne {location : Location} (plain : location.isPlain = true)
    {rest : List Char} (opens : Opens followers rest) (more : List Char) :
    location.text.toList ++ rest ≠ ']' :: more := by
  intro same
  rw [toList_text, List.append_assoc] at same
  -- Before the bracket there is nothing that the first word could consist of.
  have nothing : ∀ character ∈ ([] : List Char), isInner character = true :=
    fun _ member => absurd member List.not_mem_nil
  obtain ⟨noWord, sameRest⟩ := append_eq_of_stops (isInner_of_mem_word plain) nothing
    (location.stops_behindWord opens) (stops_cons (by decide) more) same
  have bare : location.shape = .bare := by
    rw [← location.shapeOf_behindWord opens, sameRest]
    rfl
  cases location with
  | unknown => cases noWord
  | _ => cases bare

/-! ### Told locations -/

/-- A location need only be told from those that start with the same word and go on in the same
way. -/
theorem told_of_word {location : Location} (plain : location.isPlain = true)
    (told : ∀ other, other.isPlain = true → location.word = other.word →
      location.shape = other.shape → ∀ rest more, Opens followers rest → Opens followers more →
      location.behindWord ++ rest = other.behindWord ++ more → location = other ∧ rest = more) :
    Told followers text (·.isPlain = true) location := by
  intro other plainOther rest more opens opensOther same
  obtain ⟨sameWord, sameShape, sameRest⟩ := word_append_eq plain plainOther opens opensOther same
  exact told other plainOther sameWord sameShape rest more opens opensOther sameRest

theorem told_unknown : Told followers text (·.isPlain = true) unknown := by
  refine told_of_word rfl fun other _ _ sameShape rest more _ _ same => ?_
  cases other with
  | unknown => exact ⟨rfl, same⟩
  | _ => cases sameShape

theorem told_file {name : String} {line column : Nat}
    (plain : (file name line column).isPlain = true) :
    Told followers text (·.isPlain = true) (.file name line column) := by
  refine told_of_word plain
    fun other _ sameWord sameShape rest more opens opensOther same => ?_
  cases other with
  | file otherName otherLine otherColumn =>
    obtain rfl : name = otherName := sameWord
    simp only [behindWord, List.cons_append, List.append_assoc, List.cons.injEq, true_and] at same
    obtain ⟨rfl, sameColumn⟩ := number_append_eq (stops_cons rfl _) (stops_cons rfl _) same
    obtain ⟨rfl, sameRest⟩ := number_append_eq (opens.stops (by decide))
      (opensOther.stops (by decide)) (List.cons.inj sameColumn).2
    exact ⟨rfl, sameRest⟩
  | _ => cases sameShape

theorem told_fused {parts : List Location} (plain : arePlain parts = true)
    (told : ∀ part ∈ parts, Told followers text (·.isPlain = true) part) :
    Told followers text (·.isPlain = true) (.fused parts) := by
  refine told_of_word plain fun other plainOther _ sameShape rest more _ _ same => ?_
  cases other with
  | fused otherParts =>
    have plainOthers := (arePlain_iff otherParts).mp plainOther
    simp only [behindWord, List.cons_append, List.append_assoc, List.nil_append, List.cons.injEq,
      true_and] at same
    obtain ⟨rfl, sameRest⟩ := enclosed_append_eq (by decide) (by decide) (by decide)
      (fun part plainPart rest more opens => text_append_ne plainPart opens more)
      ((arePlain_iff parts).mp plain) told plainOthers same
    exact ⟨rfl, sameRest⟩
  | _ => cases sameShape

theorem told_named {name : String} {place : Location}
    (plain : (named name place).isPlain = true)
    (told : Told followers text (·.isPlain = true) place) :
    Told followers text (·.isPlain = true) (.named name place) := by
  refine told_of_word plain fun other plainOther sameWord sameShape rest more _ _ same => ?_
  cases other with
  | named otherName otherPlace =>
    have plainPlace := (Bool.and_eq_true_iff.mp plainOther).2
    obtain rfl : name = otherName := sameWord
    simp only [behindWord, List.cons_append, List.append_assoc, List.nil_append, List.cons.injEq,
      true_and] at same
    obtain ⟨rfl, _, sameRest⟩ := told.followed plainPlace (by decide) (by decide) same
    exact ⟨rfl, sameRest⟩
  | call callee caller =>
    -- Even if the name is that of calls, a blank stands behind the callee.
    have plainCallee := (Bool.and_eq_true_iff.mp plainOther).1
    simp only [behindWord, List.cons_append, List.append_assoc, List.nil_append, List.cons.injEq,
      true_and] at same
    have sameFollower := (told.followed plainCallee (by decide) (by decide) same).2.1
    exact absurd sameFollower (by decide)
  | _ => cases sameShape

theorem told_call {callee caller : Location} (plain : (call callee caller).isPlain = true)
    (toldCallee : Told followers text (·.isPlain = true) callee)
    (toldCaller : Told followers text (·.isPlain = true) caller) :
    Told followers text (·.isPlain = true) (.call callee caller) := by
  refine told_of_word plain fun other plainOther _ sameShape rest more _ _ same => ?_
  cases other with
  | named name place =>
    have plainPlace := (Bool.and_eq_true_iff.mp plainOther).2
    simp only [behindWord, List.cons_append, List.append_assoc, List.nil_append, List.cons.injEq,
      true_and] at same
    have sameFollower := (toldCallee.followed plainPlace (by decide) (by decide) same).2.1
    exact absurd sameFollower (by decide)
  | call otherCallee otherCaller =>
    have plainBoth := Bool.and_eq_true_iff.mp plainOther
    simp only [behindWord, List.cons_append, List.append_assoc, List.nil_append, List.cons.injEq,
      true_and] at same
    obtain ⟨rfl, _, behindCallee⟩ :=
      toldCallee.followed plainBoth.1 (by decide) (by decide) same
    simp only [List.cons.injEq, true_and] at behindCallee
    obtain ⟨rfl, _, sameRest⟩ :=
      toldCaller.followed plainBoth.2 (by decide) (by decide) behindCallee
    exact ⟨rfl, sameRest⟩
  | _ => cases sameShape

mutual

/-- A plain location is told by its text in front of all that can stand behind it. -/
theorem told : (location : Location) → location.isPlain = true →
    Told followers text (·.isPlain = true) location
  | .unknown, _ => told_unknown
  | .file _ _ _, plain => told_file plain
  | .fused parts, plain => told_fused plain (told_all parts plain)
  | .named _ place, plain => told_named plain (place.told (Bool.and_eq_true_iff.mp plain).2)
  | .call callee caller, plain =>
    have both := Bool.and_eq_true_iff.mp plain
    told_call plain (callee.told both.1) (caller.told both.2)

theorem told_all : (locations : List Location) → arePlain locations = true →
    ∀ location ∈ locations, Told followers text (·.isPlain = true) location
  | [], _ => fun _ member => absurd member List.not_mem_nil
  | first :: rest, plain =>
    have both := Bool.and_eq_true_iff.mp plain
    List.forall_mem_cons.mpr ⟨first.told both.1, told_all rest both.2⟩

end

/-! ### Whole texts -/

/-- **Locations are told by their texts.** Two locations, nested to any depth, are written in the
same way exactly if they are the same, provided that no round or square brackets, colons, commas or
blanks stand in the names of files and places. -/
theorem text_eq_iff_eq (first second : Location) (plain : first.isPlain = true)
    (plainOther : second.isPlain = true) : first.text = second.text ↔ first = second := by
  refine ⟨fun same => ?_, congrArg text⟩
  have characters : first.text.toList ++ [] = second.text.toList ++ [] := by rw [same]
  exact (first.told plain second plainOther [] [] (opens_nil followers) (opens_nil followers)
    characters).1

/-- Places that are named like a call. -/
def namedLikeCall : Location :=
  .named "callsite" (.fused [.file "at" 1 2, .named "fused" .unknown])

/-- A call of the same places, from an unknown one. -/
def calledFromUnknown : Location :=
  .call (.fused [.file "at" 1 2, .named "fused" .unknown]) .unknown

theorem text_eq_iff_eq_namedLikeCall : namedLikeCall.isPlain = true ∧
    calledFromUnknown.isPlain = true ∧ namedLikeCall.text ≠ calledFromUnknown.text := by
  have plain : namedLikeCall.isPlain = true := by decide +kernel
  have plainOther : calledFromUnknown.isPlain = true := by decide +kernel
  refine ⟨plain, plainOther, fun same => ?_⟩
  cases (text_eq_iff_eq namedLikeCall calledFromUnknown plain plainOther).mp same

/-- A blank in a name makes a place look like a call. -/
example : (named "callsite" (.file "? at b" 1 2)).text = (call .unknown (.file "b" 1 2)).text := by
  decide +kernel

end Polyglot.Location
