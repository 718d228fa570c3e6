/-
This file defines identifiers, which name dialects, operations and attributes.

An identifier starts with an ASCII letter or an underscore and goes on with ASCII letters,
digits, underscores, dollar signs and dots. A dialect name is an identifier without a dot.
-/

namespace Polyglot

namespace Identifier

/-- May an identifier start with the character? Only ASCII letters count as letters. -/
def isInitial (character : Char) : Bool :=
  character.isAlpha || character = '_'

/-- May the character stand behind the first one? -/
def isFollowing (character : Char) : Bool :=
  character.isAlphanum || character = '_' || character = '$' || character = '.'

/-- Are these the characters of an identifier? -/
def accepts : List Char → Bool
  | [] => false
  | first :: rest => isInitial first && rest.all isFollowing

/-- Is the text an identifier? -/
def isValid (text : String) : Bool :=
  accepts text.toList

theorem isFollowing_of_isInitial (character : Char) (initial : isInitial character = true) :
    isFollowing character = true := by
  simp only [isInitial, isFollowing, Char.isAlphanum, Bool.or_eq_true] at initial ⊢
  rcases initial with letter | underscore
  · exact Or.inl (Or.inl (Or.inl (Or.inl letter)))
  · exact Or.inl (Or.inl (Or.inr underscore))

theorem isFollowing_of_mem (characters : List Char) (accepted : accepts characters = true)
    (character : Char) (member : character ∈ characters) : isFollowing character = true := by
  cases characters with
  | nil => cases member
  | cons first rest =>
    simp only [accepts, Bool.and_eq_true, List.all_eq_true] at accepted
    rcases List.mem_cons.1 member with same | inRest
    · rw [same]
      exact isFollowing_of_isInitial first accepted.1
    · exact accepted.2 character inRest

end Identifier

/-- A text that is known to be an identifier. -/
structure Identifier where
  text : String
  valid : Identifier.isValid text = true
  deriving DecidableEq

/-- The identifier with the given text, if it is one. -/
def Identifier.ofString? (text : String) : Option Identifier :=
  if valid : Identifier.isValid text = true then some ⟨text, valid⟩ else none

/-- A name for a dialect. Names that come from a dialect's author are taken as they are, so
the text may be no well formed dialect name. -/
structure DialectName where
  text : String
  deriving DecidableEq

namespace DialectName

/-- Is the text well formed for a dialect: an identifier without a dot? -/
def isWellFormed (text : String) : Bool :=
  Identifier.isValid text && !text.toList.contains '.'

/-- Is the name well formed? -/
def isValid (name : DialectName) : Bool :=
  isWellFormed name.text

end DialectName

end Polyglot
