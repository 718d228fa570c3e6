/-
This file proves which texts are names, in terms of the regular expressions that describe them:
identifiers are the texts of `[a-zA-Z_][a-zA-Z0-9_$.]*`, and well formed dialect names are those of
`[a-zA-Z_][a-zA-Z0-9_$]*`. A qualified operation name is one of each with a dot between them. The
dot is the first one, as a dialect name has none, so there is one way to read a qualified name, and
reading undoes writing.
-/

import Mathlib.Computability.RegularExpressions
import Polyglot.Proofs.Name.Reading

namespace Polyglot

/-! ### Bracket expressions -/

namespace Grammar

/-- The characters from a first to a last one. -/
def span (first last : Char) : List Char :=
  (List.range' first.toNat (last.toNat + 1 - first.toNat)).map Char.ofNat

/-- The expression that matches any single one of the characters. -/
def oneOf (characters : List Char) : RegularExpression Char :=
  characters.foldr (fun character others => .plus (.char character) others) .zero

/-- The character class `[a-zA-Z_]`. -/
def initials : List Char :=
  span 'a' 'z' ++ span 'A' 'Z' ++ ['_']

/-- The character class `[a-zA-Z0-9_$]`. -/
def undotted : List Char :=
  span 'a' 'z' ++ span 'A' 'Z' ++ span '0' '9' ++ ['_', '$']

/-- The character class `[a-zA-Z0-9_$.]`. -/
def dotted : List Char :=
  undotted ++ ['.']

/-- The regular expression `[a-zA-Z_][a-zA-Z0-9_$.]*`. -/
def identifier : RegularExpression Char :=
  .comp (oneOf initials) (.star (oneOf dotted))

/-- The regular expression `[a-zA-Z_][a-zA-Z0-9_$]*`. -/
def dialectName : RegularExpression Char :=
  .comp (oneOf initials) (.star (oneOf undotted))

/-- Does the whole text match the expression? -/
def Matches (text : String) (expression : RegularExpression Char) : Prop :=
  text.toList ∈ expression.matches'

/-- A span of characters before the gap in the numbering of characters holds what lies between
its ends. -/
theorem mem_span {first last : Char} (beforeGap : last.toNat < 0xd800) (character : Char) :
    character ∈ span first last ↔ first.val ≤ character.val ∧ character.val ≤ last.val := by
  rw [UInt32.le_iff_toNat_le, UInt32.le_iff_toNat_le]
  change _ ↔ first.toNat ≤ character.toNat ∧ character.toNat ≤ last.toNat
  simp only [span, List.mem_map, List.mem_range'_1]
  constructor
  · rintro ⟨number, ⟨least, bound⟩, rfl⟩
    have valid : number.isValidChar := Or.inl (by omega)
    have same : (Char.ofNat number).toNat = number := by
      rw [Char.ofNat, dif_pos valid]
      rfl
    omega
  · rintro ⟨least, most⟩
    exact ⟨character.toNat, ⟨least, by omega⟩, Char.ofNat_toNat character⟩

theorem isAlpha_iff (character : Char) :
    character.isAlpha = true ↔ character ∈ span 'a' 'z' ++ span 'A' 'Z' := by
  have upper : character.isUpper = true ↔ character ∈ span 'A' 'Z' :=
    decide_eq_true_iff.trans (mem_span (by decide) character).symm
  have lower : character.isLower = true ↔ character ∈ span 'a' 'z' := by
    rw [mem_span (by decide)]
    exact Bool.and_eq_true_iff.trans (and_congr decide_eq_true_iff decide_eq_true_iff)
  rw [List.mem_append, ← upper, ← lower, or_comm]
  exact Bool.or_eq_true_iff

theorem isDigit_iff (character : Char) :
    character.isDigit = true ↔ character ∈ span '0' '9' := by
  rw [mem_span (by decide), Char.isDigit, Bool.and_eq_true, decide_eq_true_iff, decide_eq_true_iff]

theorem isInitial_iff (character : Char) :
    Identifier.isInitial character = true ↔ character ∈ initials := by
  rw [initials, List.mem_append, ← isAlpha_iff, List.mem_singleton, Identifier.isInitial,
    Bool.or_eq_true, decide_eq_true_iff]

theorem mem_undotted (character : Char) :
    character ∈ undotted ↔
      character.isAlphanum = true ∨ character = '_' ∨ character = '$' := by
  rw [undotted, List.mem_append, List.mem_append, ← isAlpha_iff, ← isDigit_iff, Char.isAlphanum,
    Bool.or_eq_true, List.mem_pair]

theorem isFollowing_iff (character : Char) :
    Identifier.isFollowing character = true ↔ character ∈ dotted := by
  rw [dotted, List.mem_append, mem_undotted, List.mem_singleton, Identifier.isFollowing,
    Bool.or_eq_true, Bool.or_eq_true, Bool.or_eq_true, decide_eq_true_iff, decide_eq_true_iff,
    decide_eq_true_iff, or_assoc, or_assoc, or_assoc, or_assoc]

theorem not_dot_mem_undotted : '.' ∉ undotted := by
  rw [mem_undotted]
  decide

theorem mem_matches_oneOf (characters word : List Char) :
    word ∈ (oneOf characters).matches' ↔ ∃ character ∈ characters, word = [character] := by
  induction characters with
  | nil => simp [oneOf, RegularExpression.matches', Language.notMem_zero]
  | cons first rest inductionHypothesis =>
    change word ∈ (RegularExpression.char first).matches' + (oneOf rest).matches' ↔ _
    rw [Language.mem_add, inductionHypothesis, RegularExpression.matches'_char,
      List.exists_mem_cons_iff]
    rfl

/-- A repeated bracket expression matches the words whose characters are all in the brackets. -/
theorem mem_matches_star_oneOf (characters word : List Char) :
    word ∈ (RegularExpression.star (oneOf characters)).matches' ↔
      ∀ character ∈ word, character ∈ characters := by
  rw [RegularExpression.matches'_star, Language.mem_kstar]
  constructor
  · rintro ⟨parts, rfl, single⟩ character member
    obtain ⟨part, inParts, inPart⟩ := List.mem_flatten.1 member
    obtain ⟨other, allowed, same⟩ := (mem_matches_oneOf characters part).1 (single part inParts)
    rw [same, List.mem_singleton] at inPart
    exact inPart ▸ allowed
  · intro allowed
    refine ⟨word.map fun character => [character], ?_, fun part inParts => ?_⟩
    · rw [← List.flatMap_def, List.flatMap_singleton']
    · obtain ⟨character, member, rfl⟩ := List.mem_map.1 inParts
      exact (mem_matches_oneOf characters _).2 ⟨character, allowed character member, rfl⟩

/-- An initial and what follows it. -/
theorem mem_matches_comp (initials following word : List Char) :
    word ∈ (RegularExpression.comp (oneOf initials) (.star (oneOf following))).matches' ↔
      ∃ first rest, word = first :: rest ∧ first ∈ initials ∧
        ∀ character ∈ rest, character ∈ following := by
  change word ∈ (oneOf initials).matches' * (RegularExpression.star (oneOf following)).matches' ↔ _
  rw [Language.mem_mul]
  constructor
  · rintro ⟨front, inFront, rest, inRest, rfl⟩
    obtain ⟨first, initial, rfl⟩ := (mem_matches_oneOf initials front).1 inFront
    exact ⟨first, rest, rfl, initial, (mem_matches_star_oneOf following rest).1 inRest⟩
  · rintro ⟨first, rest, rfl, initial, follows⟩
    exact ⟨[first], (mem_matches_oneOf initials _).2 ⟨first, initial, rfl⟩, rest,
      (mem_matches_star_oneOf following rest).2 follows, rfl⟩

end Grammar

/-! ### Names -/

/-- Identifiers are what `[a-zA-Z_][a-zA-Z0-9_$.]*` matches. -/
theorem Identifier.isValid_iff_matches (text : String) :
    isValid text = true ↔ Grammar.Matches text Grammar.identifier := by
  rw [Grammar.Matches, Grammar.identifier, Grammar.mem_matches_comp, isValid]
  constructor
  · intro accepted
    cases characters : text.toList with
    | nil =>
      rw [characters] at accepted
      cases accepted
    | cons first rest =>
      rw [characters, accepts, Bool.and_eq_true, List.all_eq_true] at accepted
      exact ⟨first, rest, rfl, (Grammar.isInitial_iff first).1 accepted.1,
        fun character member => (Grammar.isFollowing_iff character).1 (accepted.2 character member)⟩
  · rintro ⟨first, rest, characters, initial, follows⟩
    rw [characters, accepts, Bool.and_eq_true, List.all_eq_true]
    exact ⟨(Grammar.isInitial_iff first).2 initial,
      fun character member => (Grammar.isFollowing_iff character).2 (follows character member)⟩

/-- Well formed dialect names are what `[a-zA-Z_][a-zA-Z0-9_$]*` matches. -/
theorem DialectName.isWellFormed_iff_matches (text : String) :
    isWellFormed text = true ↔ Grammar.Matches text Grammar.dialectName := by
  rw [isWellFormed, Bool.and_eq_true, Identifier.isValid_iff_matches, Bool.not_eq_true',
    List.contains_eq_mem, decide_eq_false_iff_not, Grammar.Matches, Grammar.Matches,
    Grammar.identifier, Grammar.dialectName, Grammar.mem_matches_comp, Grammar.mem_matches_comp]
  constructor
  · rintro ⟨⟨first, rest, characters, initial, follows⟩, noDot⟩
    refine ⟨first, rest, characters, initial, fun character member => ?_⟩
    rcases List.mem_append.1 (follows character member) with kept | dot
    · exact kept
    · rw [List.mem_singleton.1 dot] at member
      exact absurd (characters ▸ List.mem_cons_of_mem first member) noDot
  · rintro ⟨first, rest, characters, initial, follows⟩
    refine ⟨⟨first, rest, characters, initial,
      fun character member => List.mem_append_left _ (follows character member)⟩, ?_⟩
    rw [characters, List.mem_cons]
    rintro (dot | member)
    · rw [← dot] at initial
      revert initial
      rw [← Grammar.isInitial_iff]
      decide
    · exact Grammar.not_dot_mem_undotted (follows '.' member)

namespace OpId

/-- The text is a dialect name, a dot and an identifier, the parts as the grammar has them. -/
structure Reads (written dialect name : String) : Prop where
  joined : written = dialect ++ "." ++ name
  dialect : Grammar.Matches dialect Grammar.dialectName
  name : Grammar.Matches name Grammar.identifier

/-- A text that is composed of two names is read as them. -/
theorem Reads.parse {written dialect name : String} (reads : Reads written dialect name) :
    OpId.parse written = .ok ⟨⟨dialect⟩, name⟩ := by
  have wellFormed : DialectName.isValid ⟨dialect⟩ = true :=
    (DialectName.isWellFormed_iff_matches dialect).2 reads.dialect
  have valid := (Identifier.isValid_iff_matches name).2 reads.name
  have found := ofString?_text ⟨⟨dialect⟩, name⟩ wellFormed valid
  rw [text, ← reads.joined] at found
  rw [OpId.parse, found]

/-- What was read is what the text is composed of. -/
theorem Reads.of_parse {written : String} {id : OpId} (parsed : OpId.parse written = .ok id) :
    Reads written id.dialect.text id.name := by
  rw [OpId.parse] at parsed
  split at parsed
  next found named =>
    cases parsed
    obtain ⟨joined, wellFormed, valid⟩ := ofString?_eq_some_iff.1 named
    exact ⟨joined.symm, (DialectName.isWellFormed_iff_matches _).1 wellFormed,
      (Identifier.isValid_iff_matches _).1 valid⟩
  next => cases parsed

/-- **Operation names parse and print back.** Reading succeeds for the texts that are composed of a
dialect name, a dot and an identifier. There is one way to compose a text of them, and it is what is
read; its written form is the text. Any other text is malformed. The written form of two valid names
is read as the names. -/
theorem parse_exact :
    (∀ written : String,
      ((∃ id, OpId.parse written = .ok id) ↔ ∃ dialect name, Reads written dialect name) ∧
      (∀ dialect name, Reads written dialect name →
        OpId.parse written = .ok ⟨⟨dialect⟩, name⟩ ∧
        ∀ otherDialect otherName, Reads written otherDialect otherName →
          otherDialect = dialect ∧ otherName = name) ∧
      (∀ id, OpId.parse written = .ok id → id.text = written) ∧
      ((¬∃ dialect name, Reads written dialect name) →
        OpId.parse written = .error (.argument .unknown (.malformedOpName written)))) ∧
    ∀ (dialect : DialectName) (name : Identifier), dialect.isValid = true →
      OpId.parse (text ⟨dialect, name.text⟩) = .ok ⟨dialect, name.text⟩ := by
  refine ⟨fun written => ⟨⟨?_, ?_⟩, ?_, ?_, ?_⟩, ?_⟩
  · rintro ⟨id, parsed⟩
    exact ⟨_, _, .of_parse parsed⟩
  · rintro ⟨dialect, name, reads⟩
    exact ⟨_, reads.parse⟩
  · intro dialect name reads
    refine ⟨reads.parse, fun otherDialect otherName other => ?_⟩
    have same := Except.ok.inj (other.parse.symm.trans reads.parse)
    cases same
    exact ⟨rfl, rfl⟩
  · intro id parsed
    exact (Reads.of_parse parsed).joined.symm
  · intro unread
    cases parsed : OpId.parse written with
    | ok id => exact absurd ⟨_, _, .of_parse parsed⟩ unread
    | error error =>
      rw [OpId.parse] at parsed
      split at parsed
      · cases parsed
      · exact parsed.symm
  · intro dialect name valid
    have reads : Reads (text ⟨dialect, name.text⟩) dialect.text name.text :=
      ⟨rfl, (DialectName.isWellFormed_iff_matches _).1 valid,
        (Identifier.isValid_iff_matches _).1 name.valid⟩
    exact reads.parse

/-- The part behind the first dot may have dots itself, and no part may start with a digit. -/
theorem parse_exact_intrinsic :
    OpId.parse "llvm.intr.memcpy" = .ok ⟨⟨"llvm"⟩, "intr.memcpy"⟩ ∧
      OpId.parse (text ⟨⟨"cf"⟩, "cond_br"⟩) = .ok ⟨⟨"cf"⟩, "cond_br"⟩ ∧
      OpId.parse "1x.op" = .error (.argument .unknown (.malformedOpName "1x.op")) := by
  have reads : Reads "llvm.intr.memcpy" "llvm" "intr.memcpy" :=
    ⟨by decide, (DialectName.isWellFormed_iff_matches _).1 (by decide),
      (Identifier.isValid_iff_matches _).1 (by decide)⟩
  refine ⟨((parse_exact.1 _).2.1 _ _ reads).1,
    parse_exact.2 ⟨"cf"⟩ ⟨"cond_br", by decide⟩ (by decide), (parse_exact.1 _).2.2.2 ?_⟩
  rintro ⟨dialect, name, digit⟩
  have unread : ofString? "1x.op" = none := by decide
  have parsed := digit.parse
  rw [OpId.parse, unread] at parsed
  cases parsed

end OpId

end Polyglot
