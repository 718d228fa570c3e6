/-
This file proves how texts can be read back. A text is legible if it can be told from the texts of
other things even while more stands behind it: where two texts followed by more are the same, the
things are the same, and so is what follows. That is what makes lists legible whose items are, and
with lists all that is built from them.

Some texts, such as numbers and names, have no end of their own. They are told only if what follows
cannot belong to them; in lists these are the comma and the closing brackets. A list needs no more
than this of its items: they are told in front of a comma and of the bracket that ends the list, and
none of them starts with that bracket.
-/

import Polyglot.Proofs.Module.Resolution

namespace Polyglot.Text

/-! ### Runs of characters -/

/-- What follows starts with no character of the class. -/
def Stops (inside : Char → Bool) (rest : List Char) : Prop :=
  ∀ character ∈ rest.head?, inside character = false

theorem stops_cons {inside : Char → Bool} {character : Char} (outside : inside character = false)
    (rest : List Char) : Stops inside (character :: rest) := by
  intro first member
  cases member
  exact outside

/-- A run of characters of one class is determined by the whole if it stops where it ends. -/
theorem append_eq_of_stops {inside : Char → Bool} {run other rest more : List Char}
    (all : ∀ character ∈ run, inside character = true)
    (allOther : ∀ character ∈ other, inside character = true) (stops : Stops inside rest)
    (stopsOther : Stops inside more) (same : run ++ rest = other ++ more) :
    run = other ∧ rest = more := by
  induction run generalizing other with
  | nil =>
    cases other with
    | nil => exact ⟨rfl, same⟩
    | cons first others =>
      rw [List.nil_append] at same
      have stopped := stops first (by rw [same]; rfl)
      cases (allOther first List.mem_cons_self).symm.trans stopped
  | cons first others inductionHypothesis =>
    cases other with
    | nil =>
      rw [List.nil_append] at same
      have stopped := stopsOther first (by rw [← same]; rfl)
      cases (all first List.mem_cons_self).symm.trans stopped
    | cons second remaining =>
      obtain ⟨sameFirst, sameRest⟩ := List.cons.inj same
      obtain ⟨sameRun, sameMore⟩ := inductionHypothesis
        (fun character member => all character (List.mem_cons_of_mem _ member))
        (fun character member => allOther character (List.mem_cons_of_mem _ member)) sameRest
      exact ⟨sameFirst ▸ sameRun ▸ rfl, sameMore⟩

/-! ### Numbers -/

theorem toList_toString (number : Nat) :
    (toString number).toList = Nat.toDigits 10 number := by
  rw [Nat.toString_eq_ofList_toDigits, String.toList_ofList]

/-- A number is written with a digit first. -/
theorem toString_starts (number : Nat) :
    ∃ first others, (toString number).toList = first :: others ∧ first.isDigit = true := by
  rw [toList_toString]
  cases written : Nat.toDigits 10 number with
  | nil => exact absurd written Nat.toDigits_ne_nil
  | cons first others =>
    have member : first ∈ Nat.toDigits 10 number := written ▸ List.mem_cons_self
    exact ⟨first, others, rfl,
      Nat.isDigit_of_mem_toDigits (by decide) (Nat.le_refl 10) member⟩

/-- A number is told by what stands behind it and is no digit. -/
theorem number_append_eq {number other : Nat} {rest more : List Char}
    (stops : Stops Char.isDigit rest) (stopsOther : Stops Char.isDigit more)
    (same : (toString number).toList ++ rest = (toString other).toList ++ more) :
    number = other ∧ rest = more := by
  rw [toList_toString, toList_toString] at same
  obtain ⟨sameDigits, sameRest⟩ := append_eq_of_stops
    (fun _ member => Nat.isDigit_of_mem_toDigits (by decide) (Nat.le_refl 10) member)
    (fun _ member => Nat.isDigit_of_mem_toDigits (by decide) (Nat.le_refl 10) member)
    stops stopsOther same
  refine ⟨?_, sameRest⟩
  rw [← Nat.ofDigitChars_ten_toDigits (n := number), sameDigits, Nat.ofDigitChars_ten_toDigits]

theorem toList_toString_of_nonneg {value : Int} (nonneg : 0 ≤ value) :
    (toString value).toList = (toString value.toNat).toList := by
  show value.repr.toList = _
  rw [Int.repr_eq_if, if_pos nonneg]
  rfl

theorem toList_toString_of_neg {value : Int} (negative : ¬ 0 ≤ value) :
    (toString value).toList = '-' :: (toString (-value).toNat).toList := by
  show value.repr.toList = _
  rw [Int.repr_eq_if, if_neg negative, String.toList_append]
  rfl

/-- So is a number with a sign. -/
theorem integer_append_eq {value other : Int} {rest more : List Char}
    (stops : Stops Char.isDigit rest) (stopsOther : Stops Char.isDigit more)
    (same : (toString value).toList ++ rest = (toString other).toList ++ more) :
    value = other ∧ rest = more := by
  have unsigned (number : Nat) (before behind : List Char) :
      (toString number).toList ++ before ≠ '-' :: behind := by
    obtain ⟨first, others, written, digit⟩ := toString_starts number
    rw [written]
    intro equal
    rw [(List.cons.inj equal).1] at digit
    cases digit
  by_cases nonneg : 0 ≤ value
  · by_cases nonnegOther : 0 ≤ other
    · rw [toList_toString_of_nonneg nonneg, toList_toString_of_nonneg nonnegOther] at same
      obtain ⟨sameNumber, sameRest⟩ := number_append_eq stops stopsOther same
      exact ⟨by omega, sameRest⟩
    · rw [toList_toString_of_nonneg nonneg, toList_toString_of_neg nonnegOther] at same
      exact absurd same (unsigned _ _ _)
  · by_cases nonnegOther : 0 ≤ other
    · rw [toList_toString_of_neg nonneg, toList_toString_of_nonneg nonnegOther] at same
      exact absurd same.symm (unsigned _ _ _)
    · rw [toList_toString_of_neg nonneg, toList_toString_of_neg nonnegOther] at same
      obtain ⟨sameNumber, sameRest⟩ := number_append_eq stops stopsOther (List.cons.inj same).2
      exact ⟨by omega, sameRest⟩

/-! ### Names -/

/-- An identifier is told by what stands behind it and cannot belong to it. -/
theorem identifier_append_eq {name other : String} (valid : Identifier.isValid name = true)
    (validOther : Identifier.isValid other = true) {rest more : List Char}
    (stops : Stops Identifier.isFollowing rest) (stopsOther : Stops Identifier.isFollowing more)
    (same : name.toList ++ rest = other.toList ++ more) : name = other ∧ rest = more := by
  obtain ⟨sameName, sameRest⟩ := append_eq_of_stops (Identifier.isFollowing_of_mem _ valid)
    (Identifier.isFollowing_of_mem _ validOther) stops stopsOther same
  exact ⟨String.toList_inj.mp sameName, sameRest⟩

theorem toList_qualified (id : OpId) :
    id.text.toList = id.dialect.text.toList ++ '.' :: id.name.toList := by
  simp [OpId.text]

theorem isFollowing_of_mem_qualified {id : OpId} (wellFormed : id.dialect.isValid = true)
    (valid : Identifier.isValid id.name = true) {character : Char}
    (member : character ∈ id.text.toList) : Identifier.isFollowing character = true := by
  rw [toList_qualified] at member
  rw [DialectName.isValid, DialectName.isWellFormed, Bool.and_eq_true] at wellFormed
  rcases List.mem_append.mp member with before | behind
  · exact Identifier.isFollowing_of_mem _ wellFormed.1 character before
  · rcases List.mem_cons.mp behind with rfl | behind
    · decide
    · exact Identifier.isFollowing_of_mem _ valid character behind

/-- A qualified name is told in the same way, and its first dot is the one between its parts. -/
theorem qualified_append_eq (id other : OpId) (wellFormed : id.dialect.isValid = true)
    (valid : Identifier.isValid id.name = true) (wellFormedOther : other.dialect.isValid = true)
    (validOther : Identifier.isValid other.name = true) {rest more : List Char}
    (stops : Stops Identifier.isFollowing rest) (stopsOther : Stops Identifier.isFollowing more)
    (same : id.text.toList ++ rest = other.text.toList ++ more) : id = other ∧ rest = more := by
  obtain ⟨sameText, sameRest⟩ := append_eq_of_stops
    (fun _ => isFollowing_of_mem_qualified wellFormed valid)
    (fun _ => isFollowing_of_mem_qualified wellFormedOther validOther) stops stopsOther same
  refine ⟨?_, sameRest⟩
  have split := OpId.splitAtDot_append _ id.name.toList (id.dialect.not_mem_dot wellFormed)
  rw [← toList_qualified, sameText, toList_qualified,
    OpId.splitAtDot_append _ _ (other.dialect.not_mem_dot wellFormedOther)] at split
  obtain ⟨sameDialect, sameName⟩ := Prod.mk.inj (Option.some.inj split)
  obtain ⟨⟨dialect⟩, name⟩ := id
  obtain ⟨⟨otherDialect⟩, otherName⟩ := other
  cases String.toList_inj.mp sameDialect
  cases String.toList_inj.mp sameName
  rfl

/-! ### What follows -/

/-- What follows is nothing, or starts with one of the characters. -/
def Opens (characters rest : List Char) : Prop :=
  ∀ character ∈ rest.head?, character ∈ characters

theorem opens_nil (characters : List Char) : Opens characters [] := fun _ member => by cases member

theorem opens_cons {characters : List Char} {character : Char} {rest : List Char}
    (allowed : character ∈ characters) : Opens characters (character :: rest) := by
  intro first member
  cases member
  exact allowed

/-- Characters of a class without these stop where one of these follows. -/
theorem Opens.stops {characters rest : List Char} (opens : Opens characters rest)
    {inside : Char → Bool} (outside : characters.any inside = false) : Stops inside rest := by
  intro character member
  rw [List.any_eq_false] at outside
  exact Bool.eq_false_iff.mpr (outside character (opens character member))

/-- In front of these characters, and at the end, the thing is told by its text among all proper
things. -/
def Told {Item : Type} (followers : List Char) (print : Item → String) (proper : Item → Prop)
    (item : Item) : Prop :=
  ∀ other, proper other → ∀ rest more, Opens followers rest → Opens followers more →
    (print item).toList ++ rest = (print other).toList ++ more → item = other ∧ rest = more

/-- A told thing in front of a single character tells this character, too. -/
theorem Told.followed {Item : Type} {followers : List Char} {print : Item → String}
    {proper : Item → Prop} {item other : Item} (told : Told followers print proper item)
    (properOther : proper other) {follower otherFollower : Char} (allowed : follower ∈ followers)
    (allowedOther : otherFollower ∈ followers) {rest more : List Char}
    (same : (print item).toList ++ follower :: rest =
      (print other).toList ++ otherFollower :: more) :
    item = other ∧ follower = otherFollower ∧ rest = more := by
  obtain ⟨sameItem, sameRest⟩ :=
    told other properOther _ _ (opens_cons allowed) (opens_cons allowedOther) same
  exact ⟨sameItem, List.cons.inj sameRest⟩

/-! ### Lists -/

/-- The brackets that end lists. -/
def closings : List Char := [')', ']', '\x7d']

/-- The characters that end items of lists. -/
def endings : List Char := ',' :: closings

/-- What follows is nothing, or a character that ends an item. -/
def Ends (rest : List Char) : Prop :=
  ∀ character ∈ rest.head?, character ∈ endings

theorem ends_nil : Ends [] := opens_nil endings

theorem ends_cons {character : Char} {rest : List Char}
    (ending : character ∈ endings) : Ends (character :: rest) := opens_cons ending

/-- Characters of a class without these stop where an item ends. -/
theorem Ends.stops {rest : List Char} (ends : Ends rest) {inside : Char → Bool}
    (outside : endings.any inside = false) : Stops inside rest := Opens.stops ends outside

/-- As an item of a list, the thing is told by its text among all proper things. -/
def Legible {Item : Type} (print : Item → String) (proper : Item → Prop) (item : Item) : Prop :=
  ∀ other, proper other → ∀ rest more, Ends rest → Ends more →
    (print item).toList ++ rest = (print other).toList ++ more → item = other ∧ rest = more

theorem Legible.told {Item : Type} {print : Item → String} {proper : Item → Prop} {item : Item}
    (legible : Legible print proper item) : Told endings print proper item := legible

/-- The text neither is empty nor starts with a character that ends items. -/
def Starts (text : String) : Prop :=
  ∀ rest, ¬ Ends (text.toList ++ rest)

theorem starts_of_first {text : String} {first : Char} {others : List Char}
    (written : text.toList = first :: others) (noEnding : first ∉ endings) : Starts text := by
  intro rest ends
  rw [written] at ends
  exact noEnding (ends first rfl)

theorem not_ending (inside : Char → Bool) {character : Char} (holds : inside character = true)
    (outside : endings.any inside = false) : character ∉ endings := by
  rw [List.any_eq_false] at outside
  exact fun member => outside character member holds

section Listing

variable {Item : Type} {followers : List Char} {print : Item → String} {proper : Item → Prop}
variable {close : Char}

/-- The items behind the first one, each behind a comma. -/
def others (print : Item → String) : List Item → List Char
  | [] => []
  | item :: rest => ',' :: ' ' :: ((print item).toList ++ others print rest)

theorem toList_intercalate_cons (print : Item → String) (item : Item) (items : List Item) :
    (", ".intercalate ((item :: items).map print)).toList =
      (print item).toList ++ others print items := by
  induction items generalizing item with
  | nil => simp [others]
  | cons second rest inductionHypothesis =>
    rw [List.map_cons, List.map_cons, String.intercalate_cons_cons, String.toList_append,
      String.toList_append, ← List.map_cons, inductionHypothesis second, List.append_assoc]
    rfl

theorem opens_others (comma : ',' ∈ followers) (closes : close ∈ followers) (items : List Item)
    (rest : List Char) : Opens followers (others print items ++ close :: rest) := by
  cases items with
  | nil => exact opens_cons closes
  | cons item items => exact opens_cons comma

theorem others_append_eq (comma : ',' ∈ followers) (closes : close ∈ followers)
    (noComma : close ≠ ',') {items : List Item}
    (told : ∀ item ∈ items, Told followers print proper item) {siblings : List Item}
    (properSiblings : ∀ sibling ∈ siblings, proper sibling) {rest more : List Char}
    (same : others print items ++ close :: rest = others print siblings ++ close :: more) :
    items = siblings ∧ rest = more := by
  induction items generalizing siblings with
  | nil =>
    cases siblings with
    | nil => exact ⟨rfl, (List.cons.inj same).2⟩
    | cons sibling siblings => exact absurd (List.cons.inj same).1 noComma
  | cons item items inductionHypothesis =>
    cases siblings with
    | nil => exact absurd (List.cons.inj same).1.symm noComma
    | cons sibling siblings =>
      rw [List.forall_mem_cons] at told properSiblings
      simp only [others, List.cons_append, List.append_assoc, List.cons.injEq, true_and] at same
      obtain ⟨sameItem, sameRest⟩ := told.1 sibling properSiblings.1 _ _
        (opens_others comma closes items rest) (opens_others comma closes siblings more) same
      obtain ⟨sameItems, sameMore⟩ := inductionHypothesis told.2 properSiblings.2 sameRest
      exact ⟨sameItem ▸ sameItems ▸ rfl, sameMore⟩

/-- Items between commas and a closing bracket are told if each of them is, and none of them starts
with the bracket. -/
theorem enclosed_append_eq (comma : ',' ∈ followers) (closes : close ∈ followers)
    (noComma : close ≠ ',')
    (noBracket : ∀ item, proper item → ∀ rest more, Opens followers rest →
      (print item).toList ++ rest ≠ close :: more) {items : List Item}
    (properItems : ∀ item ∈ items, proper item)
    (told : ∀ item ∈ items, Told followers print proper item) {siblings : List Item}
    (properSiblings : ∀ sibling ∈ siblings, proper sibling) {rest more : List Char}
    (same : (", ".intercalate (items.map print)).toList ++ close :: rest =
      (", ".intercalate (siblings.map print)).toList ++ close :: more) :
    items = siblings ∧ rest = more := by
  cases items with
  | nil =>
    cases siblings with
    | nil => exact ⟨rfl, (List.cons.inj same).2⟩
    | cons sibling siblings =>
      rw [toList_intercalate_cons, List.append_assoc] at same
      exact absurd same.symm (noBracket sibling (properSiblings sibling List.mem_cons_self) _ _
        (opens_others comma closes siblings more))
  | cons item items =>
    rw [toList_intercalate_cons, List.append_assoc] at same
    cases siblings with
    | nil =>
      exact absurd same (noBracket item (properItems item List.mem_cons_self) _ _
        (opens_others comma closes items rest))
    | cons sibling siblings =>
      rw [toList_intercalate_cons, List.append_assoc] at same
      rw [List.forall_mem_cons] at told properSiblings
      obtain ⟨sameItem, sameRest⟩ := told.1 sibling properSiblings.1 _ _
        (opens_others comma closes items rest) (opens_others comma closes siblings more) same
      obtain ⟨sameItems, sameMore⟩ :=
        others_append_eq comma closes noComma told.2 properSiblings.2 sameRest
      exact ⟨sameItem ▸ sameItems ▸ rfl, sameMore⟩

/-- Legible items between commas and a closing bracket are told. -/
theorem listing_append_eq (closes : close ∈ closings)
    (starts : ∀ item, proper item → Starts (print item)) {items : List Item}
    (properItems : ∀ item ∈ items, proper item)
    (legible : ∀ item ∈ items, Legible print proper item) {siblings : List Item}
    (properSiblings : ∀ sibling ∈ siblings, proper sibling) {rest more : List Char}
    (same : (", ".intercalate (items.map print)).toList ++ close :: rest =
      (", ".intercalate (siblings.map print)).toList ++ close :: more) :
    items = siblings ∧ rest = more := by
  have ending : close ∈ endings := List.mem_cons_of_mem _ closes
  have noComma : close ≠ ',' := by
    rintro rfl
    exact absurd closes (by decide)
  refine enclosed_append_eq List.mem_cons_self ending noComma ?_ properItems
    (fun item member => (legible item member).told) properSiblings same
  intro item properItem rest more _ equal
  have ended : Ends (close :: more) := ends_cons ending
  exact starts item properItem rest (equal ▸ ended)

end Listing

end Polyglot.Text
