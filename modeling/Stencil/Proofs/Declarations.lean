/-
This file proves where declarations are found. A text declares a name at a place where it reads as a
keyword that begins a word, blanks, and the name as a whole. A search for a declaration tries every
keyword and every number of blanks; a name that is a word begins with no blank, so that at each place
there is one way to read a declaration, and the search stops at the first place at which there is
one.
-/
import Stencil.Proofs.Introspection

namespace Stencil

namespace Header

/-- A place at which a text declares a name. -/
structure Place (name text : Text) where
  before : Text
  keyword : Text
  blanks : Text
  tail : Text
  reads : text = before ++ (keyword ++ (blanks ++ (name ++ tail)))
  isKeyword : keyword ∈ declarationKeywords
  begins : endsWord before.reverse = true
  spaced : blanks ≠ []
  blank : ∀ c ∈ blanks, isBlank c = true
  ends : endsWord tail = true

namespace Place

variable {name text : Text}

/-- What comes before the declared name and what comes behind it. -/
def declared (place : Place name text) : DeclaredName :=
  ⟨place.before ++ place.keyword ++ place.blanks, place.tail⟩

end Place

section

variable {passes : Text → Bool} {name text : Text}

/-- A word does not begin with a blank. -/
theorem isBlank_of_head? (isName : IsWord name) (tail : Text) (c : Char)
    (first : (name ++ tail).head? = some c) : isBlank c = false := by
  cases name with
  | nil => exact absurd rfl isName.ne_nil
  | cons d name =>
    obtain rfl : d = c := by simpa using first
    rw [← Bool.not_eq_true]
    intro blank
    exact Bool.false_ne_true ((isIdentifierChar_of_isBlank blank).symm.trans
      (isName.isIdentifierChar List.mem_cons_self))

/-- At such a place the declaration is found, and no other one. -/
theorem declaredAt?_place (isName : IsWord name) (place : Place name text)
    (tested : passes place.tail = true) :
    declaredAt? passes name place.before.reverse
        (place.keyword ++ (place.blanks ++ (name ++ place.tail))) = some place.declared := by
  have longest := Text.head?_afterSomeRuns place.spaced place.blank
    (isBlank_of_head? isName place.tail)
  obtain ⟨shorter, runs⟩ := List.head?_eq_some_iff.mp longest
  have taken : (place.keyword ++ (place.blanks ++ (name ++ place.tail))).take
      ((place.keyword ++ (place.blanks ++ (name ++ place.tail))).length -
        (name ++ place.tail).length) = place.keyword ++ place.blanks := by
    rw [← List.append_assoc, List.length_append, Nat.add_sub_cancel, List.take_left]
  rw [declaredAt?, if_pos place.begins, findSome?_keyword place.isKeyword, runs,
    List.findSome?_cons, Text.after?_append]
  simp only [place.ends, tested, Bool.and_self, if_true, taken, List.reverse_reverse,
    Place.declared, List.append_assoc]

/-- Where a declaration is found there is such a place. -/
theorem exists_place_of_declaredAt? {before ahead : Text} {declared : DeclaredName}
    (split : text = before ++ ahead)
    (found : declaredAt? passes name before.reverse ahead = some declared) :
    ∃ place : Place name text, place.before = before ∧ place.declared = declared ∧
      passes place.tail = true := by
  obtain ⟨keyword, blanks, shape⟩ := declaredAt?_eq_some found
  have reads : text = before ++ (keyword ++ (blanks ++ (name ++ declared.tail))) := by
    rw [split, shape.reads]
    simp only [List.append_assoc]
  have lead := shape.lead
  rw [List.reverse_reverse] at lead
  refine ⟨⟨before, keyword, blanks, declared.tail, reads, shape.isKeyword, shape.begins,
    shape.spaced, shape.blank, shape.ends⟩, rfl, ?_, shape.tested⟩
  rw [Place.declared, ← lead]

/-- A search finds the first place of those that pass its test. -/
theorem exists_first_place (isName : IsWord name) {declared : DeclaredName}
    (found : Text.firstPlace (declaredAt? passes name) [] text = some declared) :
    ∃ place : Place name text, place.declared = declared ∧ passes place.tail = true ∧
      ∀ other : Place name text, passes other.tail = true →
        place.before.length ≤ other.before.length := by
  obtain ⟨before, ahead, split, here, fails⟩ := Text.exists_first_of_firstPlace found
  rw [List.append_nil] at here
  obtain ⟨place, rfl, same, tested⟩ := exists_place_of_declaredAt? split here
  refine ⟨place, same, tested, fun other otherTested => ?_⟩
  by_contra earlier
  have none := fails other.before _ other.reads (Nat.lt_of_not_le earlier)
  rw [List.append_nil, declaredAt?_place isName other otherTested] at none
  cases none

/-- A search fails where no place passes its test. -/
theorem firstDeclared_eq_none_iff (isName : IsWord name) :
    Text.firstPlace (declaredAt? passes name) [] text = none ↔
      ∀ place : Place name text, passes place.tail = false := by
  rw [Text.firstPlace_eq_none_iff]
  constructor
  · intro fails place
    have none := fails place.before _ place.reads
    rw [List.append_nil] at none
    rw [← Bool.not_eq_true]
    intro tested
    rw [declaredAt?_place isName place tested] at none
    cases none
  · intro fails before ahead split
    rw [List.append_nil]
    cases found : declaredAt? passes name before.reverse ahead with
    | none => rfl
    | some declared =>
      obtain ⟨place, -, -, tested⟩ := exists_place_of_declaredAt? split found
      rw [fails place] at tested
      cases tested

/-- A place is found at its index. -/
theorem declaredAt?_length (isName : IsWord name) (place : Place name text)
    (tested : passes place.tail = true) :
    declaredAt? passes name (text.take place.before.length).reverse
        (text.drop place.before.length) = some place.declared := by
  have taken := congrArg (List.take place.before.length) place.reads
  have dropped := congrArg (List.drop place.before.length) place.reads
  rw [List.take_left] at taken
  rw [List.drop_left] at dropped
  rw [taken, dropped]
  exact declaredAt?_place isName place tested

/-- There is a place exactly at the indices at which a declaration is found. -/
theorem exists_place_iff (isName : IsWord name) {index : Nat} (inside : index ≤ text.length) :
    (∃ place : Place name text, place.before.length = index ∧ passes place.tail = true) ↔
      (declaredAt? passes name (text.take index).reverse (text.drop index)).isSome = true := by
  constructor
  · rintro ⟨place, rfl, tested⟩
    rw [declaredAt?_length isName place tested]
    rfl
  · intro found
    obtain ⟨declared, found⟩ := Option.isSome_iff_exists.mp found
    obtain ⟨place, before, -, tested⟩ :=
      exists_place_of_declaredAt? (List.take_append_drop index text).symm found
    exact ⟨place, by rw [before, List.length_take_of_le inside], tested⟩

/-- A place is known from the number of characters before it. -/
theorem Place.declared_eq_of_length (isName : IsWord name) (place other : Place name text)
    (same : place.before.length = other.before.length) : place.declared = other.declared := by
  have found := @declaredAt?_length (fun _ => true) name text isName place rfl
  rw [same, declaredAt?_length isName other rfl] at found
  exact (Option.some.inj found).symm

end

end Header

end Stencil
