import PostalAddress.Proofs.StreetSigns

/-!
Two "&" in a row in the first line of an intersection. The line has one of its own between the two
streets, so there are two in a row exactly if a street has them, or has one where the streets are
joined. A text that is split at its first connector leaves no "&" in front of it; what is left
behind it may begin with another one.
-/

namespace PostalAddress

namespace Text

/-- Two "&" with nothing but spaces between them. -/
def HasDoubledSign (text : Text) : Prop :=
  ∃ front gap behind, text = front ++ '&' :: (gap ++ '&' :: behind) ∧ ∀ letter ∈ gap, letter = ' '

def BeginsWithSign (text : Text) : Prop :=
  ∃ gap behind, text = gap ++ '&' :: behind ∧ ∀ letter ∈ gap, letter = ' '

def EndsWithSign (text : Text) : Prop :=
  ∃ front gap, text = front ++ '&' :: gap ∧ ∀ letter ∈ gap, letter = ' '

theorem begins_with_sign_cons (head : Char) (rest : Text) :
    BeginsWithSign (head :: rest) ↔ head = '&' ∨ head = ' ' ∧ BeginsWithSign rest := by
  constructor
  · rintro ⟨gap, behind, parted, spaces⟩
    cases gap with
    | nil =>
        cases parted
        exact .inl rfl
    | cons space others =>
        cases parted
        exact .inr ⟨spaces head (.head _), others, behind, rfl,
          fun letter member => spaces letter (.tail _ member)⟩
  · rintro (rfl | ⟨rfl, gap, behind, rfl, spaces⟩)
    · exact ⟨[], rest, rfl, by simp⟩
    · exact ⟨' ' :: gap, behind, rfl, by simpa using spaces⟩

theorem ends_with_sign_cons (head : Char) (rest : Text) :
    EndsWithSign (head :: rest) ↔
      head = '&' ∧ (∀ letter ∈ rest, letter = ' ') ∨ EndsWithSign rest := by
  constructor
  · rintro ⟨front, gap, parted, spaces⟩
    cases front with
    | nil =>
        cases parted
        exact .inl ⟨rfl, spaces⟩
    | cons first others =>
        cases parted
        exact .inr ⟨others, gap, rfl, spaces⟩
  · rintro (⟨rfl, spaces⟩ | ⟨front, gap, rfl, spaces⟩)
    · exact ⟨[], rest, rfl, spaces⟩
    · exact ⟨head :: front, gap, rfl, spaces⟩

theorem has_doubled_sign_cons (head : Char) (rest : Text) :
    HasDoubledSign (head :: rest) ↔ head = '&' ∧ BeginsWithSign rest ∨ HasDoubledSign rest := by
  constructor
  · rintro ⟨front, gap, behind, parted, spaces⟩
    cases front with
    | nil =>
        cases parted
        exact .inl ⟨rfl, gap, behind, rfl, spaces⟩
    | cons first others =>
        cases parted
        exact .inr ⟨others, gap, behind, rfl, spaces⟩
  · rintro (⟨rfl, gap, behind, rfl, spaces⟩ | ⟨front, gap, behind, rfl, spaces⟩)
    · exact ⟨[], gap, behind, rfl, spaces⟩
    · exact ⟨head :: front, gap, behind, rfl, spaces⟩

theorem nil_not_doubled : ¬HasDoubledSign [] := by
  simp [HasDoubledSign]

theorem nil_not_begun : ¬BeginsWithSign [] := by
  simp [BeginsWithSign]

theorem nil_not_ended : ¬EndsWithSign [] := by
  simp [EndsWithSign]

theorem HasDoubledSign.has_sign {text : Text} (doubled : text.HasDoubledSign) : '&' ∈ text := by
  obtain ⟨front, gap, behind, rfl, -⟩ := doubled
  simp

theorem begins_with_sign_append (left right : Text) :
    BeginsWithSign (left ++ right) ↔
      BeginsWithSign left ∨ (∀ letter ∈ left, letter = ' ') ∧ BeginsWithSign right := by
  induction left with
  | nil => simp [nil_not_begun]
  | cons head rest induction =>
      rw [List.cons_append, begins_with_sign_cons, begins_with_sign_cons, induction,
        List.forall_mem_cons]
      tauto

/-- Two texts have two signs in a row inside one of them or where they meet. -/
theorem has_doubled_sign_append (left right : Text) :
    HasDoubledSign (left ++ right) ↔
      HasDoubledSign left ∨ HasDoubledSign right ∨ EndsWithSign left ∧ BeginsWithSign right := by
  induction left with
  | nil => simp [nil_not_doubled, nil_not_ended]
  | cons head rest induction =>
      rw [List.cons_append, has_doubled_sign_cons, has_doubled_sign_cons, ends_with_sign_cons,
        begins_with_sign_append, induction]
      tauto

end Text

namespace IsWritten

variable {text : Text} (written : IsWritten text)

include written

theorem begins_with_sign_iff : text.BeginsWithSign ↔ text.head? = some '&' := by
  cases text with
  | nil => simp [Text.nil_not_begun]
  | cons head rest =>
      have solid : head ≠ ' ' := fun space => written.first (congrArg some space)
      simp [Text.begins_with_sign_cons, solid]

theorem ends_with_sign_iff : text.EndsWithSign ↔ text.getLast? = some '&' := by
  constructor
  · rintro ⟨front, gap, rfl, spaces⟩
    have none : gap = [] := by
      by_contra given
      apply written.last
      rw [List.getLast?_append_of_ne_nil _ (List.cons_ne_nil _ _), List.getLast?_cons_of_ne_nil given,
        List.getLast?_eq_some_getLast given, spaces _ (List.getLast_mem given)]
    simp [none]
  · intro last
    obtain ⟨front, rfl⟩ := List.getLast?_eq_some_iff.1 last
    exact ⟨front, [], rfl, by simp⟩

end IsWritten

namespace Text

/-- The sign between two written texts is doubled by one of theirs that touches it. -/
theorem joined_doubled_iff (left right : Text) (leftWritten : IsWritten left)
    (rightWritten : IsWritten right) :
    HasDoubledSign (joinNonempty [' ', '&', ' '] [left, right]) ↔
      HasDoubledSign left ∨ HasDoubledSign right ∨
        left ≠ [] ∧ right ≠ [] ∧ (left.getLast? = some '&' ∨ right.head? = some '&') := by
  by_cases leftEmpty : left = []
  · cases right <;> simp [leftEmpty, joinNonempty, nil_not_doubled]
  · by_cases rightEmpty : right = []
    · simp [rightEmpty, leftEmpty, joinNonempty, nil_not_doubled]
    · have joined : joinNonempty [' ', '&', ' '] [left, right] =
          left ++ ([' ', '&', ' '] ++ right) := by
        simp [joinNonempty, leftEmpty, rightEmpty]
      have ends : EndsWithSign [' ', '&', ' '] := ⟨[' '], [' '], rfl, by simp⟩
      have begins : BeginsWithSign ([' ', '&', ' '] ++ right) := ⟨[' '], ' ' :: right, rfl, by simp⟩
      have single : ¬HasDoubledSign [' ', '&', ' '] := by
        simp [has_doubled_sign_cons, begins_with_sign_cons, nil_not_doubled, nil_not_begun]
      rw [joined, has_doubled_sign_append, has_doubled_sign_append,
        leftWritten.ends_with_sign_iff, rightWritten.begins_with_sign_iff]
      tauto

end Text

namespace StandardAddress

theorem side_street_written (bag : Bag) : IsWritten (sideStreet bag) :=
  (side_holds_written bag).join_fields _

theorem of_streets_doubled_iff (first second : Bag) :
    (ofStreets first second).addressLine1.HasDoubledSign ↔
      (sideStreet first).HasDoubledSign ∨ (sideStreet second).HasDoubledSign ∨
        sideStreet first ≠ [] ∧ sideStreet second ≠ [] ∧
          ((sideStreet first).getLast? = some '&' ∨ (sideStreet second).head? = some '&') :=
  Text.joined_doubled_iff _ _ (side_street_written first) (side_street_written second)

theorem of_streets_not_doubled (first second : Bag) (noFirst : '&' ∉ sideStreet first)
    (noSecond : '&' ∉ sideStreet second) :
    ¬(ofStreets first second).addressLine1.HasDoubledSign := by
  rw [of_streets_doubled_iff]
  rintro (inFirst | inSecond | ⟨-, -, last | begins⟩)
  · exact noFirst inFirst.has_sign
  · exact noSecond inSecond.has_sign
  · exact noFirst (List.mem_of_getLast? last)
  · exact noSecond (List.mem_of_head? begins)

end StandardAddress

theorem standardize_text_pair (tagger : Tagger) (text : Text) (first second : Bag)
    (read : (parse tagger text).value.components = .pair first second) :
    (standardizeText tagger text).value = .ofStreets first second := by
  change standardize (parse tagger text).value.components = _
  rw [read, standardize]

/-- Two "&" are in a row in the first line of an intersection exactly if a street has them, or has
one where it is joined to the other. Where the locator has no answer, it takes another "&" between
the connector and the next comma. -/
theorem standardize_doubled_sign_iff (locate : Locator) (text : Text)
    (classified : (parse (.locating locate) text).value.classification = .intersection) :
    ∃ first second, (parse (.locating locate) text).value.components = .pair first second ∧
      let firstStreet := StandardAddress.sideStreet first
      let secondStreet := StandardAddress.sideStreet second
      let line := (standardizeText (.locating locate) text).value.addressLine1
      (line.HasDoubledSign ↔
        firstStreet.HasDoubledSign ∨ secondStreet.HasDoubledSign ∨
          firstStreet ≠ [] ∧ secondStreet ≠ [] ∧
            (firstStreet.getLast? = some '&' ∨ secondStreet.head? = some '&')) ∧
      ((∀ token ∈ (Tagger.locating locate (cleanText text)).value.tokens,
          token.isSeparator = false → '&' ∉ token.text) → ¬line.HasDoubledSign) ∧
      (locate (cleanText text) = none →
        ∃ cut, Crossing.ofText? (cleanText text) = some cut ∧ '&' ∉ firstStreet ∧
          ('&' ∉ cut.secondStreet → ¬line.HasDoubledSign)) := by
  obtain ⟨crossing, labelled, named, bags, tokens, unlocated⟩ :=
    locating_parse_crossing locate text classified
  refine ⟨_, _, bags, ?_⟩
  rw [standardize_text_pair _ text _ _ bags]
  refine ⟨StandardAddress.of_streets_doubled_iff _ _, fun noSign => ?_, fun absent => ?_⟩
  · have free (token : Token) (ofStreet : token ∈ crossing.first ∨ token ∈ crossing.second) :
        '&' ∉ token.text := by
      obtain ⟨listed, noSeparator⟩ := labelled.street_no_separator token ofStreet
      exact noSign token (tokens ▸ listed) noSeparator
    apply StandardAddress.of_streets_not_doubled
    · exact labelled.first_no_sign named fun token member => free token (.inl member)
    · exact labelled.second_no_sign named fun token member => free token (.inr member)
  · obtain ⟨cut, found, rfl⟩ := unlocated absent
    obtain ⟨firstFree, secondFree⟩ := cut.parts_no_sign _ found
    have noFirst := labelled.first_no_sign named firstFree
    refine ⟨cut, found, noFirst, fun noSign => ?_⟩
    have noSecond := labelled.second_no_sign named (secondFree noSign)
    exact StandardAddress.of_streets_not_doubled _ _ noFirst noSecond

theorem main_and_elm_single_sign :
    (parse (.locating fun _ => none) "Main & Elm".toList).value.classification = .intersection ∧
      ¬Text.HasDoubledSign
        (standardizeText (.locating fun _ => none) "Main & Elm".toList).value.addressLine1 := by
  have classified : (parse (.locating fun _ => none) "Main & Elm".toList).value.classification =
      .intersection := by
    decide +kernel
  obtain ⟨_, _, _, _, _, unlocated⟩ := standardize_doubled_sign_iff _ _ classified
  obtain ⟨cut, read, _, single⟩ := unlocated rfl
  have street : cut = ⟨"Main".toList, ['&'], "Elm".toList⟩ :=
    Option.some.inj (read.symm.trans (by decide +kernel))
  exact ⟨classified, single (street ▸ by decide +kernel)⟩

/-- The second connector of two is left in the name of the second street. -/
theorem main_and_and_elm_doubled_sign :
    (parse (.locating fun _ => none) "Main & & Elm".toList).value.classification =
        .intersection ∧
      Text.HasDoubledSign
        (standardizeText (.locating fun _ => none) "Main & & Elm".toList).value.addressLine1 := by
  have read : (interpret (.locating fun _ => none) "Main & & Elm".toList).value =
      .intersection (Bag.empty.set .streetName "Main".toList)
        (Bag.empty.set .streetName "& Elm".toList) := by
    decide +kernel
  rw [parse, standardizeText, Consulted.value_map, Consulted.value_map, read]
  exact ⟨rfl, "MAIN ".toList, [' '], " ELM".toList, by decide +kernel, by simp⟩

end PostalAddress
