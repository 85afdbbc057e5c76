import PostalAddress.Proofs.PrintedLastLines

/-!
Terms that are looked up. All terms of a table are in normal form and no term stands in it twice, so
each of them is found as it is written and leads to the short form beside it. A value that is no
term in any spelling leads to its normal form. Either way the result is in normal form but for
letters in lower case, and no more than these change when it is looked up again.
-/

namespace PostalAddress

def arePlainWords (text : Text) : Bool :=
  (text.splitOn ' ').all fun word => !word.isEmpty && word.all isPlain

theorem unwords_normal (words : List Text) (plain : ∀ word ∈ words, IsPlainWord word) :
    IsNormal (Text.unwords words) := by
  induction words with
  | nil => exact UnitText.empty_normal
  | cons word others induction =>
      have first : IsPlainWord word := plain word (.head _)
      have rest : ∀ other ∈ others, IsPlainWord other := fun other member =>
        plain other (.tail _ member)
      by_cases alone : others = []
      · subst alone
        simpa [Text.unwords] using first.normal
      · have given := Text.unwords_given others alone fun other member => (rest other member).given
        rw [Text.unwords_cons word others alone]
        exact first.normal.join (induction rest) first.given given

theorem plain_words_normal (text : Text) (plain : arePlainWords text = true) : IsNormal text := by
  have words : ∀ word ∈ text.splitOn ' ', IsPlainWord word := by
    intro word member
    have checked := List.all_eq_true.1 plain word member
    rw [Bool.and_eq_true, Bool.not_eq_true', List.isEmpty_eq_false_iff, List.all_eq_true] at checked
    exact ⟨checked.1, checked.2⟩
  have joined : Text.unwords (text.splitOn ' ') = text := List.intercalate_splitOn ' '
  rw [← joined]
  exact unwords_normal _ words

namespace AbbreviationTable

theorem mem_rows_iff (table : AbbreviationTable) (term short : Text) :
    (term, short) ∈ table.rows ↔
      ∃ entry ∈ table, term ∈ entry.terms ∧ entry.short = short := by
  simp [rows]

theorem lookup_other (table : AbbreviationTable) (term : Text)
    (other : normalize term ∉ table.terms) : table.lookup term = normalize term := by
  rw [lookup, table.short_of_unlisted _ other, Option.getD_none]

/-- The short forms are plain words already, so the other spellings alone are checked. -/
theorem listed_spellings_plain : ∀ table ∈ [suffixes, directionals, states, units],
    ∀ entry ∈ table, ∀ spelling ∈ entry.spellings, arePlainWords spelling = true := by
  decide +kernel

section Listed

variable {table : AbbreviationTable} (listed : table ∈ [suffixes, directionals, states, units])

include listed

theorem term_normal (entry : Abbreviation) (member : entry ∈ table) (term : Text)
    (written : term ∈ entry.terms) : IsNormal term := by
  rcases List.mem_cons.1 written with rfl | spelling
  · exact plain_normal _ ((listed_closed table listed).plain entry member)
  · exact plain_words_normal term (listed_spellings_plain table listed entry member term spelling)

theorem term_fixed (entry : Abbreviation) (member : entry ∈ table) (term : Text)
    (written : term ∈ entry.terms) : normalize term = term := by
  have normal := term_normal listed entry member term written
  have whole := (listed_closed table listed).whole term (List.mem_flatMap.2 ⟨entry, member, written⟩)
  exact normal.normalize (Text.upper_of_no_halves term normal.settled whole)

/-- Each term of a table is found as it is written there. -/
theorem lookup_row (term short : Text) (row : (term, short) ∈ table.rows) :
    table.lookup term = short := by
  obtain ⟨entry, member, written, rfl⟩ := (table.mem_rows_iff term short).1 row
  have distinct := table.terms_distinct (listed_well_formed table listed)
  rw [lookup, term_fixed listed entry member term written,
    table.short_of_listed distinct entry member term written, Option.getD_some]

end Listed

end AbbreviationTable

namespace AbbreviationTable.IsClosed

variable {table : AbbreviationTable} (closed : table.IsClosed)

include closed

theorem lookup_is_upper_iff (term : Text) : (table.lookup term).IsUpper ↔ ¬JoinsHalves term := by
  rw [← normalize_is_upper_iff, lookup]
  cases found : table.short? (normalize term) with
  | none => rfl
  | some short =>
      have whole := closed.whole _ (table.mem_terms _ short found)
      have normal := Text.upper_of_no_halves _ (normalize_normal term).settled whole
      have plain := (closed.short_short _ short found).1
      exact iff_of_true (plain_upper short plain) normal

theorem lookup_normalize (term : Text) :
    table.lookup (normalize term) = (table.lookup term).upper := by
  have same := closed.short_upper _ (normalize_normal term).settled
  rw [lookup, normalize_normalize, same, lookup]
  cases found : table.short? (normalize term) with
  | none => rfl
  | some short => exact (plain_upper short (closed.short_short _ short found).1).upper.symm

end AbbreviationTable.IsClosed

/-- Each term of a table leads to its short form, and what is no term in any spelling to its normal
form. Looking terms up is a projection, but for terms of which halves meet over a mark. -/
theorem lookup_projects (table : AbbreviationTable)
    (listed : table ∈ [suffixes, directionals, states, units]) (term : Text) :
    (table.lookup (table.lookup term) = table.lookup term ↔ ¬JoinsHalves term) ∧
      (table.lookup term = table.lookup (normalize term) ↔ ¬JoinsHalves term) ∧
      (normalize (table.lookup term) = table.lookup term ↔ ¬JoinsHalves term) ∧
      (∀ written short, (written, short) ∈ table.rows → table.lookup written = short) ∧
      (normalize term ∉ table.terms → table.lookup term = normalize term) := by
  have closed := AbbreviationTable.listed_closed table listed
  have upper := closed.lookup_is_upper_iff term
  refine ⟨?again, ?normalized, ?normal, AbbreviationTable.lookup_row listed, table.lookup_other term⟩
  case again => rw [closed.lookup_lookup, Text.upper_eq_self_iff, upper]
  case normalized => rw [closed.lookup_normalize, eq_comm, Text.upper_eq_self_iff, upper]
  case normal =>
    rw [(closed.lookup_normal term).normalize_eq_upper, Text.upper_eq_self_iff, upper]

theorem north_west_looked_up :
    directionals ∈ [suffixes, directionals, states, units] ∧
      ("NORTHWEST".toList, "NW".toList) ∈ directionals.rows ∧
      normalize "n. by w.".toList ∉ directionals.terms ∧
      directionals.lookup " North(west),".toList = "NW".toList ∧
      directionals.lookup "NW".toList = "NW".toList ∧
      directionals.lookup "n. by w.".toList = "N BY W".toList ∧
      directionals.lookup "N BY W".toList = "N BY W".toList := by
  have listed : directionals ∈ [suffixes, directionals, states, units] := by simp
  have row : ("NORTHWEST".toList, "NW".toList) ∈ directionals.rows := by decide +kernel
  have unlisted : normalize "n. by w.".toList ∉ directionals.terms := by decide +kernel
  have spelled : normalize " North(west),".toList = "NORTHWEST".toList := by decide +kernel
  have written : normalize "n. by w.".toList = "N BY W".toList := by decide +kernel
  obtain ⟨again, same, _, rows, _⟩ := lookup_projects directionals listed " North(west),".toList
  obtain ⟨otherAgain, _, _, _, other⟩ := lookup_projects directionals listed "n. by w.".toList
  have found := same.2 (by decide +kernel)
  have fixed := again.2 (by decide +kernel)
  have otherFixed := otherAgain.2 (by decide +kernel)
  rw [found, spelled, rows _ _ row] at fixed
  rw [other unlisted, written] at otherFixed
  refine ⟨listed, row, unlisted, ?_, fixed, ?_, otherFixed⟩
  · rw [found, spelled, rows _ _ row]
  · rw [other unlisted, written]

/-- A letter in lower case that comes together from its halves is in no table. -/
theorem split_letter_looked_up :
    suffixes.lookup Text.splitLetter = Text.ofPoint 0x10428 ∧
      suffixes.lookup (suffixes.lookup Text.splitLetter) = Text.ofPoint 0x10400 ∧
      normalize (suffixes.lookup Text.splitLetter) ≠ suffixes.lookup Text.splitLetter ∧
      suffixes.lookup (normalize Text.splitLetter) ≠ suffixes.lookup Text.splitLetter := by
  decide +kernel

end PostalAddress
