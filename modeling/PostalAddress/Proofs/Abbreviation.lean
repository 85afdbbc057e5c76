import PostalAddress.Abbreviation
import PostalAddress.Proofs.NormalForm
import Mathlib.Data.List.Nodup

/-!
The tables of abbreviations are closed: a short form is in normal form and abbreviates itself, so
looking a term up a second time does no more than normalizing it a second time. A table is closed
if no term stands in it twice, its terms have no halves and its short forms are plain words, which
is checked on a number for each term.
-/

namespace PostalAddress

/-- A short number for a text. Texts with different numbers are different. -/
def digest (text : Text) : Nat :=
  text.foldl (fun digest letter => (25 * digest + letter.toNat) % 2 ^ 15) 0

def areDistinct (bits : Nat) : List Nat → Bool
  | [] => true
  | point :: rest => !bits.testBit point && areDistinct (bits ||| 2 ^ point) rest

theorem nodup_of_are_distinct (points : List Nat) (bits : Nat)
    (distinct : areDistinct bits points = true) :
    points.Nodup ∧ ∀ point ∈ points, bits.testBit point = false := by
  induction points generalizing bits with
  | nil => simp
  | cons head rest induction =>
      simp only [areDistinct, Bool.and_eq_true, Bool.not_eq_true'] at distinct
      obtain ⟨headUnset, restDistinct⟩ := distinct
      obtain ⟨restNodup, restUnset⟩ := induction _ restDistinct
      simp only [Nat.testBit_or, Bool.or_eq_false_iff, Nat.testBit_two_pow] at restUnset
      refine ⟨List.nodup_cons.2 ⟨fun member => ?_, restNodup⟩, ?_⟩
      · simpa using (restUnset head member).2
      · intro point member
        rcases List.mem_cons.1 member with rfl | behind
        · exact headUnset
        · exact (restUnset point behind).1

namespace AbbreviationTable

structure IsClosed (table : AbbreviationTable) : Prop where
  plain : ∀ entry ∈ table, ∀ letter ∈ entry.short, isPlain letter = true
  whole : ∀ term ∈ table.terms, ∀ letter ∈ term, Text.isHalf letter = false
  found : ∀ entry ∈ table, table.short? entry.short = some entry.short
  named : table.short? [] = none

theorem lookup_upper (table : AbbreviationTable) (term : Text) :
    table.lookup term.upper = table.lookup term := by
  rw [lookup, normalize_upper]
  rfl

/-- If no term stands in a table twice, each is found in the entry that it stands in. -/
theorem short_of_listed (table : AbbreviationTable) (distinct : table.terms.Nodup)
    (entry : Abbreviation) (member : entry ∈ table) (term : Text) (listed : term ∈ entry.terms) :
    table.short? term = some entry.short := by
  induction table with
  | nil => cases member
  | cons head rest induction =>
      rw [terms, List.flatMap_cons] at distinct
      obtain ⟨_, restDistinct, apart⟩ := List.nodup_append.1 distinct
      rcases List.mem_cons.1 member with rfl | behind
      · simp [short?, listed]
      · have inRest : term ∈ rest.flatMap Abbreviation.terms :=
          List.mem_flatMap.2 ⟨entry, behind, listed⟩
        have skipped : head.terms.contains term = false := by
          rw [List.contains_eq_mem, decide_eq_false_iff_not]
          exact fun inHead => apart _ inHead _ inRest rfl
        rw [short?, List.find?_cons, skipped]
        exact induction restDistinct behind

theorem entry_of_short (table : AbbreviationTable) (term short : Text)
    (found : table.short? term = some short) :
    ∃ entry ∈ table, entry.short = short ∧ term ∈ entry.terms := by
  obtain ⟨entry, first, same⟩ := Option.map_eq_some_iff.1 found
  exact ⟨entry, List.mem_of_find?_eq_some first, same, by simpa using List.find?_some first⟩

theorem mem_terms (table : AbbreviationTable) (term short : Text)
    (found : table.short? term = some short) : term ∈ table.terms := by
  obtain ⟨entry, listed, _, member⟩ := table.entry_of_short term short found
  exact List.mem_flatMap.2 ⟨entry, listed, member⟩

namespace IsClosed

variable {table : AbbreviationTable} (closed : table.IsClosed)

include closed

theorem short_short (term short : Text) (found : table.short? term = some short) :
    (∀ letter ∈ short, isPlain letter = true) ∧ table.short? short = some short := by
  obtain ⟨entry, member, rfl, _⟩ := table.entry_of_short term short found
  exact ⟨closed.plain entry member, closed.found entry member⟩

theorem lookup_short (term short : Text) (found : table.short? term = some short) :
    table.lookup short = short := by
  obtain ⟨plain, again⟩ := closed.short_short term short found
  rw [lookup, normalize_plain short plain, again, Option.getD_some]

theorem lookup_normal (term : Text) : IsNormal (table.lookup term) := by
  rw [lookup]
  cases found : table.short? (normalize term) with
  | none => exact normalize_normal term
  | some short => exact plain_normal short (closed.short_short _ short found).1

/-- A text is no term if its uppercase is another text. -/
theorem short_upper (text : Text) (settled : ∀ unit ∈ text, Text.upperCharacter unit = [unit]) :
    table.short? text.upper = table.short? text := by
  by_cases noHalves : ∀ unit ∈ text, Text.isHalf unit = false
  · rw [(Text.upper_of_no_halves text settled noHalves).upper]
  · obtain ⟨unit, member, half⟩ : ∃ unit ∈ text, Text.isHalf unit = true := by
      simpa using noHalves
    have unlisted (other : Text) (within : ∃ unit ∈ other, Text.isHalf unit = true) :
        table.short? other = none := by
      apply Option.eq_none_iff_forall_ne_some.2
      intro short found
      obtain ⟨unit, member, half⟩ := within
      rw [closed.whole other (table.mem_terms other short found) unit member] at half
      cases half
    rw [unlisted text ⟨unit, member, half⟩, unlisted text.upper]
    rcases Text.mem_upper_of_settled text unit member (settled unit member) with kept | other
    · exact ⟨unit, kept, half⟩
    · exact other

/-- Looking a value up again puts it in uppercase and does nothing else. -/
theorem lookup_lookup (term : Text) :
    table.lookup (table.lookup term) = (table.lookup term).upper := by
  rw [lookup.eq_def table term]
  cases found : table.short? (normalize term) with
  | none =>
      have unlisted := closed.short_upper _ (normalize_normal term).settled
      rw [Option.getD_none, lookup, normalize_normalize, unlisted, found, Option.getD_none]
  | some short =>
      have plain := (closed.short_short _ short found).1
      rw [Option.getD_some, closed.lookup_short _ short found, (plain_upper short plain).upper]

end IsClosed

theorem short_of_unlisted (table : AbbreviationTable) (term : Text) (lacking : term ∉ table.terms) :
    table.short? term = none := by
  cases found : table.short? term with
  | none => rfl
  | some short => exact absurd (table.mem_terms term short found) lacking

/-- The number of the empty text counts as taken, so it is no term either. -/
def isWellFormed (table : AbbreviationTable) : Bool :=
  areDistinct 1 (table.terms.map digest) && (table.all fun entry => entry.short.all isPlain) &&
    table.terms.all fun term => term.all fun letter => !Text.isHalf letter

theorem terms_distinct (table : AbbreviationTable) (wellFormed : table.isWellFormed = true) :
    table.terms.Nodup :=
  (nodup_of_are_distinct _ _
    (Bool.and_eq_true_iff.1 (Bool.and_eq_true_iff.1 wellFormed).1).1).1.of_map

theorem closed_of_well_formed (table : AbbreviationTable) (wellFormed : table.isWellFormed = true) :
    table.IsClosed := by
  obtain ⟨front, whole⟩ := Bool.and_eq_true_iff.1 wellFormed
  obtain ⟨distinct, plain⟩ := Bool.and_eq_true_iff.1 front
  obtain ⟨_, notEmpty⟩ := nodup_of_are_distinct _ _ distinct
  constructor
  case plain =>
    intro entry member
    exact List.all_eq_true.1 (List.all_eq_true.1 plain entry member)
  case whole =>
    intro term member letter inTerm
    simpa using List.all_eq_true.1 (List.all_eq_true.1 whole term member) letter inTerm
  case found =>
    intro entry member
    exact table.short_of_listed (table.terms_distinct wellFormed) entry member _ (.head _)
  case named =>
    apply short_of_unlisted
    intro member
    exact absurd (notEmpty _ (List.mem_map_of_mem member)) (by decide)

theorem listed_well_formed :
    ∀ table ∈ [suffixes, directionals, states, units], table.isWellFormed = true := by
  decide +kernel

theorem listed_closed (table : AbbreviationTable)
    (listed : table ∈ [suffixes, directionals, states, units]) : table.IsClosed :=
  closed_of_well_formed table (listed_well_formed table listed)

theorem states_closed : states.IsClosed := listed_closed _ (by simp)

theorem units_closed : units.IsClosed := listed_closed _ (by simp)

end AbbreviationTable

end PostalAddress
