import PostalAddress.NormalForm

/-!
A table of postal abbreviations. An entry holds a short form and the other spellings of the same
term, all in normal form; the short form abbreviates itself, so a value that was abbreviated
before is found again.
-/

namespace PostalAddress

structure Abbreviation where
  short : Text
  spellings : List Text

abbrev AbbreviationTable := List Abbreviation

namespace Abbreviation

def of (short : String) (spellings : List String) : Abbreviation :=
  ⟨short.toList, spellings.map String.toList⟩

def terms (entry : Abbreviation) : List Text := entry.short :: entry.spellings

end Abbreviation

namespace AbbreviationTable

def short? (table : AbbreviationTable) (term : Text) : Option Text :=
  (table.find? fun entry => entry.terms.contains term).map Abbreviation.short

def contains (table : AbbreviationTable) (term : Text) : Bool := (table.short? term).isSome

def recognizes (table : AbbreviationTable) (word : Text) : Bool := table.contains (normalize word)

def terms (table : AbbreviationTable) : List Text := table.flatMap Abbreviation.terms

/-- A term that is not in the table has its normal form for an abbreviation. -/
def lookup (table : AbbreviationTable) (term : Text) : Text :=
  (table.short? (normalize term)).getD (normalize term)

def rows (table : AbbreviationTable) : List (Text × Text) :=
  table.flatMap fun entry => entry.terms.map fun term => (term, entry.short)

end AbbreviationTable

end PostalAddress
