import PostalAddress.Text.Blank
import PostalAddress.Text.Upper

/-!
The normal form of one value of an address: uppercase, without periods and parentheses, with
single spaces inside, and without blanks, commas and semicolons at its ends, where list
punctuation tends to stay behind.
-/

namespace PostalAddress

def isDroppedMark (letter : Char) : Bool := letter = '.' || letter = '(' || letter = ')'

def isEdgeMark (letter : Char) : Bool := isBlank letter || letter = ',' || letter = ';'

/-- Marks are dropped before blanks are squeezed: a mark between two spaces leaves one space. -/
def normalize (value : Text) : Text :=
  Text.trimWhere isEdgeMark (Text.squeeze (value.upper.filter fun letter => !isDroppedMark letter))

end PostalAddress
