import PostalAddress.Abbreviation.Suffix
import PostalAddress.Abbreviation.Directional
import PostalAddress.Abbreviation.State
import PostalAddress.Abbreviation.Unit

/-!
The four tables together.
-/

namespace PostalAddress

def isPostalTerm (word : Text) : Bool :=
  [suffixes, directionals, states, units].any fun table => table.recognizes word

end PostalAddress
