import PostalAddress.Text.Blank

/-!
Notes in parentheses are no part of an address. A note runs from an opening parenthesis to the
next closing one, whatever stands between them. Notes and the parentheses that are left over
become blanks, and blanks are squeezed and trimmed.
-/

namespace PostalAddress

/-- An opening parenthesis opens a note only if a closing one follows. -/
def blankNotes (insideNote : Bool) : Text → Text
  | [] => []
  | letter :: rest =>
      if insideNote then blankNotes (letter ≠ ')') rest
      else if letter = '(' then ' ' :: blankNotes (rest.contains ')') rest
      else if letter = ')' then ' ' :: blankNotes false rest
      else letter :: blankNotes false rest

def cleanText (text : Text) : Text := (Text.squeeze (blankNotes false text)).trim

end PostalAddress
