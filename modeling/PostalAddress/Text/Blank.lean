import PostalAddress.Text.Basic

/-!
Blanks are the ASCII ones and the Unicode space separators, with the byte order mark and the two
line separators, and without U+0085 and the zero width space. A text is trimmed of them, cut into
words at them, or squeezed: each run of blanks becomes one space.
-/

namespace PostalAddress

def isBlank (letter : Char) : Bool :=
  let point := letter.toNat
  (9 ≤ point && point ≤ 13) || point = 0x20 || point = 0xA0 || point = 0x1680 ||
    (0x2000 ≤ point && point ≤ 0x200A) || point = 0x2028 || point = 0x2029 ||
    point = 0x202F || point = 0x205F || point = 0x3000 || point = 0xFEFF

/-- The blanks that end a line. -/
def isLineEnd (letter : Char) : Bool :=
  letter = '\n' || letter = '\r' || letter = '\u2028' || letter = '\u2029'

namespace Text

def trim (text : Text) : Text := trimWhere isBlank text

def skipBlanks (text : Text) : Text := text.dropWhile isBlank

def isAllBlank (text : Text) : Bool := text.all isBlank

/-- Each run of blanks becomes one space. -/
def squeeze : Text → Text
  | [] => []
  | letter :: rest =>
      if isBlank letter then ' ' :: (squeeze rest).dropWhile (· = ' ')
      else letter :: squeeze rest

def words (text : Text) : List Text :=
  (text.splitOnP isBlank).filter fun word => !word.isEmpty

def unwords (pieces : List Text) : Text := [' '].intercalate pieces

/-- The first word and the rest, parted by a space alone: other blanks inside the trimmed text
belong to a word. -/
def headWord (text : Text) : Text × Text :=
  match cutAt? (· = ' ') (trim text) with
  | none => (trim text, [])
  | some (word, rest) => (word, trim rest)

end Text

end PostalAddress
