import PostalAddress.Json.Display
import PostalAddress.Text.CodeUnit

/-!
Writing JSON without blanks. Each writer puts its text in front of what follows it.
-/

namespace PostalAddress.Json

def hexCharacter (digit : Nat) : Char :=
  if digit < 10 then Char.ofNat (48 + digit) else Char.ofNat (87 + digit)

def writeEscape (number : Nat) (following : Text) : Text :=
  '\\' :: 'u' :: hexCharacter (number / 0x1000) :: hexCharacter (number / 0x100 % 0x10) ::
    hexCharacter (number / 0x10 % 0x10) :: hexCharacter (number % 0x10) :: following

/-- Only the quote, the backslash, control characters and halves of pairs are escaped. -/
def writeCharacter (letter : Char) (following : Text) : Text :=
  if letter = '"' || letter = '\\' then '\\' :: letter :: following
  else if letter.toNat < 0x20 then writeEscape letter.toNat following
  else if Text.isHalf letter then writeEscape (letter.toNat - 0x10000) following
  else letter :: following

def writeString (text following : Text) : Text :=
  '"' :: text.foldr writeCharacter ('"' :: following)

mutual

def write : Json → Text → Text
  | .null, following => "null".toList ++ following
  | .bool value, following => (if value then "true" else "false").toList ++ following
  | .number mantissa exponent, following => numberText mantissa exponent ++ following
  | .string text, following => writeString text following
  | .array [], following => '[' :: ']' :: following
  | .array (item :: items), following => '[' :: write item (writeItems items following)
  | .object [], following => '\x7b' :: '\x7d' :: following
  | .object ((key, value) :: fields), following =>
      '\x7b' :: writeString key (':' :: write value (writeFields fields following))

def writeItems : List Json → Text → Text
  | [], following => ']' :: following
  | item :: items, following => ',' :: write item (writeItems items following)

def writeFields : List (Text × Json) → Text → Text
  | [], following => '\x7d' :: following
  | (key, value) :: fields, following =>
      ',' :: writeString key (':' :: write value (writeFields fields following))

end

def render (value : Json) : Text := write value []

end PostalAddress.Json
