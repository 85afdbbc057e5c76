import PostalAddress.Text.Basic

/-!
Digits, letters and word characters are the ASCII ones, also in a text that holds others: house
numbers and ZIP codes are written with them alone. Words such as a connector are compared
without regard to ASCII case.
-/

namespace PostalAddress

def isDigit (letter : Char) : Bool := '0' ≤ letter && letter ≤ '9'

def isLower (letter : Char) : Bool := 'a' ≤ letter && letter ≤ 'z'

def isUpper (letter : Char) : Bool := 'A' ≤ letter && letter ≤ 'Z'

def isLetter (letter : Char) : Bool := isLower letter || isUpper letter

def isWordCharacter (letter : Char) : Bool := isLetter letter || isDigit letter || letter = '_'

def asciiLower (letter : Char) : Char :=
  if isUpper letter then Char.ofNat (letter.toNat + 32) else letter

def hexValue? (letter : Char) : Option Nat :=
  if isDigit letter then some (letter.toNat - 48)
  else if 'a' ≤ asciiLower letter && asciiLower letter ≤ 'f' then
    some ((asciiLower letter).toNat - 87)
  else none

def decimalValue (digits : List Char) : Nat :=
  digits.foldl (fun value digit => 10 * value + (digit.toNat - 48)) 0

def decimalText (number : Nat) : List Char := Nat.toDigits 10 number

def integerText : Int → List Char
  | .ofNat number => decimalText number
  | .negSucc number => '-' :: decimalText (number + 1)

namespace Text

def lower (text : Text) : Text := text.map asciiLower

/-- Reads a word given in lower case, in any case. -/
def readWord? : Text → Text → Option (Text × Text)
  | [], text => some ([], text)
  | _ :: _, [] => none
  | expected :: word, letter :: rest =>
      if asciiLower letter = expected then
        (readWord? word rest).map fun (written, behind) => (letter :: written, behind)
      else none

/-- The longest run of digits in front, if it is not empty, and the rest. -/
def readDigits? (text : Text) : Option (Text × Text) :=
  match text.takeWhile isDigit with
  | [] => none
  | digits => some (digits, text.dropWhile isDigit)

/-- Whether there is a minus sign in front, and what follows the sign if there is one. -/
def readSign : Text → Bool × Text
  | '-' :: rest => (true, rest)
  | '+' :: rest => (false, rest)
  | text => (false, text)

theorem read_word_append (word text written behind : Text)
    (read : readWord? word text = some (written, behind)) :
    text = written ++ behind ∧ lower written = word := by
  induction word generalizing text written with
  | nil => simp_all [readWord?, lower]
  | cons expected word induction =>
      cases text with
      | nil => simp [readWord?] at read
      | cons letter rest =>
          simp only [readWord?] at read
          split at read
          case isFalse => cases read
          case isTrue same =>
            obtain ⟨⟨head, tail⟩, found, equal⟩ := Option.map_eq_some_iff.1 read
            cases equal
            obtain ⟨joined, lowered⟩ := induction rest head found
            exact ⟨by rw [joined]; rfl, by simp_all [lower]⟩

end Text

end PostalAddress
