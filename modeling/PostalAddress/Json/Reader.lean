import PostalAddress.Json.Basic
import PostalAddress.Text.Ascii
import PostalAddress.Text.CodeUnit

/-!
Reading JSON, strictly: one value, blanks around it, and nothing else. An escape may stand for one
half of a pair alone. The fuel bounds the number of steps. Every second step at the latest takes a
character, so twice the length of the text is enough for any text.
-/

namespace PostalAddress.Json

def isSpace (letter : Char) : Bool :=
  letter = ' ' || letter = '\t' || letter = '\n' || letter = '\r'

def skipSpace (text : Text) : Text := text.dropWhile isSpace

def readHex? : Nat → Nat → Text → Option (Nat × Text)
  | 0, value, text => some (value, text)
  | _ + 1, _, [] => none
  | count + 1, value, letter :: rest => do
      let digit ← hexValue? letter
      readHex? count (16 * value + digit) rest

def readEscape? : Text → Option (Char × Text)
  | 'b' :: rest => some ('\x08', rest)
  | 'f' :: rest => some ('\x0c', rest)
  | 'n' :: rest => some ('\n', rest)
  | 'r' :: rest => some ('\r', rest)
  | 't' :: rest => some ('\t', rest)
  | 'u' :: rest => do
      let (unitNumber, behind) ← readHex? 4 0 rest
      some (Text.ofUnit unitNumber, behind)
  | letter :: rest =>
      if letter = '"' || letter = '\\' || letter = '/' then some (letter, rest) else none
  | [] => none

/-- `read` holds the characters so far, the last one first. -/
def readString? : Nat → Text → Text → Option (Text × Text)
  | 0, _, _ => none
  | _ + 1, _, [] => none
  | fuel + 1, read, letter :: rest =>
      if letter = '"' then some (read.reverse, rest)
      else if letter = '\\' then
        match readEscape? rest with
        | some (escaped, behind) => readString? fuel (escaped :: read) behind
        | none => none
      else if letter.toNat < 0x20 then none
      else readString? fuel (letter :: read) rest

/-- A whole part has no zero in front of other digits. -/
def readWhole? (text : Text) : Option (Text × Text) := do
  let (digits, rest) ← text.readDigits?
  if digits.length > 1 && digits.head? = some '0' then none else some (digits, rest)

def readFraction? : Text → Option (Text × Text)
  | '.' :: rest => Text.readDigits? rest
  | text => some ([], text)

def readExponent? : Text → Option (Int × Text)
  | letter :: rest =>
      if asciiLower letter = 'e' then do
        let (negative, unsigned) := Text.readSign rest
        let (digits, behind) ← Text.readDigits? unsigned
        some (if negative then -(decimalValue digits : Int) else decimalValue digits, behind)
      else some (0, letter :: rest)
  | [] => some (0, [])

def readUnsigned? (negative : Bool) (text : Text) : Option (Json × Text) := do
  let (whole, afterWhole) ← readWhole? text
  let (fraction, afterFraction) ← readFraction? afterWhole
  let (power, rest) ← readExponent? afterFraction
  let mantissa : Int := decimalValue (whole ++ fraction)
  some (.number (if negative then -mantissa else mantissa) (power - fraction.length), rest)

def readNumber? : Text → Option (Json × Text)
  | '-' :: rest => readUnsigned? true rest
  | text => readUnsigned? false text

def readExactly? (word : String) (value : Json) (text : Text) : Option (Json × Text) :=
  if word.toList.isPrefixOf text then some (value, text.drop word.length) else none

mutual

def readValue? : Nat → Text → Option (Json × Text)
  | 0, _ => none
  | fuel + 1, text =>
      match skipSpace text with
      | '\x7b' :: rest =>
          match skipSpace rest with
          | '\x7d' :: behind => some (.object [], behind)
          | inside => readFields? fuel [] inside
      | '[' :: rest =>
          match skipSpace rest with
          | ']' :: behind => some (.array [], behind)
          | inside => readItems? fuel [] inside
      | '"' :: rest => (readString? fuel [] rest).map fun (read, behind) => (.string read, behind)
      | 'n' :: rest => readExactly? "ull" .null rest
      | 't' :: rest => readExactly? "rue" (.bool true) rest
      | 'f' :: rest => readExactly? "alse" (.bool false) rest
      | other => readNumber? other

def readItems? : Nat → List Json → Text → Option (Json × Text)
  | 0, _, _ => none
  | fuel + 1, read, text =>
      match readValue? fuel text with
      | none => none
      | some (item, rest) =>
          match skipSpace rest with
          | ',' :: behind => readItems? fuel (item :: read) behind
          | ']' :: behind => some (.array (item :: read).reverse, behind)
          | _ => none

def readFields? : Nat → List (Text × Json) → Text → Option (Json × Text)
  | 0, _, _ => none
  | fuel + 1, read, text =>
      match skipSpace text with
      | '"' :: quoted =>
          match readString? fuel [] quoted with
          | none => none
          | some (key, afterKey) =>
              match skipSpace afterKey with
              | ':' :: afterColon =>
                  match readValue? fuel afterColon with
                  | none => none
                  | some (value, rest) =>
                      match skipSpace rest with
                      | ',' :: behind => readFields? fuel (put key value read) behind
                      | '\x7d' :: behind => some (.object (put key value read), behind)
                      | _ => none
              | _ => none
      | _ => none

end

def read? (text : Text) : Option Json := do
  let (value, rest) ← readValue? (2 * text.length + 2) text
  if (skipSpace rest).isEmpty then some value else none

end PostalAddress.Json
