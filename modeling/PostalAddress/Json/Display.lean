import PostalAddress.Json.Basic
import PostalAddress.Text.Ascii

/-!
Values as they read inside a text. A number is written without needless zeros, and in plain digits
as long as that keeps it short.
-/

namespace PostalAddress.Json

/-- A number of at most this many digits before the point is written without an exponent. -/
def wholeDigitLimit : Int := 21

/-- A fraction with fewer zeros than this behind its point is written without an exponent. -/
def leadingZeroLimit : Int := 6

/-- The digits with the point behind the first one, and the exponent that makes up for it. -/
def scientificText (digits : Text) (exponent : Int) : Text :=
  digits.take 1 ++ (if digits.length ≤ 1 then [] else '.' :: digits.drop 1) ++
    'e' :: (if exponent < 0 then '-' else '+') :: decimalText exponent.natAbs

/-- The number whose significant digits stand right behind a point that is then moved. -/
def placedText (digits : Text) (point : Int) : Text :=
  if point ≤ -leadingZeroLimit || wholeDigitLimit < point then scientificText digits (point - 1)
  else if point ≤ 0 then '0' :: '.' :: (List.replicate point.natAbs '0' ++ digits)
  else if digits.length ≤ point then
    digits ++ List.replicate (point.toNat - digits.length) '0'
  else digits.take point.toNat ++ '.' :: digits.drop point.toNat

def numberText (mantissa exponent : Int) : Text :=
  let digits := decimalText mantissa.natAbs
  if mantissa = 0 then digits
  else
    (if mantissa < 0 then ['-'] else []) ++
      placedText (Text.dropEndWhile (· = '0') digits) (digits.length + exponent)

mutual

/-- Lists read as their items between commas; an object reads the same whatever its fields. -/
def plainText : Json → Text
  | .null => "null".toList
  | .bool value => (if value then "true" else "false").toList
  | .number mantissa exponent => numberText mantissa exponent
  | .string text => text
  | .array items => [','].intercalate (plainItems items)
  | .object _ => "[object Object]".toList

/-- A null item reads as nothing. -/
def plainItems : List Json → List Text
  | [] => []
  | .null :: items => [] :: plainItems items
  | item :: items => plainText item :: plainItems items

end

end PostalAddress.Json
