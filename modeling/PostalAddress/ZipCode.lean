import PostalAddress.NormalForm
import PostalAddress.Text.Ascii

/-!
The written form of a ZIP code: five digits, or five digits, a hyphen and four digits. Nine
digits that are parted after the fifth by anything but digits are written so; any other value
stays in its normal form, since writing a code does not judge it.
-/

namespace PostalAddress

def isDigits (count : Nat) (text : Text) : Bool := text.length = count && text.all isDigit

/-- The two parts of a value of five digits, a gap without digits, and four digits. -/
def nineDigits? (value : Text) : Option (Text × Text) :=
  let zone := value.take 5
  let addOn := (value.drop 5).dropWhile fun letter => !isDigit letter
  if isDigits 5 zone && isDigits 4 addOn then some (zone, addOn) else none

def writeZipCode (value : Text) : Text :=
  match nineDigits? (normalize value) with
  | some (zone, addOn) => zone ++ '-' :: addOn
  | none => normalize value

end PostalAddress
