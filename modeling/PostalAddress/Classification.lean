import PostalAddress.Token

/-!
Whether an answer of a tagger describes a street address or an intersection. An answer that fits
both, or that the tagger could not settle, is ambiguous, for a reason that is worded as a warning.
-/

namespace PostalAddress

inductive Doubt where
  | repeatedLabel (label : Text)
  | addressPartInIntersection (label : Text)
  | missingStreetName
  | secondStreetInAddress (label : Text)
  deriving DecidableEq, Repr

def Doubt.warning : Doubt → Text
  | repeatedLabel label =>
      "Repeated label \"".toList ++ label ++ "\" detected; parse may be inaccurate.".toList
  | addressPartInIntersection label =>
      "Found \"".toList ++ label ++ "\" in an intersection; parse may be inaccurate.".toList
  | missingStreetName =>
      "Intersection is missing a street name; parse may be inaccurate.".toList
  | secondStreetInAddress label =>
      "Found \"".toList ++ label ++ "\" in a street address; parse may be inaccurate.".toList

inductive Classification where
  | streetAddress
  | intersection
  | ambiguous (doubt : Doubt)
  deriving DecidableEq, Repr

def Classification.name : Classification → Text
  | streetAddress => "Street Address".toList
  | intersection => "Intersection".toList
  | ambiguous _ => "Ambiguous".toList

def Component.addressOnly : List Component :=
  [numberPrefix, number, numberSuffix, occupancyType, occupancyIdentifier, subaddressType,
    subaddressIdentifier, boxType, boxId]

def Token.isAddressOnly (token : Token) : Bool :=
  Component.addressOnly.any fun component => component.label = token.label

def Token.isStreetName (token : Token) : Bool := token.label = Component.streetName.label

def Token.isSecondStreetName (token : Token) : Bool :=
  token.label = Label.ofSecondStreet .streetName

def classifyIntersection (tokens : List Token) : Classification :=
  match tokens.find? Token.isAddressOnly with
  | some token => .ambiguous (.addressPartInIntersection token.label)
  | none =>
      if tokens.any Token.isStreetName && tokens.any Token.isSecondStreetName then .intersection
      else .ambiguous .missingStreetName

def classifyStreetAddress (tokens : List Token) : Classification :=
  match tokens.find? Token.isSecondStreet with
  | some token => .ambiguous (.secondStreetInAddress token.label)
  | none => .streetAddress

def classify : Tagging → Classification
  | .repeatedLabel label _ => .ambiguous (.repeatedLabel label)
  | .parsed .intersection tokens => classifyIntersection tokens
  | .parsed .streetAddress tokens => classifyStreetAddress tokens

end PostalAddress
