import PostalAddress.BareIntersection
import PostalAddress.Location

/-!
A tagger turns a text into tokens. What it asks of others on the way is part of its answer. The
fixed tagger has one answer for any text; the locating tagger asks a locator, and labels
an intersection itself where the locator has no answer.
-/

namespace PostalAddress

/-- A value, and the texts that were asked about to get it, in order. -/
structure Consulted (Value : Type) where
  value : Value
  asked : List Text

namespace Consulted

def unasked {Value : Type} (value : Value) : Consulted Value := ⟨value, []⟩

def map {Value Result : Type} (change : Value → Result) (consulted : Consulted Value) :
    Consulted Result :=
  ⟨change consulted.value, consulted.asked⟩

@[simp]
theorem asked_map {Value Result : Type} (change : Value → Result) (consulted : Consulted Value) :
    (consulted.map change).asked = consulted.asked := rfl

@[simp]
theorem value_map {Value Result : Type} (change : Value → Result) (consulted : Consulted Value) :
    (consulted.map change).value = change consulted.value := rfl

end Consulted

abbrev Tagger := Text → Consulted Tagging

namespace Tagger

def fixed (tagging : Tagging) : Tagger := fun text => ⟨tagging, [text]⟩

def tagUnlocated (text : Text) : Mode × List Token :=
  match bareIntersectionTokens? text with
  | some tokens => (.intersection, tokens)
  | none => (.streetAddress, [])

/-- A location with two streets does not tell how they are joined, so the connector is looked for
in the text, and is "&" if there is none. -/
def tagLocation (text : Text) (location : Location) : Mode × List Token :=
  if location.isIntersection then
    (.intersection, location.intersectionTokens ((findConnector? false text).getD ['&']))
  else (.streetAddress, location.addressTokens)

def tagWhole (locate : Locator) (text : Text) : Consulted (Mode × List Token) :=
  if text.isAllBlank then .unasked (.streetAddress, [])
  else match locate text with
    | some location => ⟨tagLocation text location, [text]⟩
    | none => ⟨tagUnlocated text, [text]⟩

/-- The locator is asked about the second number with the street. -/
def tagDual (locate : Locator) (dual : DualNumber) : Consulted Tagging :=
  (tagWhole locate dual.remainder).map fun (_, tokens) =>
    .repeatedLabel Component.number.label
      (.ofComponent .number dual.number :: .separator dual.connector :: tokens)

def locating (locate : Locator) : Tagger := fun text =>
  match DualNumber.ofText? text with
  | some dual => tagDual locate dual
  | none => (tagWhole locate text).map fun (mode, tokens) => .parsed mode tokens

end Tagger

end PostalAddress
