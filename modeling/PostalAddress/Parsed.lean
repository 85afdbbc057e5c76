import PostalAddress.CityUnits
import PostalAddress.Classification
import PostalAddress.Joining
import PostalAddress.Note
import PostalAddress.Standard
import PostalAddress.Stream
import PostalAddress.Tagger

/-!
A free-form address is read by a tagger and sorted into a street address, an intersection or an
ambiguous answer, which keeps what belongs to its first street. A text that makes no sense is
an answer too, and none is an error.
-/

namespace PostalAddress

inductive Interpretation where
  | streetAddress (bag : Bag)
  | intersection (first second : Bag)
  | ambiguous (doubt : Doubt) (bag : Bag)
  deriving DecidableEq

namespace Interpretation

def ofTagging (tagging : Tagging) : Interpretation :=
  match classify tagging with
  | .streetAddress => streetAddress (recoverUnits (Bag.ofTokens tagging.tokens))
  | .intersection =>
      let streams := splitStreets tagging.tokens
      intersection (Bag.ofTokens streams.first) (Bag.ofTokens streams.second)
  | .ambiguous doubt =>
      ambiguous doubt (Bag.ofTokens (tagging.tokens.filter fun token => !token.isSecondStreet))

def classification : Interpretation → Classification
  | streetAddress _ => .streetAddress
  | intersection _ _ => .intersection
  | ambiguous doubt _ => .ambiguous doubt

def components : Interpretation → Components
  | streetAddress bag => .single bag
  | intersection first second => .pair first second
  | ambiguous _ bag => .single bag

end Interpretation

structure Parsed where
  input : Text
  interpretation : Interpretation
  deriving DecidableEq

namespace Parsed

def classification (parsed : Parsed) : Classification := parsed.interpretation.classification

def components (parsed : Parsed) : Components := parsed.interpretation.components

end Parsed

/-- The tagger sees the cleaned text, and is not asked about an empty one. -/
def interpret (tagger : Tagger) (input : Text) : Consulted Interpretation :=
  if (cleanText input).isEmpty then .unasked (.streetAddress .empty)
  else (tagger (cleanText input)).map Interpretation.ofTagging

def parse (tagger : Tagger) (input : Text) : Consulted Parsed :=
  (interpret tagger input).map fun interpretation => ⟨input, interpretation⟩

def standardizeText (tagger : Tagger) (input : Text) : Consulted StandardAddress :=
  (interpret tagger input).map fun interpretation => standardize interpretation.components

end PostalAddress
