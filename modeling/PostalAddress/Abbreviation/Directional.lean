import PostalAddress.Abbreviation.Table

/-!
The eight compass directions.
-/

namespace PostalAddress

def directionals : AbbreviationTable := [
  .of "E" ["EAST"],
  .of "N" ["NORTH"],
  .of "NE" ["NORTHEAST"],
  .of "NW" ["NORTHWEST"],
  .of "S" ["SOUTH"],
  .of "SE" ["SOUTHEAST"],
  .of "SW" ["SOUTHWEST"],
  .of "W" ["WEST"]]

end PostalAddress
