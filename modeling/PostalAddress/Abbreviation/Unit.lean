import PostalAddress.Abbreviation.Table

/-!
Designators of secondary units. The sign "#" stands for a number without a designator.
-/

namespace PostalAddress

def units : AbbreviationTable := [
  .of "#" ["NO", "NUM", "NUMBER"],
  .of "APT" ["APARTMENT"],
  .of "BLDG" ["BLD", "BUILDING"],
  .of "BSMT" ["BASEMENT"],
  .of "DEPT" ["DEPARTMENT"],
  .of "FL" ["FLOOR", "FLR"],
  .of "FRNT" ["FRONT"],
  .of "HNGR" ["HANGAR"],
  .of "KEY" [],
  .of "LBBY" ["LOBBY"],
  .of "LOT" [],
  .of "LOWR" ["LOWER"],
  .of "OFC" ["OFFICE"],
  .of "PH" ["PENTHOUSE"],
  .of "PIER" [],
  .of "REAR" [],
  .of "RM" ["ROOM"],
  .of "SIDE" [],
  .of "SLIP" [],
  .of "SPC" ["SPACE"],
  .of "STE" ["SUITE"],
  .of "STOP" [],
  .of "TRLR" ["TRAILER"],
  .of "UNIT" [],
  .of "UPPR" ["UPPER"]]

end PostalAddress
