import PostalAddress.Abbreviation.Table

/-!
States, territories and military regions. A name has up to five words.
-/

namespace PostalAddress

def states : AbbreviationTable := [
  .of "AA" ["ARMED FORCES AMERICAS"],
  .of "AE" ["ARMED FORCES EUROPE"],
  .of "AK" ["ALASKA"],
  .of "AL" ["ALABAMA"],
  .of "AP" ["ARMED FORCES PACIFIC"],
  .of "AR" ["ARKANSAS"],
  .of "AS" ["AMERICAN SAMOA"],
  .of "AZ" ["ARIZONA"],
  .of "CA" ["CALIFORNIA"],
  .of "CO" ["COLORADO"],
  .of "CT" ["CONNECTICUT"],
  .of "DC" ["DISTRICT OF COLUMBIA", "WASHINGTON DC"],
  .of "DE" ["DELAWARE"],
  .of "FL" ["FLORIDA"],
  .of "FM" ["FEDERATED STATES OF MICRONESIA"],
  .of "GA" ["GEORGIA"],
  .of "GU" ["GUAM"],
  .of "HI" ["HAWAII"],
  .of "IA" ["IOWA"],
  .of "ID" ["IDAHO"],
  .of "IL" ["ILLINOIS"],
  .of "IN" ["INDIANA"],
  .of "KS" ["KANSAS"],
  .of "KY" ["KENTUCKY"],
  .of "LA" ["LOUISIANA"],
  .of "MA" ["MASSACHUSETTS"],
  .of "MD" ["MARYLAND"],
  .of "ME" ["MAINE"],
  .of "MH" ["MARSHALL ISLANDS"],
  .of "MI" ["MICHIGAN"],
  .of "MN" ["MINNESOTA"],
  .of "MO" ["MISSOURI"],
  .of "MP" ["NORTHERN MARIANA ISLANDS"],
  .of "MS" ["MISSISSIPPI"],
  .of "MT" ["MONTANA"],
  .of "NC" ["NORTH CAROLINA"],
  .of "ND" ["NORTH DAKOTA"],
  .of "NE" ["NEBRASKA"],
  .of "NH" ["NEW HAMPSHIRE"],
  .of "NJ" ["NEW JERSEY"],
  .of "NM" ["NEW MEXICO"],
  .of "NV" ["NEVADA"],
  .of "NY" ["NEW YORK"],
  .of "OH" ["OHIO"],
  .of "OK" ["OKLAHOMA"],
  .of "OR" ["OREGON"],
  .of "PA" ["PENNSYLVANIA"],
  .of "PR" ["PUERTO RICO"],
  .of "PW" ["PALAU"],
  .of "RI" ["RHODE ISLAND"],
  .of "SC" ["SOUTH CAROLINA"],
  .of "SD" ["SOUTH DAKOTA"],
  .of "TN" ["TENNESSEE"],
  .of "TX" ["TEXAS"],
  .of "UM" ["UNITED STATES MINOR OUTLYING ISLANDS"],
  .of "UT" ["UTAH"],
  .of "VA" ["VIRGINIA"],
  .of "VI" ["US VIRGIN ISLANDS", "VIRGIN ISLANDS"],
  .of "VT" ["VERMONT"],
  .of "WA" ["WASHINGTON"],
  .of "WI" ["WISCONSIN"],
  .of "WV" ["WEST VIRGINIA"],
  .of "WY" ["WYOMING"]]

end PostalAddress
