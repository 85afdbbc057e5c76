import PostalAddress.Abbreviation.Table

/-!
Street suffixes with the spellings in use for each: AVENUE, AVEN and AVN are AVE.
-/

namespace PostalAddress

def suffixes : AbbreviationTable := [
  .of "ALY" ["ALLEE", "ALLEY", "ALLY"],
  .of "ANX" ["ANEX", "ANNEX", "ANNX"],
  .of "ARC" ["ARCADE"],
  .of "AVE" ["AV", "AVEN", "AVENU", "AVENUE", "AVN", "AVNUE"],
  .of "BCH" ["BEACH"],
  .of "BG" ["BURG"],
  .of "BGS" ["BURGS"],
  .of "BLF" ["BLUF", "BLUFF"],
  .of "BLFS" ["BLUFFS"],
  .of "BLVD" ["BOUL", "BOULEVARD", "BOULV"],
  .of "BND" ["BEND"],
  .of "BR" ["BRANCH", "BRNCH"],
  .of "BRG" ["BRDGE", "BRIDGE"],
  .of "BRK" ["BROOK"],
  .of "BRKS" ["BROOKS"],
  .of "BTM" ["BOT", "BOTTM", "BOTTOM"],
  .of "BYP" ["BYPA", "BYPAS", "BYPASS", "BYPS"],
  .of "BYU" ["BAYOO", "BAYOU"],
  .of "CIR" ["CIRC", "CIRCL", "CIRCLE", "CRCL", "CRCLE"],
  .of "CIRS" ["CIRCLES"],
  .of "CLB" ["CLUB"],
  .of "CLF" ["CLIFF"],
  .of "CLFS" ["CLIFFS"],
  .of "CMN" ["COMMON"],
  .of "CMNS" ["COMMONS"],
  .of "COR" ["CORNER"],
  .of "CORS" ["CORNERS"],
  .of "CP" ["CAMP", "CMP"],
  .of "CPE" ["CAPE"],
  .of "CRES" ["CRESCENT", "CRSENT", "CRSNT"],
  .of "CRK" ["CREEK"],
  .of "CRSE" ["COURSE"],
  .of "CRST" ["CREST"],
  .of "CSWY" ["CAUSEWAY", "CAUSWA"],
  .of "CT" ["COURT"],
  .of "CTR" ["CEN", "CENT", "CENTER", "CENTR", "CENTRE", "CNTER", "CNTR"],
  .of "CTRS" ["CENTERS"],
  .of "CTS" ["COURTS"],
  .of "CURV" ["CURVE"],
  .of "CV" ["COVE"],
  .of "CVS" ["COVES"],
  .of "CYN" ["CANYN", "CANYON", "CNYN"],
  .of "DL" ["DALE"],
  .of "DM" ["DAM"],
  .of "DR" ["DRIV", "DRIVE", "DRV"],
  .of "DRS" ["DRIVES"],
  .of "DV" ["DIV", "DIVIDE", "DVD"],
  .of "EST" ["ESTATE"],
  .of "ESTS" ["ESTATES"],
  .of "EXPY" ["EXP", "EXPR", "EXPRESS", "EXPRESSWAY", "EXPW"],
  .of "EXT" ["EXTENSION", "EXTN", "EXTNSN"],
  .of "EXTS" ["EXTENSIONS"],
  .of "FALL" [],
  .of "FLD" ["FIELD"],
  .of "FLDS" ["FIELDS"],
  .of "FLS" ["FALLS"],
  .of "FLT" ["FLAT"],
  .of "FLTS" ["FLATS"],
  .of "FRD" ["FORD"],
  .of "FRDS" ["FORDS"],
  .of "FRG" ["FORG", "FORGE"],
  .of "FRGS" ["FORGES"],
  .of "FRK" ["FORK"],
  .of "FRKS" ["FORKS"],
  .of "FRST" ["FOREST", "FORESTS"],
  .of "FRY" ["FERRY", "FRRY"],
  .of "FT" ["FORT", "FRT"],
  .of "FWY" ["FREEWAY", "FREEWY", "FRWAY", "FRWY"],
  .of "GDN" ["GARDEN", "GARDN", "GRDEN", "GRDN"],
  .of "GDNS" ["GARDENS", "GRDNS"],
  .of "GLN" ["GLEN"],
  .of "GLNS" ["GLENS"],
  .of "GRN" ["GREEN"],
  .of "GRNS" ["GREENS"],
  .of "GRV" ["GROV", "GROVE"],
  .of "GRVS" ["GROVES"],
  .of "GTWY" ["GATEWAY", "GATEWY", "GATWAY", "GTWAY"],
  .of "HBR" ["HARB", "HARBOR", "HARBR", "HRBOR"],
  .of "HBRS" ["HARBORS"],
  .of "HL" ["HILL"],
  .of "HLS" ["HILLS"],
  .of "HOLW" ["HLLW", "HOLLOW", "HOLLOWS", "HOLWS"],
  .of "HTS" ["HEIGHTS", "HT"],
  .of "HVN" ["HAVEN"],
  .of "HWY" ["HIGHWAY", "HIGHWY", "HIWAY", "HIWY", "HWAY"],
  .of "INLT" ["INLET"],
  .of "IS" ["ISLAND", "ISLND"],
  .of "ISLE" ["ISLES"],
  .of "ISS" ["ISLANDS", "ISLNDS"],
  .of "JCT" ["JCTION", "JCTN", "JUNCTION", "JUNCTN", "JUNCTON"],
  .of "JCTS" ["JCTNS", "JUNCTIONS"],
  .of "KNL" ["KNOL", "KNOLL"],
  .of "KNLS" ["KNOLLS"],
  .of "KY" ["KEY"],
  .of "KYS" ["KEYS"],
  .of "LAND" [],
  .of "LCK" ["LOCK"],
  .of "LCKS" ["LOCKS"],
  .of "LDG" ["LDGE", "LODG", "LODGE"],
  .of "LF" ["LOAF"],
  .of "LGT" ["LIGHT"],
  .of "LGTS" ["LIGHTS"],
  .of "LK" ["LAKE"],
  .of "LKS" ["LAKES"],
  .of "LN" ["LANE"],
  .of "LNDG" ["LANDING", "LNDNG"],
  .of "LOOP" ["LOOPS"],
  .of "MALL" [],
  .of "MDW" ["MEADOW"],
  .of "MDWS" ["MEADOWS", "MEDOWS"],
  .of "MEWS" [],
  .of "ML" ["MILL"],
  .of "MLS" ["MILLS"],
  .of "MNR" ["MANOR"],
  .of "MNRS" ["MANORS"],
  .of "MSN" ["MISSION", "MISSN", "MSSN"],
  .of "MT" ["MNT", "MOUNT"],
  .of "MTN" ["MNTAIN", "MNTN", "MOUNTAIN", "MOUNTIN", "MTIN"],
  .of "MTNS" ["MNTNS", "MOUNTAINS"],
  .of "MTWY" ["MOTORWAY"],
  .of "NCK" ["NECK"],
  .of "OPAS" ["OVERPASS"],
  .of "ORCH" ["ORCHARD", "ORCHRD"],
  .of "OVAL" ["OVL"],
  .of "PARK" ["PARKS", "PRK"],
  .of "PASS" [],
  .of "PATH" ["PATHS"],
  .of "PIKE" ["PIKES"],
  .of "PKWY" ["PARKWAY", "PARKWAYS", "PARKWY", "PKWAY", "PKWYS", "PKY"],
  .of "PL" ["PLACE"],
  .of "PLN" ["PLAIN"],
  .of "PLNS" ["PLAINS"],
  .of "PLZ" ["PLAZA", "PLZA"],
  .of "PNE" ["PINE"],
  .of "PNES" ["PINES"],
  .of "PR" ["PRAIRIE", "PRR"],
  .of "PRT" ["PORT"],
  .of "PRTS" ["PORTS"],
  .of "PSGE" ["PASSAGE"],
  .of "PT" ["POINT"],
  .of "PTS" ["POINTS"],
  .of "RADL" ["RAD", "RADIAL", "RADIEL"],
  .of "RAMP" [],
  .of "RD" ["ROAD"],
  .of "RDG" ["RDGE", "RIDGE"],
  .of "RDGS" ["RIDGES"],
  .of "RDS" ["ROADS"],
  .of "RIV" ["RIVER", "RIVR", "RVR"],
  .of "RNCH" ["RANCH", "RANCHES", "RNCHS"],
  .of "ROW" [],
  .of "RPD" ["RAPID"],
  .of "RPDS" ["RAPIDS"],
  .of "RST" ["REST"],
  .of "RTE" ["ROUTE"],
  .of "RUE" [],
  .of "RUN" [],
  .of "SHL" ["SHOAL"],
  .of "SHLS" ["SHOALS"],
  .of "SHR" ["SHOAR", "SHORE"],
  .of "SHRS" ["SHOARS", "SHORES"],
  .of "SKWY" ["SKYWAY"],
  .of "SMT" ["SUMIT", "SUMITT", "SUMMIT"],
  .of "SPG" ["SPNG", "SPRING", "SPRNG"],
  .of "SPGS" ["SPNGS", "SPRINGS", "SPRNGS"],
  .of "SPUR" ["SPURS"],
  .of "SQ" ["SQR", "SQRE", "SQU", "SQUARE"],
  .of "SQS" ["SQRS", "SQUARES"],
  .of "ST" ["STR", "STREET", "STRT"],
  .of "STA" ["STATION", "STATN", "STN"],
  .of "STRA" ["STRAV", "STRAVEN", "STRAVENUE", "STRAVN", "STRVN", "STRVNUE"],
  .of "STRM" ["STREAM", "STREME"],
  .of "STS" ["STREETS"],
  .of "TER" ["TERR", "TERRACE"],
  .of "TPKE" ["TRNPK", "TURNPIKE", "TURNPK"],
  .of "TRAK" ["TRACK", "TRACKS", "TRK", "TRKS"],
  .of "TRCE" ["TRACE", "TRACES"],
  .of "TRFY" ["TRAFFICWAY"],
  .of "TRL" ["TRAIL", "TRAILS", "TRLS"],
  .of "TRLR" ["TRAILER", "TRLRS"],
  .of "TRWY" ["THROUGHWAY"],
  .of "TUNL" ["TUNEL", "TUNLS", "TUNNEL", "TUNNELS", "TUNNL"],
  .of "UN" ["UNION"],
  .of "UNS" ["UNIONS"],
  .of "UPAS" ["UNDERPASS"],
  .of "VIA" ["VDCT", "VIADCT", "VIADUCT"],
  .of "VIS" ["VIST", "VISTA", "VST", "VSTA"],
  .of "VL" ["VILLE"],
  .of "VLG" ["VILL", "VILLAG", "VILLAGE", "VILLG", "VILLIAGE"],
  .of "VLGS" ["VILLAGES"],
  .of "VLY" ["VALLEY", "VALLY", "VLLY"],
  .of "VLYS" ["VALLEYS"],
  .of "VW" ["VIEW"],
  .of "VWS" ["VIEWS"],
  .of "WALK" ["WALKS"],
  .of "WALL" [],
  .of "WAY" ["WY"],
  .of "WAYS" [],
  .of "WL" ["WELL"],
  .of "WLS" ["WELLS"],
  .of "XING" ["CROSSING", "CRSSNG"],
  .of "XRD" ["CROSSROAD"],
  .of "XRDS" ["CROSSROADS"]]

end PostalAddress
