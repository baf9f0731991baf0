import TidyRows.Number.Literal
import TidyRows.Transform.Casing
import TidyRows.Transform.Options
namespace TidyRows

def countryNames : List (String × String) := [
  ("us", "US"), ("usa", "US"), ("united states", "US"), ("united states of america", "US"),
  ("america", "US"), ("ca", "CA"), ("can", "CA"), ("canada", "CA"), ("gb", "GB"), ("uk", "GB"),
  ("gbr", "GB"), ("united kingdom", "GB"), ("great britain", "GB"), ("britain", "GB"),
  ("england", "GB"), ("scotland", "GB"), ("wales", "GB"), ("northern ireland", "GB"), ("ie", "IE"),
  ("ireland", "IE"), ("fr", "FR"), ("france", "FR"), ("de", "DE"), ("deu", "DE"), ("germany", "DE"),
  ("deutschland", "DE"), ("es", "ES"), ("spain", "ES"), ("espana", "ES"), ("españa", "ES"),
  ("it", "IT"), ("italy", "IT"), ("italia", "IT"), ("pt", "PT"), ("portugal", "PT"), ("nl", "NL"),
  ("netherlands", "NL"), ("the netherlands", "NL"), ("holland", "NL"), ("be", "BE"), ("belgium", "BE"),
  ("ch", "CH"), ("switzerland", "CH"), ("at", "AT"), ("austria", "AT"), ("se", "SE"), ("sweden", "SE"),
  ("no", "NO"), ("norway", "NO"), ("dk", "DK"), ("denmark", "DK"), ("fi", "FI"), ("finland", "FI"),
  ("pl", "PL"), ("poland", "PL"), ("cz", "CZ"), ("czech republic", "CZ"), ("czechia", "CZ"),
  ("gr", "GR"), ("greece", "GR"), ("tr", "TR"), ("turkey", "TR"), ("turkiye", "TR"), ("ru", "RU"),
  ("russia", "RU"), ("russian federation", "RU"), ("ua", "UA"), ("ukraine", "UA"), ("il", "IL"),
  ("israel", "IL"), ("ae", "AE"), ("uae", "AE"), ("united arab emirates", "AE"), ("sa", "SA"),
  ("saudi arabia", "SA"), ("in", "IN"), ("india", "IN"), ("pk", "PK"), ("pakistan", "PK"), ("cn", "CN"),
  ("china", "CN"), ("prc", "CN"), ("hk", "HK"), ("hong kong", "HK"), ("tw", "TW"), ("taiwan", "TW"),
  ("jp", "JP"), ("japan", "JP"), ("kr", "KR"), ("korea", "KR"), ("south korea", "KR"),
  ("republic of korea", "KR"), ("sg", "SG"), ("singapore", "SG"), ("my", "MY"), ("malaysia", "MY"),
  ("th", "TH"), ("thailand", "TH"), ("vn", "VN"), ("vietnam", "VN"), ("viet nam", "VN"), ("ph", "PH"),
  ("philippines", "PH"), ("id", "ID"), ("indonesia", "ID"), ("au", "AU"), ("aus", "AU"),
  ("australia", "AU"), ("nz", "NZ"), ("new zealand", "NZ"), ("za", "ZA"), ("south africa", "ZA"),
  ("ng", "NG"), ("nigeria", "NG"), ("ke", "KE"), ("kenya", "KE"), ("eg", "EG"), ("egypt", "EG"),
  ("mx", "MX"), ("mexico", "MX"), ("méxico", "MX"), ("br", "BR"), ("brazil", "BR"), ("brasil", "BR"),
  ("ar", "AR"), ("argentina", "AR"), ("cl", "CL"), ("chile", "CL"), ("co", "CO"), ("colombia", "CO"),
  ("pe", "PE"), ("peru", "PE")]

def stateNamesUS : List (String × String) := [
  ("alabama", "AL"), ("alaska", "AK"), ("arizona", "AZ"), ("arkansas", "AR"), ("california", "CA"),
  ("colorado", "CO"), ("connecticut", "CT"), ("delaware", "DE"), ("district of columbia", "DC"),
  ("washington dc", "DC"), ("florida", "FL"), ("georgia", "GA"), ("hawaii", "HI"), ("idaho", "ID"),
  ("illinois", "IL"), ("indiana", "IN"), ("iowa", "IA"), ("kansas", "KS"), ("kentucky", "KY"),
  ("louisiana", "LA"), ("maine", "ME"), ("maryland", "MD"), ("massachusetts", "MA"), ("michigan", "MI"),
  ("minnesota", "MN"), ("mississippi", "MS"), ("missouri", "MO"), ("montana", "MT"), ("nebraska", "NE"),
  ("nevada", "NV"), ("new hampshire", "NH"), ("new jersey", "NJ"), ("new mexico", "NM"),
  ("new york", "NY"), ("north carolina", "NC"), ("north dakota", "ND"), ("ohio", "OH"),
  ("oklahoma", "OK"), ("oregon", "OR"), ("pennsylvania", "PA"), ("rhode island", "RI"),
  ("south carolina", "SC"), ("south dakota", "SD"), ("tennessee", "TN"), ("texas", "TX"),
  ("utah", "UT"), ("vermont", "VT"), ("virginia", "VA"), ("washington", "WA"), ("west virginia", "WV"),
  ("wisconsin", "WI"), ("wyoming", "WY"), ("puerto rico", "PR"), ("guam", "GU"),
  ("us virgin islands", "VI")]

def provinceNamesCA : List (String × String) := [
  ("alberta", "AB"), ("british columbia", "BC"), ("manitoba", "MB"), ("new brunswick", "NB"),
  ("newfoundland and labrador", "NL"), ("newfoundland", "NL"), ("nova scotia", "NS"), ("ontario", "ON"),
  ("prince edward island", "PE"), ("quebec", "QC"), ("québec", "QC"), ("saskatchewan", "SK"),
  ("northwest territories", "NT"), ("nunavut", "NU"), ("yukon", "YT")]

def stateNamesAU : List (String × String) := [
  ("new south wales", "NSW"), ("victoria", "VIC"), ("queensland", "QLD"), ("western australia", "WA"),
  ("south australia", "SA"), ("tasmania", "TAS"), ("australian capital territory", "ACT"),
  ("northern territory", "NT")]

def placeKey (cs : List Char) : List Char :=
  Transform.collapseBlanks (Unicode.lower (cs.map fun c => if c = '.' then ' ' else c))

-- The two-letter code of a country. Letters apart, as in `u.s.a.`, are put together.
def countryCode? (cs : List Char) : Option String :=
  let key := placeKey cs
  (countryNames.lookup (String.ofList key)).or
    (countryNames.lookup (String.ofList (key.filter (· != ' '))))

def stateNames? : String → Option (List (String × String))
  | "US" => some stateNamesUS
  | "CA" => some provinceNamesCA
  | "AU" => some stateNamesAU
  | _ => none

namespace Transform

def codeOrCapitals (code : Option String) (name : List Char) : List Char :=
  match code with
  | some c => c.toList
  | none => Unicode.upper name

def isoCountry (cs : List Char) : List Char :=
  if Text.allBlank cs then cs else codeOrCapitals (countryCode? (Text.trim cs)) (Text.trim cs)

def defaultStateCountry : String := "US"

-- The country of a state: the one given, else the one in a field of the row, else the default.
def stateCountry (options : TransformOptions) (row : Row) : String :=
  let fromRow := options.countryField.bind fun field =>
    let text := cellText (row.get? field)
    if Text.allBlank text.toList then none else some text
  match options.country.or fromRow with
  | some text => String.ofList (codeOrCapitals (countryCode? text.toList) (Text.trim text.toList))
  | none => defaultStateCountry

def isoState (options : TransformOptions) (row : Row) (cs : List Char) : List Char :=
  let trimmed := Text.trim cs
  if trimmed.isEmpty then cs
  else
    let code := (stateNames? (stateCountry options row)).bind fun names =>
      names.lookup (String.ofList (placeKey trimmed))
    codeOrCapitals code trimmed

end Transform
end TidyRows
