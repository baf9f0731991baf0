import TidyRows.Value.Written
import TidyRows.Text.Words
namespace TidyRows

inductive TransformKind where
  | titleCase
  | emailNormalize
  | phoneE164
  | dateParse
  | isoCountry
  | isoState
  | currencyCode
  | numberParse
  | trimCollapseWhitespace
  | booleanStandardize
  | timezoneToUtc
  | slugify
  | roundNumeric
  | roundToCurrency
  | normalizePercentage
  | removeSpecialCharacters
  | splitName
  | normalizeAddress
  | sanitizeHtml
  deriving DecidableEq, Repr

namespace TransformKind

def name : TransformKind → String
  | titleCase => "title_case"
  | emailNormalize => "email_normalize"
  | phoneE164 => "phone_e164"
  | dateParse => "date_parse"
  | isoCountry => "iso_country"
  | isoState => "iso_state"
  | currencyCode => "currency_code"
  | numberParse => "number_parse"
  | trimCollapseWhitespace => "trim_collapse_whitespace"
  | booleanStandardize => "boolean_standardize"
  | timezoneToUtc => "timezone_to_utc"
  | slugify => "slugify"
  | roundNumeric => "round_numeric"
  | roundToCurrency => "round_to_currency"
  | normalizePercentage => "normalize_percentage"
  | removeSpecialCharacters => "remove_special_characters"
  | splitName => "split_name"
  | normalizeAddress => "normalize_address"
  | sanitizeHtml => "sanitize_html"

def all : List TransformKind := [titleCase, emailNormalize, phoneE164, dateParse, isoCountry, isoState,
  currencyCode, numberParse, trimCollapseWhitespace, booleanStandardize, timezoneToUtc, slugify,
  roundNumeric, roundToCurrency, normalizePercentage, removeSpecialCharacters, splitName,
  normalizeAddress, sanitizeHtml]

def ofName? (s : String) : Option TransformKind := all.find? (·.name == s)

def singleField : TransformKind → Bool
  | splitName => false
  | _ => true

end TransformKind

-- Every option may be left out; a transform reads only those that mean something to it.
structure TransformOptions where
  defaultCountry : Option String
  inputFormat : Option String
  outputFormat : Option String
  sourceTimezone : Option String
  locale : Option String
  precision : Option UInt32
  separator : Option String
  country : Option String
  countryField : Option String
  firstNameField : Option String
  lastNameField : Option String
  deriving DecidableEq, Repr

def TransformOptions.none : TransformOptions :=
  ⟨.none, .none, .none, .none, .none, .none, .none, .none, .none, .none, .none⟩

namespace Transform

def onText (f : List Char → List Char) : Value → Value
  | .text s => .text (String.ofList (f s.toList))
  | v => v

end Transform
end TidyRows
