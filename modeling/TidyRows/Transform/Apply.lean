import TidyRows.Transform.Address
import TidyRows.Transform.Dates
import TidyRows.Transform.Email
import TidyRows.Transform.Markup
import TidyRows.Transform.Numeric
import TidyRows.Transform.Phone
import TidyRows.Transform.Slug
namespace TidyRows.Transform

def defaultSeparator : String := "-"
def defaultFirstName : String := "first_name"
def defaultLastName : String := "last_name"

def fieldValue [Libraries] (kind : TransformKind) (options : TransformOptions) (row : Row) (v : Value) : Value :=
  match kind with
  | .titleCase => onText titleCase v
  | .emailNormalize => onText normalizeEmail v
  | .phoneE164 => phoneE164 options v
  | .dateParse => onText (parseDate options) v
  | .isoCountry => onText isoCountry v
  | .isoState => onText (isoState options row) v
  | .currencyCode => onText currencyCode v
  | .numberParse => parseNumber options v
  | .trimCollapseWhitespace => onText collapseBlanks v
  | .booleanStandardize => standardizeBoolean v
  | .timezoneToUtc => onText (toUniversal options) v
  | .slugify => onText (slugify (options.separator.getD defaultSeparator).toList) v
  | .roundNumeric => roundNumeric options v
  | .roundToCurrency => roundToCurrency options v
  | .normalizePercentage => normalizePercentage options v
  | .removeSpecialCharacters => onText dropInvisible v
  | .normalizeAddress => onText normalizeAddress v
  | .sanitizeHtml => onText sanitizeMarkup v
  | .splitName => v

def nameUpdates (options : TransformOptions) (field : String) : Value → List (String × Value)
  | .text s => match splitName s.toList with
    | some (whole, first, last) => [(field, .text (String.ofList whole)),
        (options.firstNameField.getD defaultFirstName, .text (String.ofList first)),
        (options.lastNameField.getD defaultLastName, .text (String.ofList last))]
    | none => []
  | _ => []

-- The fields that a transform writes. A row without the field gets none.
def updates [Libraries] (kind : TransformKind) (options : TransformOptions) (row : Row) (field : String) :
    List (String × Value) :=
  match row.get? field with
  | none => []
  | some v => if kind.singleField then [(field, fieldValue kind options row v)] else nameUpdates options field v

end TidyRows.Transform
