import TidyRows.Value.Decode
import TidyRows.Transform.Options
namespace TidyRows.TransformOptions
open Value

def fieldNames : List String := ["defaultCountry", "inputFormat", "outputFormat", "sourceTimezone", "locale",
  "precision", "separator", "country", "countryField", "firstNameField", "lastNameField"]

def ofValue? (v : Value) : Option TransformOptions :=
  match v.fields? fieldNames with
  | some [defaultCountry, inputFormat, outputFormat, sourceTimezone, locale, precision, separator, country,
      countryField, firstNameField, lastNameField] => do
    some ⟨← optional asText defaultCountry, ← optional asText inputFormat, ← optional asText outputFormat,
      ← optional asText sourceTimezone, ← optional asText locale, ← optional asWord precision,
      ← optional asText separator, ← optional asText country, ← optional asText countryField,
      ← optional asText firstNameField, ← optional asText lastNameField⟩
  | _ => Option.none

def toValue (o : TransformOptions) : Value :=
  ofPresent [("defaultCountry", o.defaultCountry.map .text), ("inputFormat", o.inputFormat.map .text),
    ("outputFormat", o.outputFormat.map .text), ("sourceTimezone", o.sourceTimezone.map .text),
    ("locale", o.locale.map .text), ("precision", o.precision.map fun n => .ofNat n.toNat),
    ("separator", o.separator.map .text), ("country", o.country.map .text), ("countryField", o.countryField.map .text),
    ("firstNameField", o.firstNameField.map .text), ("lastNameField", o.lastNameField.map .text)]

end TidyRows.TransformOptions
