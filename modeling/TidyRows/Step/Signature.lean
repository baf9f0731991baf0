import TidyRows.Unicode.Casing
import TidyRows.Text.Words
import TidyRows.Value.Written
namespace TidyRows

def isBlankCell : Option Value → Bool
  | none => true
  | some .null => true
  | some (.text s) => Text.allBlank s.toList
  | some _ => false

def keyText (row : Row) (field : String) : List Char :=
  Unicode.lower (Text.trim (cellText (row.get? field)).toList)

def signature? (row : Row) (fields : List String) (delimiter : String) : Option String :=
  if fields.all fun f => isBlankCell (row.get? f) then none
  else some (String.ofList (Text.joinWith delimiter.toList (fields.map (keyText row))))

def signatureDelimiter : String := "||"

def fieldsLabel (fields : List String) : String := ",".intercalate fields

end TidyRows
