import TidyRows.Board.Basic
import TidyRows.Text.Words
import TidyRows.Unicode.Casing
namespace TidyRows

def normalizeKey (text : List Char) : Option String :=
  let trimmed := Text.trim text
  if trimmed.isEmpty then none else some (String.ofList (Unicode.lower trimmed))

abbrev KeyIndex := Keyed String

namespace KeyIndex

-- Of several items with one key the first one counts.
def addItem (index : KeyIndex) (item : Item) : KeyIndex :=
  match normalizeKey item.keyText.toList with
  | some key => if index.contains key then index else index.put key item.id
  | none => index

def ofItems (items : List Item) : KeyIndex := items.foldl addItem .empty

end KeyIndex
end TidyRows
