import TidyRows.Board.Basic
import TidyRows.Value.Written
namespace TidyRows

inductive QueryKind where
  | query
  | mutation
  deriving DecidableEq, Repr

def QueryKind.name : QueryKind → String
  | query => "query"
  | mutation => "mutation"

structure Parameter where
  name : String
  type : String
  value : Value

inductive Selection where
  | pick (name : String) (arguments : List (String × String)) (inner : List Selection)

structure Query where
  kind : QueryKind
  parameters : List Parameter
  selection : Selection

def inBraces (s : String) : String := "\x7b " ++ s ++ " \x7d"

def inParens (parts : List String) : String := if parts.isEmpty then "" else "(" ++ ", ".intercalate parts ++ ")"

namespace Selection

def argumentText (a : String × String) : String := a.1 ++ ": $" ++ a.2

mutual
def text : Selection → String
  | .pick name arguments inner =>
    name ++ inParens (arguments.map argumentText)
      ++ (if inner.isEmpty then "" else " " ++ inBraces (" ".intercalate (texts inner)))

def texts : List Selection → List String
  | [] => []
  | s :: rest => text s :: texts rest
end

def field (name : String) (inner : List Selection) : Selection := .pick name [] inner

def id : Selection := field "id" []

end Selection

namespace Query

def parameterText (p : Parameter) : String := "$" ++ p.name ++ ": " ++ p.type

def text (q : Query) : String :=
  q.kind.name ++ " " ++ inParens (q.parameters.map parameterText) ++ " " ++ inBraces q.selection.text

def values (q : Query) : Value := .record (q.parameters.map fun p => (p.name, p.value))

def toValue (q : Query) : Value := .record [("query", .text q.text), ("variables", q.values)]

def pageFields : List Selection :=
  [.field "cursor" [], .field "items" [.id, .pick "column_values" [("ids", "columnIds")] [.id, .field "text" []]]]

def limitParameter (limit : Nat) : Parameter := ⟨"limit", "Int!", .ofNat limit⟩
def columnParameter (column : String) : Parameter := ⟨"columnIds", "[String!]", .ofStrings [column]⟩

def firstPage (board column : String) (limit : Nat) : Query where
  kind := .query
  parameters := [⟨"boardId", "[ID!]", .ofStrings [board]⟩, limitParameter limit, columnParameter column]
  selection := .pick "boards" [("ids", "boardId")] [.pick "items_page" [("limit", "limit")] pageFields]

def nextPage (cursor column : String) (limit : Nat) : Query where
  kind := .query
  parameters := [⟨"cursor", "String!", .text cursor⟩, limitParameter limit, columnParameter column]
  selection := .pick "next_items_page" [("cursor", "cursor"), ("limit", "limit")] pageFields

def boardParameter (board : String) : Parameter := ⟨"boardId", "ID!", .text board⟩

def columnsParameter (columns : Columns) : Parameter :=
  ⟨"columnValues", "JSON!", .text columns.toValue.written⟩

def ofWrite (board : String) : Write → Query
  | .create name columns =>
    ⟨.mutation, [boardParameter board, ⟨"itemName", "String!", .text name⟩, columnsParameter columns],
      .pick "create_item" [("board_id", "boardId"), ("item_name", "itemName"), ("column_values", "columnValues")]
        [.id]⟩
  | .update id columns =>
    ⟨.mutation, [boardParameter board, ⟨"itemId", "ID!", .text id⟩, columnsParameter columns],
      .pick "change_multiple_column_values"
        [("board_id", "boardId"), ("item_id", "itemId"), ("column_values", "columnValues")] [.id]⟩

end Query
end TidyRows
