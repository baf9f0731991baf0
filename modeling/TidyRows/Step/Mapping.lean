import TidyRows.Recipe.Basic
namespace TidyRows.ColumnMapping

-- A field goes under its new name, over one that is there; a field without one never does.
def mapField (c : ColumnMapping) (mapped : Row) (field : String × Value) : Row :=
  match c.mapping.get? field.1 with
  | some target => mapped.put target field.2
  | none =>
    if c.dropUnknown.getD false || mapped.contains field.1 then mapped else mapped.put field.1 field.2

def addMissing (row mapped : Row) (pair : String × String) : Row :=
  if row.contains pair.1 || mapped.contains pair.2 then mapped else mapped.put pair.2 .null

def mapRow (c : ColumnMapping) (row : Row) : Row :=
  c.mapping.entries.foldl (addMissing row) (row.entries.foldl c.mapField .empty)

def apply (c : ColumnMapping) (rows : List Row) : List Row := rows.map c.mapRow

end TidyRows.ColumnMapping
