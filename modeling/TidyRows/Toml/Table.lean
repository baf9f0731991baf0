import TidyRows.Settings.Tree
namespace TidyRows
namespace Toml

inductive Origin where
  | header
  | onTheWay
  | dotted
  deriving DecidableEq, Repr

inductive Node where
  | value (v : Setting)
  | table (origin : Origin) (fields : List (String × Node))
  -- An array of tables, the newest first
  | tables (elements : List (List (String × Node)))
  deriving Inhabited

abbrev Fields := List (String × Node)

namespace Node

mutual
def toSetting : Node → Setting
  | .value v => v
  | .table _ fields => .table (fieldSettings fields)
  | .tables elements => .list (elementSettings elements).reverse

def fieldSettings : List (String × Node) → List (String × Setting)
  | [] => []
  | (name, node) :: rest => (name, toSetting node) :: fieldSettings rest

def elementSettings : List (List (String × Node)) → List Setting
  | [] => []
  | fields :: rest => .table (fieldSettings fields) :: elementSettings rest
end

end Node

namespace Fields

def put (fields : Fields) (name : String) (node : Node) : Fields := putEntry name node fields

-- Changes the table at the end of a path. Tables that are missing on the way come to be as `made` says, and dotted
-- names do not lead through tables with a header. An array of tables stands for its newest one.
def change (made : Origin) (f : Origin → Fields → Option Fields) :
    List String → Origin → Fields → Option Fields
  | [], origin, fields => f origin fields
  | name :: path, _, fields =>
    match fields.lookup name with
    | none => (change made f path made []).map fun inner => put fields name (.table made inner)
    | some (.table origin inner) =>
      if made = .dotted ∧ origin = .header then none
      else (change made f path origin inner).map fun inner => put fields name (.table origin inner)
    | some (.tables (newest :: older)) =>
      (change made f path .header newest).map fun newest => put fields name (.tables (newest :: older))
    | some _ => none

-- Adds a field to a table that does not have it. A dotted name adds only to a table that is made of dotted names.
def insert (path : List String) (name : String) (v : Setting) (origin : Origin) (fields : Fields) :
    Option Fields :=
  let add (origin : Origin) (fields : Fields) : Option Fields :=
    if !path.isEmpty && origin ≠ .dotted then none
    else match fields.lookup name with
      | some _ => none
      | none => some (put fields name (.value v))
  change .dotted add path origin fields

def declare (path : List String) (name : String) (fields : Fields) : Option Fields :=
  let add (_ : Origin) (fields : Fields) : Option Fields :=
    match fields.lookup name with
    | none => some (put fields name (.table .header []))
    | some (.table .onTheWay inner) => some (put fields name (.table .header inner))
    | some _ => none
  change .onTheWay add path .header fields

def declareNext (path : List String) (name : String) (fields : Fields) : Option Fields :=
  let add (_ : Origin) (fields : Fields) : Option Fields :=
    match fields.lookup name with
    | none => some (put fields name (.tables [[]]))
    | some (.tables elements) => some (put fields name (.tables ([] :: elements)))
    | some _ => none
  change .onTheWay add path .header fields

def insertUnder (header path : List String) (name : String) (v : Setting) (fields : Fields) : Option Fields :=
  change .onTheWay (insert path name v) header .header fields

end Fields
end Toml
end TidyRows
