import TidyRows.Transform.Options
namespace TidyRows

inductive StepKind where
  | mapColumns
  | format
  | validate
  | dedupe
  | writeBack
  deriving DecidableEq, Repr

namespace StepKind

def name : StepKind → String
  | mapColumns => "map_columns"
  | format => "format"
  | validate => "validate"
  | dedupe => "dedupe"
  | writeBack => "write_back"

def all : List StepKind := [mapColumns, format, validate, dedupe, writeBack]

def ofName? (s : String) : Option StepKind := all.find? (·.name == s)

end StepKind

-- New names of columns. Columns without one are kept, unless unknown ones are dropped.
structure ColumnMapping where
  mapping : Keyed String
  dropUnknown : Option Bool
  deriving DecidableEq, Repr

structure FieldTransform where
  field : String
  kind : TransformKind
  options : Option TransformOptions
  deriving DecidableEq, Repr

inductive Rule where
  | required (field : String) (message : Option String)
  | regex (field pattern : String) (message : Option String)
  | inSet (field : String) (values : List String) (caseInsensitive : Option Bool) (message : Option String)
  | unique (fields : List String) (message : Option String)
  deriving DecidableEq, Repr

inductive Similarity where
  | jaroWinkler
  | levenshtein
  deriving DecidableEq, Repr

def Similarity.name : Similarity → String
  | jaroWinkler => "jaro_winkler"
  | levenshtein => "levenshtein"

def Similarity.ofName? (s : String) : Option Similarity := [jaroWinkler, levenshtein].find? (·.name == s)

structure FuzzyMatching where
  enabled : Bool
  threshold : Option Finite
  algorithm : Option Similarity
  deriving DecidableEq, Repr

structure Dedupe where
  keys : List String
  fuzzy : Option FuzzyMatching
  deriving DecidableEq, Repr

inductive WriteStrategy where
  | externalUpsert
  | csvExport
  deriving DecidableEq, Repr

def WriteStrategy.name : WriteStrategy → String
  | externalUpsert => "external_upsert"
  | csvExport => "export"

def WriteStrategy.ofName? (s : String) : Option WriteStrategy := [externalUpsert, csvExport].find? (·.name == s)

structure WriteBack where
  strategy : WriteStrategy
  boardId : Option String
  keyColumn : Option String
  keyColumnId : Option String
  columnMapping : Option (Keyed String)
  itemNameField : Option String
  deriving DecidableEq, Repr

-- The required fields that are absent. A blank board is none.
def WriteBack.missing (w : WriteBack) : List String :=
  match w.strategy with
  | .externalUpsert =>
    (if (w.boardId.map fun b => Text.allBlank b.toList).getD true then ["boardId"] else [])
      ++ (if w.columnMapping.isNone then ["columnMapping"] else [])
  | .csvExport => []

inductive Step where
  | mapColumns (config : ColumnMapping)
  | format (transforms : List FieldTransform)
  | validate (rules : List Rule)
  | dedupe (config : Dedupe)
  | writeBack (config : WriteBack)
  deriving DecidableEq, Repr

def Step.kind : Step → StepKind
  | mapColumns _ => .mapColumns
  | format _ => .format
  | validate _ => .validate
  | dedupe _ => .dedupe
  | writeBack _ => .writeBack

structure Recipe where
  id : String
  name : String
  version : UInt32
  steps : List Step
  deriving DecidableEq, Repr

def Recipe.incomplete (r : Recipe) : List (Nat × List String) :=
  r.steps.zipIdx.filterMap fun (step, i) =>
    match step with
    | .writeBack w => if w.missing.isEmpty then none else some (i, w.missing)
    | _ => none

end TidyRows
