import TidyRows.Recipe.Decode
namespace TidyRows
open Value

def mappingValue (m : Keyed String) : Value := .record (m.entries.map fun (n, s) => (n, .text s))

def ColumnMapping.toValue (c : ColumnMapping) : Value :=
  ofPresent [("mapping", some (mappingValue c.mapping)), ("dropUnknown", c.dropUnknown.map .bool)]

def FieldTransform.toValue (t : FieldTransform) : Value :=
  ofPresent [("field", some (.text t.field)), ("kind", some (.text t.kind.name)),
    ("options", t.options.map (·.toValue))]

namespace Rule

def kind : Rule → RuleKind
  | required .. => .required
  | regex .. => .regex
  | inSet .. => .inSet
  | unique .. => .unique

def fields : Rule → List (String × Option Value)
  | required field message => [("field", some (.text field)), ("message", message.map .text)]
  | regex field pattern message =>
    [("field", some (.text field)), ("pattern", some (.text pattern)), ("message", message.map .text)]
  | inSet field values caseInsensitive message =>
    [("field", some (.text field)), ("values", some (.ofStrings values)),
      ("caseInsensitive", caseInsensitive.map .bool), ("message", message.map .text)]
  | unique fields message => [("fields", some (.ofStrings fields)), ("message", message.map .text)]

def toValue (r : Rule) : Value := ofPresent (("type", some (.text r.kind.name)) :: r.fields)

end Rule

def FuzzyMatching.toValue (f : FuzzyMatching) : Value :=
  ofPresent [("enabled", some (.bool f.enabled)), ("threshold", f.threshold.map .real),
    ("algorithm", f.algorithm.map fun a => .text a.name)]

def Dedupe.toValue (d : Dedupe) : Value :=
  ofPresent [("keys", some (.ofStrings d.keys)), ("fuzzy", d.fuzzy.map (·.toValue))]

def WriteBack.toValue (w : WriteBack) : Value :=
  ofPresent [("strategy", some (.text w.strategy.name)), ("boardId", w.boardId.map .text),
    ("keyColumn", w.keyColumn.map .text), ("keyColumnId", w.keyColumnId.map .text),
    ("columnMapping", w.columnMapping.map mappingValue), ("itemNameField", w.itemNameField.map .text)]

def Step.configValue : Step → Value
  | mapColumns config => config.toValue
  | format transforms => .record [("transforms", .list (transforms.map (·.toValue)))]
  | validate rules => .record [("rules", .list (rules.map (·.toValue)))]
  | dedupe config => config.toValue
  | writeBack config => config.toValue

def Step.toValue (s : Step) : Value := .record [("type", .text s.kind.name), ("config", s.configValue)]

namespace Recipe

def toValue (r : Recipe) : Value :=
  .record [("id", .text r.id), ("name", .text r.name), ("version", .ofNat r.version.toNat),
    ("steps", .list (r.steps.map (·.toValue)))]

def toText (r : Recipe) : String := r.toValue.written

end Recipe
end TidyRows
