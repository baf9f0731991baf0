import TidyRows.Fault
import TidyRows.Transform.Decode
import TidyRows.Value.Read
namespace TidyRows
open Value

-- Whether a configuration came before its type.
abbrev Loose := Bool

def asChoiceOf (loose : Loose) (ofName? : String → Option α) : Value → Option α
  | .record [(name, .record [])] => if loose then ofName? name else none
  | v => v.asChoice ofName?

namespace ColumnMapping

def ofValue? (v : Value) : Option ColumnMapping :=
  match v.fields? ["mapping", "dropUnknown"] with
  | some [mapping, dropUnknown] => do
    some ⟨← required (asKeyed asText) mapping, ← optional asBool dropUnknown⟩
  | _ => none

end ColumnMapping

namespace FieldTransform

def ofValue? (loose : Loose) (v : Value) : Option FieldTransform :=
  match v.fields? ["field", "kind", "options"] with
  | some [field, kind, options] => do
    some ⟨← required asText field, ← required (asChoiceOf loose TransformKind.ofName?) kind,
      ← optional TransformOptions.ofValue? options⟩
  | _ => none

def listOfValue? (loose : Loose) (v : Value) : Option (List FieldTransform) :=
  match v.fields? ["transforms"] with
  | some [transforms] => required (asList (ofValue? loose)) transforms
  | _ => none

end FieldTransform

inductive RuleKind where
  | required
  | regex
  | inSet
  | unique
  deriving DecidableEq, Repr

namespace RuleKind

def name : RuleKind → String
  | required => "required"
  | regex => "regex"
  | inSet => "in_set"
  | unique => "unique"

def all : List RuleKind := [required, regex, inSet, unique]

def ofName? (s : String) : Option RuleKind := all.find? (·.name == s)

def ofValue? (loose : Loose) : Value → Option RuleKind
  | .text s => ofName? s
  | .whole n => if loose && 0 ≤ n.val then all[n.val.toNat]? else none
  | _ => none

end RuleKind

namespace Rule

def ofKind? (v : Value) : RuleKind → Option Rule
  | .required => match v.fields? ["field", "message"] with
    | some [field, message] => do
      some (.required (← Value.required asText field) (← optional asText message))
    | _ => none
  | .regex => match v.fields? ["field", "pattern", "message"] with
    | some [field, pattern, message] => do
      some (.regex (← Value.required asText field) (← Value.required asText pattern) (← optional asText message))
    | _ => none
  | .inSet => match v.fields? ["field", "values", "caseInsensitive", "message"] with
    | some [field, values, caseInsensitive, message] => do
      some (.inSet (← Value.required asText field) (← Value.required (asList asText) values)
        (← optional asBool caseInsensitive) (← optional asText message))
    | _ => none
  | .unique => match v.fields? ["fields", "message"] with
    | some [fields, message] => do
      some (.unique (← Value.required (asList asText) fields) (← optional asText message))
    | _ => none

def ofValue? (loose : Loose) : Value → Option Rule
  | .record fields => do
    let kind ← RuleKind.ofValue? loose (← fields.lookup "type")
    ofKind? (.record (fields.filter (·.1 != "type"))) kind
  | .list (kind :: rest) => do
    let kind ← RuleKind.ofValue? loose kind
    ofKind? (.list rest) kind
  | _ => none

def listOfValue? (loose : Loose) (v : Value) : Option (List Rule) :=
  match v.fields? ["rules"] with
  | some [rules] => Value.required (asList (ofValue? loose)) rules
  | _ => none

end Rule

def FuzzyMatching.ofValue? (loose : Loose) (v : Value) : Option FuzzyMatching :=
  match v.fields? ["enabled", "threshold", "algorithm"] with
  | some [enabled, threshold, algorithm] => do
    some ⟨← required asBool enabled, ← optional asNumber threshold,
      ← optional (asChoiceOf loose Similarity.ofName?) algorithm⟩
  | _ => none

def Dedupe.ofValue? (loose : Loose) (v : Value) : Option Dedupe :=
  match v.fields? ["keys", "fuzzy"] with
  | some [keys, fuzzy] => do
    some ⟨← required (asList asText) keys, ← optional (FuzzyMatching.ofValue? loose) fuzzy⟩
  | _ => none

def WriteBack.ofValue? (loose : Loose) (v : Value) : Option WriteBack :=
  match v.fields? ["strategy", "boardId", "keyColumn", "keyColumnId", "columnMapping", "itemNameField"] with
  | some [strategy, boardId, keyColumn, keyColumnId, columnMapping, itemNameField] => do
    some ⟨← required (asChoiceOf loose WriteStrategy.ofName?) strategy, ← optional asText boardId,
      ← optional asText keyColumn, ← optional asText keyColumnId, ← optional (asKeyed asText) columnMapping,
      ← optional asText itemNameField⟩
  | _ => none

namespace Step

def ofKind? (loose : Loose) (config : Value) : StepKind → Option Step
  | .mapColumns => (ColumnMapping.ofValue? config).map .mapColumns
  | .format => (FieldTransform.listOfValue? loose config).map .format
  | .validate => (Rule.listOfValue? loose config).map .validate
  | .dedupe => (Dedupe.ofValue? loose config).map .dedupe
  | .writeBack => (WriteBack.ofValue? loose config).map .writeBack

def configFirst (fields : List (String × Value)) : Bool :=
  (fields.find? fun f => f.1 == "type" || f.1 == "config").any (·.1 == "config")

def ofValue? : Value → Option Step
  | .record fields => do
    let kind ← (← fields.lookup "type").asChoice StepKind.ofName?
    ofKind? (configFirst fields) (← fields.lookup "config") kind
  | .list [kind, config] => do
    let kind ← kind.asChoice StepKind.ofName?
    ofKind? false config kind
  | _ => none

end Step

namespace Recipe

def fromFields? (v : Value) : Option Recipe :=
  match v.fields? ["id", "name", "version", "steps"] with
  | some [id, name, version, steps] => do
    some ⟨← required asText id, ← required asText name, ← required asWord version,
      ← required (asList Step.ofValue?) steps⟩
  | _ => none

def fieldOf (name : String) : Value → Option Value
  | .record fields => fields.lookup name
  | _ => none

-- The first thing that no version of this library runs: a step of an unknown kind, or a write-back step of an unknown
-- strategy.
def unsupported (step : Value) : Option Fault :=
  let kind := ((fieldOf "type" step).bind asText).getD ""
  match StepKind.ofName? kind with
  | none => some (.unsupportedStep kind)
  | some .writeBack =>
    match (((fieldOf "config" step).bind (fieldOf "strategy")).bind asText) with
    | some strategy =>
      if (WriteStrategy.ofName? strategy).isNone then some (.unsupportedStrategy strategy) else none
    | none => none
  | some _ => none

def stepValues (v : Value) : List Value :=
  match fieldOf "steps" v with
  | some (.list steps) => steps
  | _ => []

def ofValue (v : Value) : Except Fault Recipe :=
  match (stepValues v).findSome? unsupported with
  | some fault => .error fault
  | none => match fromFields? v with
    | some r => .ok r
    | none => .error .invalidRecipe

def ofText (s : String) : Except Fault Recipe :=
  match Value.ofText? s with
  | some v => ofValue v
  | none => .error .invalidRecipe

end Recipe
end TidyRows
