import TidyRows.Value.Written
namespace TidyRows

inductive FindingCode where
  | required
  | regex
  | regexType
  | inSet
  | unique
  | dedupeExact
  | dedupeFuzzy
  | dedupeFuzzyBlocked
  deriving DecidableEq, Repr

def FindingCode.name : FindingCode → String
  | required => "required"
  | regex => "regex"
  | regexType => "regex_type"
  | inSet => "in_set"
  | unique => "unique"
  | dedupeExact => "dedupe_exact"
  | dedupeFuzzy => "dedupe_fuzzy"
  | dedupeFuzzyBlocked => "dedupe_fuzzy_blocked"

structure Finding where
  -- None for a finding about the whole run
  row : Option Nat
  field : Option String
  code : FindingCode
  message : String
  deriving DecidableEq, Repr

structure Change where
  row : Nat
  field : String
  before : Value
  after : Value
  deriving Repr

def Change.between (row : Nat) (field : String) (before after : Value) : Option Change :=
  if before.same after then none else some ⟨row, field, before, after⟩

-- The field under which a dropped row is reported, beside the row that it repeats.
def droppedField : String := "__dedupe__"

def Change.dropped (row : Nat) (dropped retained : Row) : Option Change :=
  Change.between row droppedField dropped.toValue retained.toValue

structure Outcome where
  rows : List Row
  findings : List Finding
  changes : List Change

namespace Finding

def wholeRun : Int := -1

def toValue (f : Finding) : Value :=
  .record ([("rowIndex", Value.ofInt ((f.row.map Int.ofNat).getD wholeRun))]
    ++ (match f.field with
      | some field => [("field", .text field)]
      | none => [])
    ++ [("code", .text f.code.name), ("message", .text f.message)])

end Finding

def Change.toValue (c : Change) : Value :=
  .record [("rowIndex", .ofNat c.row), ("field", .text c.field), ("before", c.before), ("after", c.after)]

end TidyRows
