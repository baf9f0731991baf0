import TidyRows.Finding
import TidyRows.Libraries
import TidyRows.Recipe.Basic
import TidyRows.Step.Signature
namespace TidyRows.Rule

def requiredMessage (field : String) : String := field ++ " is required"

def regexMessage (field pattern : String) : String := field ++ " does not match pattern " ++ pattern

def invalidPatternMessage (pattern reason : String) : String := "Invalid pattern " ++ pattern ++ ": " ++ reason

def inSetMessage (field text : String) : String := field ++ " value '" ++ text ++ "' is not an allowed value"

def uniqueMessage (label : String) : String := "Duplicate value for " ++ label

def foldedValue (caseInsensitive : Bool) (text : String) : List Char :=
  let trimmed := Text.trim text.toList
  if caseInsensitive then Unicode.lower trimmed else trimmed

structure Check where
  ask : (earlier : List Row) → Row → Nat → Option Finding

-- What a rule says of a row that stands after others. A blank value is no matter but to the rule that requires one.
def check [Libraries] (rule : Rule) : Check :=
  match rule with
  | required field message => ⟨fun _ row index =>
    if isBlankCell (row.get? field) then
      some ⟨some index, some field, .required, message.getD (requiredMessage field)⟩
    else none⟩
  | regex field pattern message =>
    let compiled := Libraries.compile pattern
    ⟨fun _ row index =>
      if isBlankCell (row.get? field) then none
      else match compiled with
        | .error reason => some ⟨some index, some field, .regexType, invalidPatternMessage pattern reason⟩
        | .ok occursIn =>
          if occursIn (cellText (row.get? field)).toList then none
          else some ⟨some index, some field, .regex, message.getD (regexMessage field pattern)⟩⟩
  | inSet field values caseInsensitive message =>
    let caseInsensitive := caseInsensitive.getD false
    let allowed := values.map (foldedValue caseInsensitive)
    ⟨fun _ row index =>
      if isBlankCell (row.get? field) then none
      else
        let text := cellText (row.get? field)
        if allowed.contains (foldedValue caseInsensitive text) then none
        else some ⟨some index, some field, .inSet, message.getD (inSetMessage field text)⟩⟩
  | unique fields message => ⟨fun earlier row index =>
    match signature? row fields signatureDelimiter with
    | none => none
    | some s =>
      if earlier.any fun r => signature? r fields signatureDelimiter == some s then
        let label := fieldsLabel fields
        some ⟨some index, some label, .unique, message.getD (uniqueMessage label)⟩
      else none⟩

def checkRows [Libraries] (rules : List Rule) (rows : List Row) : List Finding :=
  let checks := rules.map check
  rows.zipIdx.flatMap fun (row, i) => checks.filterMap fun c => c.ask (rows.take i) row i

def codes : Rule → List FindingCode
  | required .. => [.required]
  | regex .. => [.regex, .regexType]
  | inSet .. => [.inSet]
  | unique .. => [.unique]

theorem ask_finding [Libraries] {rule : Rule} {earlier : List Row} {row : Row} {i : Nat} {f : Finding}
    (said : rule.check.ask earlier row i = some f) : f.row = some i ∧ f.code ∈ rule.codes := by
  cases rule with
  | required field message =>
    simp only [check] at said
    split at said
    · cases said
      exact ⟨rfl, .head _⟩
    · cases said
  | regex field pattern message =>
    simp only [check] at said
    split at said
    · cases said
    · split at said
      · cases said
        exact ⟨rfl, .tail _ (.head _)⟩
      · split at said
        · cases said
        · cases said
          exact ⟨rfl, .head _⟩
  | inSet field values caseInsensitive message =>
    simp only [check] at said
    split at said
    · cases said
    · split at said
      · cases said
      · cases said
        exact ⟨rfl, .head _⟩
  | unique fields message =>
    simp only [check] at said
    split at said
    · cases said
    · split at said
      · cases said
        exact ⟨rfl, .head _⟩
      · cases said

end TidyRows.Rule
