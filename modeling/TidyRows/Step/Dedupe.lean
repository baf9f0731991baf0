import TidyRows.Finding
import TidyRows.Number.Notation
import TidyRows.Similarity
import TidyRows.Step.Signature
namespace TidyRows

structure RunOptions where
  allowFuzzy : Bool
  deriving DecidableEq, Repr

def fuzzyComposite (row : Row) (keys : List String) : List Char :=
  let texts := keys.map fun k => Unicode.lower (cellText (row.get? k)).toList
  Text.joinWith [' ']
    (Text.wordsBy (fun c => !(Unicode.isLetter c || Unicode.isNumber c)) (Text.joinWith [' '] texts))

namespace Dedupe

abbrev Numbered := Row × Nat

-- A row and, when it goes, the kept row that it repeats and how much they are alike.
structure Judged (α : Type) where
  row : Numbered
  repeats : Option (Numbered × α)

def survivors (judged : List (Judged α)) : List Numbered := (judged.filter (·.repeats.isNone)).map (·.row)

def firstLike (like : κ → κ → Option α) (mark : κ) (kept : List (Numbered × κ)) : Option (Numbered × α) :=
  kept.findSome? fun (k, other) => (like mark other).map (k, ·)

-- Every row is held against those kept before it, in their order. A row without a mark is kept, and no other row is
-- held against it.
def pass (mark : Row → Option κ) (like : κ → κ → Option α) (kept : List (Numbered × κ)) :
    List Numbered → List (Judged α)
  | [] => []
  | n :: rest =>
    match mark n.1 with
    | none => ⟨n, none⟩ :: pass mark like kept rest
    | some m =>
      match firstLike like m kept with
      | some found => ⟨n, some found⟩ :: pass mark like kept rest
      | none => ⟨n, none⟩ :: pass mark like (kept ++ [(n, m)]) rest

def sameSignature (s other : String) : Option Unit := if s = other then some () else none

def exactPhase (keys : List String) (rows : List Numbered) : List (Judged Unit) :=
  pass (fun row => signature? row keys signatureDelimiter) sameSignature [] rows

def compositeMark (keys : List String) (row : Row) : Option (List Char) :=
  let composite := fuzzyComposite row keys
  if composite.isEmpty then none else some composite

def likeEnough (score : List Char → List Char → Double) (threshold : Double) (composite other : List Char) :
    Option Double :=
  let s := score composite other
  if Double.le threshold s then some s else none

def fuzzyPhase (keys : List String) (score : List Char → List Char → Double) (threshold : Double)
    (rows : List Numbered) : List (Judged Double) :=
  pass (compositeMark keys) (likeEnough score threshold) [] rows

def exactMessage (kept : Nat) : String := "Exact duplicate of row " ++ String.ofList (natText kept)

def fuzzyMessage (kept : Nat) (score : Double) : String :=
  "Likely duplicate of row " ++ String.ofList (natText kept) ++ " (similarity "
    ++ String.ofList (score.fixedText 2) ++ ")"

def exactFinding (keys : List String) (index kept : Nat) : Finding :=
  ⟨some index, some (fieldsLabel keys), .dedupeExact, exactMessage kept⟩

def fuzzyFinding (keys : List String) (index kept : Nat) (score : Double) : Finding :=
  ⟨some index, some (fieldsLabel keys), .dedupeFuzzy, fuzzyMessage kept score⟩

def blockedFinding : Finding := ⟨none, none, .dedupeFuzzyBlocked,
  "Fuzzy deduplication is not available for this account; exact deduplication only"⟩

def findings (tell : Nat → Nat → α → Finding) (judged : List (Judged α)) : List Finding :=
  judged.filterMap fun j => j.repeats.map fun (k, likeness) => tell j.row.2 k.2 likeness

def exactFindings (keys : List String) (judged : List (Judged Unit)) : List Finding :=
  findings (fun index kept _ => exactFinding keys index kept) judged

def fuzzyFindings (keys : List String) (judged : List (Judged Double)) : List Finding :=
  findings (fuzzyFinding keys) judged

def changes (judged : List (Judged α)) : List Change :=
  judged.filterMap fun j => j.repeats.bind fun (k, _) => Change.dropped j.row.2 j.row.1 k.1

inductive Gate where
  | off
  | blocked
  | passed (matching : FuzzyMatching)

def gate (d : Dedupe) (options : RunOptions) : Gate :=
  match d.fuzzy.filter (·.enabled) with
  | none => .off
  | some f => if options.allowFuzzy then .passed f else .blocked

def defaultAlgorithm : Similarity := .jaroWinkler

def thresholdOf (f : FuzzyMatching) (defaultThreshold : Double) : Double :=
  (f.threshold.map Double.finite).getD defaultThreshold

def applyWith (score : Similarity → List Char → List Char → Double) (d : Dedupe) (options : RunOptions)
    (defaultThreshold : Double) (rows : List Row) : Outcome :=
  let exact := exactPhase d.keys rows.zipIdx
  match d.gate options with
  | .off => ⟨(survivors exact).map (·.1), exactFindings d.keys exact, changes exact⟩
  | .blocked => ⟨(survivors exact).map (·.1), exactFindings d.keys exact ++ [blockedFinding], changes exact⟩
  | .passed f =>
    let fuzzy := fuzzyPhase d.keys (score (f.algorithm.getD defaultAlgorithm)) (thresholdOf f defaultThreshold)
      (survivors exact)
    ⟨(survivors fuzzy).map (·.1), exactFindings d.keys exact ++ fuzzyFindings d.keys fuzzy,
      changes exact ++ changes fuzzy⟩

def apply (d : Dedupe) (options : RunOptions) (defaultThreshold : Double) (rows : List Row) : Outcome :=
  d.applyWith Similarity.score options defaultThreshold rows

end Dedupe
end TidyRows
