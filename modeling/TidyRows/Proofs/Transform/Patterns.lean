import TidyRows.Proofs.Calendar.Segments
import TidyRows.Transform.Apply
namespace TidyRows.Transform
open Calendar

def textMoment? (options : TransformOptions) (cs : List Char) : Option Moment :=
  if (Text.trim cs).isEmpty then none
  else options.inputFormat.elim (freeMoment? (Text.trim cs))
    fun pattern => momentIn? (percentPattern pattern.toList) (Text.trim cs)

def outputPattern (options : TransformOptions) : List Char := (options.outputFormat.getD defaultDatePattern).toList

section
variable {options : TransformOptions} {cs : List Char}

theorem parseDate_textMoment (options : TransformOptions) (cs : List Char) : parseDate options cs =
    ((textMoment? options cs).bind fun m => write? m (percentPattern (outputPattern options))).getD cs := by
  unfold parseDate textMoment? outputPattern
  dsimp only
  split
  · rfl
  · cases options.inputFormat <;> rfl

theorem parseDate_shown (lettered : '%' ∉ outputPattern options) : parseDate options cs =
    ((textMoment? options cs).map fun m => (Segment.ofPattern (outputPattern options)).flatMap (Segment.shown m)).getD cs := by
  have written := (percentPattern_translated lettered).written
  rw [parseDate_textMoment]
  cases textMoment? options cs with
  | none => rfl
  | some m => rw [Option.bind_some, written m, Option.map_some]

end

-- A pattern of letters is safe: the percent pattern that it becomes holds its quotations, its tokens and what stands for itself,
-- every moment can be written by it, and no date that has been read stays as it was for want of a form.
theorem fieldValue_date_lettered [Libraries] {pattern : List Char} (lettered : '%' ∉ pattern) :
    Translated pattern (percentPattern pattern) (Segment.ofPattern pattern) ∧
    ∀ (options : TransformOptions) (row : Row) (s : String), outputPattern options = pattern →
      (∀ m, textMoment? options s.toList = some m → fieldValue .dateParse options row (.text s) =
        .text (String.ofList ((Segment.ofPattern pattern).flatMap (Segment.shown m)))) ∧
      (textMoment? options s.toList = none → fieldValue .dateParse options row (.text s) = .text s) := by
  refine ⟨percentPattern_translated lettered, fun options row s asked => ?_⟩
  subst asked
  have change : fieldValue .dateParse options row (.text s) = .text (String.ofList (parseDate options s.toList)) := rfl
  rw [change, parseDate_shown lettered]
  refine ⟨fun m told => ?_, fun untold => ?_⟩
  · rw [told, Option.map_some, Option.getD_some]
  · rw [untold, Option.map_none, Option.getD_none, String.ofList_toList]

namespace OpenQuotation
open Bare

-- An empty quotation, letters beyond those of any token, and at the end a quotation that is left open.
def pattern : String := "EEEE, d. MMMM ''yyyyy'T'hh:mm'o"

def options : TransformOptions := { TransformOptions.none with outputFormat := some pattern }

def moment : Moment := ⟨⟨2024, 3, 5⟩, ⟨22, 7, 8, 0⟩⟩

theorem segments : Segment.ofPattern pattern.toList = [.run 'E' 4, .run ',' 1, .run ' ' 1, .run 'd' 1, .run '.' 1,
    .run ' ' 1, .run 'M' 4, .run ' ' 1, .quoted [], .run 'y' 5, .quoted ['T'], .run 'h' 2, .run ':' 1, .run 'm' 2,
    .quoted ['o']] := by cbv

theorem told : textMoment? options " 2024-03-05T22:07:08".toList = some moment := rfl

theorem openQuotation_lettered : '%' ∉ pattern.toList ∧ outputPattern options = pattern.toList ∧
    textMoment? options " 2024-03-05T22:07:08".toList = some moment ∧
    percentPattern pattern.toList = "%A, %-d. %B %YT%I:%Mo".toList ∧
    fieldValue .dateParse options .empty (.text " 2024-03-05T22:07:08") = .text "Tuesday, 5. March 2024T10:07o" := by
  have lettered : '%' ∉ pattern.toList := by decide
  obtain ⟨translated, dates⟩ := fieldValue_date_lettered lettered
  have shown : (Segment.ofPattern pattern.toList).flatMap (Segment.shown moment) =
      "Tuesday, 5. March 2024T10:07o".toList := by
    rw [segments]
    rfl
  refine ⟨lettered, rfl, told, ?_, ?_⟩
  · rw [translated.text, segments]
    rfl
  · rw [(dates options .empty _ rfl).1 moment told, shown, String.ofList_toList]

end OpenQuotation
end TidyRows.Transform
