import TidyRows.Proofs.Keyed
import TidyRows.Step.Format
namespace TidyRows

namespace Change

def redo (rows : List Row) (c : Change) : List Row := rows.modify c.row fun row => row.put c.field c.after

def redoAll (rows : List Row) (changes : List Change) : List Row := changes.foldl redo rows

-- The row has the value that the change tells of, which is null where there is none, and it is to become another one.
def Fits (rows : List Row) (c : Change) : Prop :=
  ∃ row, rows[c.row]? = some row ∧ (row.get? c.field).getD .null = c.before ∧ c.before.same c.after = false

theorem redoAll_snoc (rows : List Row) (changes : List Change) (c : Change) :
    redoAll rows (changes ++ [c]) = redo (redoAll rows changes) c := List.foldl_append

-- No other field is touched, neither in this row nor in another one.
theorem redo_other {rows : List Row} {c : Change} {i : Nat} {field : String}
    (other : c.row = i → c.field ≠ field) :
    (redo rows c)[i]?.map (·.get? field) = rows[i]?.map (·.get? field) := by
  unfold redo
  rw [List.getElem?_modify]
  by_cases here : c.row = i
  · have different : field ≠ c.field := Ne.symm (other here)
    cases rows[i]? with
    | none => rfl
    | some row => simp [here, Keyed.get?_put_other _ _ different]
  · simp [here]

-- In rows that are taken apart at the place of the change.
theorem redo_place (front : List Row) (row : Row) (back : List Row) (field : String) (before after : Value) :
    redo (front ++ row :: back) ⟨front.length, field, before, after⟩ = front ++ row.put field after :: back := by
  unfold redo
  induction front with
  | nil => rfl
  | cons head rest ih => simpa using ih

end Change

structure Replays (rows : List Row) (changes : List Change) (out : List Row) : Prop where
  result : Change.redoAll rows changes = out
  -- each of them fits what those before it have made
  fits : ∀ earlier c later, changes = earlier ++ c :: later → c.Fits (Change.redoAll rows earlier)
  -- a field that none of them names is there as it was, or is missing as it was
  untouched : ∀ i field, (∀ c ∈ changes, c.row = i → c.field ≠ field) →
    out[i]?.map (·.get? field) = rows[i]?.map (·.get? field)

namespace Replays

theorem start (rows : List Row) : Replays rows [] rows := by
  refine ⟨rfl, ?_, fun _ _ _ => rfl⟩
  intro earlier c later split
  simp at split

theorem snoc (prior : Replays rows changes now) (fits : c.Fits now) :
    Replays rows (changes ++ [c]) (Change.redo now c) := by
  refine ⟨?_, ?_, ?_⟩
  · rw [Change.redoAll_snoc, prior.result]
  · intro earlier d later split
    rcases List.eq_nil_or_concat later with rfl | ⟨before, last, rfl⟩
    · obtain ⟨rfl, same⟩ := List.append_inj' split rfl
      cases same
      simpa [prior.result] using fits
    · have cut : changes ++ [c] = (earlier ++ d :: before) ++ [last] := by simpa using split
      exact prior.fits earlier d before (List.append_inj' cut rfl).1
  · intro i field unnamed
    have last : c.row = i → c.field ≠ field := unnamed c (by simp)
    have others : ∀ d ∈ changes, d.row = i → d.field ≠ field := fun d member => unnamed d (by simp [member])
    exact (Change.redo_other last).trans (prior.untouched i field others)

end Replays

namespace FieldTransform

section
variable {rows front back : List Row} {told : List Change}

-- While a row is being written, the rows before it are done and those after it are still as they were.
def Midway (rows : List Row) (told : List Change) (front back : List Row) (state : Row × List Change) : Prop :=
  Replays rows (told ++ state.2) (front ++ state.1 :: back)

theorem writeField_midway (state : Row × List Change) (update : String × Value)
    (midway : Midway rows told front back state) :
    Midway rows told front back (writeField front.length state update) := by
  obtain ⟨row, changes⟩ := state
  obtain ⟨field, after⟩ := update
  unfold Midway writeField Change.between at *
  dsimp only at *
  split
  · rename_i change made
    split at made
    · cases made
    · rename_i differ
      cases made
      have fits : Change.Fits (front ++ row :: back)
          ⟨front.length, field, (row.get? field).getD .null, after⟩ :=
        ⟨row, by simp, rfl, Bool.eq_false_iff.mpr differ⟩
      have next := midway.snoc fits
      rw [Change.redo_place] at next
      simpa using next
  · exact midway

theorem formatRow_midway [Libraries] (transforms : List FieldTransform) {row : Row}
    (prior : Replays rows told (front ++ row :: back)) :
    Replays rows (told ++ (formatRow transforms front.length row).2)
      (front ++ (formatRow transforms front.length row).1 :: back) := by
  have start : Midway rows told front back (row, []) := by simpa [Midway] using prior
  exact formatRow_keeps writeField_midway transforms start

theorem formatFrom_replays [Libraries] (transforms : List FieldTransform) (front left : List Row)
    (prior : Replays rows told (front ++ left)) :
    Replays rows
      (told ++ (left.zipIdx front.length).flatMap fun n => (formatRow transforms n.2 n.1).2)
      (front ++ (left.zipIdx front.length).map fun n => (formatRow transforms n.2 n.1).1) := by
  induction left generalizing front told with
  | nil => simpa using prior
  | cons row left ih =>
    have here := formatRow_midway transforms prior
    have rest := ih (front ++ [(formatRow transforms front.length row).1]) (by simpa using here)
    simpa using rest

end

theorem formatRows_replay [Libraries] (transforms : List FieldTransform) (rows : List Row) :
    Replays rows (formatRows transforms rows).2 (formatRows transforms rows).1 := by
  have whole := formatFrom_replays transforms [] rows (Replays.start rows)
  simpa [formatRows, List.flatMap_map, Function.comp_def] using whole

section
open Bare

-- The trimmed name and the first name go into the field that the name came from, one over the other.
example : (formatRows [⟨"name", .splitName, some { TransformOptions.none with firstNameField := some "name" }⟩]
      [.ofList [("name", .text " Ada Lovelace")]]).2.map (fun c => (c.field, c.before.text?, c.after.text?)) =
    [("name", some " Ada Lovelace", some "Ada Lovelace"), ("name", some "Ada Lovelace", some "Ada"),
      ("last_name", none, some "Lovelace")] := by
  decide +kernel

end

end FieldTransform
end TidyRows
