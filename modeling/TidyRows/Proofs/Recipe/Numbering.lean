import TidyRows.Proofs.Dedupe.Books
import TidyRows.Proofs.Execution
namespace TidyRows

def Step.touch [Libraries] : Step → Row → Row
  | .mapColumns c, row => c.mapRow row
  | .format transforms, row => (FieldTransform.formatRow transforms 0 row).1
  | _, row => row

def touchAll [Libraries] (steps : List Step) (row : Row) : Row := steps.foldl (fun row step => step.touch row) row

-- Which of the rows that it is given a step keeps.
def Step.kept (options : RunOptions) (threshold : Double) (rows : List Row) : Step → List Nat
  | .dedupe d => (Dedupe.runLedger Similarity.score d options threshold rows).kept
  | _ => List.range rows.length

-- A step of a run with the rows that it is given, and the place that each of them had at the start.
structure Stage where
  step : Step
  rows : List Row
  origins : List Nat

def Stage.outcome [Libraries] (options : RunOptions) (threshold : Double) (s : Stage) : Outcome :=
  s.step.apply options threshold s.rows

def Stage.nextOrigins (options : RunOptions) (threshold : Double) (s : Stage) : List Nat :=
  (s.step.kept options threshold s.rows).filterMap (s.origins[·]?)

def stagesFrom [Libraries] (options : RunOptions) (threshold : Double) : List Step → List Row → List Nat → List Stage
  | [], _, _ => []
  | step :: rest, rows, origins =>
    let s : Stage := ⟨step, rows, origins⟩
    s :: stagesFrom options threshold rest (s.outcome options threshold).rows (s.nextOrigins options threshold)

def Recipe.stages [Libraries] (recipe : Recipe) (options : RunOptions) (threshold : Double) (rows : List Row) : List Stage :=
  stagesFrom options threshold recipe.steps rows (List.range rows.length)

-- Rows that come from earlier ones: each is what some steps have made of the row at its origin.
structure Lineage [Libraries] (steps : List Step) (rows after : List Row) (origins : List Nat) : Prop where
  ordered : origins.Pairwise (· < ·)
  within : ∀ i ∈ origins, i < rows.length
  descends : after.map some = origins.map fun i => rows[i]?.map (touchAll steps)

-- A finding that a step has about the row at place `i` of those that it is given, whatever number it gives to it.
def Step.Finds [Libraries] (options : RunOptions) (threshold : Double) (rows : List Row) (i : Nat) (f : Finding) : Step → Prop
  | .validate rules => ∃ row number, rows[i]? = some row ∧ ∃ rule ∈ rules, rule.check.ask (rows.take i) row number = some f
  | .dedupe d => ∃ number k,
    (i, k) ∈ (Dedupe.runLedger Similarity.score d options threshold rows).exact ∧ f = Dedupe.exactFinding d.keys number k ∨
    ∃ s, (i, k, s) ∈ (Dedupe.runLedger Similarity.score d options threshold rows).fuzzy ∧
      f = Dedupe.fuzzyFinding d.keys number k s
  | _ => False

-- A change that a step makes to this row, or reports of it when the row goes.
def Step.Alters [Libraries] (options : RunOptions) (threshold : Double) (rows : List Row) (i : Nat) (c : Change) : Step → Prop
  | .format transforms => ∃ row number, rows[i]? = some row ∧ c ∈ (FieldTransform.formatRow transforms number row).2
  | .dedupe d => ∃ number k row other,
    (i, k) ∈ (Dedupe.runLedger Similarity.score d options threshold rows).exact ++
      (Dedupe.runLedger Similarity.score d options threshold rows).fuzzy.map (fun p => (p.1, p.2.1)) ∧
    rows[i]? = some row ∧ rows[k]? = some other ∧ Change.dropped number row other = some c
  | _ => False

theorem between_row {c : Change} (made : Change.between i field before after = some c) : c.row = i := by
  unfold Change.between at made
  split at made
  · cases made
  · cases made
    rfl

namespace FieldTransform

-- The number of a row has no part in what becomes of it.
theorem writeField_row {state other : Row × List Change} (same : state.1 = other.1) (i j : Nat)
    (update : String × Value) : (writeField i state update).1 = (writeField j other update).1 := by
  obtain ⟨row, told⟩ := state
  obtain ⟨row', told'⟩ := other
  cases same
  dsimp only [writeField, Change.between]
  cases ((row.get? update.1).getD .null).same update.2 with
  | true => rfl
  | false => rfl

theorem applyTo_row [Libraries] {state other : Row × List Change} (same : state.1 = other.1) (i j : Nat) (t : FieldTransform) :
    (applyTo i state t).1 = (applyTo j other t).1 := by
  unfold applyTo
  rw [same]
  generalize Transform.updates t.kind (t.options.getD .none) other.1 t.field = updates
  induction updates generalizing state other with
  | nil => exact same
  | cons update rest ih => exact ih (writeField_row same i j update)

theorem formatRow_row [Libraries] (transforms : List FieldTransform) (i j : Nat) (row : Row) :
    (formatRow transforms i row).1 = (formatRow transforms j row).1 := by
  unfold formatRow
  suffices general : ∀ state other : Row × List Change, state.1 = other.1 →
      (transforms.foldl (applyTo i) state).1 = (transforms.foldl (applyTo j) other).1 from general _ _ rfl
  induction transforms with
  | nil => exact fun _ _ same => same
  | cons t rest ih => exact fun _ _ same => ih _ _ (applyTo_row same i j t)

theorem writeField_numbers (state : Row × List Change) (update : String × Value) (named : ∀ c ∈ state.2, c.row = i) :
    ∀ c ∈ (writeField i state update).2, c.row = i := by
  intro c member
  unfold writeField at member
  dsimp only at member
  split at member
  · rename_i change made
    rcases List.mem_append.mp member with old | new
    · exact named c old
    · rw [List.mem_singleton.mp new]
      exact between_row made
  · exact named c member

theorem formatRow_numbers [Libraries] (transforms : List FieldTransform) (i : Nat) (row : Row) :
    ∀ c ∈ (formatRow transforms i row).2, c.row = i := by
  apply formatRow_keeps writeField_numbers
  intro c none
  cases none

end FieldTransform

section
variable {options : RunOptions} {threshold : Double} {rows : List Row} {i : Nat}

theorem Step.finds_row [Libraries] (step : Step) {f : Finding} (found : f ∈ (step.apply options threshold rows).findings)
    (named : f.row = some i) : step.Finds options threshold rows i f := by
  cases step with
  | validate rules =>
    obtain ⟨⟨row, j⟩, inside, here⟩ := List.mem_flatMap.mp found
    obtain ⟨check, member, said⟩ := List.mem_filterMap.mp here
    obtain ⟨rule, known, rfl⟩ := List.mem_map.mp member
    obtain rfl : j = i := Option.some.inj ((Rule.ask_finding said).1.symm.trans named)
    exact ⟨row, j, List.mem_zipIdx_iff_getElem?.mp inside, rule, known, said⟩
  | dedupe d =>
    have parts := Dedupe.run_findings Similarity.score d options threshold rows
    rw [Step.apply, Dedupe.apply, parts] at found
    rcases List.mem_append.mp found with exact | second
    · obtain ⟨⟨j, k⟩, member, rfl⟩ := List.mem_map.mp exact
      obtain rfl : j = i := Option.some.inj named
      exact ⟨j, k, .inl ⟨member, rfl⟩⟩
    · cases gate : d.gate options with
      | off => rw [gate] at second; cases second
      | blocked =>
        rw [gate] at second
        cases List.mem_singleton.mp second
        cases named
      | passed _ =>
        rw [gate] at second
        obtain ⟨⟨j, k, s⟩, member, rfl⟩ := List.mem_map.mp second
        obtain rfl : j = i := Option.some.inj named
        exact ⟨j, k, .inr ⟨s, member, rfl⟩⟩
  | _ => cases found

theorem Step.alters_row [Libraries] (step : Step) {c : Change} (made : c ∈ (step.apply options threshold rows).changes) :
    step.Alters options threshold rows c.row c := by
  cases step with
  | format transforms =>
    obtain ⟨formatted, inside, here⟩ := List.mem_flatMap.mp made
    obtain ⟨⟨row, j⟩, place, rfl⟩ := List.mem_map.mp inside
    obtain rfl : c.row = j := FieldTransform.formatRow_numbers transforms j row c here
    exact ⟨row, c.row, List.mem_zipIdx_iff_getElem?.mp place, here⟩
  | dedupe d =>
    rw [Step.apply, Dedupe.apply, Dedupe.run_changes, (Dedupe.run_phases Similarity.score d options threshold rows).changed]
      at made
    obtain ⟨⟨j, k⟩, member, found⟩ := List.mem_filterMap.mp made
    obtain rfl : c.row = j := Dedupe.changeAt_row found
    obtain ⟨row, here, found⟩ := Option.bind_eq_some_iff.mp found
    obtain ⟨other, there, found⟩ := Option.bind_eq_some_iff.mp found
    exact ⟨c.row, k, row, other, member, here, there, found⟩
  | _ => cases made

theorem map_range (touch : Row → Row) (rows : List Row) :
    (rows.map touch).map some = (List.range rows.length).map fun i => rows[i]?.map touch := by
  refine List.ext_getElem (by simp) fun i _ inside => ?_
  have known : i < rows.length := by simpa using inside
  simp [known]

theorem map_range_self (rows : List Row) : rows.map some = (List.range rows.length).map fun i => rows[i]?.map id := by
  rw [← map_range, List.map_id]

theorem Step.kept_rows [Libraries] (step : Step) (options : RunOptions) (threshold : Double) (rows : List Row) :
    (step.apply options threshold rows).rows.map some =
      (step.kept options threshold rows).map fun i => rows[i]?.map step.touch := by
  cases step with
  | mapColumns c => exact map_range c.mapRow rows
  | format transforms =>
    change _ = (List.range rows.length).map fun i => rows[i]?.map (Step.format transforms).touch
    rw [← map_range (Step.format transforms).touch rows]
    simp only [Step.apply, FieldTransform.formatRows, List.map_map]
    rw [← List.zipIdx_map_fst 0 rows, List.map_map, List.zipIdx_map_fst]
    refine List.map_congr_left fun place _ => ?_
    exact congrArg some (FieldTransform.formatRow_row transforms place.2 0 place.1)
  | dedupe d =>
    have rows := (Dedupe.run_phases Similarity.score d options threshold rows).result
    simp only [Step.apply, Dedupe.apply, Dedupe.run_rows, Step.kept, Dedupe.runLedger, Dedupe.ledger, rows]
    refine List.map_congr_left fun i _ => ?_
    exact (Option.map_id' ).symm
  | validate rules => exact map_range_self rows
  | writeBack target => exact map_range_self rows

theorem Step.kept_ordered (step : Step) (options : RunOptions) (threshold : Double) (rows : List Row) :
    (step.kept options threshold rows).Pairwise (· < ·) ∧ ∀ i ∈ step.kept options threshold rows, i < rows.length := by
  cases step with
  | dedupe d =>
    have phases := Dedupe.run_phases Similarity.score d options threshold rows
    refine ⟨phases.kept_ordered, fun i member => ?_⟩
    have place := phases.places.mem_iff.mp (List.mem_append_left _ (List.mem_append_left _ member))
    exact List.mem_range.mp place
  | _ => exact ⟨List.pairwise_lt_range, fun i member => List.mem_range.mp member⟩

end

theorem Lineage.length [Libraries] {steps : List Step} {rows after : List Row} {origins : List Nat}
    (lineage : Lineage steps rows after origins) : origins.length = after.length := by
  simpa using (congrArg List.length lineage.descends).symm

theorem Lineage.at [Libraries] {steps : List Step} {rows after : List Row} {origins : List Nat} {i o : Nat}
    (lineage : Lineage steps rows after origins) (origin : origins[i]? = some o) :
    after[i]? = rows[o]?.map (touchAll steps) := by
  have place := congrArg (·[i]?) lineage.descends
  simp only [List.getElem?_map, origin, Option.map_some] at place
  cases here : after[i]? with
  | none => rw [here] at place; cases place
  | some row => rw [here] at place; exact Option.some.inj place

theorem Lineage.next [Libraries] {before : List Step} {rows : List Row} {s : Stage} (options : RunOptions) (threshold : Double)
    (lineage : Lineage before rows s.rows s.origins) :
    Lineage (before ++ [s.step]) rows (s.outcome options threshold).rows (s.nextOrigins options threshold) := by
  obtain ⟨sorted, inside⟩ := s.step.kept_ordered options threshold s.rows
  have known (i : Nat) (member : i ∈ s.step.kept options threshold s.rows) : ∃ o, s.origins[i]? = some o := by
    have less := inside i member
    rw [← lineage.length] at less
    exact ⟨_, List.getElem?_eq_getElem less⟩
  refine ⟨?_, ?_, ?_⟩
  · refine List.Pairwise.filterMap _ ?_ sorted
    intro i j less o origin p other
    obtain ⟨inI, rfl⟩ := List.getElem?_eq_some_iff.mp origin
    obtain ⟨inJ, rfl⟩ := List.getElem?_eq_some_iff.mp other
    exact List.pairwise_iff_getElem.mp lineage.ordered i j inI inJ less
  · intro o member
    obtain ⟨i, _, origin⟩ := List.mem_filterMap.mp member
    exact lineage.within o (List.mem_of_getElem? origin)
  · rw [Stage.outcome, Step.kept_rows, Stage.nextOrigins]
    generalize s.step.kept options threshold s.rows = kept at known
    induction kept with
    | nil => rfl
    | cons i rest ih =>
      obtain ⟨o, origin⟩ := known i (by simp)
      rw [List.map_cons, List.filterMap_cons, origin, List.map_cons,
        ih (fun j member => known j (List.mem_cons_of_mem _ member)), lineage.at origin, Option.map_map]
      congr 2
      funext row
      simp [touchAll]

theorem stagesFrom_lineage [Libraries] (options : RunOptions) (threshold : Double) {rows : List Row} (steps : List Step)
    {before : List Step} {given : List Row} {origins : List Nat} (lineage : Lineage before rows given origins)
    {n : Nat} {s : Stage} (here : (stagesFrom options threshold steps given origins)[n]? = some s) :
    steps[n]? = some s.step ∧ Lineage (before ++ steps.take n) rows s.rows s.origins := by
  induction steps generalizing before given origins n with
  | nil => cases here
  | cons step rest ih =>
    cases n with
    | zero =>
      cases here
      exact ⟨rfl, by simpa using lineage⟩
    | succ n =>
      have next := lineage.next (s := ⟨step, given, origins⟩) options threshold
      obtain ⟨same, later⟩ := ih next here
      exact ⟨same, by simpa using later⟩

-- What a run reports is what its steps report, one after the other.
theorem foldl_stages [Libraries] (options : RunOptions) (threshold : Double) (steps : List Step) (o : Outcome) (origins : List Nat) :
    (steps.foldl (Outcome.next options threshold) o).findings =
      o.findings ++ (stagesFrom options threshold steps o.rows origins).flatMap (·.outcome options threshold |>.findings) ∧
    (steps.foldl (Outcome.next options threshold) o).changes =
      o.changes ++ (stagesFrom options threshold steps o.rows origins).flatMap (·.outcome options threshold |>.changes) := by
  induction steps generalizing o origins with
  | nil => simp [stagesFrom]
  | cons step rest ih =>
    obtain ⟨findings, changes⟩ := ih (o.next options threshold step)
      (Stage.nextOrigins options threshold ⟨step, o.rows, origins⟩)
    rw [List.foldl_cons, findings, changes]
    simp [stagesFrom, Outcome.next, Stage.outcome]

-- In a list of growing numbers, a number is its place and the numbers below it that are missing.
theorem growing_place {numbers : List Nat} (growing : numbers.Pairwise (· < ·)) (here : numbers[i]? = some o) :
    o = i + ((List.range o).filter fun k => !numbers.contains k).length := by
  obtain ⟨inside, rfl⟩ := List.getElem?_eq_some_iff.mp here
  have sorted := List.pairwise_iff_getElem.mp growing
  have before : numbers.take i = (List.range numbers[i]).filter fun k => numbers.contains k := by
    have members : (numbers.take i).Perm ((List.range numbers[i]).filter fun k => numbers.contains k) := by
      refine (List.perm_ext_iff_of_nodup ?_ (List.nodup_range.filter _)).mpr fun k => ?_
      · exact ((growing.imp Nat.ne_of_lt).sublist (List.take_sublist i numbers))
      · rw [List.mem_filter, List.mem_range, List.contains_iff_mem, List.mem_take_iff_getElem]
        constructor
        · rintro ⟨j, less, rfl⟩
          exact ⟨sorted j i (by omega) inside (by omega), List.getElem_mem _⟩
        · rintro ⟨less, member⟩
          obtain ⟨j, within, rfl⟩ := List.getElem_of_mem member
          refine ⟨j, ?_, rfl⟩
          have earlier : j < i := by
            by_contra late
            rcases Nat.lt_or_eq_of_le (Nat.le_of_not_lt late) with after | rfl
            · exact absurd (sorted i j inside within after) (Nat.lt_asymm less)
            · exact absurd less (Nat.lt_irrefl _)
          omega
    exact members.eq_of_pairwise (fun _ _ _ _ less more => absurd less (Nat.lt_asymm more))
      (growing.sublist (List.take_sublist i numbers)) (List.pairwise_lt_range.filter _)
  have parts := List.length_eq_length_filter_add (l := List.range numbers[i]) (numbers.contains ·)
  rw [← before, List.length_take, List.length_range] at parts
  omega

structure Numbering [Libraries] (recipe : Recipe) (options : RunOptions) (threshold : Double) (rows : List Row) : Prop where
  findings : (recipe.preview options threshold rows).findings =
    (recipe.stages options threshold rows).flatMap fun s => (s.outcome options threshold).findings
  changes : (recipe.preview options threshold rows).changes =
    (recipe.stages options threshold rows).flatMap fun s => (s.outcome options threshold).changes
  -- the rows that a step is given come from those of the start
  lineage : ∀ n s, (recipe.stages options threshold rows)[n]? = some s →
    recipe.steps[n]? = some s.step ∧ Lineage (recipe.steps.take n) rows s.rows s.origins
  -- the number that is told of a row is its place among them
  told : ∀ s ∈ recipe.stages options threshold rows, ∀ f ∈ (s.outcome options threshold).findings, ∀ i,
    f.row = some i → s.step.Finds options threshold s.rows i f
  altered : ∀ s ∈ recipe.stages options threshold rows, ∀ c ∈ (s.outcome options threshold).changes,
    s.step.Alters options threshold s.rows c.row c
  -- at the start the row had the same number, and one more for every row before it that has been dropped
  shift : ∀ s ∈ recipe.stages options threshold rows, ∀ i < s.rows.length, ∃ o, s.origins[i]? = some o ∧
    o = i + ((List.range o).filter fun k => !s.origins.contains k).length

theorem rows_numbered [Libraries] (recipe : Recipe) (options : RunOptions) (threshold : Double) (rows : List Row) :
    Numbering recipe options threshold rows := by
  have start : Lineage [] rows rows (List.range rows.length) :=
    ⟨List.pairwise_lt_range, fun i member => List.mem_range.mp member, map_range_self rows⟩
  obtain ⟨findings, changes⟩ := foldl_stages options threshold recipe.steps (.start rows) (List.range rows.length)
  have lineage (n : Nat) (s : Stage) (here : (recipe.stages options threshold rows)[n]? = some s) :=
    stagesFrom_lineage options threshold recipe.steps start here
  refine ⟨?_, ?_, lineage, ?_, ?_, ?_⟩
  · rw [preview_eq, findings]
    rfl
  · rw [preview_eq, changes]
    rfl
  · exact fun s _ f found i named => s.step.finds_row found named
  · exact fun s _ c made => s.step.alters_row made
  · intro s member i less
    obtain ⟨n, here⟩ := List.getElem?_of_mem member
    obtain ⟨_, line⟩ := lineage n s here
    rw [← line.length] at less
    exact ⟨s.origins[i], List.getElem?_eq_getElem less, growing_place line.ordered (List.getElem?_eq_getElem less)⟩

-- Rows that are named by the places that they had at the start.
structure NamedFromStart [Libraries] (recipe : Recipe) (options : RunOptions) (threshold : Double) (rows : List Row) : Prop where
  told : ∀ s ∈ recipe.stages options threshold rows, ∀ f ∈ (s.outcome options threshold).findings, ∀ o,
    f.row = some o → ∃ i : Nat, s.origins[i]? = some o ∧ s.step.Finds options threshold s.rows i f
  altered : ∀ s ∈ recipe.stages options threshold rows, ∀ c ∈ (s.outcome options threshold).changes,
    ∃ i : Nat, s.origins[i]? = some c.row ∧ s.step.Alters options threshold s.rows i c

-- The second row goes before the third one is asked for its name, which is missing: that is told of the row at place 1.
namespace Renumbered
open Bare

def recipe : Recipe := ⟨"r1", "contacts", 1, [.dedupe ⟨["email"], none⟩, .validate [.required "name" none]]⟩

def rows : List Row := [.ofList [("email", .text "a@x.com"), ("name", .text "Ann")],
  .ofList [("email", .text "a@x.com"), ("name", .text "Ann")], .ofList [("email", .text "b@x.com")]]

theorem renumbered_after_drop : ¬ NamedFromStart recipe ⟨false⟩ (.ofRatio false 9 10) rows := by
  intro named
  have second : (recipe.stages ⟨false⟩ (.ofRatio false 9 10) rows)[1]?.map
      (fun s => (s.origins, (s.outcome ⟨false⟩ (.ofRatio false 9 10)).findings.map (·.row))) =
      some ([0, 2], [some 1]) := by
    rfl
  obtain ⟨s, here, found⟩ := Option.map_eq_some_iff.mp second
  obtain ⟨origins, findings⟩ := Prod.mk.inj found
  obtain ⟨f, member, row⟩ := List.mem_map.mp (show some 1 ∈ _ from findings ▸ List.mem_singleton_self _)
  obtain ⟨i, origin, _⟩ := named.told s (List.mem_of_getElem? here) f member 1 row
  have place := List.mem_of_getElem? origin
  rw [origins] at place
  exact absurd place (by decide)

end Renumbered
end TidyRows
