import Mathlib.Data.List.Range
import TidyRows.Proofs.Upsert.Traffic
import TidyRows.Upsert.Course
namespace TidyRows

theorem insertOutcome_perm (o : RowOutcome) (os : List RowOutcome) : (insertOutcome o os).Perm (o :: os) := by
  induction os with
  | nil => exact .refl _
  | cons first rest ih =>
    rw [insertOutcome]
    split
    · exact .refl _
    · exact (ih.cons first).trans (.swap o first rest)

theorem insertOutcome_sorted (sorted : (os.map (·.row)).Pairwise (· ≤ ·)) :
    ((insertOutcome o os).map (·.row)).Pairwise (· ≤ ·) := by
  induction os with
  | nil => simp [insertOutcome]
  | cons first rest ih =>
    obtain ⟨below, sorted'⟩ := List.pairwise_cons.mp sorted
    rw [insertOutcome]
    split
    · rename_i smaller
      refine List.pairwise_cons.mpr ⟨?_, sorted⟩
      intro row member
      rcases List.mem_cons.mp member with rfl | member
      · exact smaller
      · exact Nat.le_trans smaller (below row member)
    · rename_i larger
      refine List.pairwise_cons.mpr ⟨?_, ih sorted'⟩
      intro row member
      rcases List.mem_cons.mp (((insertOutcome_perm o rest).map _).mem_iff.mp member) with rfl | member
      · exact Nat.le_of_not_le larger
      · exact below row member

namespace Traffic
variable {p : UpsertPlan} {policy : RetryPolicy} {t next : Traffic}

theorem outcomes_perm (t : Traffic) : t.outcomes.Perm t.ended := by
  unfold outcomes
  induction t.ended with
  | nil => exact .refl _
  | cons first rest ih => exact (insertOutcome_perm _ _).trans (ih.cons first)

theorem outcomes_sorted (t : Traffic) : (t.outcomes.map (·.row)).Pairwise (· ≤ ·) := by
  unfold outcomes
  induction t.ended with
  | nil => exact .nil
  | cons first rest ih => exact insertOutcome_sorted ih

theorem outcomes_rows (rows : (t.ended.map (·.row)).Perm (List.range' first count)) :
    t.outcomes.map (·.row) = List.range' first count :=
  (t.outcomes_perm.map _ |>.trans rows).eq_of_pairwise (fun _ _ _ _ => Nat.le_antisymm) t.outcomes_sorted
    List.pairwise_le_range'

def started (t : Traffic) : List Nat := t.ended.map (·.row) ++ t.flights.map (·.row)

theorem finish_started (valid : t.Valid p) (member : f ∈ t.flights) :
    (t.finish f write attempt answer).started.Perm t.started := by
  have others : f.row ∉ (t.flights.filter (·.row != f.row)).map (·.row) := by
    intro inside
    obtain ⟨g, stays, same⟩ := List.mem_map.mp inside
    simp [same] at stays
  have left : (f.row :: (t.flights.filter (·.row != f.row)).map (·.row)).Nodup :=
    List.nodup_cons.mpr ⟨others, valid.distinct.sublist (List.filter_sublist.map _)⟩
  have rows : (f.row :: (t.flights.filter (·.row != f.row)).map (·.row)).Perm (t.flights.map (·.row)) := by
    refine (List.perm_ext_iff_of_nodup left valid.distinct).mpr fun row => ?_
    simp only [List.mem_cons, List.mem_map, List.mem_filter, bne_iff_ne]
    constructor
    · rintro (rfl | ⟨g, ⟨inside, _⟩, rfl⟩)
      · exact ⟨f, member, rfl⟩
      · exact ⟨g, inside, rfl⟩
    · rintro ⟨g, inside, rfl⟩
      by_cases same : g.row = f.row
      · exact .inl same
      · exact .inr ⟨g, ⟨inside, same⟩, rfl⟩
  simpa [started, finish] using (rows.append_left (t.ended.map (·.row)))

theorem event_started (valid : t.Valid p) (late : ∀ row data, event ≠ .enter row data)
    (step : Step p policy t event next) : next.started.Perm t.started := by
  cases step with
  | enter => exact absurd rfl (late _ _)
  | proceed => simp [proceed, started, setPhase_rows]; exact .refl _
  | ended found => exact finish_started valid (flight?_mem found).1
  | failed => simp [started, setPhase_rows]; exact .refl _
  | resumed => simp [started, setPhase_rows]; exact .refl _

end Traffic

namespace Course
variable {p : UpsertPlan} {policy : RetryPolicy} {room : Nat} {rows : List Row} {c next : Course}

theorem numbered_getElem? (rows : List Row) (i : Nat) : (numbered rows)[i]? = rows[i]?.map fun row => (i, row) := by
  simp [numbered, List.getElem?_zipIdx, Function.comp_def]

theorem numbered_length (rows : List Row) : (numbered rows).length = rows.length := by simp [numbered]

theorem numbered_rows (rows : List Row) : (numbered rows).map (·.2) = rows := by
  rw [numbered, List.map_map]
  exact List.zipIdx_map_fst 0 rows

theorem numbered_numbers (rows : List Row) : (numbered rows).map (·.1) = List.range rows.length := by
  rw [numbered, List.map_map, List.range_eq_range']
  exact List.zipIdx_map_snd 0 rows

theorem numbered_drop (next : (numbered rows).drop n = (i, data) :: rest) :
    i = n ∧ rows[n]? = some data ∧ rest = (numbered rows).drop (n + 1) := by
  have head : (numbered rows)[n]? = some (i, data) := by
    rw [← List.head?_drop, next]; rfl
  rw [numbered_getElem?] at head
  obtain ⟨row, found, equal⟩ := Option.map_eq_some_iff.mp head
  cases equal
  exact ⟨rfl, found, by rw [← List.tail_drop, next]; rfl⟩

theorem batchesFrom_flatten (size : Nat) (items current : List α) :
    (batchesFrom size items current).flatten = current ++ items := by
  induction items generalizing current with
  | nil =>
    rw [batchesFrom]
    split
    · rename_i empty; simp [List.isEmpty_iff.mp empty]
    · simp
  | cons item rest ih =>
    rw [batchesFrom]
    split
    · rw [List.flatten_cons, ih]; simp
    · rw [ih]; simp

theorem batchesFrom_full (size : Nat) (items current : List α) :
    ∀ part ∈ batchesFrom size items current, part ≠ [] := by
  induction items generalizing current with
  | nil =>
    rw [batchesFrom]
    split
    · simp
    · rename_i some
      intro part member
      rw [List.mem_singleton.mp member]
      simpa using some
  | cons item rest ih =>
    rw [batchesFrom]
    split
    · intro part member
      rcases List.mem_cons.mp member with rfl | later
      · simp
      · exact ih [] part later
    · exact ih _

theorem range_joined (first count : Nat) :
    List.range first ++ List.range' first count = List.range (first + count) := by
  rw [List.range_eq_range', List.range_eq_range']
  simpa using List.range'_append_1 (s := 0) (m := first) (n := count)

-- Of the rows `0, 1, …`, the first ones belong to earlier batches, the next `count` ones have started in this
-- batch, and the others are still to come, unless the run has been called off.
structure Ordered (rows : List Row) (c : Course) (first count : Nat) : Prop where
  done : c.done.map (·.row) = List.range first
  started : c.traffic.started.Perm (List.range' first count)
  rest : c.waiting ++ c.later.flatten ++ c.left = (numbered rows).drop (first + count)
  within : first + count ≤ rows.length
  off : c.left ≠ [] → c.waiting = [] ∧ c.later = []

structure Valid (p : UpsertPlan) (rows : List Row) (c : Course) : Prop where
  traffic : c.traffic.Valid p
  data : ∀ f ∈ c.traffic.flights, rows[f.row]? = some f.data
  ordered : ∃ first count, c.Ordered rows first count

theorem start_valid (settings : UpsertSettings) (rows : List Row) (index : KeyIndex) :
    (start settings rows index).Valid p rows := by
  refine ⟨Traffic.start_valid index, by simp [start, Traffic.start], 0, 0, ?_, ?_, ?_, Nat.zero_le _, ?_⟩
  · rfl
  · exact .refl _
  · simp [start, batches, batchesFrom_flatten]
  · simp [start]

theorem step_data (valid : c.Valid p rows) (step : Step p policy room c deeds next) :
    ∀ f ∈ next.traffic.flights, rows[f.row]? = some f.data := by
  obtain ⟨first, count, ordered⟩ := valid.ordered
  cases step with
  | batch ended => simp [Traffic.nextBatch, ended]
  | @row i data rest after waits fits went =>
    have rest := ordered.rest
    rw [waits, List.cons_append, List.cons_append] at rest
    obtain ⟨rfl, found, _⟩ := numbered_drop rest.symm
    cases Traffic.advance_sound went with
    | enter fresh =>
      obtain ⟨f, joined⟩ := Traffic.enter_joined p c.traffic (first + count) data
      intro g member
      rcases joined.mem.mp member with old | rfl
      · exact valid.data g old
      · rw [joined.sameRow, joined.sameData, found]
  | event late went =>
    have kept {row phase} : ∀ g ∈ (c.traffic.setPhase row phase).flights, rows[g.row]? = some g.data := by
      intro g member
      obtain ⟨f, inside, sameRow, sameData, _⟩ := Traffic.setPhase_mem member
      rw [sameRow, sameData]
      exact valid.data f inside
    cases Traffic.advance_sound went with
    | enter => exact absurd rfl (late _ _)
    | proceed => exact kept
    | ended => exact fun g stays => valid.data g (Traffic.mem_finish.mp stays).1
    | failed => exact kept
    | resumed => exact kept
  | stop => exact valid.data

theorem nextBatch_valid {t : Traffic} (valid : t.Valid p) (idle : t.flights = []) : t.nextBatch.Valid p := by
  have unlocked : ∀ key lock, t.locks.get? key ≠ some lock := by
    intro key lock leads
    obtain ⟨f, member, _⟩ := valid.wanted key lock leads
    rw [idle] at member
    cases member
  constructor <;> simp [Traffic.nextBatch, idle, unlocked]

theorem step_traffic (valid : c.Valid p rows) (step : Step p policy room c deeds next) : next.traffic.Valid p := by
  cases step with
  | batch ended => exact nextBatch_valid valid.traffic ended
  | row _ _ went => exact Traffic.step_valid valid.traffic (Traffic.advance_sound went)
  | event _ went => exact Traffic.step_valid valid.traffic (Traffic.advance_sound went)
  | stop => exact valid.traffic

theorem step_ordered (valid : c.Valid p rows) (step : Step p policy room c deeds next) :
    ∃ first count, next.Ordered rows first count := by
  obtain ⟨first, count, ordered⟩ := valid.ordered
  cases step with
  | batch idle waits later =>
    have rows : c.traffic.outcomes.map (·.row) = List.range' first count := by
      have started := ordered.started
      rw [Traffic.started, idle, List.map_nil, List.append_nil] at started
      exact Traffic.outcomes_rows started
    refine ⟨first + count, 0, ?_, ?_, ?_, ordered.within, ?_⟩
    · rw [List.map_append, ordered.done, rows, range_joined]
    · simp [Traffic.started, Traffic.nextBatch, idle]
    · have rest := ordered.rest
      rw [waits, later] at rest
      simpa using rest
    · intro off
      have none := (ordered.off off).2
      rw [later] at none
      cases none
  | @row i data rest after waits fits went =>
    have later := ordered.rest
    rw [waits, List.cons_append, List.cons_append] at later
    obtain ⟨rfl, found, tail⟩ := numbered_drop later.symm
    cases Traffic.advance_sound went with
    | enter fresh =>
      obtain ⟨f, joined⟩ := Traffic.enter_joined p c.traffic (first + count) data
      have inside := (List.getElem?_eq_some_iff.mp found).1
      refine ⟨first, count + 1, ordered.done, ?_, tail, inside, ?_⟩
      · rw [Traffic.started, joined.flights, joined.ended, List.map_append, ← List.append_assoc, List.range'_1_concat]
        exact ordered.started.append (by simp [joined.sameRow])
      · intro off
        have none := (ordered.off off).1
        rw [waits] at none
        cases none
  | event late went =>
    exact ⟨first, count, ordered.done,
      (Traffic.event_started valid.traffic late (Traffic.advance_sound went)).trans ordered.started,
      ordered.rest, ordered.within, ordered.off⟩
  | stop =>
    refine ⟨first, count, ordered.done, ordered.started, ?_, ordered.within, fun _ => ⟨rfl, rfl⟩⟩
    rw [← ordered.rest]
    rfl

theorem reached_valid (reached : Reached p policy room origin log c) (valid : origin.Valid p rows) :
    c.Valid p rows := by
  induction reached with
  | start => exact valid
  | step _ step ih => exact ⟨step_traffic ih step, step_data ih step, step_ordered ih step⟩

end Course
end TidyRows
