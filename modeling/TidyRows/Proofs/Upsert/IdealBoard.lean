import TidyRows.Proofs.Upsert.RunCourse
namespace TidyRows

structure SheetItem where
  id : String
  columns : Columns

structure Sheet where
  items : List SheetItem
  distinct : (items.map (·.id)).Nodup

namespace Sheet

def ids (s : Sheet) : List String := s.items.map (·.id)

def add (s : Sheet) (id : String) (columns : Columns) (new : id ∉ s.ids) : Sheet where
  items := s.items ++ [⟨id, columns⟩]
  distinct := by
    rw [List.map_append, List.nodup_append]
    refine ⟨s.distinct, by simp, ?_⟩
    intro old inside other added same
    rw [List.map_singleton, List.mem_singleton] at added
    rw [same, added] at inside
    exact new inside

def overwritten (id : String) (columns : Columns) (item : SheetItem) : SheetItem :=
  if item.id = id then { item with columns := item.columns.putAll columns.entries } else item

theorem overwritten_id (id : String) (columns : Columns) (item : SheetItem) :
    (overwritten id columns item).id = item.id := by
  unfold overwritten
  split <;> rfl

def overwrite (s : Sheet) (id : String) (columns : Columns) : Sheet where
  items := s.items.map (overwritten id columns)
  distinct := by
    rw [List.map_map]
    exact (List.map_congr_left fun item _ => overwritten_id id columns item) ▸ s.distinct

@[simp] theorem add_items (s : Sheet) (id : String) (columns : Columns) (new : id ∉ s.ids) :
    (s.add id columns new).items = s.items ++ [⟨id, columns⟩] := rfl

@[simp] theorem overwrite_items (s : Sheet) (id : String) (columns : Columns) :
    (s.overwrite id columns).items = s.items.map (overwritten id columns) := rfl

end Sheet

structure IdealBoard where
  fresh : List String → String
  new : ∀ ids, fresh ids ∉ ids
  duration : Write → Nat

def IdealBoard.board (ideal : IdealBoard) : Board Sheet where
  fetch _ _ column limit s :=
    ⟨.ok ((s.items.take limit).map fun item => ⟨item.id, cellText (item.columns.get? column)⟩), 0, 0, s⟩
  write _ _ write s := match write with
    | .create _ columns =>
      ⟨.ok (ideal.fresh s.ids), ideal.duration write, 0, s.add (ideal.fresh s.ids) columns (ideal.new _)⟩
    | .update id columns => ⟨.ok id, ideal.duration write, 0, s.overwrite id columns⟩

def unstopped : StopTime σ := fun _ => none

section
variable {σ : Type} {board : Board σ} {policy : RetryPolicy} {p : UpsertPlan} {all rows : List (Nat × Row)}
  {Inv : List (Nat × Row) → List RowOutcome → KeyIndex → σ → Prop}

theorem upsertInTurn_preserves
    (step : ∀ taken rest os i row s, all = taken ++ (i, row) :: rest → Inv taken os s.index s.state →
      Inv (taken ++ [(i, row)]) (os ++ [(upsertRow board policy p i row s).1])
        (upsertRow board policy p i row s).2.index (upsertRow board policy p i row s).2.state)
    (split : all = taken ++ rows ++ later) (holds : Inv taken os s.index s.state) :
    (upsertInTurn board unstopped policy p rows s).1.length = rows.length ∧
      Inv (taken ++ rows) (os ++ (upsertInTurn board unstopped policy p rows s).1)
        (upsertInTurn board unstopped policy p rows s).2.index
        (upsertInTurn board unstopped policy p rows s).2.state := by
  induction rows generalizing taken os s with
  | nil => exact ⟨rfl, by simpa [upsertInTurn] using holds⟩
  | cons next rest ih =>
    obtain ⟨i, row⟩ := next
    have one := step taken (rest ++ later) os i row s (by simpa using split) holds
    obtain ⟨length, all'⟩ := ih (by simpa using split) one
    constructor
    · simpa [upsertInTurn, unstopped, Progress.stopped] using length
    · simpa [upsertInTurn, unstopped, Progress.stopped] using all'

theorem upsertInTurn_unbroken {stopsAt : StopTime σ}
    (fine : ∀ i row s, (upsertRow board policy p i row s).1.breaks policy = false) (rows : List (Nat × Row))
    (s : Progress σ) :
    Upsert.broken policy (upsertInTurn board stopsAt policy p rows s).1 = false := by
  induction rows generalizing s with
  | nil => rfl
  | cons next rest ih =>
    rw [upsertInTurn]
    split
    · rfl
    · exact Bool.or_eq_false_iff.mpr ⟨fine _ _ _, ih _⟩

theorem allBatches_preserves {settings : UpsertSettings} (single : settings.concurrency ≤ 1)
    (counted : later = [] ∨ settings.retryPolicy.attempts?.isSome)
    (fine : ∀ i row s, (upsertRow board settings.retryPolicy p i row s).1.breaks settings.retryPolicy = false)
    (step : ∀ taken rest os i row s, all = taken ++ (i, row) :: rest → Inv taken os s.index s.state →
      Inv (taken ++ [(i, row)]) (os ++ [(upsertRow board settings.retryPolicy p i row s).1])
        (upsertRow board settings.retryPolicy p i row s).2.index
        (upsertRow board settings.retryPolicy p i row s).2.state)
    (first : Bool) (split : all = taken ++ later.flatten) (holds : Inv taken r.results s.index s.state) :
    ∃ r' s', Upsert.allBatches board unstopped settings p first later r s = (.ok r', s') ∧
      Inv all r'.results s'.index s'.state := by
  induction later generalizing taken first r s with
  | nil => exact ⟨r, s, rfl, by simpa [split] using holds⟩
  | cons rows rest ih =>
    have counted := counted.resolve_left (List.cons_ne_nil _ _)
    obtain ⟨index, state⟩ := Upsert.rested_keeps first s unstopped settings.batchDelay.millisUp
    rw [← index, ← state] at holds
    generalize ran : Upsert.allBatches board unstopped settings p first (rows :: rest) r s = ended
    have proceeds := Upsert.allBatches_proceeds ran
    generalize (if first then s else s.pause unstopped settings.batchDelay.millisUp) = s at holds proceeds
    have batch : Upsert.batch board unstopped settings p rows s =
        upsertInTurn board unstopped settings.retryPolicy p rows s := by rw [Upsert.batch, if_pos single]
    have parts : all = taken ++ rows ++ rest.flatten := by rw [split, List.flatten_cons, List.append_assoc]
    obtain ⟨length, taken'⟩ := upsertInTurn_preserves step parts holds
    rw [← (Upsert.record_all _ r).1] at taken'
    cases proceeds with
    | stopped stops => cases stops
    | overflowed _ uncounted => rw [uncounted] at counted; cases counted
    | broke _ _ breaks =>
      rw [batch, upsertInTurn_unbroken fine] at breaks
      cases breaks
    | short _ _ _ missing =>
      rw [batch, length] at missing
      exact absurd missing (Nat.lt_irrefl _)
    | whole _ _ _ _ later =>
      rw [batch] at later
      subst later
      exact ih (.inr counted) false parts taken'

variable (Inv) in
theorem run_preserves {settings : UpsertSettings} {target : WriteBack} {rows : List Row} {now : Nat} {state : σ}
    (single : settings.concurrency ≤ 1) (counted : rows = [] ∨ settings.retryPolicy.attempts?.isSome)
    (plan : UpsertPlan.ofTarget target = .ok p)
    (shown : (Upsert.snapshot board settings.itemLimit p now state).answer = .ok index)
    (fine : ∀ i row s, (upsertRow board settings.retryPolicy p i row s).1.breaks settings.retryPolicy = false)
    (step : ∀ taken rest os i row s, numbered rows = taken ++ (i, row) :: rest → Inv taken os s.index s.state →
      Inv (taken ++ [(i, row)]) (os ++ [(upsertRow board settings.retryPolicy p i row s).1])
        (upsertRow board settings.retryPolicy p i row s).2.index
        (upsertRow board settings.retryPolicy p i row s).2.state)
    (holds : Inv [] [] index (Upsert.snapshot board settings.itemLimit p now state).after) :
    ∃ r final, (Upsert.run board unstopped settings target rows now state).result = .ok r ∧
      Inv (numbered rows) r.results final (Upsert.run board unstopped settings target rows now state).state := by
  have flat : numbered rows = [] ++ (batches (max settings.batchSize 1) (numbered rows)).flatten := by
    rw [batches, Course.batchesFrom_flatten]
    rfl
  have counted : batches (max settings.batchSize 1) (numbered rows) = [] ∨ settings.retryPolicy.attempts?.isSome :=
    counted.imp_left fun none => by rw [none]; rfl
  obtain ⟨r, s, ran, all⟩ := allBatches_preserves (r := .empty)
    (s := ⟨index, now + (Upsert.snapshot board settings.itemLimit p now state).duration, _⟩) single counted fine step true
    flat holds
  simp only [Upsert.run, plan, shown, ran]
  exact ⟨r, s.index, rfl, all⟩

end

namespace Upsert
variable {σ : Type} {board : Board σ} {p : UpsertPlan} {settings : UpsertSettings} {target : WriteBack} {rows : List Row}
  {now : Nat} {state : σ}

-- Batches that do not give a result have overflowed. If that is because the attempts cannot be counted, nothing has been
-- written.
theorem allBatches_fails {s s' : Progress σ}
    (ran : allBatches board stopsAt settings p first later r s = (.error fault, s')) :
    fault = .overflow ∧ (settings.retryPolicy.attempts? = none → s'.state = s.state) := by
  induction later generalizing first r s with
  | nil => cases ran
  | cons rows rest ih =>
    have kept := (rested_keeps first s stopsAt settings.batchDelay.millisUp).2
    have proceeds := allBatches_proceeds ran
    generalize (if first then s else s.pause stopsAt settings.batchDelay.millisUp) = s at proceeds kept
    cases proceeds with
    | overflowed => exact ⟨rfl, fun _ => kept⟩
    | broke _ counted => exact ⟨rfl, fun uncounted => by rw [uncounted] at counted; cases counted⟩
    | whole _ counted _ _ later =>
      exact ⟨(ih later).1, fun uncounted => by rw [uncounted] at counted; cases counted⟩

theorem run_overflows (settings : UpsertSettings) (plan : UpsertPlan.ofTarget target = .ok p)
    (shown : (snapshot board settings.itemLimit p now state).answer = .ok index)
    (uncounted : settings.retryPolicy.attempts? = none) (some : rows ≠ []) :
    (run board unstopped settings target rows now state).result = .error .overflow ∧
      (run board unstopped settings target rows now state).state =
        (snapshot board settings.itemLimit p now state).after := by
  have flat : (batches (max settings.batchSize 1) (numbered rows)).flatten = numbered rows :=
    Course.batchesFrom_flatten _ _ _
  obtain ⟨first, rest, cut⟩ : ∃ first rest, batches (max settings.batchSize 1) (numbered rows) = first :: rest := by
    refine List.exists_cons_of_ne_nil fun none => some ?_
    rw [none] at flat
    simpa [numbered] using congrArg List.length flat.symm
  simp only [run, plan, shown, cut, allBatches, uncounted]
  exact ⟨rfl, rfl⟩

end Upsert

-- How the rows of a run fare on an ideal board.
section
variable {ideal : IdealBoard} {policy : RetryPolicy} {p : UpsertPlan} {row : Row} {s : Progress Sheet} {id : String}

theorem ideal_creates (i : Nat) (fresh : (p.keyOfRow row).bind s.index.get? = none) :
    upsertRow ideal.board policy p i row s =
      (⟨i, .create, .ok (ideal.fresh s.state.ids), 1⟩,
        ⟨s.index.remember (p.keyOfRow row) (.create (p.itemName row) (p.columns row)) (.ok (ideal.fresh s.state.ids)),
          s.now + ideal.duration (.create (p.itemName row) (p.columns row)),
          s.state.add (ideal.fresh s.state.ids) (p.columns row) (ideal.new _)⟩) := by
  rw [upsertRow, fresh, RetryPolicy.tries, RetryPolicy.runFrom.eq_def]
  rfl

theorem ideal_updates (i : Nat) (known : (p.keyOfRow row).bind s.index.get? = some id) :
    upsertRow ideal.board policy p i row s =
      (⟨i, .update, .ok id, 1⟩, ⟨s.index, s.now + ideal.duration (.update id (p.columns row)),
        s.state.overwrite id (p.columns row)⟩) := by
  have same : s.index.remember (p.keyOfRow row) (.update id (p.columns row)) (.ok id) = s.index := by
    cases p.keyOfRow row <;> rfl
  rw [upsertRow, known, RetryPolicy.tries, RetryPolicy.runFrom.eq_def]
  exact congrArg (fun index => (_, (⟨index, _, _⟩ : Progress Sheet))) same

theorem ideal_unbroken (i : Nat) (row : Row) (s : Progress Sheet) :
    (upsertRow ideal.board policy p i row s).1.breaks policy = false := by
  cases known : (p.keyOfRow row).bind s.index.get? with
  | none => rw [ideal_creates i known]; rfl
  | some id => rw [ideal_updates i known]; rfl

end
end TidyRows
