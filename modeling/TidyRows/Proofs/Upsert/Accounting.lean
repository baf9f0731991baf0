import TidyRows.Board.Rehearsal
import TidyRows.Proofs.Upsert.RunCourse
import TidyRows.Settings.Basic
namespace TidyRows

namespace Course
variable {p : UpsertPlan} {policy : RetryPolicy} {room : Nat} {rows : List Row} {origin c next : Course}
  {log : List Deed}

theorem Valid.outcomes_range (valid : c.Valid p rows) (finished : c.Over) : ∃ k ≤ rows.length,
    c.outcomes.map (·.row) = List.range k ∧ (c.left ≠ [] ↔ k < rows.length) := by
  obtain ⟨first, count, ordered⟩ := valid.ordered
  have started := ordered.started
  rw [Traffic.started, finished.flights, List.map_nil, List.append_nil] at started
  refine ⟨first + count, ordered.within, ?_, ?_⟩
  · rw [outcomes, List.map_append, ordered.done, Traffic.outcomes_rows started, range_joined]
  · have left := ordered.rest
    rw [finished.waiting, finished.later] at left
    have length := congrArg List.length left
    simp [numbered_length] at length
    rw [← List.length_pos_iff, length]
    omega

def begun (c : Course) : List Nat := c.done.map (·.row) ++ c.traffic.started

theorem calling?_begun {t : Traffic} (calling : t.calling? row = some write) : row ∈ t.started := by
  obtain ⟨f, found, _⟩ := Option.bind_eq_some_iff.mp calling
  obtain ⟨member, same⟩ := Traffic.flight?_mem found
  exact List.mem_append_right _ (List.mem_map.mpr ⟨f, member, same⟩)

theorem sent_begun {t : Traffic} {row : Nat}
    (member : d ∈ ((t.calling? row).map fun write => (⟨row, write, answer⟩ : Deed)).toList) : d.row ∈ t.started := by
  obtain ⟨write, calling, rfl⟩ := Option.map_eq_some_iff.mp (Option.mem_toList.mp member)
  exact calling?_begun calling

theorem step_begun (valid : c.Valid p rows) (step : Step p policy room c deeds next) :
    (∀ row ∈ c.begun, row ∈ next.begun) ∧ ∀ d ∈ deeds, d.row ∈ next.begun := by
  cases step with
  | batch idle =>
    refine ⟨fun row member => ?_, by simp⟩
    rw [begun, Traffic.started, idle, List.map_nil, List.append_nil] at member
    rw [begun, List.map_append, List.append_assoc]
    rcases List.mem_append.mp member with old | ended
    · exact List.mem_append_left _ old
    · refine List.mem_append_right _ (List.mem_append_left _ ?_)
      exact (c.traffic.outcomes_perm.map _).mem_iff.mpr ended
  | @row i data rest after _ _ went =>
    cases Traffic.advance_sound went with
    | enter fresh =>
      refine ⟨fun row member => ?_, fun d member => List.mem_append_right _ (sent_begun member)⟩
      obtain ⟨f, joined⟩ := Traffic.enter_joined p c.traffic i data
      rcases List.mem_append.mp member with old | started
      · exact List.mem_append_left _ old
      · refine List.mem_append_right _ ?_
        rw [Traffic.started, joined.flights, joined.ended, List.map_append, ← List.append_assoc]
        exact List.mem_append_left _ started
  | @event event after late went =>
    have same := Traffic.event_started valid.traffic late (Traffic.advance_sound went)
    refine ⟨fun row member => ?_, fun d member => List.mem_append_right _ ?_⟩
    · rcases List.mem_append.mp member with old | started
      · exact List.mem_append_left _ old
      · exact List.mem_append_right _ (same.mem_iff.mpr started)
    · cases event with
      | enter => exact absurd rfl (late _ _)
      | proceed => exact sent_begun member
      | answered => exact same.mem_iff.mpr (sent_begun member)
      | resumed => exact sent_begun member
  | stop => exact ⟨fun row member => member, by simp⟩

theorem reached_begun (reached : Reached p policy room origin log c) (valid : origin.Valid p rows) :
    ∀ d ∈ log, d.row ∈ c.begun := by
  induction reached with
  | start => simp
  | step prior step ih =>
    obtain ⟨kept, new⟩ := step_begun (reached_valid prior valid) step
    intro d member
    rcases List.mem_append.mp member with old | added
    · exact kept _ (ih d old)
    · exact new d added

end Course

structure UpsertResult.Counted (r : UpsertResult) : Prop where
  succeeded : r.succeeded = r.results.countP (·.success)
  failed : r.failed = r.results.countP (!·.success)

namespace Upsert
variable {σ : Type} {r : UpsertResult}

theorem record_counted (counted : r.Counted) (o : RowOutcome) : (r.record o).Counted := by
  obtain ⟨succeeded, failed⟩ := counted
  cases success : o.success <;>
    exact ⟨by simp [UpsertResult.record, success, succeeded], by simp [UpsertResult.record, success, failed]⟩

theorem record_all_counted (counted : r.Counted) (os : List RowOutcome) : (os.foldl .record r).Counted := by
  induction os generalizing r with
  | nil => exact counted
  | cons o rest ih => exact ih (record_counted counted o)

theorem allBatches_counted {board : Board σ} {stopsAt : StopTime σ} {settings : UpsertSettings} {p : UpsertPlan}
    {later : List (List (Nat × Row))} {s s' : Progress σ} (counted : r.Counted)
    (ran : allBatches board stopsAt settings p first later r s = (.ok r', s')) : r'.Counted := by
  induction later generalizing first r s with
  | nil => cases ran; exact counted
  | cons rows rest ih =>
    have proceeds := allBatches_proceeds ran
    generalize (if first then s else s.pause stopsAt settings.batchDelay.millisUp) = s at proceeds
    have recorded := record_all_counted counted (batch board stopsAt settings p rows s).1
    cases proceeds with
    | stopped => exact ⟨counted.succeeded, counted.failed⟩
    | short => exact ⟨recorded.succeeded, recorded.failed⟩
    | whole _ _ _ _ later => exact ih recorded later

theorem run_counted {board : Board σ} {stopsAt : StopTime σ} {settings : UpsertSettings} {target : WriteBack}
    (ran : (run board stopsAt settings target rows now state).result = .ok r) : r.Counted := by
  obtain ⟨p, index, plan, shown⟩ := run_ok ran
  simp only [run, plan, shown] at ran
  exact allBatches_counted ⟨rfl, rfl⟩ (Prod.ext ran rfl)

end Upsert

-- How an entry is written down: with an item if the row succeeded, else with an error.
structure RowOutcome.Written (o : RowOutcome) (fields : List (String × Value)) : Prop where
  entry : o.toValue = .record fields
  row : fields.lookup "rowIndex" = some (.ofNat o.row)
  success : fields.lookup "success" = some (.bool o.success)
  item : (fields.lookup "itemId").isSome = o.success
  error : (fields.lookup "error").isSome = !o.success

theorem RowOutcome.written (o : RowOutcome) : ∃ fields, o.Written fields := by
  cases answer : o.answer with
  | ok id =>
    refine ⟨_, by rw [toValue, answer], ?_, ?_, ?_, ?_⟩ <;> simp [success, answer, lookup_cons_if]
  | error fault =>
    refine ⟨_, by rw [toValue, answer], ?_, ?_, ?_, ?_⟩ <;> simp [success, answer, lookup_cons_if]

-- What the result of a run says about its rows, and about the writes that were sent for them.
structure Upsert.Accounts (board : Board σ) (stopsAt : StopTime σ) (settings : UpsertSettings) (target : WriteBack)
    (rows : List Row) (now : Nat) (state : σ) (ended : Ended σ) (r : UpsertResult) : Prop where
  numbers : r.results.map (·.row) = List.range r.results.length
  within : r.results.length ≤ rows.length
  counted : r.Counted
  total : r.succeeded + r.failed = r.results.length
  entries : ∀ o ∈ r.results, ∃ fields, o.Written fields
  cancelled : r.cancelled = true ↔ r.results.length < rows.length
  -- nothing but the end of the run keeps a row from having its entry
  stopped : r.cancelled = true → (stopsAt ended.state).any (· ≤ ended.now) = true
  -- all writes are those of a course that the run has taken, and their rows have entries
  writes : ∃ p index log c, UpsertPlan.ofTarget target = .ok p ∧
    (snapshot board settings.itemLimit p now state).answer = .ok index ∧
    Course.Reached p settings.retryPolicy (max settings.concurrency 1) (.start settings rows index) log c ∧
    Wrote board p.boardId (snapshot board settings.itemLimit p now state).after (sent log) ended.state ∧
    ∀ d ∈ log, ∃ o ∈ r.results, o.row = d.row

-- Whatever the board answers and whenever a run is called off, a result accounts for all rows.
theorem run_accounts (board : Board σ) (stopsAt : StopTime σ) (settings : UpsertSettings) (target : WriteBack)
    (rows : List Row) (now : Nat) (state : σ) (lasting : stopsAt.Lasting board)
    (ran : (Upsert.run board stopsAt settings target rows now state).result = .ok r) :
    Upsert.Accounts board stopsAt settings target rows now state
      (Upsert.run board stopsAt settings target rows now state) r := by
  obtain ⟨p, index, log, c, s, plan, answer, arrived, sameNow, sameState⟩ := Upsert.run_arrives lasting ran
  have valid := Course.reached_valid arrived.reached (Course.start_valid settings rows index)
  obtain ⟨k, within, numbers, left⟩ := valid.outcomes_range arrived.finished
  rw [← arrived.results] at numbers
  have length : r.results.length = k := by simpa using congrArg List.length numbers
  have counted := Upsert.run_counted ran
  refine ⟨length ▸ numbers, length ▸ within, counted, ?_, fun o _ => o.written, ?_, ?_, p, index, log, c, plan, answer,
    arrived.reached, sameState ▸ arrived.wrote, ?_⟩
  · rw [counted.succeeded, counted.failed]
    simpa using (r.results.length_eq_countP_add_countP (·.success)).symm
  · rw [length, arrived.cancelled, left]
  · intro cancelled
    have stopped := arrived.stopped cancelled
    rwa [Progress.stopped, sameNow, sameState] at stopped
  · intro d member
    have begun := Course.reached_begun arrived.reached (Course.start_valid settings rows index) d member
    have listed : d.row ∈ c.outcomes.map (·.row) := by
      rw [Course.begun, Traffic.started, arrived.finished.flights, List.map_nil, List.append_nil] at begun
      rw [Course.outcomes, List.map_append]
      refine (List.mem_append.mp begun).elim (List.mem_append_left _) fun ended => List.mem_append_right _ ?_
      exact (c.traffic.outcomes_perm.map _).mem_iff.mpr ended
    rw [arrived.results]
    exact List.mem_map.mp listed

theorem rehearsal_lasting : StopTime.Lasting Rehearsal.board Rehearsal.cancelledAt := by
  intro now boardId write r stopped
  have kept : (Rehearsal.board.write now boardId write r).after.cancelledAt =
      Rehearsal.earlier r.cancelledAt (if r.plan.cancelOnCall == some (r.writes + 1) then some now else none) := by
    cases write <;> simp only [Rehearsal.board, Rehearsal.write] <;> split <;> rfl
  rw [kept]
  cases since : r.cancelledAt with
  | none => rw [since] at stopped; cases stopped
  | some time =>
    rw [since] at stopped
    simp only [Option.any_some, decide_eq_true_eq] at stopped
    split
    · simp only [Rehearsal.earlier, Option.any_some, decide_eq_true_eq]
      omega
    · simp only [Rehearsal.earlier, Option.any_some, decide_eq_true_eq]
      omega

-- Two of three rows are in progress when the run is called off.
namespace CalledOff

def rows : List Row :=
  [.ofList [("email", .text "ann")], .ofList [("email", .text "bob")], .ofList [("email", .text "cem")]]

def target : WriteBack :=
  ⟨.externalUpsert, some "contacts", some "email", none, some (.ofList [("email", "mail")]), none⟩

def settings : UpsertSettings := { UpsertSettings.standard with concurrency := 2 }

def board : Rehearsal := .ofPlan ⟨[], none, .empty, [], .ofList [("ann", 5), ("bob", 7)], some 2, none⟩

theorem called_off_accounts : StopTime.Lasting Rehearsal.board Rehearsal.cancelledAt ∧
    ∃ r, (Upsert.run Rehearsal.board Rehearsal.cancelledAt settings target rows 0 board).result = .ok r ∧
      r.results.length = 2 ∧ r.cancelled = true ∧
      Upsert.Accounts Rehearsal.board Rehearsal.cancelledAt settings target rows 0 board
        (Upsert.run Rehearsal.board Rehearsal.cancelledAt settings target rows 0 board) r :=
  ⟨rehearsal_lasting, _, rfl, by decide, by decide,
    run_accounts Rehearsal.board Rehearsal.cancelledAt settings target rows 0 board rehearsal_lasting rfl⟩

end CalledOff
end TidyRows
