import TidyRows.Proofs.Upsert.Course
import TidyRows.Proofs.Upsert.TimedCourse
namespace TidyRows

def Deed.sent? (d : Deed) : Option Write :=
  match d.answer with
  | none => some d.write
  | some _ => none

def sent (log : List Deed) : List Write := log.filterMap Deed.sent?

-- The board's state comes from these writes and no others, at whatever times they were made.
inductive Wrote (board : Board σ) (boardId : String) (before : σ) : List Write → σ → Prop where
  | none : Wrote board boardId before [] before
  | call (prior : Wrote board boardId before writes state) (now : Nat) (write : Write) :
      Wrote board boardId before (writes ++ [write]) (board.write now boardId write state).after

-- A run that is called off stays so, whatever is written.
def StopTime.Lasting (board : Board σ) (stopsAt : StopTime σ) : Prop :=
  ∀ now boardId write state, (stopsAt state).any (· ≤ now) = true →
    (stopsAt (board.write now boardId write state).after).any (· ≤ now) = true

-- What stays the same as long as a batch lasts.
structure Batch (σ : Type) where
  board : Board σ
  stopsAt : StopTime σ
  policy : RetryPolicy
  counted : policy.attempts?.isSome
  plan : UpsertPlan
  room : Nat
  length : Nat
  origin : TimedCourse
  before : σ
  opened : Nat
  done : List RowOutcome
  later : List (List (Nat × Row))

-- The course that has led to some progress within a batch, with the answers that are due. Rows that have not started
-- are waiting, unless the run has been called off.
structure Batch.Follows (b : Batch σ) (s : Progress σ) (waiting : List (Nat × Row)) (told : Chronicle) (c : Course)
    (due : Due) : Prop where
  reached : TimedCourse.Reached b.plan b.policy b.room b.length b.origin told ⟨c, s.now, b.opened, none⟩
  served : ServedAt b.board b.plan.boardId b.before told.deeds due s.state
  index : c.traffic.index = s.index
  done : c.done = b.done
  rows : c.waiting = waiting ∧ c.later = b.later ∧ c.left = [] ∨
    s.stopped b.stopsAt = true ∧ c.waiting = [] ∧ c.later = [] ∧ ∃ first rest, c.left = first :: rest ++ b.later.flatten

theorem sent_append (log deeds : List Deed) : sent (log ++ deeds) = sent log ++ sent deeds :=
  List.filterMap_append

theorem Served.wrote (served : Served board boardId before log due state) :
    Wrote board boardId before (sent log) state := by
  induction served with
  | start => exact .none
  | call prior row write now ih =>
    rw [sent_append]
    exact ih.call now write
  | @reply _ _ _ row answer prior write given ih =>
    have quiet : sent [⟨row, write, some answer⟩] = [] := rfl
    rw [sent_append, quiet, List.append_nil]
    exact ih

namespace Batch.Follows
variable {σ : Type} {b : Batch σ} {s : Progress σ} {state' : σ} {waiting rest : List (Nat × Row)} {told : Chronicle}
  {c : Course} {due due' : Due} {next : Traffic}

theorem open_rows (follows : b.Follows s waiting told c due) (goes : s.stopped b.stopsAt = false) :
    c.waiting = waiting ∧ c.later = b.later ∧ c.left = [] := by
  rcases follows.rows with rows | ⟨stops, _⟩
  · exact rows
  · rw [goes] at stops
    cases stops

theorem waited (follows : b.Follows s waiting told c due) (time : Nat) (passes : s.now ≤ time) :
    b.Follows { s with now := time } waiting told c due := by
  have reached := follows.reached.step (.time passes)
  rw [List.map_nil, List.append_nil] at reached
  refine ⟨reached, follows.served, follows.index, follows.done, follows.rows.imp_right ?_⟩
  rintro ⟨stops, off⟩
  refine ⟨?_, off⟩
  unfold Progress.stopped at stops ⊢
  cases since : b.stopsAt s.state with
  | none => rw [since] at stops; cases stops
  | some stop =>
    simp only [since, Option.any_some, decide_eq_true_eq] at stops ⊢
    omega

theorem happened (follows : b.Follows s waiting told c due) (late : ∀ row data, event ≠ .enter row data)
    (step : Traffic.Step b.plan b.policy c.traffic event next)
    (served : ServedAt b.board b.plan.boardId b.before
      (told.deeds ++ (c.traffic.deeds event next).map (s.now, ·)) due' state')
    (lasts : s.stopped b.stopsAt = true → Progress.stopped { s with state := state' } b.stopsAt = true) :
    b.Follows ⟨next.index, s.now, state'⟩ waiting (told ++ (c.traffic.happenings event next).map (s.now, ·))
      { c with traffic := next } due' := by
  rw [← Chronicle.deeds_happened told s.now step] at served
  refine ⟨follows.reached.step (.event late (Traffic.advance_complete step)), served, rfl, follows.done,
    follows.rows.imp_right ?_⟩
  rintro ⟨stops, off⟩
  exact ⟨lasts stops, off⟩

theorem started (follows : b.Follows s ((i, data) :: rest) told c due) (goes : s.stopped b.stopsAt = false)
    (fits : c.traffic.flights.length < b.room) (fresh : c.traffic.known i = false)
    (served : ServedAt b.board b.plan.boardId b.before
      (told.deeds ++ (c.traffic.deeds (.enter i data) (c.traffic.enter b.plan i data)).map (s.now, ·)) due' state') :
    b.Follows { s with state := state' } rest
      (told ++ (c.traffic.happenings (.enter i data) (c.traffic.enter b.plan i data)).map (s.now, ·))
      { c with traffic := c.traffic.enter b.plan i data, waiting := rest } due' := by
  obtain ⟨waits, later, left⟩ := follows.open_rows goes
  have step : Traffic.Step b.plan b.policy c.traffic (.enter i data) (c.traffic.enter b.plan i data) := .enter fresh
  rw [← Chronicle.deeds_happened told s.now step] at served
  refine ⟨follows.reached.step (.row waits fits (Traffic.advance_complete step) b.counted), served, ?_, follows.done,
    .inl ⟨rfl, later, left⟩⟩
  rw [Traffic.enter_index, follows.index]

theorem stopped (follows : b.Follows s ((i, data) :: rest) told c due) (stops : s.stopped b.stopsAt = true) :
    ∃ c', c'.traffic = c.traffic ∧ ∀ others, b.Follows s others told c' due := by
  rcases follows.rows with ⟨waits, later, left⟩ | off
  · have reached := follows.reached.step .stop
    rw [List.map_nil, List.append_nil] at reached
    refine ⟨_, ?_, fun others => ⟨reached, follows.served, follows.index, follows.done, .inr ⟨stops, rfl, rfl, ?_⟩⟩⟩
    · rfl
    · exact ⟨_, rest, by rw [waits, later, left, List.append_nil]⟩
  · exact ⟨c, rfl, fun others => ⟨follows.reached, follows.served, follows.index, follows.done, .inr off⟩⟩

theorem valid (follows : b.Follows s waiting told c due) (origin : b.origin.course.Valid b.plan all) :
    c.Valid b.plan all := Course.reached_valid follows.reached.untimed origin

end Batch.Follows
namespace Batch
variable {σ : Type} {b : Batch σ} {s : Progress σ} {rest : List (Nat × Row)} {told : Chronicle} {c : Course} {due : Due}
  {f : Flight}

theorem alone_found {t : Traffic} (alone : t.flights = [f]) : t.flight? f.row = some f := by
  simp [Traffic.flight?, alone]

-- All calls for the only row in progress, up to the answer that ends it. The first of them has been made.
theorem Follows.attempts (lasting : b.stopsAt.Lasting b.board)
    (follows : b.Follows { s with state := (b.board.write s.now b.plan.boardId write s.state).after } rest told c due)
    (alone : c.traffic.flights = [f]) (calling : f.phase = .calling write attempt)
    (given : due f.row = some (b.board.write s.now b.plan.boardId write s.state).answer)
    (left : attempt.toNat + n = b.policy.maxRetries.toNat + 1) {a : Attempted String σ}
    (ran : b.policy.runFrom (fun now => b.board.write now b.plan.boardId write) n attempt s.now s.state = a) :
    ∃ told' c' due', b.Follows ⟨s.index.remember f.key write a.answer, a.now, a.after⟩ rest told' c' due' ∧
      c'.traffic.flights = [] ∧
      c'.traffic.ended = c.traffic.ended ++ [⟨f.row, write.action, a.answer, a.attempts⟩] := by
  induction n using Nat.strong_induction_on generalizing s told c due f attempt
  rename_i n ih
  have index : c.traffic.index = s.index := follows.index
  have found := alone_found alone
  have made := follows.waited (s.now + (b.board.write s.now b.plan.boardId write s.state).duration)
    (Nat.le_add_right _ _)
  rcases RetryPolicy.runFrom_cases (fun now => b.board.write now b.plan.boardId write) s.now s.state left with
    ⟨last, ends⟩ | ⟨fault, others, answer, again, rfl, goes⟩
  · rw [ends] at ran
    subst ran
    have served := made.served.reply write (s.now + (b.board.write s.now b.plan.boardId write s.state).duration) given
    rw [← Traffic.deeds_answered found calling] at served
    have ended := made.happened (by simp) (.ended found calling last) served id
    rw [Traffic.finish, index] at ended
    refine ⟨_, _, due, ended, ?_, rfl⟩
    simp [alone]
  · rw [answer] at given
    have served := made.served.reply write (s.now + (b.board.write s.now b.plan.boardId write s.state).duration) given
    rw [← Traffic.deeds_answered found calling] at served
    have failed := made.happened (by simp) (.failed found calling again) served id
    have waits : (c.traffic.setPhase f.row (.pausing write attempt)).flights =
        [{ f with phase := .pausing write attempt }] := by simp [Traffic.setPhase, alone]
    have calls : ((c.traffic.setPhase f.row (.pausing write attempt)).setPhase f.row
        (.calling write (attempt + 1))).flights = [{ f with phase := .calling write (attempt + 1) }] := by
      simp [Traffic.setPhase, alone]
    have deeds : (c.traffic.setPhase f.row (.pausing write attempt)).deeds (.resumed f.row)
        ((c.traffic.setPhase f.row (.pausing write attempt)).setPhase f.row (.calling write (attempt + 1))) =
        [⟨f.row, write, none⟩] := by
      rw [Traffic.deeds, Traffic.calling?, alone_found calls]
      rfl
    have waited := failed.waited _ (Nat.le_add_right _ (b.policy.wait fault attempt
      (b.board.write s.now b.plan.boardId write s.state).clock))
    have called := waited.served.call f.row write (s.now + (b.board.write s.now b.plan.boardId write s.state).duration +
      b.policy.wait fault attempt (b.board.write s.now b.plan.boardId write s.state).clock)
    rw [← deeds] at called
    have resumed := waited.happened (by simp) (.resumed (alone_found waits) rfl) called (lasting _ _ _ _)
    rw [goes] at ran
    have next := (RetryPolicy.leaves_counted (RetryPolicy.leaves_again again)).2
    obtain ⟨told', c', due', done, idle, ended⟩ := ih others (Nat.lt_succ_self _) (s := ⟨c.traffic.index, _, _⟩) resumed
      calls rfl (Function.update_self ..) (by omega) ran
    rw [← index]
    exact ⟨told', c', due', done, idle, ended⟩

-- An idle traffic has no locks, so a row that starts there calls at once.
theorem Follows.taken (lasting : b.stopsAt.Lasting b.board) (follows : b.Follows s ((i, data) :: rest) told c due)
    (goes : s.stopped b.stopsAt = false) (space : 0 < b.room) (idle : c.traffic.flights = [])
    (fresh : c.traffic.known i = false) :
    ∃ told' c' due', b.Follows (upsertRow b.board b.policy b.plan i data s).2 rest told' c' due' ∧
      c'.traffic.flights = [] ∧
      c'.traffic.ended = c.traffic.ended ++ [(upsertRow b.board b.policy b.plan i data s).1] := by
  obtain ⟨f, joined⟩ := Traffic.enter_joined b.plan c.traffic i data
  have alone := joined.flights
  rw [idle, List.nil_append] at alone
  have active : f.phase ≠ .queued := by
    intro queued
    obtain ⟨_, _, _, holds⟩ := joined.waits queued
    rw [Traffic.holder?, idle] at holds
    cases holds
  have calling := joined.phase.resolve_left active
  rw [Traffic.firstCall, follows.index] at calling
  obtain rfl := joined.sameRow
  have deeds : c.traffic.deeds (.enter f.row data) (c.traffic.enter b.plan f.row data) =
      [⟨f.row, b.plan.writeOf data ((b.plan.keyOfRow data).bind s.index.get?), none⟩] := by
    rw [Traffic.deeds, Traffic.calling?, alone_found alone, Option.bind_some, calling]
    rfl
  have called := follows.served.call f.row (b.plan.writeOf data ((b.plan.keyOfRow data).bind s.index.get?)) s.now
  rw [← deeds] at called
  have started := follows.started goes (by rw [idle]; exact space) fresh called
  have left : (1 : UInt32).toNat + b.policy.maxRetries.toNat = b.policy.maxRetries.toNat + 1 := Nat.add_comm _ _
  obtain ⟨told', c', due', done, idle', ended⟩ :=
    started.attempts lasting alone calling (Function.update_self ..) left rfl
  rw [joined.key] at done
  exact ⟨told', c', due', done, idle', by rw [ended, joined.ended]; rfl⟩

end Batch

namespace Course

theorem Valid.fresh {p : UpsertPlan} {rows : List Row} {c : Course} {data : Row} (valid : c.Valid p rows)
    (next : c.waiting = (i, data) :: rest) : c.traffic.known i = false := by
  obtain ⟨first, count, ordered⟩ := valid.ordered
  have others := ordered.rest
  rw [next, List.cons_append, List.cons_append] at others
  obtain ⟨rfl, _, _⟩ := numbered_drop others.symm
  refine Bool.eq_false_iff.mpr fun known => ?_
  have started : first + count ∈ c.traffic.started := by
    rcases Traffic.known_iff.mp known with ⟨f, member, same⟩ | ⟨o, member, same⟩
    · exact List.mem_append_right _ (List.mem_map.mpr ⟨f, member, same⟩)
    · exact List.mem_append_left _ (List.mem_map.mpr ⟨o, member, same⟩)
  have below := (List.mem_range'_1.mp (ordered.started.mem_iff.mp started)).2
  omega

end Course
namespace Batch
variable {σ : Type} {b : Batch σ} {s : Progress σ} {rows : List (Nat × Row)} {told : Chronicle} {c : Course} {due : Due}
  {all : List Row}

theorem Follows.inTurn (lasting : b.stopsAt.Lasting b.board) (origin : b.origin.course.Valid b.plan all) (space : 0 < b.room)
    (follows : b.Follows s rows told c due) (idle : c.traffic.flights = []) :
    ∃ told' c' due', b.Follows (upsertInTurn b.board b.stopsAt b.policy b.plan rows s).2 [] told' c' due' ∧
      c'.traffic.flights = [] ∧
      c'.traffic.ended = c.traffic.ended ++ (upsertInTurn b.board b.stopsAt b.policy b.plan rows s).1 := by
  induction rows generalizing s told c due with
  | nil => exact ⟨told, c, due, follows, idle, (List.append_nil _).symm⟩
  | cons next rest ih =>
    obtain ⟨i, data⟩ := next
    cases stops : s.stopped b.stopsAt with
    | true =>
      obtain ⟨c', same, stopped⟩ := follows.stopped stops
      refine ⟨told, c', due, ?_, same ▸ idle, ?_⟩
      · simpa [upsertInTurn, stops] using stopped []
      · simp [upsertInTurn, stops, same]
    | false =>
      have fresh := (follows.valid origin).fresh (follows.open_rows stops).1
      obtain ⟨told', c', due', taken, idle', ended⟩ := follows.taken lasting stops space idle fresh
      obtain ⟨told'', c'', due'', done, idle'', more⟩ := ih taken idle'
      refine ⟨told'', c'', due'', ?_, idle'', ?_⟩
      · simpa [upsertInTurn, stops] using done
      · simp [upsertInTurn, stops, more, ended]

theorem inTurn_rows (board : Board σ) (stopsAt : StopTime σ) (policy : RetryPolicy) (p : UpsertPlan)
    (rows : List (Nat × Row)) (s : Progress σ) :
    (upsertInTurn board stopsAt policy p rows s).1.map (·.row) <+: rows.map (·.1) := by
  induction rows generalizing s with
  | nil => exact List.prefix_rfl
  | cons next rest ih =>
    rw [upsertInTurn]
    split
    · exact List.nil_prefix
    · exact List.cons_prefix_cons.mpr ⟨rfl, ih _⟩

theorem outcomes_of_sorted (os : List RowOutcome) (sorted : (os.map (·.row)).Pairwise (· ≤ ·)) :
    os.foldr insertOutcome [] = os := by
  induction os with
  | nil => rfl
  | cons first rest ih =>
    obtain ⟨below, sorted⟩ := List.pairwise_cons.mp sorted
    rw [List.foldr_cons, ih sorted]
    cases rest with
    | nil => rfl
    | cons second others => rw [insertOutcome, if_pos (below second.row (by simp))]

def Tracks (b : Batch σ) (s : Schedule σ) : Prop :=
  ∃ told c due, b.Follows s.progress s.unstarted told c due ∧ c.traffic = s.traffic ∧ due.Keeps s.traffic s.answers

section
variable {s next : Schedule σ} {task : Task} {event : Traffic.Event} {traffic : Traffic} {due' : Due} {state' : σ}

theorem Follows.later (follows : b.Follows s.progress s.unstarted told c due) (same : c.traffic = s.traffic)
    (late : task.start? = none) (keeps : due.Keeps s.traffic (task.answer?.toList ++ s.answers)) (wait : Nat) :
    b.Tracks (s.later wait task) := by
  have rows : (s.later wait task).unstarted = s.unstarted := by
    rw [Schedule.unstarted, Schedule.unstarted, Schedule.later_starts _ _ late, Schedule.later_pending]
  refine ⟨told, c, due, ?_, by rw [same, Schedule.later_traffic], ?_⟩
  · rw [rows]
    simpa [Schedule.progress] using follows
  · rw [Schedule.later_traffic]
    exact keeps.perm (s.later_answers wait task)

theorem Tracks.release (tracks : b.Tracks s) (f : Flight) : b.Tracks (s.release f) := by
  obtain ⟨told, c, due, follows, same, keeps⟩ := tracks
  exact ⟨told, c, due, by simpa [Schedule.progress] using follows, by simpa using same, by simpa using keeps⟩

-- A call that a row is about to make is made, and its answer is due from then on.
theorem Follows.call (lasting : b.stopsAt.Lasting b.board) (row : Nat)
    (served : ServedAt b.board b.plan.boardId b.before told.deeds due s.state)
    (goes : ∀ due' state', ServedAt b.board b.plan.boardId b.before
      (told.deeds ++ ((s.traffic.calling? row).map fun w => (⟨row, w, none⟩ : Deed)).toList.map (s.now, ·)) due' state' →
      (s.progress.stopped b.stopsAt = true → Progress.stopped { s.progress with state := state' } b.stopsAt = true) →
      ∃ told' c', b.Follows { s.progress with state := state' } s.unstarted told' c' due' ∧ c'.traffic = s.traffic)
    (keeps : due.Keeps s.traffic s.answers) (apart : ∀ e ∈ s.answers, e.1 ≠ row) :
    b.Tracks (s.call b.board b.plan row) := by
  cases calling : s.traffic.calling? row with
  | none =>
    rw [calling] at goes
    obtain ⟨told', c', follows, same⟩ := goes due s.state (by simpa using served) id
    rw [Schedule.call_quiet calling]
    exact ⟨told', c', due, follows, same, keeps⟩
  | some write =>
    rw [calling] at goes
    obtain ⟨told', c', follows, same⟩ := goes _ _ (served.call row write s.now) (lasting _ _ _ _)
    rw [Schedule.call_makes calling]
    exact Follows.later (s := { s with state := (b.board.write s.now b.plan.boardId write s.state).after }) follows same
      rfl (keeps.calls apart calling _) _

theorem Follows.went (follows : b.Follows s.progress s.unstarted told c due) (same : c.traffic = s.traffic)
    (late : ∀ row data, event ≠ .enter row data) (step : Traffic.Step b.plan b.policy s.traffic event traffic)
    (served : ServedAt b.board b.plan.boardId b.before
      (told.deeds ++ (s.traffic.deeds event traffic).map (s.now, ·)) due' state')
    (lasts : s.progress.stopped b.stopsAt = true →
      Progress.stopped { s.progress with state := state' } b.stopsAt = true) :
    ∃ told' c', b.Follows ⟨traffic.index, s.now, state'⟩ s.unstarted told' c' due' ∧ c'.traffic = traffic := by
  rw [← same] at step served
  exact ⟨_, _, follows.happened late step served lasts, rfl⟩

theorem Follows.answered (follows : b.Follows s.progress s.unstarted told c due) (same : c.traffic = s.traffic)
    (given : due row = some answer) (found : s.traffic.flight? row = some f)
    (calling : f.phase = .calling write attempt)
    (step : Traffic.Step b.plan b.policy s.traffic (.answered row answer) traffic) :
    ∃ told' c', b.Follows ⟨traffic.index, s.now, s.state⟩ s.unstarted told' c' due ∧ c'.traffic = traffic := by
  have served := follows.served.reply write s.now given
  rw [← Traffic.deeds_answered found calling answer traffic] at served
  exact follows.went same (by simp) step served id

theorem Follows.entered {t : Traffic} {s : Progress σ} (follows : b.Follows s ((i, data) :: rest) told c due)
    (same : c.traffic = t) (goes : s.stopped b.stopsAt = false) (fits : t.flights.length < b.room)
    (fresh : t.known i = false)
    (served : ServedAt b.board b.plan.boardId b.before
      (told.deeds ++ (t.deeds (.enter i data) (t.enter b.plan i data)).map (s.now, ·)) due' state') :
    ∃ told' c', b.Follows ⟨(t.enter b.plan i data).index, s.now, state'⟩ rest told' c' due' ∧
      c'.traffic = t.enter b.plan i data := by
  subst same
  rw [Traffic.enter_index, follows.index]
  exact ⟨_, _, follows.started goes fits fresh served, rfl⟩

-- A row that calls is not about to get an answer.
theorem turn_tracks (lasting : b.stopsAt.Lasting b.board)
    (steady : Schedule.Steady b.policy b.plan b.room { s with ready := task :: s.ready })
    (tracks : b.Tracks { s with ready := task :: s.ready })
    (turn : Schedule.Turn b.board b.stopsAt b.policy b.plan s task next) : b.Tracks next := by
  obtain ⟨told, c, due, follows, (same : c.traffic = s.traffic), keeps⟩ := tracks
  have others (silent : task.answer? = none) : due.Keeps s.traffic s.answers := by
    have answers : Schedule.answers { s with ready := task :: s.ready } = s.answers := by
      simp only [Schedule.answers, Schedule.tasks, List.cons_append, List.filterMap_cons, silent]
    rw [answers] at keeps
    exact keeps
  have late (none : task.start? = none) : b.Follows s.progress s.unstarted told c due := by
    have rows : Schedule.unstarted { s with ready := task :: s.ready } = s.unstarted := by
      simp only [Schedule.unstarted, Schedule.starts, List.filterMap_cons, none]
    rw [rows] at follows
    exact follows
  cases turn with
  | skipped stops =>
    obtain ⟨c', kept, stopped⟩ := follows.stopped stops
    refine ⟨told, c', due, by simpa [Schedule.progress] using stopped s.unstarted, ?_, ?_⟩
    · rw [kept, same, Schedule.fill_traffic]
    · rw [Schedule.fill_traffic, Schedule.fill_answers]
      exact others rfl
  | @entered row data goes fresh =>
    have fits := steady.places.within
    simp only [Schedule.starts, List.filterMap_cons, Task.start?, List.length_cons] at fits
    have quiet : s.traffic.calling? row = none := by
      simp only [Traffic.known, Bool.or_eq_false_iff, Option.isSome_eq_false_iff, Option.isNone_iff_eq_none] at fresh
      rw [Traffic.calling?, fresh.1]
      rfl
    have apart := (others rfl).apart quiet
    exact Follows.call lasting row follows.served
      (fun due' state' served _ => follows.entered same goes (by omega) fresh served)
      ((others rfl).passes apart fun r other => Traffic.enter_calling?_other other _ _) apart
  | @proceeded row f ticket found waits has holds =>
    have quiet : s.traffic.calling? row = none := by simp [Traffic.calling?, found, waits]
    have apart := (others rfl).apart quiet
    obtain ⟨member, rfl⟩ := Traffic.flight?_mem found
    exact Follows.call lasting f.row follows.served
      (fun due' state' served lasts => (late rfl).went same (by simp) (.proceed found waits has holds) served lasts)
      ((others rfl).passes apart fun r other => Traffic.setPhase_calling?_other other _) apart
  | @ended row f write attempt answer clock found calling last =>
    obtain ⟨given, rest, apart⟩ := keeps.arrives
    obtain ⟨told', c', went, same'⟩ := (late rfl).answered same given found calling (.ended found calling last)
    obtain ⟨member, rfl⟩ := Traffic.flight?_mem found
    have tracks : b.Tracks { s with traffic := s.traffic.finish f write attempt answer } :=
      ⟨told', c', due, went, same', rest.passes apart fun r other => Traffic.finish_calling?_other other _ _ _⟩
    exact tracks.release f
  | @failed row f write attempt fault clock found calling again =>
    obtain ⟨given, rest, apart⟩ := keeps.arrives
    obtain ⟨told', c', went, same'⟩ := (late rfl).answered same given found calling (.failed found calling again)
    exact Follows.later (s := { s with traffic := s.traffic.setPhase row (.pausing write attempt) }) went same' rfl
      (rest.passes apart fun r other => Traffic.setPhase_calling?_other other _) _
  | @resumed row f write attempt found pausing =>
    have quiet : s.traffic.calling? row = none := by simp [Traffic.calling?, found, pausing]
    have apart := (others rfl).apart quiet
    exact Follows.call lasting row follows.served
      (fun due' state' served lasts => (late rfl).went same (by simp) (.resumed found pausing) served lasts)
      ((others rfl).passes apart fun r other => Traffic.setPhase_calling?_other other _) apart
  | idle none =>
    refine ⟨told, c, due, late none, same, ?_⟩
    cases about : task.answer? with
    | none => exact others about
    | some e =>
      have answers : Schedule.answers { s with ready := task :: s.ready } = e :: s.answers := by
        simp only [Schedule.answers, Schedule.tasks, List.cons_append, List.filterMap_cons, about]
      rw [answers] at keeps
      exact keeps.arrives.2.1

-- What a schedule keeps to from the first task to the last one.
def Sound (b : Batch σ) (s : Schedule σ) : Prop := s.Steady b.policy b.plan b.room ∧ b.Tracks s

theorem perform_sound (lasting : b.stopsAt.Lasting b.board) (origin : b.origin.course.Valid b.plan all)
    (sound : b.Sound { s with ready := task :: s.ready }) :
    b.Sound (s.perform b.board b.stopsAt b.policy b.plan task) ∧
      (s.perform b.board b.stopsAt b.policy b.plan task).weight b.policy <
        Schedule.weight b.policy { s with ready := task :: s.ready } := by
  obtain ⟨steady, tracks⟩ := sound
  have turn : Schedule.Turn b.board b.stopsAt b.policy b.plan s task _ := Schedule.perform_turn task <| by
    rintro row data rfl goes
    obtain ⟨told, c, due, follows, same, _⟩ := tracks
    have new := (follows.valid origin).fresh (follows.open_rows goes).1
    rwa [same] at new
  exact ⟨⟨Schedule.turn_steady steady turn, turn_tracks lasting steady tracks turn⟩, Schedule.turn_weight steady turn⟩

theorem jump_sound {e : Nat × Task} (sound : b.Sound s) (idle : s.ready = []) (next : e ∈ s.agenda)
    (first : ∀ other ∈ s.agenda, e.1 ≤ other.1) :
    b.Sound (s.jump e.1) ∧ (s.jump e.1).weight b.policy < s.weight b.policy := by
  obtain ⟨steady, told, c, due, follows, same, keeps⟩ := sound
  have late := fun e member => (steady.future e member).2
  have rows : (s.jump e.1).unstarted = s.unstarted := by
    rw [Schedule.unstarted, Schedule.jump_starts idle late]; rfl
  have waited := follows.waited e.1 (steady.future e next).1
  rw [← rows] at waited
  exact ⟨⟨Schedule.jump_steady steady idle e.1 first, told, c, due, waited, same,
    keeps.perm (Schedule.jump_answers idle e.1)⟩, Schedule.jump_weight idle late next⟩

end

theorem Follows.together (lasting : b.stopsAt.Lasting b.board) (origin : b.origin.course.Valid b.plan all)
    (space : 0 < b.room) (follows : b.Follows s rows told c due) (fresh : c.traffic = .start s.index) :
    ∃ told' c' due', b.Follows (upsertTogether b.board b.stopsAt b.policy b.plan b.room rows s).2 [] told' c' due' ∧
      c'.traffic.flights = [] ∧
      c'.traffic.outcomes = (upsertTogether b.board b.stopsAt b.policy b.plan b.room rows s).1 := by
  have silent : (Schedule.ofRows b.room rows s).answers = [] := by
    rw [Schedule.answers, Schedule.tasks, Schedule.ofRows, List.map_nil, List.append_nil, List.filterMap_eq_nil_iff]
    intro task member
    obtain ⟨_, _, rfl⟩ := List.mem_map.mp member
    rfl
  have sound : b.Sound (.ofRows b.room rows s) := by
    refine ⟨Schedule.ofRows_steady b.room rows s, told, c, due, ?_, fresh, ?_⟩
    · rw [Schedule.ofRows_unstarted]
      exact follows
    · rw [silent]
      exact ⟨by simp, by simp, by simp⟩
  obtain ⟨⟨steady, told', c', due', done, same, _⟩, idle⟩ := Schedule.run_preserves sound
    (Schedule.ofRows_weight b.room rows s b.policy) (fun _ _ sound => perform_sound lasting origin sound)
    fun _ _ sound => jump_sound sound
  obtain ⟨empty, none⟩ := steady.finished idle
  rw [none space] at done
  exact ⟨told', c', due', done, same ▸ empty, by rw [same]; rfl⟩

-- A batch gets through all its rows unless the run is called off before one of them.
theorem Follows.counted {s' : Progress σ} {told' : Chronicle} {c' : Course} {due' : Due}
    (origin : b.origin.course.Valid b.plan all) (first : b.Follows s rows told c due) (goes : s.stopped b.stopsAt = false)
    (fresh : c.traffic.started = []) (last : b.Follows s' [] told' c' due') (idle : c'.traffic.flights = []) :
    c'.waiting = [] ∧
      (c'.left = [] ∧ c'.later = b.later ∧ c'.traffic.outcomes.length = rows.length ∨
        c'.left ≠ [] ∧ c'.later = [] ∧ s'.stopped b.stopsAt = true ∧ c'.traffic.outcomes.length < rows.length) := by
  obtain ⟨earlier, none, before⟩ := (first.valid origin).ordered
  obtain ⟨earlier', count, after⟩ := (last.valid origin).ordered
  have same : earlier' = earlier := by
    have lists := after.done.symm.trans ((last.done.trans first.done.symm ▸ before.done))
    simpa using congrArg List.length lists
  have nothing : 0 = none := by simpa [fresh] using before.started.length_eq
  have ended : c'.traffic.outcomes.length = count := by
    rw [c'.traffic.outcomes_perm.length_eq]
    simpa [Traffic.started, idle] using after.started.length_eq
  obtain ⟨waits, later, left⟩ := first.open_rows goes
  have start := congrArg List.length before.rest
  have finish := congrArg List.length after.rest
  have within := after.within
  have length := Course.numbered_length all
  rw [waits, later, left, ← nothing] at start
  rw [same] at finish within
  simp only [length, List.length_append, List.length_drop, List.length_nil] at start finish
  rcases last.rows with ⟨waits, later, left⟩ | ⟨stops, waits, later, x, xs, left⟩
  · rw [waits, later, left] at finish
    refine ⟨waits, .inl ⟨left, later, ?_⟩⟩
    simp only [List.length_nil] at finish
    omega
  · rw [waits, later, left] at finish
    refine ⟨waits, .inr ⟨by simp [left], later, stops, ?_⟩⟩
    simp only [List.length_append, List.length_cons, List.length_nil, List.flatten_nil] at finish
    omega

theorem waiting_sorted (origin : b.origin.course.Valid b.plan all) (follows : b.Follows s rows told c due)
    (goes : s.stopped b.stopsAt = false) : (rows.map (·.1)).Pairwise (· ≤ ·) := by
  obtain ⟨first, count, ordered⟩ := (follows.valid origin).ordered
  have part : rows.Sublist (numbered all) := by
    refine List.Sublist.trans ?_ (List.drop_sublist (first + count) (numbered all))
    rw [← ordered.rest, (follows.open_rows goes).1, List.append_assoc]
    exact List.sublist_append_left _ _
  refine List.Pairwise.sublist (part.map _) ?_
  rw [Course.numbered_numbers]
  exact List.pairwise_le_range

theorem Follows.batch {settings : UpsertSettings} (lasting : b.stopsAt.Lasting b.board)
    (origin : b.origin.course.Valid b.plan all) (policy : b.policy = settings.retryPolicy)
    (room : b.room = max settings.concurrency 1) (follows : b.Follows s rows told c due)
    (goes : s.stopped b.stopsAt = false) (fresh : c.traffic = .start s.index) :
    ∃ told' c' due', b.Follows (Upsert.batch b.board b.stopsAt settings b.plan rows s).2 [] told' c' due' ∧
      c'.traffic.flights = [] ∧
      c'.traffic.outcomes = (Upsert.batch b.board b.stopsAt settings b.plan rows s).1 := by
  rw [Upsert.batch, ← policy]
  split
  · obtain ⟨told', c', due', done, idle, ended⟩ := follows.inTurn lasting origin (by omega) (by rw [fresh]; rfl)
    refine ⟨told', c', due', done, idle, ?_⟩
    rw [fresh, Traffic.start, List.nil_append] at ended
    rw [Traffic.outcomes, ended]
    have rows := inTurn_rows b.board b.stopsAt b.policy b.plan rows s
    exact outcomes_of_sorted _ ((waiting_sorted origin follows goes).sublist rows.sublist)
  · have several : settings.concurrency = b.room := by omega
    rw [several]
    exact follows.together lasting origin (by omega) fresh

end Batch

theorem Traffic.nextBatch_start {t : Traffic} (valid : t.Valid p) (idle : t.flights = []) :
    t.nextBatch = .start t.index := by
  have locks : t.locks = .empty := by
    apply Keyed.ext
    refine List.eq_nil_iff_forall_not_mem.mpr fun entry member => ?_
    obtain ⟨f, inside, _⟩ := valid.wanted entry.1 entry.2 (Keyed.get?_eq_some_iff.mpr member)
    rw [idle] at inside
    cases inside
  rw [nextBatch, start, ← locks, ← idle]

namespace Upsert
variable {σ : Type}

-- Where a course stands when a run has got through some of its batches.
structure Between (board : Board σ) (p : UpsertPlan) (policy : RetryPolicy) (room length : Nat) (origin : TimedCourse)
    (before : σ) (first : Bool) (r : UpsertResult) (s : Progress σ) (told : Chronicle) (k : TimedCourse) (due : Due) :
    Prop where
  reached : TimedCourse.Reached p policy room length origin told k
  served : ServedAt board p.boardId before told.deeds due s.state
  now : k.now = s.now
  opened : k.opened = 0 ↔ first = true
  rested : k.restsUntil = none
  index : k.course.traffic.index = s.index
  idle : k.course.traffic.flights = []
  waiting : k.course.waiting = []
  left : k.course.left = []
  results : r.results = k.course.outcomes
  unbroken : broken policy r.results = false
  running : r.cancelled = false

structure Arrived (board : Board σ) (stopsAt : StopTime σ) (p : UpsertPlan) (policy : RetryPolicy) (room : Nat)
    (origin : Course) (before : σ) (r : UpsertResult) (s : Progress σ) (log : List Deed) (c : Course) : Prop where
  reached : Course.Reached p policy room origin log c
  wrote : Wrote board p.boardId before (sent log) s.state
  finished : c.Over
  results : r.results = c.outcomes
  unbroken : broken policy r.results = false
  cancelled : r.cancelled = true ↔ c.left ≠ []
  stopped : r.cancelled = true → s.stopped stopsAt = true

-- What there is to tell of it in the end, and when it has happened.
structure Chronicled (board : Board σ) (p : UpsertPlan) (policy : RetryPolicy) (room length : Nat) (origin : TimedCourse)
    (before : σ) (s : Progress σ) (told : Chronicle) (k : TimedCourse) (due : Due) : Prop where
  reached : TimedCourse.Reached p policy room length origin told k
  served : ServedAt board p.boardId before told.deeds due s.state
  now : k.now = s.now

-- How batches end that have taken a course: with a result, or with an overflow.
inductive Ending (board : Board σ) (stopsAt : StopTime σ) (p : UpsertPlan) (policy : RetryPolicy) (room : Nat)
    (origin : Course) (before : σ) (s : Progress σ) (log : List Deed) (c : Course) : Except Fault UpsertResult → Prop where
  | arrived (arrived : Arrived board stopsAt p policy room origin before r s log c) :
      Ending board stopsAt p policy room origin before s log c (.ok r)
  | uncounted (uncounted : policy.attempts? = none) :
      Ending board stopsAt p policy room origin before s log c (.error .overflow)
  | broken (breaks : broken policy c.outcomes = true) :
      Ending board stopsAt p policy room origin before s log c (.error .overflow)

theorem broken_append (policy : RetryPolicy) (os os' : List RowOutcome) :
    broken policy (os ++ os') = (broken policy os || broken policy os') := List.any_append

theorem record_all (os : List RowOutcome) (r : UpsertResult) :
    (os.foldl .record r).results = r.results ++ os ∧ (os.foldl .record r).cancelled = r.cancelled := by
  induction os generalizing r with
  | nil => simp
  | cons o rest ih =>
    obtain ⟨results, cancelled⟩ := ih (r.record o)
    rw [List.foldl_cons, results, cancelled]
    simp [UpsertResult.record]

theorem record_all_broken (policy : RetryPolicy) (os : List RowOutcome) (r : UpsertResult) :
    broken policy (os.foldl .record r).results = (broken policy r.results || broken policy os) := by
  rw [(record_all os r).1, broken_append]

theorem pause_keeps (s : Progress σ) (stopsAt : StopTime σ) (length : Nat) :
    (s.pause stopsAt length).index = s.index ∧ (s.pause stopsAt length).state = s.state := by
  unfold Progress.pause
  dsimp only
  split <;> exact ⟨rfl, rfl⟩

theorem rested_keeps (first : Bool) (s : Progress σ) (stopsAt : StopTime σ) (length : Nat) :
    (if first then s else s.pause stopsAt length).index = s.index ∧
      (if first then s else s.pause stopsAt length).state = s.state := by
  cases first with
  | true => exact ⟨rfl, rfl⟩
  | false => exact pause_keeps s stopsAt length

theorem pause_length (s : Progress σ) (stopsAt : StopTime σ) (length : Nat) :
    s.now ≤ (s.pause stopsAt length).now ∧
      ((s.pause stopsAt length).stopped stopsAt = false → s.now + length ≤ (s.pause stopsAt length).now) := by
  unfold Progress.stopped Progress.pause
  cases stops : stopsAt s.state with
  | none => exact ⟨Nat.le_add_right _ _, fun _ => Nat.le_refl _⟩
  | some time =>
    simp only [stops, Option.any_some, decide_eq_false_iff_not]
    omega

-- All that can come of batches, behind the pause before the first of them.
inductive Proceeds (board : Board σ) (stopsAt : StopTime σ) (settings : UpsertSettings) (p : UpsertPlan)
    (rows : List (Nat × Row)) (rest : List (List (Nat × Row))) (r : UpsertResult) (s : Progress σ) :
    Except Fault UpsertResult × Progress σ → Prop where
  | stopped (stops : s.stopped stopsAt = true) :
      Proceeds board stopsAt settings p rows rest r s (.ok { r with cancelled := true }, s)
  | overflowed (goes : s.stopped stopsAt = false) (uncounted : settings.retryPolicy.attempts? = none) :
      Proceeds board stopsAt settings p rows rest r s (.error .overflow, s)
  | broke (goes : s.stopped stopsAt = false) (counted : settings.retryPolicy.attempts?.isSome)
      (breaks : broken settings.retryPolicy (batch board stopsAt settings p rows s).1 = true) :
      Proceeds board stopsAt settings p rows rest r s (.error .overflow, (batch board stopsAt settings p rows s).2)
  | short (goes : s.stopped stopsAt = false) (counted : settings.retryPolicy.attempts?.isSome)
      (unbroken : broken settings.retryPolicy (batch board stopsAt settings p rows s).1 = false)
      (missing : (batch board stopsAt settings p rows s).1.length < rows.length) :
      Proceeds board stopsAt settings p rows rest r s
        (.ok { (batch board stopsAt settings p rows s).1.foldl .record r with cancelled := true },
          (batch board stopsAt settings p rows s).2)
  | whole (goes : s.stopped stopsAt = false) (counted : settings.retryPolicy.attempts?.isSome)
      (unbroken : broken settings.retryPolicy (batch board stopsAt settings p rows s).1 = false)
      (all : rows.length ≤ (batch board stopsAt settings p rows s).1.length)
      (later : allBatches board stopsAt settings p false rest
        ((batch board stopsAt settings p rows s).1.foldl .record r) (batch board stopsAt settings p rows s).2 = ended) :
      Proceeds board stopsAt settings p rows rest r s ended

theorem allBatches_proceeds {board : Board σ} {stopsAt : StopTime σ} {settings : UpsertSettings} {p : UpsertPlan}
    {s : Progress σ} (ran : allBatches board stopsAt settings p first (rows :: rest) r s = ended) :
    Proceeds board stopsAt settings p rows rest r
      (if first then s else s.pause stopsAt settings.batchDelay.millisUp) ended := by
  subst ran
  rw [allBatches]
  generalize (if first then s else s.pause stopsAt settings.batchDelay.millisUp) = s
  dsimp only
  cases stops : s.stopped stopsAt with
  | true => exact .stopped stops
  | false =>
    cases counted : settings.retryPolicy.attempts? with
    | none => exact .overflowed stops counted
    | some total =>
      have fits : settings.retryPolicy.attempts?.isSome := by rw [counted]; rfl
      simp only [Bool.false_eq_true, if_false, Option.isNone_some]
      cases breaks : broken settings.retryPolicy (batch board stopsAt settings p rows s).1 with
      | true => exact .broke stops fits breaks
      | false =>
        simp only [Bool.false_eq_true, if_false]
        split
        · exact .short stops fits breaks ‹_›
        · exact .whole stops fits breaks (Nat.le_of_not_lt ‹_›) rfl

section
variable {board : Board σ} {stopsAt : StopTime σ} {p : UpsertPlan} {policy : RetryPolicy} {room length : Nat}
  {settings : UpsertSettings} {origin : TimedCourse} {all : List Row} {before : σ} {first : Bool} {r : UpsertResult}
  {s : Progress σ} {told : Chronicle} {k : TimedCourse} {due : Due}

-- Before the next batch there is a pause, unless it is the first one.
theorem Between.paused (between : Between board p policy room length origin before first r s told k due)
    (stopsAt : StopTime σ) (more : k.course.later ≠ []) {s' : Progress σ}
    (pauses : (if first then s else s.pause stopsAt length) = s') :
    ∃ told' k', TimedCourse.Reached p policy room length origin told' k' ∧
      ServedAt board p.boardId before told'.deeds due s'.state ∧ k'.course = k.course ∧ k'.now = s'.now ∧
      k'.course.traffic.index = s'.index ∧ k'.opened = k.opened ∧
      (s'.stopped stopsAt = false → 0 < k'.opened → ∃ time ≤ k'.now, k'.restsUntil = some time) := by
  subst pauses
  cases first with
  | true =>
    refine ⟨told, k, between.reached, between.served, rfl, between.now, between.index, rfl, fun _ several => ?_⟩
    exact absurd (between.opened.mpr rfl) (Nat.ne_of_gt several)
  | false =>
    obtain ⟨index, state⟩ := pause_keeps s stopsAt length
    obtain ⟨passes, goes⟩ := pause_length s stopsAt length
    have several : 0 < k.opened := Nat.pos_of_ne_zero fun none => by cases between.opened.mp none
    have paused := between.reached.step (.pause between.idle between.waiting more several between.rested)
    have reached := paused.step (.time (between.now ▸ passes))
    rw [List.map_nil, List.append_nil] at reached
    refine ⟨_, _, reached, ?_, rfl, rfl, ?_, rfl, fun on _ => ⟨_, ?_, rfl⟩⟩
    · simpa [state, Chronicle.deeds_append, Chronicle.deeds, Happening.deed?] using between.served
    · simpa [index] using between.index
    · simpa [between.now] using goes on

-- A batch that begins leads to where the next one may begin, unless the run is called off before one of its rows.
theorem Between.batch (lasting : stopsAt.Lasting board) (valid : origin.course.Valid p all)
    (between : Between board p settings.retryPolicy (max settings.concurrency 1) settings.batchDelay.millisUp origin
      before first r s told k due)
    (next : k.course.later = rows :: rest) (counted : settings.retryPolicy.attempts?.isSome)
    {s' : Progress σ} {begun : Chronicle}
    (reached : TimedCourse.Reached p settings.retryPolicy (max settings.concurrency 1) settings.batchDelay.millisUp origin
      begun ⟨k.course, s'.now, n, rests⟩)
    (served : ServedAt board p.boardId before begun.deeds due s'.state) (index : k.course.traffic.index = s'.index)
    (rested : 0 < n → ∃ time ≤ s'.now, rests = some time) (goes : s'.stopped stopsAt = false) :
    ∃ told' c due',
      Chronicled board p settings.retryPolicy (max settings.concurrency 1) settings.batchDelay.millisUp origin before
        (Upsert.batch board stopsAt settings p rows s').2 told'
        ⟨c, (Upsert.batch board stopsAt settings p rows s').2.now, n + 1, none⟩ due' ∧
      c.traffic.index = (Upsert.batch board stopsAt settings p rows s').2.index ∧ c.traffic.flights = [] ∧ c.waiting = [] ∧
      c.outcomes = r.results ++ (Upsert.batch board stopsAt settings p rows s').1 ∧
      (c.left = [] ∧ c.later = rest ∧ (Upsert.batch board stopsAt settings p rows s').1.length = rows.length ∨
        c.left ≠ [] ∧ c.later = [] ∧ (Upsert.batch board stopsAt settings p rows s').2.stopped stopsAt = true ∧
          (Upsert.batch board stopsAt settings p rows s').1.length < rows.length) := by
  have start : k.course.traffic.nextBatch = .start s'.index := by
    rw [← index]
    exact Traffic.nextBatch_start (Course.reached_valid between.reached.untimed valid).traffic between.idle
  have begins := reached.step (.batch between.idle between.waiting next rested)
  let b : Batch σ := ⟨board, stopsAt, settings.retryPolicy, counted, p, max settings.concurrency 1,
    settings.batchDelay.millisUp, origin, before, n + 1, k.course.done ++ k.course.traffic.outcomes, rest⟩
  have follows : b.Follows s' rows _ _ due :=
    ⟨begins, by simpa [Chronicle.deeds_append, Chronicle.deeds, Happening.deed?] using served, by rw [start]; rfl, rfl,
      .inl ⟨rfl, rfl, between.left⟩⟩
  obtain ⟨told', c, due', done, idle, outcomes⟩ := follows.batch lasting valid rfl rfl goes start
  obtain ⟨waiting, ended⟩ := follows.counted valid goes (by rw [start]; rfl) done idle
  rw [outcomes] at ended
  refine ⟨told', c, due', ⟨done.reached, done.served, rfl⟩, done.index, idle, waiting, ?_, ended⟩
  rw [Course.outcomes, done.done, outcomes, between.results]
  rfl

-- By induction on the batches that are left: each of them carries on from where the one before it has left the course.
theorem allBatches_ends (lasting : stopsAt.Lasting board) (valid : origin.course.Valid p all)
    (full : ∀ rows ∈ later, rows ≠ [])
    (between : Between board p settings.retryPolicy (max settings.concurrency 1) settings.batchDelay.millisUp origin
      before first r s told k due)
    (next : k.course.later = later) {result : Except Fault UpsertResult} {s' : Progress σ}
    (ran : allBatches board stopsAt settings p first later r s = (result, s')) :
    ∃ told' k' due', Ending board stopsAt p settings.retryPolicy (max settings.concurrency 1) origin.course before
        s' (told'.deeds.map (·.2)) k'.course result ∧
      Chronicled board p settings.retryPolicy (max settings.concurrency 1) settings.batchDelay.millisUp origin before
        s' told' k' due' := by
  induction later generalizing first r s told k due with
  | nil =>
    cases ran
    refine ⟨told, k, due, .arrived ⟨between.reached.untimed, between.served.served.wrote,
      ⟨between.idle, between.waiting, next⟩, between.results, between.unbroken, ?_, ?_⟩, between.reached,
      between.served, between.now⟩
    · simp [between.running, between.left]
    · simp [between.running]
  | cons rows rest ih =>
    obtain ⟨told, ⟨c, time, n, rests⟩, reached, served, same, now, index, opened, rested⟩ :=
      between.paused stopsAt (by simp [next]) rfl
    obtain rfl : c = k.course := same
    have proceeds := allBatches_proceeds ran
    generalize (if first then s else s.pause stopsAt settings.batchDelay.millisUp) = s at proceeds served now index rested
    obtain rfl : time = s.now := now
    cases proceeds with
    | stopped stops =>
      have reached := reached.step .stop
      rw [List.map_nil, List.append_nil] at reached
      refine ⟨told, _, due, .arrived ⟨reached.untimed, served.served.wrote, ⟨between.idle, rfl, rfl⟩, between.results,
        between.unbroken, ?_, fun _ => stops⟩, reached, served, rfl⟩
      have some := full rows (by simp)
      simp [between.waiting, between.left, next, some]
    | overflowed _ uncounted => exact ⟨told, _, due, .uncounted uncounted, reached, served, rfl⟩
    | broke goes counted breaks =>
      obtain ⟨told', c', due', chronicled, _, _, _, all, _⟩ :=
        between.batch lasting valid next counted reached served index (rested goes) goes
      refine ⟨told', _, due', .broken ?_, chronicled⟩
      rw [all, broken_append, breaks, Bool.or_true]
    | short goes counted unbroken missing =>
      obtain ⟨told', c', due', chronicled, index, idle, waiting, all, ended⟩ :=
        between.batch lasting valid next counted reached served index (rested goes) goes
      obtain ⟨left, later, stops, _⟩ := ended.resolve_left fun whole => absurd missing (by omega)
      refine ⟨told', _, due', .arrived ⟨chronicled.reached.untimed, chronicled.served.served.wrote,
        ⟨idle, waiting, later⟩, (record_all _ r).1.trans all.symm, ?_, by simp [left], fun _ => stops⟩, chronicled⟩
      rw [record_all_broken, between.unbroken, unbroken, Bool.or_false]
    | whole goes counted unbroken through later =>
      obtain ⟨told', c', due', chronicled, index, idle, waiting, all, ended⟩ :=
        between.batch lasting valid next counted reached served index (rested goes) goes
      obtain ⟨left, others, _⟩ := ended.resolve_right fun short => absurd through (Nat.not_le_of_lt short.2.2.2)
      obtain ⟨results, cancelled⟩ := record_all (Upsert.batch board stopsAt settings p rows s).1 r
      have unbroken : broken settings.retryPolicy
          ((Upsert.batch board stopsAt settings p rows s).1.foldl UpsertResult.record r).results = false := by
        rw [record_all_broken, between.unbroken, unbroken, Bool.or_false]
      exact ih (fun rows member => full rows (List.mem_cons_of_mem _ member))
        ⟨chronicled.reached, chronicled.served, rfl, by simp, rfl, index, idle, waiting, left, results.trans all.symm,
          unbroken, cancelled.trans between.running⟩ others later

-- A run that has seen the items takes a course on its clock, and its board serves it at the times that are told.
theorem run_ends {target : WriteBack} (rows : List Row) {now : Nat} {state : σ} (lasting : stopsAt.Lasting board)
    (plan : UpsertPlan.ofTarget target = .ok p)
    (shown : (snapshot board settings.itemLimit p now state).answer = .ok index) :
    ∃ told k due s,
      Ending board stopsAt p settings.retryPolicy (max settings.concurrency 1) (.start settings rows index)
        (snapshot board settings.itemLimit p now state).after s (told.deeds.map (·.2)) k.course
        (run board stopsAt settings target rows now state).result ∧
      Chronicled board p settings.retryPolicy (max settings.concurrency 1) settings.batchDelay.millisUp
        (.start settings rows index (now + (snapshot board settings.itemLimit p now state).duration))
        (snapshot board settings.itemLimit p now state).after s told k due ∧
      s.now = (run board stopsAt settings target rows now state).now ∧
      s.state = (run board stopsAt settings target rows now state).state := by
  have between : Between board p settings.retryPolicy (max settings.concurrency 1) settings.batchDelay.millisUp
      (.start settings rows index (now + (snapshot board settings.itemLimit p now state).duration))
      (snapshot board settings.itemLimit p now state).after true .empty
      ⟨index, now + (snapshot board settings.itemLimit p now state).duration,
        (snapshot board settings.itemLimit p now state).after⟩ [] _ _ :=
    ⟨.start, .start, rfl, ⟨fun _ => rfl, fun _ => rfl⟩, rfl, rfl, rfl, rfl, rfl, rfl, rfl, rfl⟩
  obtain ⟨told, k, due, ending, chronicled⟩ := allBatches_ends lasting (Course.start_valid settings rows index)
    (Course.batchesFrom_full _ _ _) between rfl rfl
  simp only [run, plan, shown]
  exact ⟨told, k, due, _, ending, chronicled, rfl, rfl⟩

-- A result comes of a plan, and of a fetch that has told the items.
theorem run_ok {target : WriteBack} {rows : List Row} {now : Nat} {state : σ}
    (ran : (run board stopsAt settings target rows now state).result = .ok r) :
    ∃ p index, UpsertPlan.ofTarget target = .ok p ∧
      (snapshot board settings.itemLimit p now state).answer = .ok index := by
  rw [run] at ran
  cases plan : UpsertPlan.ofTarget target with
  | error fault => rw [plan] at ran; cases ran
  | ok p =>
    simp only [plan] at ran
    cases answer : (snapshot board settings.itemLimit p now state).answer with
    | error fault => rw [answer] at ran; cases ran
    | ok index => exact ⟨p, index, rfl, answer⟩

theorem run_chronicled {target : WriteBack} {rows : List Row} {now : Nat} {state : σ} (lasting : stopsAt.Lasting board)
    (ran : (run board stopsAt settings target rows now state).result = .ok r) :
    ∃ p index told k due s, UpsertPlan.ofTarget target = .ok p ∧
      (snapshot board settings.itemLimit p now state).answer = .ok index ∧
      Arrived board stopsAt p settings.retryPolicy (max settings.concurrency 1) (.start settings rows index)
        (snapshot board settings.itemLimit p now state).after r s (told.deeds.map (·.2)) k.course ∧
      Chronicled board p settings.retryPolicy (max settings.concurrency 1) settings.batchDelay.millisUp
        (.start settings rows index (now + (snapshot board settings.itemLimit p now state).duration))
        (snapshot board settings.itemLimit p now state).after s told k due ∧
      s.now = (run board stopsAt settings target rows now state).now ∧
      s.state = (run board stopsAt settings target rows now state).state := by
  obtain ⟨p, index, plan, shown⟩ := run_ok ran
  obtain ⟨told, k, due, s, ending, chronicled, time, after⟩ := run_ends rows lasting plan shown
  rw [ran] at ending
  cases ending with
  | arrived arrived => exact ⟨p, index, told, k, due, s, plan, shown, arrived, chronicled, time, after⟩

theorem run_served {target : WriteBack} {rows : List Row} {now : Nat} {state : σ} (lasting : stopsAt.Lasting board)
    (ran : (run board stopsAt settings target rows now state).result = .ok r) :
    ∃ p index log c due s, UpsertPlan.ofTarget target = .ok p ∧
      (snapshot board settings.itemLimit p now state).answer = .ok index ∧
      Arrived board stopsAt p settings.retryPolicy (max settings.concurrency 1) (.start settings rows index)
        (snapshot board settings.itemLimit p now state).after r s log c ∧
      Served board p.boardId (snapshot board settings.itemLimit p now state).after log due s.state ∧
      s.now = (run board stopsAt settings target rows now state).now ∧
      s.state = (run board stopsAt settings target rows now state).state := by
  obtain ⟨p, index, told, k, due, s, plan, answer, arrived, chronicled, time, after⟩ := run_chronicled lasting ran
  exact ⟨p, index, _, k.course, due, s, plan, answer, arrived, chronicled.served.served, time, after⟩

theorem run_arrives {target : WriteBack} {rows : List Row} {now : Nat} {state : σ} (lasting : stopsAt.Lasting board)
    (ran : (run board stopsAt settings target rows now state).result = .ok r) :
    ∃ p index log c s, UpsertPlan.ofTarget target = .ok p ∧
      (snapshot board settings.itemLimit p now state).answer = .ok index ∧
      Arrived board stopsAt p settings.retryPolicy (max settings.concurrency 1) (.start settings rows index)
        (snapshot board settings.itemLimit p now state).after r s log c ∧
      s.now = (run board stopsAt settings target rows now state).now ∧
      s.state = (run board stopsAt settings target rows now state).state := by
  obtain ⟨p, index, log, c, _, s, plan, answer, arrived, _, time, after⟩ := run_served lasting ran
  exact ⟨p, index, log, c, s, plan, answer, arrived, time, after⟩

end

end Upsert
end TidyRows
