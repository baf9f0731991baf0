import TidyRows.Upsert.Run
namespace TidyRows

structure Answered.Like (alike : τ → σ → Prop) (a : Answered α τ) (b : Answered α σ) : Prop where
  answer : a.answer = b.answer
  duration : a.duration = b.duration
  clock : a.clock = b.clock
  after : alike a.after b.after

structure Attempted.Like (alike : τ → σ → Prop) (a : Attempted α τ) (b : Attempted α σ) : Prop where
  answer : a.answer = b.answer
  attempts : a.attempts = b.attempts
  now : a.now = b.now
  after : alike a.after b.after

structure Progress.Like (alike : τ → σ → Prop) (s : Progress τ) (t : Progress σ) : Prop where
  index : s.index = t.index
  now : s.now = t.now
  state : alike s.state t.state

structure Schedule.Like (alike : τ → σ → Prop) (s : Schedule τ) (t : Schedule σ) : Prop where
  traffic : s.traffic = t.traffic
  now : s.now = t.now
  state : alike s.state t.state
  pending : s.pending = t.pending
  ready : s.ready = t.ready
  agenda : s.agenda = t.agenda

structure Board.Like (alike : τ → σ → Prop) (boardId : String) (one : Board τ) (other : Board σ)
    (stops : StopTime τ) (stops' : StopTime σ) : Prop where
  write : ∀ now write s t, alike s t → (one.write now boardId write s).Like alike (other.write now boardId write t)
  stops : ∀ s t, alike s t → stops s = stops' t

section
variable {τ σ : Type} {alike : τ → σ → Prop} {one : Board τ} {other : Board σ} {stops : StopTime τ}
  {stops' : StopTime σ} {policy : RetryPolicy} {p : UpsertPlan}

variable (policy) in
theorem runFrom_like {ask : Nat → τ → Answered α τ} {ask' : Nat → σ → Answered α σ}
    (each : ∀ now s t, alike s t → (ask now s).Like alike (ask' now t)) (left : Nat) (attempt : UInt32) (now : Nat)
    (states : alike s t) :
    (policy.runFrom ask left attempt now s).Like alike (policy.runFrom ask' left attempt now t) := by
  induction left generalizing attempt now s t with
  | zero =>
    obtain ⟨answer, duration, clock, after⟩ := each now s t states
    rw [RetryPolicy.runFrom, RetryPolicy.runFrom, answer, duration, clock]
    cases (ask' now t).answer with
    | ok v => exact ⟨rfl, rfl, rfl, after⟩
    | error fault => exact ⟨rfl, rfl, rfl, after⟩
  | succ left ih =>
    obtain ⟨answer, duration, clock, after⟩ := each now s t states
    rw [RetryPolicy.runFrom, RetryPolicy.runFrom, answer, duration, clock]
    cases (ask' now t).answer with
    | ok v => exact ⟨rfl, rfl, rfl, after⟩
    | error fault =>
      dsimp only
      cases policy.next? fault attempt (ask' now t).clock with
      | none => exact ⟨rfl, rfl, rfl, after⟩
      | some wait => exact ih _ _ after

variable (policy) in
theorem upsertRow_like (boards : Board.Like alike p.boardId one other stops stops') (i : Nat) (row : Row)
    {s : Progress τ} {t : Progress σ} (like : s.Like alike t) :
    (upsertRow one policy p i row s).1 = (upsertRow other policy p i row t).1 ∧
      (upsertRow one policy p i row s).2.Like alike (upsertRow other policy p i row t).2 := by
  obtain ⟨index, now, state⟩ := like
  have ran := runFrom_like policy (fun now _ _ => boards.write now
    (p.writeOf row ((p.keyOfRow row).bind t.index.get?)) _ _) policy.maxRetries.toNat 1 t.now state
  obtain ⟨answer, attempts, ended, after⟩ := ran
  simp only [upsertRow, RetryPolicy.tries, index, now]
  exact ⟨by rw [answer, attempts], by rw [answer], ended, after⟩

theorem stopped_like (boards : Board.Like alike p.boardId one other stops stops') {s : Progress τ} {t : Progress σ}
    (like : s.Like alike t) : s.stopped stops = t.stopped stops' := by
  rw [Progress.stopped, Progress.stopped, boards.stops _ _ like.state, like.now]

theorem upsertInTurn_like (boards : Board.Like alike p.boardId one other stops stops') (rows : List (Nat × Row))
    {s : Progress τ} {t : Progress σ} (like : s.Like alike t) :
    (upsertInTurn one stops policy p rows s).1 = (upsertInTurn other stops' policy p rows t).1 ∧
      (upsertInTurn one stops policy p rows s).2.Like alike (upsertInTurn other stops' policy p rows t).2 := by
  induction rows generalizing s t with
  | nil => exact ⟨rfl, like⟩
  | cons next rest ih =>
    obtain ⟨i, row⟩ := next
    simp only [upsertInTurn]
    rw [stopped_like boards like]
    cases t.stopped stops' with
    | true => exact ⟨rfl, like⟩
    | false =>
      obtain ⟨outcome, after⟩ := upsertRow_like policy boards i row like
      obtain ⟨outcomes, last⟩ := ih after
      exact ⟨by simp [outcome, outcomes], last⟩

namespace Schedule
variable {s : Schedule τ} {t : Schedule σ}

theorem Like.only_state (like : s.Like alike t) : ∃ state, alike s.state state ∧
    t = ⟨s.traffic, s.now, state, s.pending, s.ready, s.agenda⟩ := by
  obtain ⟨traffic, now, state, pending, ready, agenda⟩ := like
  refine ⟨t.state, state, ?_⟩
  rw [traffic, now, pending, ready, agenda]

theorem only_state_like (traffic : Traffic) (now : Nat) (pending : List (Nat × Row)) (ready : List Task)
    (agenda : List (Nat × Task)) {state : τ} {state' : σ} (states : alike state state') :
    Schedule.Like alike ⟨traffic, now, state, pending, ready, agenda⟩ ⟨traffic, now, state', pending, ready, agenda⟩ :=
  ⟨rfl, rfl, states, rfl, rfl, rfl⟩

theorem fill_like (like : s.Like alike t) : s.fill.Like alike t.fill := by
  obtain ⟨traffic, now, state, pending, ready, agenda⟩ := like
  unfold fill
  rw [pending]
  cases t.pending with
  | nil => exact ⟨traffic, now, state, pending, ready, agenda⟩
  | cons next rest => exact ⟨traffic, now, state, rfl, by rw [ready], agenda⟩

theorem release_like (like : s.Like alike t) (f : Flight) : (s.release f).Like alike (t.release f) := by
  obtain ⟨traffic, now, state, pending, ready, agenda⟩ := like
  exact fill_like ⟨traffic, now, state, pending, by rw [traffic, ready], agenda⟩

theorem later_like (like : s.Like alike t) (wait : Nat) (task : Task) :
    (s.later wait task).Like alike (t.later wait task) := by
  obtain ⟨traffic, now, state, pending, ready, agenda⟩ := like
  unfold later
  split
  · exact ⟨traffic, now, state, pending, by rw [ready], agenda⟩
  · exact ⟨traffic, now, state, pending, ready, by rw [agenda, now]⟩

theorem call_like (boards : Board.Like alike p.boardId one other stops stops') (like : s.Like alike t) (row : Nat) :
    (call one p s row).Like alike (call other p t row) := by
  obtain ⟨state, states, rfl⟩ := like.only_state
  unfold call
  dsimp only
  cases s.traffic.calling? row with
  | none => exact like
  | some write =>
    obtain ⟨answer, duration, clock, after⟩ := boards.write s.now write _ _ states
    dsimp only
    rw [answer, duration, clock]
    exact later_like (only_state_like _ _ _ _ _ after) _ _

theorem carryOn_like (boards : Board.Like alike p.boardId one other stops stops') (like : s.Like alike t) (row : Nat)
    (event : Traffic.Event) : (carryOn one policy p s row event).Like alike (carryOn other policy p t row event) := by
  obtain ⟨state, states, rfl⟩ := like.only_state
  unfold carryOn
  dsimp only
  cases s.traffic.advance p policy event with
  | none => exact like
  | some traffic => exact call_like boards (only_state_like _ _ _ _ _ states) row

theorem settle_like (like : s.Like alike t) (row : Nat) (answer : Except BoardFault String) (clock : Nat) :
    (settle policy p s row answer clock).Like alike (settle policy p t row answer clock) := by
  obtain ⟨state, states, rfl⟩ := like.only_state
  unfold settle
  dsimp only
  cases s.traffic.flight? row with
  | none => exact like
  | some f =>
    cases s.traffic.advance p policy (.answered row answer) with
    | none => exact like
    | some traffic =>
      have moved : Schedule.Like alike { s with traffic } _ := only_state_like _ _ _ _ _ states
      dsimp only
      cases f.phase with
      | queued => exact release_like moved f
      | pausing => exact release_like moved f
      | calling write attempt =>
        cases answer with
        | ok id => exact release_like moved f
        | error fault =>
          dsimp only
          cases policy.next? fault attempt clock with
          | none => exact release_like moved f
          | some wait => exact later_like moved _ _

theorem perform_like (boards : Board.Like alike p.boardId one other stops stops') (like : s.Like alike t)
    (task : Task) : (perform one stops policy p s task).Like alike (perform other stops' policy p t task) := by
  cases task with
  | start row data =>
    have stopped : s.progress.stopped stops = t.progress.stopped stops' :=
      stopped_like boards ⟨congrArg Traffic.index like.traffic, like.now, like.state⟩
    rw [perform, perform, stopped]
    cases t.progress.stopped stops' with
    | true => exact fill_like like
    | false => exact carryOn_like boards like row _
  | proceed row => exact carryOn_like boards like row _
  | answer row answer clock => exact settle_like like row answer clock
  | resume row => exact carryOn_like boards like row _

theorem jump_like (like : s.Like alike t) (time : Nat) : (s.jump time).Like alike (t.jump time) := by
  obtain ⟨traffic, now, state, pending, ready, agenda⟩ := like
  exact ⟨traffic, rfl, state, pending, by rw [jump, jump, agenda], by rw [jump, jump, agenda]⟩

variable (policy) in
theorem run_like (boards : Board.Like alike p.boardId one other stops stops') (like : s.Like alike t) (fuel : Nat) :
    (run one stops policy p fuel s).Like alike (run other stops' policy p fuel t) := by
  induction fuel generalizing s t with
  | zero => exact like
  | succ fuel ih =>
    rw [run, run, like.ready]
    cases t.ready with
    | nil =>
      rw [like.agenda]
      cases (t.agenda.map (·.1)).min? with
      | none => exact like
      | some time => exact ih (jump_like like time)
    | cons task rest =>
      have taken : Schedule.Like alike { s with ready := rest } { t with ready := rest } :=
        ⟨like.traffic, like.now, like.state, like.pending, rfl, like.agenda⟩
      exact ih (perform_like boards taken task)

end Schedule

theorem upsertTogether_like (boards : Board.Like alike p.boardId one other stops stops') (room : Nat)
    (rows : List (Nat × Row)) {s : Progress τ} {t : Progress σ} (like : s.Like alike t) :
    (upsertTogether one stops policy p room rows s).1 = (upsertTogether other stops' policy p room rows t).1 ∧
      (upsertTogether one stops policy p room rows s).2.Like alike
        (upsertTogether other stops' policy p room rows t).2 := by
  have origin : (Schedule.ofRows room rows s).Like alike (Schedule.ofRows room rows t) :=
    ⟨by rw [Schedule.ofRows, like.index]; rfl, like.now, like.state, rfl, rfl, rfl⟩
  have last := Schedule.run_like policy boards origin (Schedule.steps policy rows.length)
  exact ⟨by rw [upsertTogether, upsertTogether, last.traffic], congrArg Traffic.index last.traffic, last.now,
    last.state⟩

namespace Upsert
variable {settings : UpsertSettings}

variable (settings) in
theorem batch_like (boards : Board.Like alike p.boardId one other stops stops') (rows : List (Nat × Row))
    {s : Progress τ} {t : Progress σ} (like : s.Like alike t) :
    (batch one stops settings p rows s).1 = (batch other stops' settings p rows t).1 ∧
      (batch one stops settings p rows s).2.Like alike (batch other stops' settings p rows t).2 := by
  unfold batch
  split
  · exact upsertInTurn_like boards rows like
  · exact upsertTogether_like boards _ rows like

theorem pause_like (boards : Board.Like alike p.boardId one other stops stops') {s : Progress τ} {t : Progress σ}
    (like : s.Like alike t) (length : Nat) : (s.pause stops length).Like alike (t.pause stops' length) := by
  obtain ⟨index, now, state⟩ := like
  unfold Progress.pause
  rw [boards.stops _ _ state, now]
  dsimp only
  cases stops' t.state with
  | none => exact ⟨index, rfl, state⟩
  | some time => exact ⟨index, rfl, state⟩

variable (settings) in
theorem allBatches_like (boards : Board.Like alike p.boardId one other stops stops') (first : Bool)
    (later : List (List (Nat × Row))) (r : UpsertResult) {s : Progress τ} {t : Progress σ} (like : s.Like alike t) :
    (allBatches one stops settings p first later r s).1 = (allBatches other stops' settings p first later r t).1 ∧
      (allBatches one stops settings p first later r s).2.Like alike
        (allBatches other stops' settings p first later r t).2 := by
  induction later generalizing first r s t with
  | nil => exact ⟨rfl, like⟩
  | cons rows rest ih =>
    have paused : (if first then s else s.pause stops settings.batchDelay.millisUp).Like alike
        (if first then t else t.pause stops' settings.batchDelay.millisUp) := by
      cases first with
      | true => exact like
      | false => exact pause_like boards like _
    rw [allBatches, allBatches]
    generalize (if first then s else s.pause stops settings.batchDelay.millisUp) = s at paused
    generalize (if first then t else t.pause stops' settings.batchDelay.millisUp) = t at paused
    dsimp only
    rw [stopped_like boards paused]
    cases t.stopped stops' with
    | true => exact ⟨rfl, paused⟩
    | false =>
      simp only [Bool.false_eq_true, if_false]
      cases settings.retryPolicy.attempts? with
      | none => exact ⟨rfl, paused⟩
      | some total =>
        obtain ⟨outcomes, after⟩ := batch_like settings boards rows paused
        rw [outcomes]
        simp only [Option.isNone_some, Bool.false_eq_true, if_false]
        cases broken settings.retryPolicy (batch other stops' settings p rows t).1 with
        | true => exact ⟨rfl, after⟩
        | false =>
          simp only [Bool.false_eq_true, if_false]
          split
          · exact ⟨rfl, after⟩
          · exact ih false _ after

end Upsert
end
end TidyRows
