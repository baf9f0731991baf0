import Mathlib
import TidyRows.Proofs.Retry
import TidyRows.Proofs.Upsert.Traffic
import TidyRows.Upsert.Schedule
namespace TidyRows

def Task.event : Task → Traffic.Event
  | .start row data => .enter row data
  | .proceed row => .proceed row
  | .answer row result _ => .answered row result
  | .resume row => .resumed row

def Task.start? : Task → Option (Nat × Row)
  | .start row data => some (row, data)
  | _ => none

def Task.row : Task → Nat
  | .start row _ => row
  | .proceed row => row
  | .answer row _ _ => row
  | .resume row => row

-- The row is in line for its lock, and it is its turn.
def Traffic.Awake (t : Traffic) (f : Flight) : Prop :=
  f.phase = .queued → ∃ ticket, f.ticket = some ticket ∧ t.holder? ticket.lock = some f.row

-- The task that takes a row on from where it is.
inductive Flight.Awaits (f : Flight) : Task → Prop where
  | proceed (queued : f.phase = .queued) : f.Awaits (.proceed f.row)
  | answer (calling : f.phase = .calling write attempt) : f.Awaits (.answer f.row result clock)
  | resume (pausing : f.phase = .pausing write attempt) : f.Awaits (.resume f.row)

theorem Flight.Awaits.row_eq {f : Flight} (awaits : f.Awaits task) : f.row = task.row := by
  cases awaits <;> rfl

namespace Schedule
variable {σ : Type} {board : Board σ} {stopsAt : StopTime σ} {policy : RetryPolicy} {p : UpsertPlan} {room : Nat}
  {s next : Schedule σ}

-- What a task that is performed can do.
inductive Turn (board : Board σ) (stopsAt : StopTime σ) (policy : RetryPolicy) (p : UpsertPlan) (s : Schedule σ) :
    Task → Schedule σ → Prop where
  | skipped (stops : s.progress.stopped stopsAt = true) : Turn board stopsAt policy p s (.start row data) s.fill
  | entered (goes : s.progress.stopped stopsAt = false) (fresh : s.traffic.known row = false) :
      Turn board stopsAt policy p s (.start row data)
        (call board p { s with traffic := s.traffic.enter p row data } row)
  | proceeded (found : s.traffic.flight? row = some f) (waits : f.phase = .queued) (has : f.ticket = some ticket)
      (holds : s.traffic.holder? ticket.lock = some row) :
      Turn board stopsAt policy p s (.proceed row) (call board p { s with traffic := s.traffic.proceed p f } row)
  | ended (found : s.traffic.flight? row = some f) (calling : f.phase = .calling write attempt)
      (last : ∀ fault, answer = .error fault → policy.again fault attempt = false) :
      Turn board stopsAt policy p s (.answer row answer clock)
        (release { s with traffic := s.traffic.finish f write attempt answer } f)
  | failed (found : s.traffic.flight? row = some f) (calling : f.phase = .calling write attempt)
      (again : policy.again fault attempt = true) :
      Turn board stopsAt policy p s (.answer row (.error fault) clock)
        (later { s with traffic := s.traffic.setPhase row (.pausing write attempt) }
          (policy.wait fault attempt clock) (.resume row))
  | resumed (found : s.traffic.flight? row = some f) (pausing : f.phase = .pausing write attempt) :
      Turn board stopsAt policy p s (.resume row)
        (call board p { s with traffic := s.traffic.setPhase row (.calling write (attempt + 1)) } row)
  | idle (late : task.start? = none) (impossible : ∀ next, ¬ Traffic.Step p policy s.traffic task.event next) :
      Turn board stopsAt policy p s task s

theorem settle_turn (row : Nat) (answer : Except BoardFault String) (clock : Nat) :
    Turn board stopsAt policy p s (.answer row answer clock) (settle policy p s row answer clock) := by
  cases went : s.traffic.advance p policy (.answered row answer) with
  | none =>
    have same : settle policy p s row answer clock = s := by
      unfold settle
      rw [went]
      cases s.traffic.flight? row <;> rfl
    rw [same]
    refine .idle rfl fun next step => ?_
    rw [Task.event, Traffic.advance_exact.symm, went] at step
    cases step
  | some traffic =>
    cases Traffic.advance_sound went with
    | @ended _ f write attempt _ found calling last =>
      have result : settle policy p s row answer clock =
          release { s with traffic := s.traffic.finish f write attempt answer } f := by
        cases answer with
        | ok id => simp [settle, went, found, calling]
        | error fault => simp [settle, went, found, calling, RetryPolicy.next?, last fault rfl]
      rw [result]
      exact .ended found calling last
    | @failed _ f write attempt fault found calling again =>
      have result : settle policy p s row (.error fault) clock =
          later { s with traffic := s.traffic.setPhase row (.pausing write attempt) }
            (policy.wait fault attempt clock) (.resume row) := by
        simp [settle, went, found, calling, RetryPolicy.next?, again]
      rw [result]
      exact .failed found calling again

-- A row is started once only, so `fresh` holds for every start on the schedule.
theorem perform_turn (task : Task)
    (fresh : ∀ row data, task = .start row data → s.progress.stopped stopsAt = false → s.traffic.known row = false) :
    Turn board stopsAt policy p s task (perform board stopsAt policy p s task) := by
  have impossible {event} (none : s.traffic.advance p policy event = none) (next : Traffic) :
      ¬ Traffic.Step p policy s.traffic event next := by
    rw [← Traffic.advance_exact, none]
    exact Option.some_ne_none next ∘ Eq.symm
  cases task with
  | start row data =>
    cases stops : s.progress.stopped stopsAt with
    | true => simpa [perform, stops] using .skipped stops
    | false =>
      have new := fresh row data rfl stops
      simpa [perform, stops, carryOn, Traffic.advance, new] using .entered stops new
  | proceed row =>
    cases went : s.traffic.advance p policy (.proceed row) with
    | none => simpa [perform, carryOn, went] using .idle rfl (impossible went)
    | some traffic =>
      simp only [perform, carryOn, went]
      cases Traffic.advance_sound went with
      | proceed found waits has holds => exact .proceeded found waits has holds
  | answer row answer clock => exact settle_turn row answer clock
  | resume row =>
    cases went : s.traffic.advance p policy (.resumed row) with
    | none => simpa [perform, carryOn, went] using .idle rfl (impossible went)
    | some traffic =>
      simp only [perform, carryOn, went]
      cases Traffic.advance_sound went with
      | resumed found pausing => exact .resumed found pausing

def tasks (s : Schedule σ) : List Task := s.ready ++ s.agenda.map (·.2)

def starts (s : Schedule σ) : List (Nat × Row) := s.ready.filterMap Task.start?

def unstarted (s : Schedule σ) : List (Nat × Row) := s.starts ++ s.pending

@[simp] theorem fill_traffic (s : Schedule σ) : s.fill.traffic = s.traffic := by unfold fill; split <;> rfl
@[simp] theorem fill_now (s : Schedule σ) : s.fill.now = s.now := by unfold fill; split <;> rfl
@[simp] theorem fill_state (s : Schedule σ) : s.fill.state = s.state := by unfold fill; split <;> rfl
@[simp] theorem fill_agenda (s : Schedule σ) : s.fill.agenda = s.agenda := by unfold fill; split <;> rfl

@[simp] theorem fill_unstarted (s : Schedule σ) : s.fill.unstarted = s.unstarted := by
  unfold fill
  split
  · rfl
  · rename_i waits
    simp [unstarted, starts, Task.start?, waits]

theorem fill_tasks (member : task ∈ s.tasks) : task ∈ s.fill.tasks := by
  unfold fill
  split
  · exact member
  · simp only [tasks, List.append_assoc, List.mem_append] at member ⊢
    exact member.imp_right .inr

-- The first row that had the lock of `f` goes on after it.
def nextTask (s : Schedule σ) (f : Flight) : Option Task :=
  (f.ticket.bind fun ticket => s.traffic.holder? ticket.lock).map .proceed

theorem release_eq (s : Schedule σ) (f : Flight) :
    s.release f = fill { s with ready := s.ready ++ (s.nextTask f).toList } := rfl

theorem nextTask_start? (s : Schedule σ) (f : Flight) : (s.nextTask f).toList.filterMap Task.start? = [] := by
  unfold nextTask
  cases f.ticket.bind fun ticket => s.traffic.holder? ticket.lock <;> rfl

@[simp] theorem release_traffic (s : Schedule σ) (f : Flight) : (s.release f).traffic = s.traffic := by
  simp [release_eq]

@[simp] theorem release_now (s : Schedule σ) (f : Flight) : (s.release f).now = s.now := by simp [release_eq]

@[simp] theorem release_state (s : Schedule σ) (f : Flight) : (s.release f).state = s.state := by simp [release_eq]

@[simp] theorem release_agenda (s : Schedule σ) (f : Flight) : (s.release f).agenda = s.agenda := by simp [release_eq]

@[simp] theorem release_unstarted (s : Schedule σ) (f : Flight) : (s.release f).unstarted = s.unstarted := by
  rw [release_eq, fill_unstarted, unstarted, unstarted, starts, starts, List.filterMap_append, nextTask_start?,
    List.append_nil]

theorem release_tasks (f : Flight) (member : task ∈ s.tasks ∨ task ∈ s.nextTask f) : task ∈ (s.release f).tasks := by
  rw [release_eq]
  refine fill_tasks ?_
  simp only [tasks, List.append_assoc, List.mem_append, Option.mem_toList] at member ⊢
  rcases member with (ready | agenda) | added
  · exact .inl ready
  · exact .inr (.inr agenda)
  · exact .inr (.inl added)

@[simp] theorem later_traffic (s : Schedule σ) (wait : Nat) (task : Task) :
    (s.later wait task).traffic = s.traffic := by unfold later; split <;> rfl

@[simp] theorem later_now (s : Schedule σ) (wait : Nat) (task : Task) : (s.later wait task).now = s.now := by
  unfold later; split <;> rfl

@[simp] theorem later_state (s : Schedule σ) (wait : Nat) (task : Task) : (s.later wait task).state = s.state := by
  unfold later; split <;> rfl

@[simp] theorem later_pending (s : Schedule σ) (wait : Nat) (task : Task) :
    (s.later wait task).pending = s.pending := by unfold later; split <;> rfl

theorem later_starts (s : Schedule σ) (wait : Nat) (late : task.start? = none) :
    (s.later wait task).starts = s.starts := by
  unfold later
  split
  · simp [starts, late]
  · rfl

theorem later_tasks : task' ∈ (s.later wait task).tasks ↔ task' = task ∨ task' ∈ s.tasks := by
  unfold later
  split
  · simp [tasks]
  · simp only [tasks, List.map_append, List.map_cons, List.map_nil, List.mem_append, List.mem_singleton]
    tauto

theorem later_agenda (member : e ∈ (s.later wait task).agenda) :
    e ∈ s.agenda ∨ s.now ≤ e.1 ∧ e.2 = task := by
  unfold later at member
  split at member
  · exact .inl member
  · rcases List.mem_append.mp member with old | new
    · exact .inl old
    · rw [List.mem_singleton.mp new]
      exact .inr ⟨Nat.le_add_right _ _, rfl⟩

-- Rows are in progress or about to start in all places but `free` ones, unless no more rows are to come.
structure Places (room free : Nat) (s : Schedule σ) : Prop where
  within : s.traffic.flights.length + s.starts.length + free ≤ room
  used : s.pending ≠ [] → room ≤ s.traffic.flights.length + s.starts.length + free

theorem fill_places (places : Places room 1 s) : Places room 0 s.fill := by
  obtain ⟨within, used⟩ := places
  unfold fill
  split
  · rename_i none
    exact ⟨Nat.le_of_succ_le within, fun more => absurd none more⟩
  · rename_i waits
    have full := used (by simp [waits])
    constructor <;> simp [starts, Task.start?] at within full ⊢ <;> omega

-- What is true of a schedule between two tasks.
structure Steady (policy : RetryPolicy) (p : UpsertPlan) (room : Nat) (s : Schedule σ) : Prop where
  traffic : s.traffic.Valid p
  places : s.Places room 0
  future : ∀ e ∈ s.agenda, s.now ≤ e.1 ∧ e.2.start? = none
  pauses : ∀ f ∈ s.traffic.flights, ∀ write attempt, f.phase = .pausing write attempt → policy.leaves attempt
  served : ∀ f ∈ s.traffic.flights, s.traffic.Awake f → ∃ task ∈ s.tasks, f.Awaits task

theorem call_quiet (quiet : s.traffic.calling? row = none) : call board p s row = s := by
  unfold call; rw [quiet]

theorem call_makes (calling : s.traffic.calling? row = some write) : call board p s row =
    later { s with state := (board.write s.now p.boardId write s.state).after }
      (board.write s.now p.boardId write s.state).duration
      (.answer row (board.write s.now p.boardId write s.state).answer (board.write s.now p.boardId write s.state).clock) := by
  unfold call; rw [calling]

-- A task that is put on the agenda serves the rows that have no other one.
theorem later_steady (late : task.start? = none) (traffic : s.traffic.Valid p) (places : s.Places room 0)
    (future : ∀ e ∈ s.agenda, s.now ≤ e.1 ∧ e.2.start? = none)
    (pauses : ∀ f ∈ s.traffic.flights, ∀ write attempt, f.phase = .pausing write attempt →
      policy.leaves attempt)
    (served : ∀ f ∈ s.traffic.flights, s.traffic.Awake f → (∃ other ∈ s.tasks, f.Awaits other) ∨ f.Awaits task) :
    (s.later wait task).Steady policy p room := by
  refine ⟨by simpa using traffic, ⟨?_, ?_⟩, ?_, by simpa using pauses, ?_⟩
  · rw [later_traffic, later_starts _ _ late]
    exact places.within
  · rw [later_traffic, later_starts _ _ late, later_pending]
    exact places.used
  · intro e member
    rw [later_now]
    rcases later_agenda member with old | ⟨time, new⟩
    · exact future e old
    · exact ⟨time, by rw [new, late]⟩
  · intro f member awake
    rw [later_traffic] at member awake
    rcases served f member awake with ⟨other, has, awaits⟩ | awaits
    · exact ⟨other, later_tasks.mpr (.inr has), awaits⟩
    · exact ⟨task, later_tasks.mpr (.inl rfl), awaits⟩

-- The row that calls gets its answer; the others have their tasks already.
theorem call_steady (traffic : s.traffic.Valid p) (places : s.Places room 0)
    (future : ∀ e ∈ s.agenda, s.now ≤ e.1 ∧ e.2.start? = none)
    (pauses : ∀ f ∈ s.traffic.flights, ∀ write attempt, f.phase = .pausing write attempt →
      policy.leaves attempt)
    (served : ∀ f ∈ s.traffic.flights, s.traffic.Awake f → (∃ task ∈ s.tasks, f.Awaits task) ∨
      f.row = row ∧ ∃ write attempt, f.phase = .calling write attempt) :
    (call board p s row).Steady policy p room := by
  cases calling : s.traffic.calling? row with
  | none =>
    rw [call_quiet calling]
    refine ⟨traffic, places, future, pauses, fun f member awake => ?_⟩
    rcases served f member awake with has | ⟨rfl, write, attempt, phase⟩
    · exact has
    · rw [Traffic.calling?, traffic.flight? member, Option.bind_some, phase] at calling
      cases calling
  | some write =>
    rw [call_makes calling]
    refine later_steady rfl traffic ⟨places.within, places.used⟩ future pauses fun f member awake => ?_
    rcases served f member awake with has | ⟨rfl, write, attempt, phase⟩
    · exact .inl has
    · exact .inr (.answer phase)

-- The task at the front takes at most its own row on.
theorem served_others {f : Flight} (served : ∃ other ∈ (task :: s.ready) ++ s.agenda.map (·.2), f.Awaits other)
    (apart : ¬ f.Awaits task) : ∃ other ∈ s.tasks, f.Awaits other := by
  obtain ⟨other, member, awaits⟩ := served
  rcases List.mem_cons.mp member with rfl | rest
  · exact absurd awaits apart
  · exact ⟨other, rest, awaits⟩

theorem setPhase_awake {t : Traffic} {row : Nat} {phase : Phase} {f : Flight} :
    (t.setPhase row phase).Awake f ↔ t.Awake f := by
  simp [Traffic.Awake]

theorem setPhase_cases {t : Traffic} {g : Flight} (member : g ∈ (t.setPhase row phase).flights) :
    g ∈ t.flights ∧ g.row ≠ row ∨ g.row = row ∧ g.phase = phase := by
  obtain ⟨f, inside, rfl⟩ := List.mem_map.mp member
  by_cases same : f.row = row
  · exact .inr (by simp [same])
  · exact .inl (by simp [same, inside])

-- A change of phase of the row at the front leaves the other rows their tasks.
theorem setPhase_served (steady : Steady policy p room { s with ready := task :: s.ready })
    (own : task.row = row) (phase : Phase) : ∀ g ∈ (s.traffic.setPhase row phase).flights,
      (s.traffic.setPhase row phase).Awake g →
        (∃ other ∈ s.tasks, g.Awaits other) ∨ g.row = row ∧ g.phase = phase := by
  intro g member awake
  rcases setPhase_cases member with ⟨inside, apart⟩ | changed
  · exact .inl (served_others (steady.served g inside (setPhase_awake.mp awake)) fun awaits =>
      apart (awaits.row_eq.trans own))
  · exact .inr changed

theorem setPhase_pauses (steady : Steady policy p room { s with ready := task :: s.ready })
    (right : ∀ write attempt, phase = .pausing write attempt → policy.leaves attempt) :
    ∀ g ∈ (s.traffic.setPhase row phase).flights, ∀ write attempt, g.phase = .pausing write attempt →
      policy.leaves attempt := by
  intro g member write attempt pausing
  rcases setPhase_cases member with ⟨inside, _⟩ | ⟨_, changed⟩
  · exact steady.pauses g inside write attempt pausing
  · exact right write attempt (changed.symm.trans pausing)

theorem setPhase_places {row : Nat} {phase : Phase} (late : task.start? = none)
    (places : Places room 0 { s with ready := task :: s.ready }) :
    Places room 0 { s with traffic := s.traffic.setPhase row phase } := by
  obtain ⟨within, used⟩ := places
  simp only [starts, List.filterMap_cons, late] at within used
  have length : (s.traffic.setPhase row phase).flights.length = s.traffic.flights.length := List.length_map _
  constructor
  · rwa [length]
  · rwa [length]

theorem entered_steady (steady : Steady policy p room { s with ready := .start row data :: s.ready })
    (fresh : s.traffic.known row = false) :
    (call board p { s with traffic := s.traffic.enter p row data } row).Steady policy p room := by
  obtain ⟨f, joined⟩ := Traffic.enter_joined p s.traffic row data
  refine call_steady (Traffic.enter_valid steady.traffic fresh) ?_ steady.future ?_ ?_
  · obtain ⟨within, used⟩ := steady.places
    simp only [starts, List.filterMap_cons, Task.start?, List.length_cons] at within used
    constructor
    · simp only [starts, joined.flights, List.length_append, List.length_singleton]
      omega
    · intro more
      have full := used more
      simp only [starts, joined.flights, List.length_append, List.length_singleton]
      omega
  · intro g member write attempt pausing
    rcases joined.mem.mp member with old | rfl
    · exact steady.pauses g old write attempt pausing
    · rcases joined.phase with queued | called
      · rw [queued] at pausing; cases pausing
      · rw [called] at pausing; cases pausing
  · intro g member awake
    rcases joined.mem.mp member with old | rfl
    · -- a row that was in line already has the holder that it had
      refine .inl (served_others (steady.served g old fun queued => ?_) (by rintro ⟨⟩))
      obtain ⟨ticket, has, holds⟩ := awake queued
      refine ⟨ticket, has, ?_⟩
      rw [joined.holder?] at holds
      cases holder : s.traffic.holder? ticket.lock with
      | some other => rwa [holder] at holds
      | none =>
        have shares : g.shares ticket.lock = true := Flight.shares_iff.mpr ⟨ticket, has, rfl⟩
        have alone := List.find?_eq_none.mp (Option.map_eq_none_iff.mp holder) g old
        exact absurd shares alone
    · rcases joined.phase with queued | called
      · obtain ⟨ticket, other, has, holder⟩ := joined.waits queued
        obtain ⟨_, same, holds⟩ := awake queued
        cases has.symm.trans same
        rw [joined.holder?, holder, Option.some_or] at holds
        cases holds
        obtain ⟨h, inside, _, row'⟩ := Traffic.holder?_mem holder
        have known : s.traffic.known row = true := Traffic.known_iff.mpr (.inl ⟨h, inside, row'.trans joined.sameRow⟩)
        rw [fresh] at known
        cases known
      · exact .inr ⟨joined.sameRow, _, _, called⟩

theorem ended_steady (steady : Steady policy p room { s with ready := .answer row answer clock :: s.ready })
    (found : s.traffic.flight? row = some f) :
    (release { s with traffic := s.traffic.finish f write attempt answer } f).Steady policy p room := by
  obtain ⟨member, rfl⟩ := Traffic.flight?_mem found
  obtain ⟨before, after, (split : s.traffic.flights = before ++ f :: after), others⟩ := steady.traffic.split member
  have flights : (s.traffic.finish f write attempt answer).flights = before ++ after :=
    Traffic.finish_flights split others
  refine ⟨by simpa using Traffic.finish_valid steady.traffic member, ?_, by simpa using steady.future, ?_, ?_⟩
  · rw [release_eq]
    refine fill_places ?_
    obtain ⟨within, used⟩ := steady.places
    simp only [starts, List.filterMap_cons, Task.start?, split, List.length_append, List.length_cons] at within used
    constructor
    · simp only [starts, List.filterMap_append, nextTask_start?, flights, List.length_append, List.length_nil]
      omega
    · intro more
      have full := used more
      simp only [starts, List.filterMap_append, nextTask_start?, flights, List.length_append, List.length_nil]
      omega
  · rw [release_traffic]
    exact fun g stays => steady.pauses g (Traffic.mem_finish.mp stays).1
  · rw [release_traffic]
    intro g stays awake
    obtain ⟨inside, different⟩ := Traffic.mem_finish.mp stays
    by_cases shared : g.phase = .queued ∧ ∃ ticket, f.ticket = some ticket ∧ g.shares ticket.lock = true
    · -- the lock has become free, and it is this row's turn
      obtain ⟨queued, ticket, has, shares⟩ := shared
      obtain ⟨own, wants, lock⟩ := Flight.shares_iff.mp shares
      obtain ⟨_, same, holds⟩ := awake queued
      cases wants.symm.trans same
      refine ⟨.proceed g.row, release_tasks f (.inr ?_), .proceed queued⟩
      simp [nextTask, has, ← lock, holds]
    · obtain ⟨task, has, awaits⟩ : ∃ task ∈ s.tasks, g.Awaits task := by
        refine served_others (steady.served g inside fun queued => ?_) fun awaits => ?_
        · obtain ⟨ticket, has, holds⟩ := awake queued
          refine ⟨ticket, has, ?_⟩
          rw [← holds]
          refine (Traffic.finish_holder? steady.traffic member ?_).symm
          refine Bool.eq_false_iff.mpr fun mine => shared ⟨queued, ?_⟩
          obtain ⟨other, wants, lock⟩ := Flight.shares_iff.mp mine
          exact ⟨other, wants, Flight.shares_iff.mpr ⟨ticket, has, lock.symm⟩⟩
        · exact different awaits.row_eq
      exact ⟨task, release_tasks f (.inl has), awaits⟩

-- A row that awaits a task can go on with it.
theorem awaits_possible {t : Traffic} {f : Flight} (valid : t.Valid p) (member : f ∈ t.flights) (awake : t.Awake f)
    (awaits : f.Awaits task) : ∃ next, Traffic.Step p policy t task.event next := by
  have found := valid.flight? member
  cases awaits with
  | proceed queued =>
    obtain ⟨ticket, has, holds⟩ := awake queued
    exact ⟨_, .proceed found queued has holds⟩
  | @answer _ attempt result _ calling =>
    cases result with
    | ok id => exact ⟨_, .ended found calling (by simp)⟩
    | error fault =>
      cases again : policy.again fault attempt with
      | true => exact ⟨_, .failed found calling again⟩
      | false =>
        refine ⟨_, .ended found calling ?_⟩
        rintro other ⟨⟩
        exact again
  | resume pausing => exact ⟨_, .resumed found pausing⟩

theorem turn_steady (steady : Steady policy p room { s with ready := task :: s.ready })
    (turn : Turn board stopsAt policy p s task next) : next.Steady policy p room := by
  have valid : s.traffic.Valid p := steady.traffic
  have calls {write : Write} {attempt : UInt32} : ∀ g ∈ (s.traffic.setPhase task.row (.calling write attempt)).flights,
      (s.traffic.setPhase task.row (.calling write attempt)).Awake g →
        (∃ other ∈ s.tasks, g.Awaits other) ∨ g.row = task.row ∧ ∃ write attempt, g.phase = .calling write attempt :=
    fun g member awake => (setPhase_served steady rfl _ g member awake).imp_right fun ⟨same, phase⟩ =>
      ⟨same, _, _, phase⟩
  cases turn with
  | skipped =>
    obtain ⟨within, used⟩ := steady.places
    simp only [starts, List.filterMap_cons, Task.start?, List.length_cons] at within used
    refine ⟨by simpa using valid, fill_places ⟨within, used⟩, by simpa using steady.future,
      by simpa using steady.pauses, ?_⟩
    intro g member awake
    rw [fill_traffic] at member awake
    obtain ⟨other, has, awaits⟩ := served_others (steady.served g member awake) (by rintro ⟨⟩)
    exact ⟨other, fill_tasks has, awaits⟩
  | entered _ fresh => exact entered_steady steady fresh
  | @proceeded row f ticket found waits has holds =>
    obtain ⟨member, rfl⟩ := Traffic.flight?_mem found
    have step : Traffic.Step p policy s.traffic (.proceed f.row) _ := .proceed found waits has holds
    exact call_steady (Traffic.step_valid valid step) (setPhase_places rfl steady.places) steady.future
      (setPhase_pauses steady (by simp [Traffic.firstCall])) calls
  | ended found => exact ended_steady steady found
  | @failed row f write attempt fault clock found calling again =>
    obtain ⟨member, rfl⟩ := Traffic.flight?_mem found
    refine later_steady rfl (Traffic.step_valid valid (.failed found calling again))
      (setPhase_places rfl steady.places) steady.future (setPhase_pauses steady ?_) fun g inside awake => ?_
    · rintro _ _ ⟨⟩
      exact RetryPolicy.leaves_again again
    · rcases setPhase_served steady rfl _ g inside awake with has | ⟨(same : g.row = f.row), pausing⟩
      · exact .inl has
      · exact .inr (same ▸ .resume pausing)
  | @resumed row f write attempt found pausing =>
    have step : Traffic.Step p policy s.traffic (.resumed row) _ := .resumed found pausing
    exact call_steady (Traffic.step_valid valid step) (setPhase_places rfl steady.places) steady.future
      (setPhase_pauses steady (by simp)) calls
  | idle late impossible =>
    obtain ⟨within, used⟩ := steady.places
    simp only [starts, List.filterMap_cons, late] at within used
    refine ⟨valid, ⟨within, used⟩, steady.future, steady.pauses, fun g member awake => ?_⟩
    refine served_others (steady.served g member awake) fun awaits => ?_
    obtain ⟨next, step⟩ := awaits_possible valid member awake awaits
    exact impossible next step

-- Without tasks there is no row left: the first row in line for a lock would have its turn.
theorem Steady.finished (steady : s.Steady policy p room) (idle : s.tasks = []) :
    s.traffic.flights = [] ∧ (0 < room → s.unstarted = []) := by
  have none : ∀ f ∈ s.traffic.flights, ¬ s.traffic.Awake f := by
    intro f member awake
    obtain ⟨task, has, _⟩ := steady.served f member awake
    rw [idle] at has
    cases has
  have empty : s.traffic.flights = [] := by
    refine List.eq_nil_iff_forall_not_mem.mpr fun f member => none f member fun queued => ?_
    obtain ⟨ticket, has⟩ := Option.ne_none_iff_exists'.mp (steady.traffic.waits f member queued)
    refine ⟨ticket, has, ?_⟩
    have held : ∃ g ∈ s.traffic.flights, g.shares ticket.lock = true :=
      ⟨f, member, Flight.shares_iff.mpr ⟨ticket, has, rfl⟩⟩
    obtain ⟨first, hit⟩ := Option.isSome_iff_exists.mp (List.find?_isSome.mpr held)
    have holds : s.traffic.holder? ticket.lock = some first.row := by rw [Traffic.holder?, hit]; rfl
    have inside := List.mem_of_find?_eq_some hit
    obtain ⟨own, wants, lock⟩ := Flight.shares_iff.mp (by simpa using List.find?_some hit)
    exact absurd (fun _ => ⟨own, wants, lock ▸ holds⟩) (none first inside)
  have starts : s.starts = [] := by rw [Schedule.starts, (List.append_eq_nil_iff.mp idle).1]; rfl
  refine ⟨empty, fun open' => ?_⟩
  have pending : s.pending = [] := by
    by_contra more
    have full := steady.places.used more
    rw [empty, starts] at full
    simp at full
    omega
  rw [unstarted, starts, pending, List.nil_append]

theorem jump_starts (idle : s.ready = []) (late : ∀ e ∈ s.agenda, e.2.start? = none) (time : Nat) :
    (s.jump time).starts = s.starts := by
  have quiet : (s.jump time).starts = [] := by
    rw [starts, jump, List.filterMap_map, List.filterMap_eq_nil_iff]
    exact fun e member => late e (List.mem_of_mem_filter member)
  rw [quiet, starts, idle]
  rfl

theorem jump_steady (steady : s.Steady policy p room) (idle : s.ready = []) (time : Nat)
    (first : ∀ e ∈ s.agenda, time ≤ e.1) : (s.jump time).Steady policy p room := by
  have starts := jump_starts idle (fun e member => (steady.future e member).2) time
  refine ⟨steady.traffic, ⟨?_, ?_⟩, ?_, steady.pauses, ?_⟩
  · rw [starts]; exact steady.places.within
  · rw [starts]; exact steady.places.used
  · intro e member
    have old := List.mem_of_mem_filter member
    exact ⟨first e old, (steady.future e old).2⟩
  · intro f member awake
    obtain ⟨task, has, awaits⟩ := steady.served f member awake
    rw [tasks, idle, List.nil_append] at has
    obtain ⟨e, inside, rfl⟩ := List.mem_map.mp has
    refine ⟨e.2, ?_, awaits⟩
    by_cases due : e.1 = time
    · exact List.mem_append_left _ (List.mem_map_of_mem (List.mem_filter.mpr ⟨inside, by simpa using due⟩))
    · exact List.mem_append_right _ (List.mem_map_of_mem (List.mem_filter.mpr ⟨inside, by simpa using due⟩))

end Schedule

def Phase.weight (policy : RetryPolicy) : Phase → Nat
  | .queued => 4 * policy.maxRetries.toNat + 3
  | .calling _ attempt => 4 * (policy.maxRetries.toNat + 1 - attempt.toNat) + 1
  | .pausing _ attempt => 4 * (policy.maxRetries.toNat + 1 - attempt.toNat) - 1

def startWeight (policy : RetryPolicy) : Nat := 4 * (policy.maxRetries.toNat + 2)

def Task.weight (policy : RetryPolicy) : Task → Nat
  | .start .. => startWeight policy
  | _ => 1

def Traffic.weight (policy : RetryPolicy) (t : Traffic) : Nat := (t.flights.map (·.phase.weight policy)).sum

namespace Schedule
variable {σ : Type} {board : Board σ} {stopsAt : StopTime σ} {policy : RetryPolicy} {p : UpsertPlan} {room : Nat}
  {s next : Schedule σ}

def ahead (policy : RetryPolicy) (s : Schedule σ) : Nat :=
  (s.ready.map (·.weight policy)).sum + 2 * s.agenda.length + s.pending.length * startWeight policy

def weight (policy : RetryPolicy) (s : Schedule σ) : Nat := s.traffic.weight policy + s.ahead policy

theorem late_weight {task : Task} (late : task.start? = none) : task.weight policy = 1 := by
  cases task with
  | start => cases late
  | _ => rfl

theorem fill_ahead (s : Schedule σ) : s.fill.ahead policy = s.ahead policy := by
  unfold fill
  split
  · rfl
  · rename_i row data _ waits
    have own : (Task.start row data).weight policy = startWeight policy := rfl
    simp only [ahead, waits, List.map_append, List.sum_append, List.map_cons, List.map_nil, List.sum_cons, List.sum_nil,
      own, List.length_cons, Nat.succ_mul]
    omega

theorem release_ahead (policy : RetryPolicy) (s : Schedule σ) (f : Flight) :
    (s.release f).ahead policy ≤ s.ahead policy + 1 := by
  have light : ((s.nextTask f).toList.map (·.weight policy)).sum ≤ 1 := by
    unfold nextTask
    cases f.ticket.bind fun ticket => s.traffic.holder? ticket.lock <;> simp [Task.weight]
  rw [release_eq, fill_ahead]
  simp only [ahead, List.map_append, List.sum_append]
  omega

theorem later_ahead (policy : RetryPolicy) (s : Schedule σ) (wait : Nat) (late : task.start? = none) :
    (s.later wait task).ahead policy ≤ s.ahead policy + 2 := by
  unfold later
  split
  · simp only [ahead, List.map_cons, List.sum_cons, late_weight late]
    omega
  · simp only [ahead, List.length_append, List.length_singleton]
    omega

theorem call_weight (policy : RetryPolicy) (board : Board σ) (p : UpsertPlan) (s : Schedule σ) (row : Nat) :
    (call board p s row).weight policy ≤ s.weight policy + 2 := by
  cases calling : s.traffic.calling? row with
  | none => rw [call_quiet calling]; exact Nat.le_add_right _ _
  | some write =>
    rw [call_makes calling, weight, later_traffic]
    exact Nat.add_le_add_left (later_ahead policy _ _ rfl) _

theorem setPhase_weight (policy : RetryPolicy) {t : Traffic} {f : Flight} (valid : t.Valid p)
    (member : f ∈ t.flights) (phase : Phase) : (t.setPhase f.row phase).weight policy + f.phase.weight policy = t.weight policy + phase.weight policy := by
  obtain ⟨before, after, split, others⟩ := valid.split member
  simp only [Traffic.weight, Traffic.setPhase_flights split others, split, List.map_append, List.map_cons,
    List.sum_append, List.sum_cons]
  omega

theorem finish_weight (policy : RetryPolicy) {t : Traffic} {f : Flight} (valid : t.Valid p) (member : f ∈ t.flights)
    (write : Write) (attempt : UInt32) (answer : Except BoardFault String) :
    (t.finish f write attempt answer).weight policy + f.phase.weight policy = t.weight policy := by
  obtain ⟨before, after, split, others⟩ := valid.split member
  simp only [Traffic.weight, Traffic.finish_flights split others, split, List.map_append, List.map_cons,
    List.sum_append, List.sum_cons]
  omega

theorem turn_weight (steady : Steady policy p room { s with ready := task :: s.ready })
    (turn : Turn board stopsAt policy p s task next) :
    next.weight policy < weight policy { s with ready := task :: s.ready } := by
  have valid : s.traffic.Valid p := steady.traffic
  have spent : weight policy { s with ready := task :: s.ready } = s.weight policy + task.weight policy := by
    simp only [weight, ahead, List.map_cons, List.sum_cons]
    omega
  have moved (traffic : Traffic) : weight policy { s with traffic } + s.traffic.weight policy =
      s.weight policy + traffic.weight policy := by
    simp only [weight, ahead]
    omega
  rw [spent]
  cases turn with
  | @skipped row data =>
    have own : (Task.start row data).weight policy = 4 * (policy.maxRetries.toNat + 2) := rfl
    rw [weight, fill_traffic, fill_ahead, own, ← weight]
    omega
  | @entered row data _ fresh =>
    obtain ⟨f, joined⟩ := Traffic.enter_joined p s.traffic row data
    have own : (Task.start row data).weight policy = 4 * (policy.maxRetries.toNat + 2) := rfl
    have called := call_weight policy board p { s with traffic := s.traffic.enter p row data } row
    have grown : (s.traffic.enter p row data).weight policy = s.traffic.weight policy + f.phase.weight policy := by
      simp [Traffic.weight, joined.flights]
    have light : f.phase.weight policy ≤ 4 * policy.maxRetries.toNat + 3 := by
      rcases joined.phase with queued | called
      · rw [queued]; exact Nat.le_refl _
      · rw [called, Traffic.firstCall, Phase.weight, UInt32.toNat_one]
        omega
    have before := moved (s.traffic.enter p row data)
    omega
  | @proceeded row f ticket found waits has holds =>
    obtain ⟨member, rfl⟩ := Traffic.flight?_mem found
    have called := call_weight policy board p { s with traffic := s.traffic.proceed p f } f.row
    have changed := setPhase_weight policy valid member (Traffic.firstCall p s.traffic f.data f.key)
    rw [waits, Traffic.firstCall, Phase.weight, Phase.weight, UInt32.toNat_one, ← Traffic.firstCall,
      ← Traffic.proceed] at changed
    have own : (Task.proceed f.row).weight policy = 1 := rfl
    have before := moved (s.traffic.proceed p f)
    omega
  | @ended row f write attempt answer clock found calling last =>
    obtain ⟨member, rfl⟩ := Traffic.flight?_mem found
    have changed := finish_weight policy valid member write attempt answer
    rw [calling, Phase.weight] at changed
    have released := release_ahead policy { s with traffic := s.traffic.finish f write attempt answer } f
    have own : (Task.answer f.row answer clock).weight policy = 1 := rfl
    have before := moved (s.traffic.finish f write attempt answer)
    simp only [weight, release_traffic] at before ⊢
    omega
  | @failed row f write attempt fault clock found calling again =>
    obtain ⟨member, rfl⟩ := Traffic.flight?_mem found
    have changed := setPhase_weight policy valid member (.pausing write attempt)
    rw [calling, Phase.weight, Phase.weight] at changed
    have waits := later_ahead policy { s with traffic := s.traffic.setPhase f.row (.pausing write attempt) }
      (policy.wait fault attempt clock) (rfl : (Task.resume f.row).start? = none)
    have own : (Task.answer f.row (.error fault) clock).weight policy = 1 := rfl
    have before := moved (s.traffic.setPhase f.row (.pausing write attempt))
    have bound := (RetryPolicy.leaves_counted (RetryPolicy.leaves_again again)).1
    simp only [weight, later_traffic] at before ⊢
    omega
  | @resumed row f write attempt found pausing =>
    obtain ⟨member, rfl⟩ := Traffic.flight?_mem found
    have called := call_weight policy board p
      { s with traffic := s.traffic.setPhase f.row (.calling write (attempt + 1)) } f.row
    have changed := setPhase_weight policy valid member (.calling write (attempt + 1))
    have bound := RetryPolicy.leaves_counted (steady.pauses f member write attempt pausing)
    rw [pausing, Phase.weight, Phase.weight] at changed
    have own : (Task.resume f.row).weight policy = 1 := rfl
    have before := moved (s.traffic.setPhase f.row (.calling write (attempt + 1)))
    omega
  | idle late => rw [late_weight late]; omega

theorem jump_weight (idle : s.ready = []) (late : ∀ e ∈ s.agenda, e.2.start? = none) (due : e ∈ s.agenda) :
    (s.jump e.1).weight policy < s.weight policy := by
  have light : ∀ agenda : List (Nat × Task), (∀ e ∈ agenda, e.2.start? = none) →
      ((agenda.map (·.2)).map (·.weight policy)).sum = agenda.length := by
    intro agenda late
    induction agenda with
    | nil => rfl
    | cons first rest ih =>
      rw [List.map_cons, List.map_cons, List.sum_cons, ih fun e member => late e (List.mem_cons_of_mem _ member),
        late_weight (late first (by simp)), List.length_cons, Nat.add_comm]
  have parts : (s.agenda.filter (·.1 == e.1)).length + (s.agenda.filter (·.1 != e.1)).length = s.agenda.length :=
    (List.length_eq_length_filter_add _).symm
  have some : 0 < (s.agenda.filter (·.1 == e.1)).length :=
    List.length_pos_of_mem (List.mem_filter.mpr ⟨due, by simp⟩)
  simp only [weight, ahead, jump, idle, light _ fun e member => late e (List.mem_of_mem_filter member), List.map_nil,
    List.sum_nil]
  omega

-- What every task and every jump of the clock preserves is true when the tasks have run out, and they do.
theorem run_preserves {Good : Schedule σ → Prop} (good : Good s) (enough : s.weight policy < fuel)
    (performs : ∀ s task, Good { s with ready := task :: s.ready } → Good (perform board stopsAt policy p s task) ∧
      (perform board stopsAt policy p s task).weight policy < weight policy { s with ready := task :: s.ready })
    (jumps : ∀ s e, Good s → s.ready = [] → e ∈ s.agenda → (∀ other ∈ s.agenda, e.1 ≤ other.1) →
      Good (s.jump e.1) ∧ (s.jump e.1).weight policy < s.weight policy) :
    Good (s.run board stopsAt policy p fuel) ∧ (s.run board stopsAt policy p fuel).tasks = [] := by
  induction fuel generalizing s with
  | zero => exact absurd enough (Nat.not_lt_zero _)
  | succ fuel ih =>
    rw [run]
    split
    · rename_i task ready next
      have same : s = { { s with ready } with ready := task :: ready } := by rw [← next]
      obtain ⟨good, lighter⟩ := performs { s with ready } task (same ▸ good)
      rw [← same] at lighter
      exact ih good (by omega)
    · rename_i idle
      split
      · rename_i time first
        obtain ⟨member, least⟩ := List.min?_eq_some_iff.mp first
        obtain ⟨e, inside, rfl⟩ := List.mem_map.mp member
        obtain ⟨good, lighter⟩ := jumps s e good idle inside fun other within =>
          least _ (List.mem_map_of_mem within)
        exact ih good (by omega)
      · rename_i none
        have agenda : s.agenda = [] := List.map_eq_nil_iff.mp (List.min?_eq_none_iff.mp none)
        exact ⟨good, by rw [tasks, idle, agenda]; rfl⟩

section
variable (room : Nat) (rows : List (Nat × Row)) (start : Progress σ)

theorem ofRows_starts : (ofRows room rows start).starts = rows.take room := by
  simp only [starts, ofRows, List.filterMap_map]
  exact List.filterMap_some

theorem ofRows_unstarted : (ofRows room rows start).unstarted = rows := by
  rw [unstarted, ofRows_starts]
  exact List.take_append_drop room rows

theorem ofRows_steady : (ofRows room rows start).Steady policy p room := by
  refine ⟨Traffic.start_valid _, ⟨?_, ?_⟩, by simp [ofRows], by simp [ofRows, Traffic.start],
    by simp [ofRows, Traffic.start]⟩
  · rw [ofRows_starts, List.length_take]
    simp [ofRows, Traffic.start]
  · intro more
    have longer : room < rows.length := by simpa [ofRows] using more
    rw [ofRows_starts, List.length_take]
    simp [ofRows, Traffic.start]
    omega

theorem ofRows_weight (policy : RetryPolicy) : (ofRows room rows start).weight policy < steps policy rows.length := by
  have starting : ((ofRows room rows start).ready.map (·.weight policy)).sum =
      (rows.take room).length * startWeight policy := by
    simp only [ofRows, List.map_map]
    induction rows.take room with
    | nil => simp
    | cons first rest ih =>
      rw [List.map_cons, List.sum_cons, ih, List.length_cons, Nat.succ_mul, Nat.add_comm]
      rfl
  have later : (ofRows room rows start).pending.length = (rows.drop room).length := rfl
  have all : (rows.take room).length + (rows.drop room).length = rows.length := by
    rw [← List.length_append, List.take_append_drop]
  have nothing : (ofRows room rows start).agenda.length = 0 := rfl
  have idle : (ofRows room rows start).traffic.weight policy = 0 := rfl
  rw [weight, ahead, idle, nothing, starting, later, steps, ← all, Nat.add_mul, startWeight]
  omega

end

end Schedule
end TidyRows
