import TidyRows.Proofs.Upsert.Accounting
import TidyRows.Proofs.Upsert.CallOrder
import TidyRows.Proofs.Upsert.IdealBoard
namespace TidyRows
namespace Lanes
section
variable {l : Lanes} {lane : Lane} {index : KeyIndex} {log log' : List Deed} {due due' : Due}
  {done done' : List RowOutcome} {t t' : Traffic} {ahead ahead' : List (Nat × Row)} {c : Course} {o o' : RowOutcome}

theorem foldl_ended (rows : List (Nat × Row)) (st : LaneState) : st.ended <+: (rows.foldl (l.next lane) st).ended ∧
    (rows.foldl (l.next lane) st).ended.map (·.row) = st.ended.map (·.row) ++ rows.map (·.1) := by
  induction rows generalizing st with
  | nil => exact ⟨List.prefix_rfl, (List.append_nil _).symm⟩
  | cons row rest ih =>
    obtain ⟨kept, rows⟩ := ih (l.next lane st row)
    rw [List.foldl_cons, rows]
    refine ⟨(List.prefix_append _ _).trans kept, ?_⟩
    rw [Lanes.next, LaneState.finish, List.map_append, List.append_assoc]
    rfl

theorem going_ended {inside waiting : List Flight} {writes : List Write} {st after : LaneState}
    (going : l.Going lane st due inside writes after waiting) : st.ended <+: after.ended := by
  cases going with
  | idle => exact List.prefix_rfl
  | calling => exact List.prefix_append _ _
  | pausing => exact List.prefix_append _ _

theorem final_rows (l : Lanes) (lane : Lane) (index : KeyIndex) :
    ((l.final lane index).ended.map (·.row)).Nodup := by
  have distinct : ((numbered l.rows).map (·.1)).Nodup := by
    rw [Course.numbered_numbers]
    exact List.nodup_range
  rw [final, (foldl_ended _ _).2]
  exact distinct.sublist (List.filter_sublist.map _)

theorem Stand.told (stand : l.Stand index log due done t ahead) (member : o ∈ done ++ t.ended) :
    o.shown l.face ∈ (l.final (l.of o.row) index).ended := by
  obtain ⟨st, after, waiting, going, _, _, told, all⟩ := stand (l.of o.row)
  rw [← all]
  exact (foldl_ended _ after).1.subset ((going_ended going).subset (told o member rfl))

theorem told_alike (one : l.Stand index log due done t ahead) (other : l.Stand index log' due' done' t' ahead')
    (member : o ∈ done ++ t.ended) (member' : o' ∈ done' ++ t'.ended) (same : o.row = o'.row) :
    o.shown l.face = o'.shown l.face := by
  have first := one.told member
  have second := other.told member'
  rw [← same] at second
  exact List.inj_on_of_nodup_map (final_rows l _ index) first second same

theorem of_eq_key {i : Nat} {key : String} : l.of i = .key key ↔ l.plan.keyAt l.rows i = some key := by
  unfold of
  cases l.plan.keyAt l.rows i <;> simp

theorem InOrder.last {rows : List Nat} {i : Nat} (order : l.InOrder log rows) (called : i ∈ callers log)
    (bound : ∀ d ∈ l.calls (l.of i) log, d.row ≤ i) : ∃ d, (l.calls (l.of i) log).getLast? = some d ∧ d.row = i := by
  obtain ⟨e, member, call, rfl⟩ := mem_callers.mp called
  have inside : e ∈ l.calls (l.of e.row) log := mem_calls.mpr ⟨member, call, rfl⟩
  have sorted := order.ordered (l.of e.row)
  obtain ⟨before, d, split⟩ : ∃ before d, l.calls (l.of e.row) log = before ++ [d] := by
    rcases List.eq_nil_or_concat (l.calls (l.of e.row) log) with none | ⟨before, d, split⟩
    · rw [none] at inside
      cases inside
    · exact ⟨before, d, by simpa using split⟩
  rw [split] at inside sorted bound ⊢
  refine ⟨d, by simp, Nat.le_antisymm (bound d (by simp)) ?_⟩
  rw [List.map_append, List.pairwise_append] at sorted
  rcases List.mem_append.mp inside with old | new
  · exact sorted.2.2 e.row (List.mem_map_of_mem old) d.row (by simp)
  · rw [List.mem_singleton.mp new]

end
end Lanes

-- The same has become of a row: what was done for it, whether it went well, the error or as much of the id as `face`
-- shows, and how often it was tried.
structure RowOutcome.Agrees (face : String → String) (o o' : RowOutcome) : Prop where
  row : o.row = o'.row
  action : o.action = o'.action
  success : o.success = o'.success
  error : ∀ fault, o.answer = .error fault ↔ o'.answer = .error fault
  id : ∀ id, o.answer = .ok id → ∃ id', o'.answer = .ok id' ∧ face id = face id'
  attempts : o.attempts = o'.attempts

theorem RowOutcome.agrees {face : String → String} {o o' : RowOutcome} (same : o.shown face = o'.shown face) :
    o.Agrees face o' := by
  obtain ⟨row, action, answer, attempts⟩ := o
  obtain ⟨row', action', answer', attempts'⟩ := o'
  simp only [shown, RowOutcome.mk.injEq] at same
  obtain ⟨rfl, rfl, answers, rfl⟩ := same
  cases answer with
  | ok id =>
    cases answer' with
    | ok id' => exact ⟨rfl, rfl, rfl, by simp, by simpa [Except.map] using answers, rfl⟩
    | error => cases answers
  | error fault =>
    cases answer' with
    | ok => cases answers
    | error fault' =>
      cases answers
      exact ⟨rfl, rfl, rfl, fun _ => Iff.rfl, by simp, rfl⟩

theorem RowOutcome.agrees_count {face : String → String} {os os' : List RowOutcome}
    (all : os.Forall₂ (RowOutcome.Agrees face) os') (counts : Bool → Bool) :
    os.countP (counts ·.success) = os'.countP (counts ·.success) := by
  induction all with
  | nil => rfl
  | cons first _ ih => rw [List.countP_cons, List.countP_cons, ih, first.success]

theorem RowOutcome.Agrees.breaks {face : String → String} {o o' : RowOutcome} (agrees : o.Agrees face o')
    (policy : RetryPolicy) : o.breaks policy = o'.breaks policy := by
  rw [RowOutcome.breaks, RowOutcome.breaks, agrees.attempts]
  cases answer : o.answer with
  | ok id =>
    obtain ⟨id', answer', _⟩ := agrees.id id answer
    rw [answer']
    rfl
  | error fault => rw [(agrees.error fault).mp answer]

structure SameAnyway (l : Lanes) (log : List Deed) (c : Course) (r : UpsertResult) : Prop where
  soFar : ∀ o ∈ c.outcomes, ∃ o' ∈ r.results, o.Agrees l.face o'
  complete : c.Over → c.left = [] → c.outcomes.Forall₂ (RowOutcome.Agrees l.face) r.results
  -- the rows of one key call in their order
  ordered : ∀ key, ((l.calls (.key key) log).map (·.row)).Pairwise (· ≤ ·)
  last : c.Over → c.left = [] → ∀ key i, l.plan.keyAt l.rows i = some key →
    (∀ j, i < j → l.plan.keyAt l.rows j ≠ some key) → ∃ d, (l.calls (.key key) log).getLast? = some d ∧ d.row = i

section
variable {l : Lanes} {index : KeyIndex} {log log' : List Deed} {due due' : Due} {c c' : Course} {room room' : Nat}
  {board : Board σ} {settings : UpsertSettings} {before state state' : σ} {r : UpsertResult}

theorem mem_outcomes {o : RowOutcome} : o ∈ c.outcomes ↔ o ∈ c.done ++ c.traffic.ended :=
  (c.traffic.outcomes_perm.append_left c.done).mem_iff

theorem SameAnyway.unbroken (same : SameAnyway l log c r) (whole : Upsert.broken policy r.results = false) :
    Upsert.broken policy c.outcomes = false := by
  simp only [Upsert.broken, List.any_eq_false] at whole ⊢
  intro o member
  obtain ⟨o', member', agrees⟩ := same.soFar o member
  rw [agrees.breaks]
  exact whole o' member'

theorem outcome_within (valid : c.Valid p rows) {o : RowOutcome} (member : o ∈ c.outcomes) : o.row < rows.length := by
  obtain ⟨first, count, ordered⟩ := valid.ordered
  have within := ordered.within
  rcases List.mem_append.mp (mem_outcomes.mp member) with done | ended
  · have row := List.mem_map_of_mem (f := RowOutcome.row) done
    rw [ordered.done, List.mem_range] at row
    omega
  · have row : o.row ∈ c.traffic.started := List.mem_append_left _ (List.mem_map_of_mem ended)
    have range := List.mem_range'_1.mp (ordered.started.mem_iff.mp row)
    omega

theorem outcomes_complete (valid : c.Valid p rows) (finished : c.Over) (through : c.left = []) :
    c.outcomes.map (·.row) = List.range rows.length := by
  obtain ⟨k, within, numbers, left⟩ := valid.outcomes_range finished
  have all : k = rows.length := Nat.le_antisymm within (Nat.le_of_not_lt fun short => left.mpr short through)
  rw [numbers, all]

theorem same_anyway (govern : l.Govern board (.start settings l.rows index) before)
    (reached : Course.Reached l.plan l.policy room (.start settings l.rows index) log c)
    (served : Served board l.plan.boardId before log due state)
    (reached' : Course.Reached l.plan l.policy room' (.start settings l.rows index) log' c')
    (served' : Served board l.plan.boardId before log' due' state') (finished : c'.Over) (through : c'.left = [])
    (results : r.results = c'.outcomes) : SameAnyway l log c r := by
  have stand := Lanes.reached_stands govern reached served
  have stand' := Lanes.reached_stands govern reached' served'
  have valid := Course.reached_valid reached (Course.start_valid settings l.rows index)
  have valid' := Course.reached_valid reached' (Course.start_valid settings l.rows index)
  have order := Lanes.reached_order settings index reached
  have all := outcomes_complete valid' finished through
  have alike : ∀ o ∈ c.outcomes, ∀ o' ∈ c'.outcomes, o.row = o'.row → o.Agrees l.face o' :=
    fun o member o' member' same => RowOutcome.agrees
      (Lanes.told_alike stand stand' (mem_outcomes.mp member) (mem_outcomes.mp member') same)
  refine ⟨?_, ?_, fun key => order.ordered (.key key), ?_⟩
  · intro o member
    have row : o.row ∈ c'.outcomes.map (·.row) := all ▸ List.mem_range.mpr (outcome_within valid member)
    obtain ⟨o', member', same⟩ := List.mem_map.mp row
    exact ⟨o', results ▸ member', alike o member o' member' same.symm⟩
  · intro finished' through'
    have rows := (outcomes_complete valid finished' through').trans all.symm
    have length : c.outcomes.length = c'.outcomes.length := by simpa using congrArg List.length rows
    rw [results]
    refine List.forall₂_of_length_eq_of_get length fun i one other => ?_
    refine alike _ (List.get_mem _ ⟨i, one⟩) _ (List.get_mem _ ⟨i, other⟩) ?_
    have same := congrArg (·[i]?) rows
    simpa [one, other] using same
  · intro finished' through' key i own later
    have lane : l.of i = .key key := Lanes.of_eq_key.mpr own
    have inside : i < l.rows.length := by
      unfold UpsertPlan.keyAt at own
      obtain ⟨data, found, _⟩ := Option.bind_eq_some_iff.mp own
      exact (List.getElem?_eq_some_iff.mp found).1
    have row : i ∈ c.outcomes.map (·.row) := outcomes_complete valid finished' through' ▸ List.mem_range.mpr inside
    obtain ⟨o, member, rfl⟩ := List.mem_map.mp row
    have called := (Lanes.reached_called settings l.rows index reached).ended o (mem_outcomes.mp member)
    rw [← lane]
    refine order.last called fun d call => Nat.le_of_not_lt fun after => ?_
    refine later d.row after (Lanes.of_eq_key.mp ?_)
    rw [(Lanes.mem_calls.mp call).2.2, lane]

end

-- A run through all its rows, none of which has broken off.
structure Upsert.Completed (policy : RetryPolicy) (c : Course) (r : UpsertResult) : Prop where
  finished : c.Over
  through : c.left = []
  results : r.results = c.outcomes
  unbroken : Upsert.broken policy r.results = false

theorem Upsert.run_completes (settings : UpsertSettings) (rows : List Row) {target : WriteBack} {now : Nat} {state : σ}
    {p : UpsertPlan} (counted : rows = [] ∨ settings.retryPolicy.attempts?.isSome)
    (planned : UpsertPlan.ofTarget target = .ok p)
    (shown : (Upsert.snapshot board settings.itemLimit p now state).answer = .ok index) :
    ∃ log c due after,
      Course.Reached p settings.retryPolicy (max settings.concurrency 1) (.start settings rows index) log c ∧
      Served board p.boardId (Upsert.snapshot board settings.itemLimit p now state).after log due after ∧
      ((∃ r, (Upsert.run board unstopped settings target rows now state).result = .ok r ∧
          Upsert.Completed settings.retryPolicy c r) ∨
        (Upsert.run board unstopped settings target rows now state).result = .error .overflow ∧
          Upsert.broken settings.retryPolicy c.outcomes = true) := by
  have lasting : StopTime.Lasting board unstopped := by
    intro _ _ _ _ stops
    cases stops
  obtain ⟨told, k, due, s, ending, chronicled, _⟩ := Upsert.run_ends rows lasting planned shown
  refine ⟨_, k.course, due, _, chronicled.reached.untimed, chronicled.served.served, ?_⟩
  generalize ran : (Upsert.run board unstopped settings target rows now state).result = result at ending ⊢
  cases ending with
  | @arrived r arrived =>
    refine .inl ⟨r, rfl, arrived.finished, ?_, arrived.results, arrived.unbroken⟩
    by_contra left
    cases arrived.stopped (arrived.cancelled.mpr left)
  | uncounted uncounted =>
    rcases counted with rfl | counted
    · rw [Upsert.run, planned] at ran
      simp only [shown] at ran
      cases ran
    · rw [uncounted] at counted
      cases counted
  | broken breaks => exact .inr ⟨rfl, breaks⟩

def UpsertSettings.single (s : UpsertSettings) : UpsertSettings := { s with concurrency := 1 }

-- Where the attempts cannot be counted no row comes to its first call.
theorem Course.reached_quiet (uncounted : policy.attempts? = none) (idle : origin.traffic.flights = [])
    (reached : Course.Reached p policy room origin log c) : c.traffic.flights = [] ∧ log = [] := by
  induction reached with
  | start => exact ⟨idle, rfl⟩
  | step _ step ih =>
    obtain ⟨idle, rfl⟩ := ih
    cases step with
    | batch | stop => exact ⟨idle, rfl⟩
    | row _ _ _ counted => rw [uncounted] at counted; cases counted
    | event late went =>
      have unknown (row : Nat) (f : Flight) : ¬Traffic.flight? _ row = some f := fun found => by
        have member := (Traffic.flight?_mem found).1
        rw [idle] at member
        cases member
      cases Traffic.advance_sound went with
      | enter => exact absurd rfl (late _ _)
      | proceed found | ended found | failed found | resumed found => exact absurd found (unknown _ _)

-- A run that has come to nothing, its policy allowing more attempts than can be counted. No write has been sent.
structure NeverStarts (settings : UpsertSettings) (p : UpsertPlan) (rows : List Row) (index : KeyIndex)
    (result single : Except Fault UpsertResult) : Prop where
  attempts : settings.retryPolicy.attempts? = none
  together : result = .error .overflow
  inTurn : single = .error .overflow
  quiet : ∀ log c, Course.Reached p settings.retryPolicy (max settings.concurrency 1) (.start settings rows index) log c →
    log = []

-- A run that is over with a wait that overflows, also with one row at a time. Up to there the rows of a key have called
-- in their order.
structure BreaksOff (l : Lanes) (settings : UpsertSettings) (index : KeyIndex)
    (result single : Except Fault UpsertResult) : Prop where
  overflows : ∃ attempt, l.policy.overflows attempt = true
  together : result = .error .overflow
  inTurn : single = .error .overflow
  ordered : ∀ log c, Course.Reached l.plan l.policy (max settings.concurrency 1) (.start settings l.rows index) log c →
    ∀ key, ((l.calls (.key key) log).map (·.row)).Pairwise (· ≤ ·)

-- Whatever is in progress at a time, in whatever order it goes on, a run comes to what it comes to with one row at a
-- time, if the answers for a key depend on the calls for this key only, and those for a row without a key on the row
-- and the number of the attempt.
theorem concurrency_changes_nothing (board : Board σ) (settings : UpsertSettings) (target : WriteBack)
    (rows : List Row) (now : Nat) (state : σ) (face : String → String)
    (reply : Lane → List Write → Write → Except BoardFault String)
    (planned : UpsertPlan.ofTarget target = .ok p)
    (shown : (Upsert.snapshot board settings.itemLimit p now state).answer = .ok index)
    (govern : Lanes.Govern ⟨p, settings.retryPolicy, rows, face, reply⟩ board (.start settings rows index)
      (Upsert.snapshot board settings.itemLimit p now state).after) :
    (∃ r, (Upsert.run board unstopped settings.single target rows now state).result = .ok r ∧
      r.results.map (·.row) = List.range rows.length ∧
      (∃ r', (Upsert.run board unstopped settings target rows now state).result = .ok r' ∧
        r'.results.Forall₂ (RowOutcome.Agrees face) r.results ∧ r'.succeeded = r.succeeded ∧ r'.failed = r.failed) ∧
      ∀ log due after c,
        Course.Reached p settings.retryPolicy (max settings.concurrency 1) (.start settings rows index) log c →
        Served board p.boardId (Upsert.snapshot board settings.itemLimit p now state).after log due after →
        SameAnyway ⟨p, settings.retryPolicy, rows, face, reply⟩ log c r) ∨
      NeverStarts settings p rows index (Upsert.run board unstopped settings target rows now state).result
        (Upsert.run board unstopped settings.single target rows now state).result ∨
      BreaksOff ⟨p, settings.retryPolicy, rows, face, reply⟩ settings index
        (Upsert.run board unstopped settings target rows now state).result
        (Upsert.run board unstopped settings.single target rows now state).result := by
  by_cases counted : rows = [] ∨ settings.retryPolicy.attempts?.isSome
  case neg =>
    obtain ⟨some, uncounted⟩ := not_or.mp counted
    have uncounted : settings.retryPolicy.attempts? = none := by simpa using uncounted
    exact .inr (.inl ⟨uncounted, (Upsert.run_overflows settings planned shown uncounted some).1,
      (Upsert.run_overflows settings.single planned shown uncounted some).1,
      fun _ _ reached => (Course.reached_quiet uncounted rfl reached).2⟩)
  obtain ⟨log, c, due, after, reached, served, single⟩ :=
    Upsert.run_completes settings.single rows counted planned shown
  obtain ⟨log', c', due', after', reached', served', together⟩ :=
    Upsert.run_completes settings rows counted planned shown
  have valid := Course.reached_valid reached (Course.start_valid settings rows index)
  rcases single with ⟨r, ran, complete⟩ | ⟨ran, breaks⟩
  · have same (log due after c) (one : Course.Reached p settings.retryPolicy (max settings.concurrency 1)
        (.start settings rows index) log c) (other : Served board p.boardId _ log due after) :=
      same_anyway govern one other reached served complete.finished complete.through complete.results
    have agreeing := same log' due' _ c' reached' served'
    rcases together with ⟨r', ran', complete'⟩ | ⟨_, breaks'⟩
    · have agree := agreeing.complete complete'.finished complete'.through
      rw [← complete'.results] at agree
      have counted := Upsert.run_counted ran
      have counted' := Upsert.run_counted ran'
      refine .inl ⟨r, ran, ?_, ⟨r', ran', agree, ?_, ?_⟩, same⟩
      · rw [complete.results]
        exact outcomes_complete valid complete.finished complete.through
      · rw [counted.succeeded, counted'.succeeded]
        exact RowOutcome.agrees_count agree id
      · rw [counted.failed, counted'.failed]
        exact RowOutcome.agrees_count agree not
    · cases breaks'.symm.trans (agreeing.unbroken complete.unbroken)
  · rcases together with ⟨r', ran', complete'⟩ | ⟨ran', _⟩
    · have agreeing := same_anyway govern reached served reached' served' complete'.finished complete'.through
        complete'.results
      cases breaks.symm.trans (agreeing.unbroken complete'.unbroken)
    · obtain ⟨o, _, broken⟩ := List.any_eq_true.mp breaks
      exact .inr (.inr ⟨⟨o.attempts, RetryPolicy.breaks_overflows broken⟩, ran', ran,
        fun _ _ reached key => (Lanes.reached_order settings index reached).ordered (.key key)⟩)

-- A board that has no time for a text when it gets it first. The first row of each key is tried twice.
namespace FirstTimeBusy

def mail (write : Write) : String := cellText (write.columns.get? "mail")

def answer (earlier : List Write) (write : Write) : Except BoardFault String :=
  if earlier.any (mail · == mail write) then .ok (mail write) else .error (.status 503 "busy")

def board : Board (List Write) where
  fetch _ _ _ _ earlier := ⟨.ok [], 0, 0, earlier⟩
  write _ _ write earlier := ⟨answer earlier write, 1, 0, earlier ++ [write]⟩

def rows : List Row :=
  [.ofList [("email", .text "ann")], .ofList [("email", .text "bob")], .ofList [("email", .text "ann")]]

def target : WriteBack :=
  ⟨.externalUpsert, some "contacts", some "email", none, some (.ofList [("email", "mail")]), none⟩

def plan : UpsertPlan := ⟨"contacts", .ofList [("email", "mail")], some ("email", "mail"), none⟩

def settings : UpsertSettings := { UpsertSettings.standard with concurrency := 2 }

def lanes : Lanes := ⟨plan, settings.retryPolicy, rows, id, fun _ => answer⟩

def mailAt (i : Nat) : Option String := rows[i]?.map fun row => cellText ((plan.columns row).get? "mail")

theorem lane_of_mail : ∀ i < 3, ∀ j < 3, mailAt i = mailAt j → lanes.of i = lanes.of j := by decide

theorem served_state (served : Served board "contacts" [] log due state) : state = sent log := by
  induction served with
  | start => rfl
  | call prior row write now ih =>
    rw [sent_append, ← ih]
    rfl
  | @reply _ _ _ row answer prior write given ih =>
    have quiet : sent [⟨row, write, some answer⟩] = [] := rfl
    rw [sent_append, quiet, List.append_nil, ih]

theorem shown_id (write : Write) : write.shown id = write := by
  cases write <;> rfl

theorem mail_of_row (reached : Course.Reached plan settings.retryPolicy room (.start settings rows .empty) log c)
    (member : d ∈ log) : d.row < 3 ∧ some (mail d.write) = mailAt d.row := by
  obtain ⟨_, _, _, lawful⟩ :=
    reached_truthful reached (Course.start_valid settings rows _) (start_truthful plan settings rows _)
  obtain ⟨earlier, later, split⟩ := List.append_of_mem member
  obtain ⟨data, found, agrees⟩ := lawful.at split
  refine ⟨(List.getElem?_eq_some_iff.mp found).1, ?_⟩
  rw [mailAt, found, mail, agrees]
  cases (plan.keyOfRow data).bind (itemOf plan rows .empty earlier) <;> rfl

theorem mem_sent {log : List Deed} : write ∈ sent log ↔ ∃ d ∈ log, d.answer = none ∧ d.write = write := by
  simp only [sent, List.mem_filterMap, Deed.sent?]
  refine exists_congr fun d => and_congr_right fun _ => ?_
  cases d.answer <;> simp

-- Writes with one text are those of one lane.
theorem governs : lanes.Govern board (.start settings rows .empty) [] := by
  intro room log due state row write c served reached now
  obtain ⟨small, text⟩ := mail_of_row (d := ⟨row, write, none⟩) reached (by simp)
  have same : state.any (mail · == mail write) = (lanes.sent (lanes.of row) log).any (mail · == mail write) := by
    rw [served_state served, Bool.eq_iff_iff, List.any_eq_true, List.any_eq_true]
    constructor
    · rintro ⟨earlier, member, equal⟩
      obtain ⟨d, inside, call, rfl⟩ := mem_sent.mp member
      obtain ⟨small', text'⟩ := mail_of_row reached (List.mem_append_left _ inside)
      have texts : mailAt d.row = mailAt row := by rw [← text, ← text', eq_of_beq equal]
      have own := lane_of_mail d.row small' row small texts
      exact ⟨_, List.mem_map_of_mem (Lanes.mem_calls.mpr ⟨inside, call, own⟩), by rw [lanes, shown_id]; exact equal⟩
    · rintro ⟨earlier, member, equal⟩
      obtain ⟨d, inside, rfl⟩ := List.mem_map.mp member
      obtain ⟨inside, call, _⟩ := Lanes.mem_calls.mp inside
      exact ⟨d.write, mem_sent.mpr ⟨d, inside, call, rfl⟩, by rw [lanes, shown_id] at equal; exact equal⟩
  have told : answer state write = answer (lanes.sent (lanes.of row) log) write := by rw [answer, answer, same]
  have whole : (answer state write).map id = answer state write := by cases answer state write <;> rfl
  have sends : write.shown lanes.face = write := shown_id write
  rw [sends]
  exact whole.trans told

theorem busy_board_agrees : ∃ r, (Upsert.run board unstopped settings.single target rows 0 []).result = .ok r ∧
    r.results.map (·.attempts.toNat) = [2, 2, 1] ∧
    (∃ r', (Upsert.run board unstopped settings target rows 0 []).result = .ok r' ∧
      r'.results.Forall₂ (RowOutcome.Agrees id) r.results) ∧
    -- the second row has come to its end before the first one
    ∃ log due after c, Course.Reached plan settings.retryPolicy 2 (.start settings rows .empty) log c ∧
      Served board "contacts" [] log due after ∧ c.outcomes.map (·.row) = [1] ∧
      log.map (·.row) = [0, 1, 1, 0, 1, 1] ∧ SameAnyway lanes log c r := by
  have counts : (Upsert.run board unstopped settings.single target rows 0 []).result.toOption.map
      (fun r => r.results.map (·.attempts.toNat)) = some [2, 2, 1] := by decide +kernel
  obtain ⟨r, ran, _, ⟨r', ran', agree, _⟩, any⟩ | never | broken :=
    concurrency_changes_nothing board settings target rows 0 [] id (fun _ => answer) rfl rfl governs
  case inr.inl =>
    rw [never.inTurn] at counts
    cases counts
  case inr.inr =>
    rw [broken.inTurn] at counts
    cases counts
  rw [ran] at counts
  have answered row answer : ∀ i data, Traffic.Event.answered row answer ≠ .enter i data := by simp
  have resumed row : ∀ i data, Traffic.Event.resumed row ≠ .enter i data := by simp
  have batch : Course.Reached plan settings.retryPolicy 2 (.start settings rows .empty) _ _ :=
    .step .start (.batch rfl rfl rfl)
  have first := batch.step (.row rfl (by decide) rfl rfl)
  have second := first.step (.row rfl (by decide) rfl rfl)
  have tried : settings.retryPolicy.again (.status 503 "busy") 1 = true := by decide +kernel
  have busy := second.step (.event (answered 1 _) (Traffic.advance_complete (.failed rfl rfl tried)))
  have busy' := busy.step (.event (answered 0 _) (Traffic.advance_complete (.failed rfl rfl tried)))
  have again := busy'.step (.event (resumed 1) rfl)
  have reached := again.step (.event (answered 1 (.ok "bob")) rfl)
  let ann : Write := .create "ann" (.ofList [("mail", .text "ann")])
  let bob : Write := .create "bob" (.ofList [("mail", .text "bob")])
  have origin : Served board "contacts" [] [] (fun _ => none) [] := .start
  have calls := (origin.call 0 ann 0).call 1 bob 0
  have told : Served board "contacts" [] (_ ++ [⟨1, bob, some (.error (.status 503 "busy"))⟩]) _ _ :=
    calls.reply bob rfl
  have told' : Served board "contacts" [] (_ ++ [⟨0, ann, some (.error (.status 503 "busy"))⟩]) _ _ :=
    told.reply ann rfl
  have served : Served board "contacts" [] (_ ++ [⟨1, bob, some (.ok "bob")⟩]) _ _ :=
    (told'.call 1 bob 5).reply bob rfl
  exact ⟨r, ran, Option.some.inj counts, ⟨r', ran', agree⟩, _, _, _, _, reached, served, by decide, by decide,
    any _ _ _ _ reached served⟩

end FirstTimeBusy
end TidyRows
