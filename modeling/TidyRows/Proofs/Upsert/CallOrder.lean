import TidyRows.Proofs.Upsert.LaneCourse
namespace TidyRows
namespace Lanes
section
variable {l : Lanes} {lane : Lane} {log : List Deed} {rows : List Nat} {p : UpsertPlan} {policy : RetryPolicy}
  {room : Nat} {c next : Course} {deeds : List Deed} {d : Deed}

def remaining (c : Course) : List Nat := c.traffic.flights.map (·.row) ++ c.ahead.map (·.1)

theorem start_remaining (settings : UpsertSettings) (rows : List Row) (index : KeyIndex) :
    remaining (.start settings rows index) = List.range rows.length := by
  simp [remaining, Course.ahead, Course.start, Traffic.start, batches, Course.batchesFrom_flatten,
    Course.numbered_numbers]

-- No call of a lane comes after one of a later row, and none is still to come before those that have been made.
structure InOrder (l : Lanes) (log : List Deed) (rows : List Nat) : Prop where
  sorted : rows.Pairwise (· < ·)
  passed : ∀ lane, ∀ d ∈ l.calls lane log, ∀ row ∈ rows, l.of row = lane → d.row ≤ row
  ordered : ∀ lane, ((l.calls lane log).map (·.row)).Pairwise (· ≤ ·)

theorem step_remaining (step : Course.Step p policy room c deeds next) : (remaining next).Sublist (remaining c) := by
  cases step with
  | batch idle none later =>
    rw [remaining, remaining, Course.ahead, Course.ahead, none, later]
    exact List.Sublist.refl _
  | @row i data rest after waits fits went =>
    cases Traffic.advance_sound went with
    | enter fresh =>
      obtain ⟨f, joined⟩ := Traffic.enter_joined p c.traffic i data
      rw [remaining, remaining, Course.ahead, Course.ahead, waits, joined.flights]
      simp [joined.sameRow]
  | event late went =>
    cases Traffic.advance_sound went with
    | enter => exact absurd rfl (late _ _)
    | proceed => simp [remaining, Course.ahead, Traffic.proceed]
    | ended => exact (List.filter_sublist.map _).append (List.Sublist.refl _)
    | failed => simp [remaining, Course.ahead]
    | resumed => simp [remaining, Course.ahead]
  | stop =>
    rw [remaining, remaining, Course.ahead, Course.ahead]
    exact List.Sublist.refl _

theorem calling?_caller {t : Traffic} (member : d ∈ ((t.calling? row).map fun w => (⟨row, w, none⟩ : Deed)).toList) :
    ∃ f ∈ t.flights, f.row = d.row ∧ f.phase ≠ .queued := by
  obtain ⟨write, calling, rfl⟩ := Option.map_eq_some_iff.mp (Option.mem_toList.mp member)
  obtain ⟨f, member, same, past⟩ := calling?_mem calling
  refine ⟨f, member, same, fun queued => ?_⟩
  rw [queued] at past
  cases past

-- A row that calls is in progress, and not in line any more.
theorem step_caller (step : Course.Step p policy room c deeds next) (member : d ∈ deeds) (call : d.answer = none) :
    ∃ f ∈ next.traffic.flights, f.row = d.row ∧ f.phase ≠ .queued := by
  cases step with
  | batch => cases member
  | row => exact calling?_caller member
  | @event event _ late =>
    cases event with
    | enter => exact absurd rfl (late _ _)
    | proceed => exact calling?_caller member
    | answered =>
      obtain ⟨write, _, rfl⟩ := Option.map_eq_some_iff.mp (Option.mem_toList.mp member)
      cases call
    | resumed => exact calling?_caller member
  | stop => cases member

theorem InOrder.fewer (order : l.InOrder log rows) (sub : rest.Sublist rows) : l.InOrder log rest :=
  ⟨order.sorted.sublist sub, fun lane d member row inside => order.passed lane d member row (sub.subset inside),
    order.ordered⟩

theorem calls_append (l : Lanes) (lane : Lane) (log deeds : List Deed) :
    l.calls lane (log ++ deeds) = l.calls lane log ++ l.calls lane deeds := List.filter_append ..

theorem mem_calls : d ∈ l.calls lane log ↔ d ∈ log ∧ d.answer = none ∧ l.of d.row = lane := by
  simp [calls]

-- The first row of a lane calls.
theorem InOrder.call (order : l.InOrder log rows) (inside : d.row ∈ rows)
    (first : ∀ row ∈ rows, l.of row = l.of d.row → d.row ≤ row) : l.InOrder (log ++ [d]) rows := by
  refine ⟨order.sorted, ?_, ?_⟩
  · intro lane e member row within own
    rw [calls_append] at member
    rcases List.mem_append.mp member with old | new
    · exact order.passed lane e old row within own
    · obtain ⟨same, _, lane'⟩ := mem_calls.mp new
      cases List.mem_singleton.mp same
      exact first row within (own.trans lane'.symm)
  · intro lane
    rw [calls_append, List.map_append, List.pairwise_append]
    refine ⟨order.ordered lane, ?_, ?_⟩
    · refine List.Pairwise.sublist (List.filter_sublist.map _) ?_
      exact List.pairwise_singleton _ _
    · intro row earlier other new
      obtain ⟨e, old, rfl⟩ := List.mem_map.mp earlier
      obtain ⟨f, added, rfl⟩ := List.mem_map.mp new
      obtain ⟨same, _, own⟩ := mem_calls.mp added
      cases List.mem_singleton.mp same
      exact order.passed lane e old _ inside own

theorem InOrder.hears (order : l.InOrder log rows) (answer : d.answer ≠ none) : l.InOrder (log ++ [d]) rows := by
  have same lane : l.calls lane (log ++ [d]) = l.calls lane log := by
    have none : l.calls lane [d] = [] := by simp [calls, answer]
    rw [calls_append, none, List.append_nil]
  exact ⟨order.sorted, fun lane => same lane ▸ order.passed lane, fun lane => same lane ▸ order.ordered lane⟩

theorem step_order (valid : next.Valid l.plan l.rows) (order : l.InOrder log (remaining c))
    (step : Course.Step l.plan policy room c deeds next) : l.InOrder (log ++ deeds) (remaining next) := by
  have fewer := order.fewer (step_remaining step)
  rcases Course.step_deeds step with rfl | ⟨d, rfl⟩
  · rw [List.append_nil]
    exact fewer
  · cases call : d.answer with
    | some answer => exact fewer.hears (by simp [call])
    | none =>
      obtain ⟨f, member, same, active⟩ := step_caller step (.head _) call
      obtain ⟨others, first⟩ := active_first valid.traffic valid.data member active
      obtain ⟨started, _, before⟩ := List.pairwise_append.mp fewer.sorted
      have inside : f.row ∈ next.traffic.flights.map (·.row) := List.mem_map_of_mem member
      rw [same] at first inside
      refine fewer.call (List.mem_append_left _ inside) fun row within own => ?_
      rcases List.mem_append.mp within with flight | ahead
      · obtain ⟨g, other, rfl⟩ := List.mem_map.mp flight
        have line : g ∈ f :: others := first ▸ mem_flights.mpr ⟨other, own⟩
        have lane : ((f :: others).map (·.row)).Pairwise (· < ·) := by
          rw [← first]
          exact started.sublist (List.filter_sublist.map _)
        rcases List.mem_cons.mp line with rfl | later
        · exact Nat.le_of_eq same.symm
        · have less : f.row < g.row := (List.pairwise_cons.mp lane).1 g.row (List.mem_map_of_mem later)
          omega
      · exact Nat.le_of_lt (before d.row inside row ahead)

theorem reached_order (settings : UpsertSettings) (index : KeyIndex)
    (reached : Course.Reached l.plan policy room (.start settings l.rows index) log c) :
    l.InOrder log (remaining c) := by
  induction reached with
  | start =>
    rw [start_remaining]
    exact ⟨List.pairwise_lt_range, by simp [calls], by simp [calls]⟩
  | step prior step ih =>
    exact step_order (Course.reached_valid (prior.step step) (Course.start_valid settings l.rows index)) ih step

def callers (log : List Deed) : List Nat := (log.filter (·.answer.isNone)).map (·.row)

theorem mem_callers : row ∈ callers log ↔ ∃ d ∈ log, d.answer = none ∧ d.row = row := by
  simp [callers, and_assoc]

-- Rows that have ended, and those that are in progress and not in line any more.
structure Called (log : List Deed) (c : Course) : Prop where
  active : ∀ f ∈ c.traffic.flights, f.phase ≠ .queued → f.row ∈ callers log
  ended : ∀ o ∈ c.done ++ c.traffic.ended, o.row ∈ callers log

theorem callers_mono (deeds : List Deed) (member : row ∈ callers log) : row ∈ callers (log ++ deeds) := by
  obtain ⟨d, inside, call, same⟩ := mem_callers.mp member
  exact mem_callers.mpr ⟨d, List.mem_append_left _ inside, call, same⟩

theorem calling_deed {t : Traffic} {f : Flight} (valid : t.Valid p) (member : f ∈ t.flights)
    (calling : f.phase = .calling write attempt) :
    ⟨f.row, write, none⟩ ∈ ((t.calling? f.row).map fun w => (⟨f.row, w, none⟩ : Deed)).toList := by
  rw [Traffic.calling?, valid.flight? member, Option.bind_some, calling]
  exact .head _

-- A row that has got as far as to call is one that did so before, or does so now.
theorem setPhase_called {t : Traffic} (active : ∀ f ∈ t.flights, f.phase ≠ .queued → f.row ∈ callers log)
    (now : row ∈ callers (log ++ deeds)) (phase : Phase) :
    ∀ f ∈ (t.setPhase row phase).flights, f.phase ≠ .queued → f.row ∈ callers (log ++ deeds) := by
  intro f member past
  obtain ⟨g, inside, sameRow, _, _, kept | ⟨own, _⟩⟩ := Traffic.setPhase_mem member
  · rw [sameRow]
    exact callers_mono deeds (active g inside (kept ▸ past))
  · rw [own]
    exact now

theorem step_called (valid : next.traffic.Valid p) (called : Called log c)
    (step : Course.Step p policy room c deeds next) : Called (log ++ deeds) next := by
  obtain ⟨active, ended⟩ := called
  have stays : ∀ o ∈ c.done ++ c.traffic.ended, o.row ∈ callers (log ++ deeds) :=
    fun o member => callers_mono deeds (ended o member)
  cases step with
  | batch idle =>
    refine ⟨by simp [Traffic.nextBatch, idle], fun o member => ?_⟩
    rw [Traffic.nextBatch, List.append_nil] at member
    exact stays o ((c.traffic.outcomes_perm.append_left c.done).mem_iff.mp member)
  | @row i data rest after _ _ went =>
    cases Traffic.advance_sound went with
    | enter fresh =>
      obtain ⟨f, joined⟩ := Traffic.enter_joined p c.traffic i data
      refine ⟨fun g member past => ?_, by rw [joined.ended]; exact stays⟩
      rcases joined.mem.mp member with old | rfl
      · exact callers_mono _ (active g old past)
      · have calling := joined.phase.resolve_left past
        have deed := calling_deed valid member calling
        rw [joined.sameRow] at deed
        exact mem_callers.mpr ⟨_, List.mem_append_right _ deed, rfl, joined.sameRow.symm⟩
  | event late went =>
    cases Traffic.advance_sound went with
    | enter => exact absurd rfl (late _ _)
    | @proceed row f ticket found waits has holds =>
      obtain ⟨member, rfl⟩ := Traffic.flight?_mem found
      have deed : ⟨f.row, p.writeOf f.data (f.key.bind c.traffic.index.get?), none⟩ ∈
          c.traffic.deeds (.proceed f.row) (c.traffic.proceed p f) := by
        rw [Traffic.deeds, Traffic.proceed, Traffic.firstCall, Traffic.setPhase_calling? found]
        exact .head _
      exact ⟨setPhase_called active (mem_callers.mpr ⟨_, List.mem_append_right _ deed, rfl, rfl⟩) _, stays⟩
    | @ended row f write attempt answer found calling last =>
      obtain ⟨member, rfl⟩ := Traffic.flight?_mem found
      refine ⟨fun g stays past => callers_mono _ (active g (Traffic.mem_finish.mp stays).1 past), fun o inside => ?_⟩
      rw [Traffic.finish, ← List.append_assoc] at inside
      rcases List.mem_append.mp inside with old | new
      · exact stays o old
      · rw [List.mem_singleton.mp new]
        exact callers_mono _ (active f member (by simp [calling]))
    | @failed row f write attempt fault found calling again =>
      obtain ⟨member, rfl⟩ := Traffic.flight?_mem found
      exact ⟨setPhase_called active (callers_mono _ (active f member (by simp [calling]))) _, stays⟩
    | @resumed row f write attempt found pausing =>
      obtain ⟨member, rfl⟩ := Traffic.flight?_mem found
      exact ⟨setPhase_called active (callers_mono _ (active f member (by simp [pausing]))) _, stays⟩
  | stop => exact ⟨fun f member past => callers_mono _ (active f member past), stays⟩

theorem reached_called (settings : UpsertSettings) (rows : List Row) (index : KeyIndex)
    (reached : Course.Reached p policy room (.start settings rows index) log c) : Called log c := by
  induction reached with
  | start => exact ⟨by simp [Course.start, Traffic.start], by simp [Course.start, Traffic.start]⟩
  | step prior step ih =>
    have valid := Course.reached_valid (prior.step step) (Course.start_valid settings rows index)
    exact step_called valid.traffic ih step

end
end Lanes
end TidyRows
