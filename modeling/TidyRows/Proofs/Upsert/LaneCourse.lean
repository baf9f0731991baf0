import TidyRows.Proofs.Upsert.Lanes
namespace TidyRows

namespace Course

def ahead (c : Course) : List (Nat × Row) := c.waiting ++ c.later.flatten ++ c.left

theorem step_deeds (step : Step p policy room c deeds next) : deeds = [] ∨ ∃ d, deeds = [d] := by
  have single (row : Nat) (answer : Option (Except BoardFault String)) (call : Option Write) :
      (call.map fun w => (⟨row, w, answer⟩ : Deed)).toList = [] ∨
        ∃ d, (call.map fun w => (⟨row, w, answer⟩ : Deed)).toList = [d] := by
    cases call with
    | none => exact .inl rfl
    | some w => exact .inr ⟨_, rfl⟩
  cases step with
  | batch => exact .inl rfl
  | row => exact single _ _ _
  | @event event => cases event <;> exact single _ _ _
  | stop => exact .inl rfl

end Course

namespace Lanes

def flights (l : Lanes) (lane : Lane) (t : Traffic) : List Flight := t.flights.filter (l.of ·.row == lane)

section
variable {l : Lanes} {lane : Lane} {t next : Traffic} {f g : Flight} {others : List Flight}

theorem mem_flights : g ∈ l.flights lane t ↔ g ∈ t.flights ∧ l.of g.row = lane := by
  simp [flights]

theorem of_flight (valid : t.Valid l.plan) (data : ∀ f ∈ t.flights, l.rows[f.row]? = some f.data)
    (member : f ∈ t.flights) : l.of f.row = (f.key.map Lane.key).getD (.alone f.row) := by
  have key : l.plan.keyAt l.rows f.row = f.key := by
    rw [UpsertPlan.keyAt, data f member, valid.keyed f member]
    rfl
  rw [of, key]
  cases f.key <;> rfl

theorem known_flight (valid : t.Valid l.plan) (data : ∀ f ∈ t.flights, l.rows[f.row]? = some f.data)
    (member : f ∈ t.flights) (index : KeyIndex) : (l.of f.row).known index = f.key.bind index.get? := by
  rw [of_flight valid data member]
  cases f.key <;> rfl

theorem same_lane (valid : t.Valid l.plan) (data : ∀ f ∈ t.flights, l.rows[f.row]? = some f.data)
    (first : f ∈ t.flights) (second : g ∈ t.flights) (same : l.of g.row = l.of f.row) :
    (∃ ticket, f.ticket = some ticket ∧ g.shares ticket.lock = true) ∨ g = f := by
  rw [of_flight valid data first, of_flight valid data second] at same
  unfold Flight.key at same
  cases one : f.ticket with
  | none =>
    cases two : g.ticket with
    | none =>
      simp only [one, two, Option.map_none, Option.getD_none, Lane.alone.injEq] at same
      exact .inr (valid.same_row second first same)
    | some b => simp [one, two] at same
  | some a =>
    cases two : g.ticket with
    | none => simp [one, two] at same
    | some b =>
      simp only [one, two, Option.map_some, Option.getD_some, Lane.key.injEq] at same
      have equal := valid.same_lock second first two one same
      exact .inl ⟨a, rfl, Flight.shares_iff.mpr ⟨b, two, congrArg Ticket.lock equal⟩⟩

-- Whoever holds the lock of a lane, if it has one, is the first of the lane.
theorem first_of_lane (valid : t.Valid l.plan) (data : ∀ f ∈ t.flights, l.rows[f.row]? = some f.data)
    (member : f ∈ t.flights)
    (first : ∀ ticket, f.ticket = some ticket → t.holder? ticket.lock = some f.row) :
    ∃ others, l.flights (l.of f.row) t = f :: others := by
  obtain ⟨before, after, split, apart⟩ : ∃ before after, t.flights = before ++ f :: after ∧
      ∀ g ∈ before, l.of g.row ≠ l.of f.row := by
    cases has : f.ticket with
    | none =>
      obtain ⟨before, after, split, apart⟩ := valid.split member
      refine ⟨before, after, split, fun g inside same => ?_⟩
      rcases same_lane valid data member (by simp [split, inside]) same with ⟨ticket, wants, _⟩ | rfl
      · cases has.symm.trans wants
      · exact apart g (List.mem_append_left _ inside) rfl
    | some ticket =>
      obtain ⟨holder, found, same⟩ := Option.map_eq_some_iff.mp (first ticket has)
      cases valid.same_row (List.mem_of_find?_eq_some found) member same
      obtain ⟨_, before, after, split, apart⟩ := List.find?_eq_some_iff_append.mp found
      refine ⟨before, after, split, fun g inside same => ?_⟩
      have shares := apart g inside
      rcases same_lane valid data member (by simp [split, inside]) same with ⟨other, wants, shared⟩ | rfl
      · cases has.symm.trans wants
        rw [shared] at shares
        cases shares
      · rw [Flight.shares_iff.mpr ⟨ticket, has, rfl⟩] at shares
        cases shares
  have none : before.filter (l.of ·.row == l.of f.row) = [] := by
    rw [List.filter_eq_nil_iff]
    exact fun g inside => by simpa using apart g inside
  refine ⟨after.filter (l.of ·.row == l.of f.row), ?_⟩
  rw [flights, split, List.filter_append, none, List.nil_append, List.filter_cons_of_pos (by simp)]

theorem setPhase_flights (l : Lanes) (lane : Lane) (t : Traffic) (row : Nat) (phase : Phase) :
    l.flights lane (t.setPhase row phase) =
      (l.flights lane t).map fun f => if f.row == row then { f with phase } else f := by
  have rows : (fun g : Flight => l.of g.row == lane) ∘ (fun g => if g.row == row then { g with phase } else g) =
      fun g => l.of g.row == lane := by
    funext g
    by_cases same : g.row = row <;> simp [same]
  rw [flights, Traffic.setPhase, List.filter_map, rows]
  rfl

theorem others_apart (valid : t.Valid l.plan) (first : l.flights lane t = f :: others) :
    ∀ g ∈ others, g.row ≠ f.row := by
  have distinct : ((l.flights lane t).map (·.row)).Nodup := valid.distinct.sublist (List.filter_sublist.map _)
  rw [first, List.map_cons, List.nodup_cons] at distinct
  exact fun g member same => distinct.1 (same ▸ List.mem_map_of_mem member)

theorem map_apart {part : List Flight} (apart : ∀ g ∈ part, g.row ≠ row) (phase : Phase) :
    part.map (fun g => if g.row == row then { g with phase } else g) = part := by
  rw [List.map_congr_left fun g inside => by rw [if_neg (by simpa using apart g inside)], List.map_id']

theorem setPhase_own (valid : t.Valid l.plan) (first : l.flights lane t = f :: others) (phase : Phase) :
    l.flights lane (t.setPhase f.row phase) = { f with phase } :: others := by
  rw [setPhase_flights, first, List.map_cons, map_apart (others_apart valid first), if_pos (by simp)]

theorem apart_of_other (other : lane ≠ l.of row) : ∀ g ∈ l.flights lane t, g.row ≠ row := by
  intro g member same
  rw [← (mem_flights.mp member).2, same] at other
  exact other rfl

theorem setPhase_other (other : lane ≠ l.of row) (phase : Phase) :
    l.flights lane (t.setPhase row phase) = l.flights lane t := by
  rw [setPhase_flights, map_apart (apart_of_other other)]

theorem finish_flights (l : Lanes) (lane : Lane) (t : Traffic) (f : Flight) (write : Write) (attempt : UInt32)
    (answer : Except BoardFault String) :
    l.flights lane (t.finish f write attempt answer) = (l.flights lane t).filter (·.row != f.row) := by
  rw [flights, flights, Traffic.finish, List.filter_filter, List.filter_filter]
  simp only [Bool.and_comm]

theorem filter_apart {part : List Flight} (apart : ∀ g ∈ part, g.row ≠ row) : part.filter (·.row != row) = part :=
  List.filter_eq_self.mpr fun g inside => by simpa using apart g inside

theorem finish_own (valid : t.Valid l.plan) (first : l.flights lane t = f :: others) :
    l.flights lane (t.finish f write attempt answer) = others := by
  rw [finish_flights, first, List.filter_cons_of_neg (by simp), filter_apart (others_apart valid first)]

theorem finish_other (other : lane ≠ l.of f.row) :
    l.flights lane (t.finish f write attempt answer) = l.flights lane t := by
  rw [finish_flights, filter_apart (apart_of_other other)]

theorem finish_known_own (valid : t.Valid l.plan) (data : ∀ f ∈ t.flights, l.rows[f.row]? = some f.data)
    (member : f ∈ t.flights) :
    ((l.of f.row).known (t.finish f write attempt answer).index).map l.face =
      (l.of f.row).remember (((l.of f.row).known t.index).map l.face) (write.shown l.face) (answer.map l.face) := by
  rw [known_flight valid data member, known_flight valid data member, of_flight valid data member, Traffic.finish]
  cases f.key with
  | none => rfl
  | some key =>
    rw [Option.bind_some, Option.bind_some, remember_get?]
    cases write with
    | update => rfl
    | create =>
      cases answer with
      | error => rfl
      | ok id => simp [Lane.remember, Write.shown, Except.map]

theorem finish_known_other (valid : t.Valid l.plan) (data : ∀ f ∈ t.flights, l.rows[f.row]? = some f.data)
    (member : f ∈ t.flights) (other : lane ≠ l.of f.row) :
    lane.known (t.finish f write attempt answer).index = lane.known t.index := by
  cases lane with
  | alone => rfl
  | key k =>
    have different : f.key ≠ some k := by
      intro same
      rw [of_flight valid data member, same] at other
      exact other rfl
    rw [Lane.known, Lane.known, Traffic.finish, remember_get?]
    cases write <;> cases answer <;> simp [different]

theorem sent_append (l : Lanes) (lane : Lane) (log deeds : List Deed) :
    l.sent lane (log ++ deeds) = l.sent lane log ++ l.sent lane deeds := by
  rw [sent, calls, List.filter_append, List.map_append]
  rfl

theorem sent_own (l : Lanes) (row : Nat) (write : Write) :
    l.sent (l.of row) [⟨row, write, none⟩] = [write.shown l.face] := by
  simp [sent, calls]

theorem sent_other (other : lane ≠ l.of row) (write : Write) : l.sent lane [⟨row, write, none⟩] = [] := by
  simp [sent, calls, Ne.symm other]

theorem sent_answer (l : Lanes) (lane : Lane) (row : Nat) (write : Write) (answer : Except BoardFault String) :
    l.sent lane [⟨row, write, some answer⟩] = [] := by
  simp [sent, calls]

-- What a deed makes of the answers that are due.
inductive Takes (l : Lanes) (log : List Deed) (due : Due) : List Deed → Due → Prop where
  | nothing : Takes l log due [] due
  | call (told : answer.map l.face = l.reply (l.of row) (l.sent (l.of row) log) (write.shown l.face)) :
      Takes l log due [⟨row, write, none⟩] (Function.update due row (some answer))
  | answer (given : due row = some answer) : Takes l log due [⟨row, write, some answer⟩] due

theorem Takes.elsewhere (takes : l.Takes log due deeds due') (own : ∀ d ∈ deeds, d.row = row)
    (other : lane ≠ l.of row) : l.sent lane (log ++ deeds) = l.sent lane log ∧ ∀ r, l.of r = lane → due' r = due r := by
  cases takes with
  | nothing => exact ⟨by rw [List.append_nil], fun _ _ => rfl⟩
  | call told =>
    obtain rfl := own _ (.head _)
    refine ⟨by rw [sent_append, sent_other other, List.append_nil], fun r same => ?_⟩
    refine Function.update_of_ne ?_ _ _
    rintro rfl
    exact other same.symm
  | answer given => exact ⟨by rw [sent_append, sent_answer, List.append_nil], fun _ _ => rfl⟩

def Stand (l : Lanes) (index : KeyIndex) (log : List Deed) (due : Due) (done : List RowOutcome) (t : Traffic)
    (ahead : List (Nat × Row)) : Prop :=
  ∀ lane, l.Standing lane (l.final lane index) (l.flights lane t) (l.sent lane log) (lane.known t.index) due
    (done ++ t.ended) (l.part lane ahead)

variable {index : KeyIndex} {log : List Deed} {due due' : Due} {done : List RowOutcome} {ahead : List (Nat × Row)}

-- What moves a row moves its lane and no other.
theorem Stand.moves (stand : l.Stand index log due done t ahead) (takes : l.Takes log due deeds due')
    (rows : ∀ d ∈ deeds, d.row = row)
    (moved : l.Standing (l.of row) (l.final (l.of row) index) (l.flights (l.of row) next)
      (l.sent (l.of row) (log ++ deeds)) ((l.of row).known next.index) due' (done ++ next.ended)
      (l.part (l.of row) ahead'))
    (others : ∀ lane, lane ≠ l.of row → l.flights lane next = l.flights lane t ∧
      lane.known next.index = lane.known t.index ∧ l.part lane ahead' = l.part lane ahead)
    (ended : ∀ o ∈ next.ended, o.row ≠ row → o ∈ t.ended) :
    l.Stand index (log ++ deeds) due' done next ahead' := by
  intro lane
  by_cases own : lane = l.of row
  · rw [own]
    exact moved
  · obtain ⟨flights, known, part⟩ := others lane own
    obtain ⟨sent, due⟩ := takes.elsewhere rows own
    rw [flights, known, part, sent]
    refine (stand lane).elsewhere (fun f member => due f.row (mem_flights.mp member).2) fun o inside same => ?_
    have apart : o.row ≠ row := fun here => own (by rw [← same, here])
    exact List.mem_append.mpr ((List.mem_append.mp inside).imp_right fun new => ended o new apart)

theorem Stand.sets (stand : l.Stand index log due done t ahead) (takes : l.Takes log due deeds due')
    (rows : ∀ d ∈ deeds, d.row = row) (phase : Phase)
    (moved : l.Standing (l.of row) (l.final (l.of row) index) (l.flights (l.of row) (t.setPhase row phase))
      (l.sent (l.of row) (log ++ deeds)) ((l.of row).known t.index) due' (done ++ t.ended) (l.part (l.of row) ahead)) :
    l.Stand index (log ++ deeds) due' done (t.setPhase row phase) ahead :=
  stand.moves takes rows moved (fun _ other => ⟨setPhase_other other phase, rfl, rfl⟩) fun _ inside _ => inside

theorem active_first (valid : t.Valid l.plan) (data : ∀ f ∈ t.flights, l.rows[f.row]? = some f.data)
    (member : f ∈ t.flights) (active : f.phase ≠ .queued) : ∃ others, l.flights (l.of f.row) t = f :: others :=
  first_of_lane valid data member (valid.held f member active)

theorem proceed_stands (valid : t.Valid l.plan) (data : ∀ f ∈ t.flights, l.rows[f.row]? = some f.data)
    (stand : l.Stand index log due done t ahead) (found : t.flight? row = some f) (waits : f.phase = .queued)
    (has : f.ticket = some ticket) (holds : t.holder? ticket.lock = some row)
    (takes : l.Takes log due (t.deeds (.proceed row) (t.proceed l.plan f)) due') :
    l.Stand index (log ++ t.deeds (.proceed row) (t.proceed l.plan f)) due' done (t.proceed l.plan f) ahead := by
  obtain ⟨member, rfl⟩ := Traffic.flight?_mem found
  have deeds : t.deeds (.proceed f.row) (t.proceed l.plan f) =
      [⟨f.row, l.plan.writeOf f.data ((l.of f.row).known t.index), none⟩] := by
    rw [known_flight valid data member, Traffic.deeds, Traffic.proceed, Traffic.firstCall,
      Traffic.setPhase_calling? found]
    rfl
  rw [deeds] at takes ⊢
  obtain ⟨others, first⟩ := first_of_lane valid data member fun ticket' wants => by
    cases has.symm.trans wants
    exact holds
  refine stand.sets takes (by simp) _ ?_
  have standing := stand (l.of f.row)
  rw [first] at standing
  cases takes with
  | call told =>
    rw [sent_append, sent_own, Traffic.firstCall, setPhase_own valid first, ← known_flight valid data member]
    exact standing.calls waits (Function.update_self ..) told

theorem resumed_stands (valid : t.Valid l.plan) (data : ∀ f ∈ t.flights, l.rows[f.row]? = some f.data)
    (stand : l.Stand index log due done t ahead) (found : t.flight? row = some f)
    (pausing : f.phase = .pausing write attempt)
    (takes : l.Takes log due (t.deeds (.resumed row) (t.setPhase row (.calling write (attempt + 1)))) due') :
    l.Stand index (log ++ t.deeds (.resumed row) (t.setPhase row (.calling write (attempt + 1)))) due' done
      (t.setPhase row (.calling write (attempt + 1))) ahead := by
  obtain ⟨member, rfl⟩ := Traffic.flight?_mem found
  have deeds : t.deeds (.resumed f.row) (t.setPhase f.row (.calling write (attempt + 1))) =
      [⟨f.row, write, none⟩] := by
    rw [Traffic.deeds, Traffic.setPhase_calling? found]
    rfl
  rw [deeds] at takes ⊢
  obtain ⟨others, first⟩ := active_first valid data member (by simp [pausing])
  refine stand.sets takes (by simp) _ ?_
  have standing := stand (l.of f.row)
  rw [first] at standing
  cases takes with
  | call told =>
    rw [sent_append, sent_own, setPhase_own valid first]
    exact standing.resumes pausing (Function.update_self ..) told

theorem failed_stands (valid : t.Valid l.plan) (data : ∀ f ∈ t.flights, l.rows[f.row]? = some f.data)
    (stand : l.Stand index log due done t ahead) (found : t.flight? row = some f)
    (calling : f.phase = .calling write attempt) (again : l.policy.again fault attempt = true)
    (takes : l.Takes log due (t.deeds (.answered row (.error fault)) (t.setPhase row (.pausing write attempt))) due') :
    l.Stand index (log ++ t.deeds (.answered row (.error fault)) (t.setPhase row (.pausing write attempt))) due' done
      (t.setPhase row (.pausing write attempt)) ahead := by
  obtain ⟨member, rfl⟩ := Traffic.flight?_mem found
  rw [Traffic.deeds_answered found calling] at takes ⊢
  obtain ⟨others, first⟩ := active_first valid data member (by simp [calling])
  refine stand.sets takes (by simp) _ ?_
  have standing := stand (l.of f.row)
  rw [first] at standing
  cases takes with
  | answer given =>
    rw [sent_append, sent_answer, List.append_nil, setPhase_own valid first]
    exact standing.fails calling given again

theorem ended_stands (valid : t.Valid l.plan) (data : ∀ f ∈ t.flights, l.rows[f.row]? = some f.data)
    (stand : l.Stand index log due done t ahead) (found : t.flight? row = some f)
    (calling : f.phase = .calling write attempt)
    (last : ∀ fault, answer = .error fault → l.policy.again fault attempt = false)
    (takes : l.Takes log due (t.deeds (.answered row answer) (t.finish f write attempt answer)) due') :
    l.Stand index (log ++ t.deeds (.answered row answer) (t.finish f write attempt answer)) due' done
      (t.finish f write attempt answer) ahead := by
  obtain ⟨member, rfl⟩ := Traffic.flight?_mem found
  have ended : done ++ (t.finish f write attempt answer).ended =
      done ++ t.ended ++ [⟨f.row, write.action, answer, attempt⟩] := by
    rw [Traffic.finish, List.append_assoc]
  rw [Traffic.deeds_answered found calling] at takes ⊢
  obtain ⟨others, first⟩ := active_first valid data member (by simp [calling])
  refine stand.moves takes (by simp) ?_ (fun lane other => ⟨finish_other other, finish_known_other valid data member
    other, rfl⟩) ?_
  · have standing := stand (l.of f.row)
    rw [first] at standing
    rw [ended]
    cases takes with
    | answer given =>
      rw [sent_append, sent_answer, List.append_nil, finish_own valid first]
      exact standing.finishes calling given last (finish_known_own valid data member)
  · intro o inside apart
    rcases List.mem_append.mp inside with old | new
    · exact old
    · rw [List.mem_singleton.mp new] at apart
      exact absurd rfl apart

theorem joined_flights (joined : Traffic.Joined l.plan t row values f next) (lane : Lane) :
    l.flights lane next = l.flights lane t ++ [f].filter (l.of ·.row == lane) := by
  rw [flights, joined.flights, List.filter_append]
  rfl

-- A row that calls at once is the only one of its lane.
theorem joined_alone (joined : Traffic.Joined l.plan t row values f next) (valid : next.Valid l.plan)
    (data : ∀ g ∈ next.flights, l.rows[g.row]? = some g.data) (fresh : t.known f.row = false)
    (active : f.phase ≠ .queued) : l.flights (l.of f.row) t = [] := by
  refine List.eq_nil_iff_forall_not_mem.mpr fun g inside => ?_
  obtain ⟨old, same⟩ := mem_flights.mp inside
  rcases same_lane valid data (joined.mem.mpr (.inr rfl)) (joined.mem.mpr (.inl old)) same with
    ⟨ticket, has, shares⟩ | rfl
  · have free := joined.active active ticket has
    rw [Traffic.holder?, Option.map_eq_none_iff, List.find?_eq_none] at free
    exact free g old shares
  · rw [Traffic.known_iff.mpr (.inl ⟨g, old, rfl⟩)] at fresh
    cases fresh

theorem enter_stands (valid : t.Valid l.plan) (data : ∀ f ∈ t.flights, l.rows[f.row]? = some f.data)
    (found : l.rows[row]? = some values) (fresh : t.known row = false)
    (stand : l.Stand index log due done t ((row, values) :: ahead))
    (takes : l.Takes log due (t.deeds (.enter row values) (t.enter l.plan row values)) due') :
    l.Stand index (log ++ t.deeds (.enter row values) (t.enter l.plan row values)) due' done
      (t.enter l.plan row values) ahead := by
  obtain ⟨f, joined⟩ := Traffic.enter_joined l.plan t row values
  have nextValid := joined.valid valid fresh
  have nextData : ∀ g ∈ (t.enter l.plan row values).flights, l.rows[g.row]? = some g.data := by
    intro g member
    rcases joined.mem.mp member with old | rfl
    · exact data g old
    · rw [joined.sameRow, joined.sameData, found]
  have member : f ∈ (t.enter l.plan row values).flights := joined.mem.mpr (.inr rfl)
  obtain ⟨rfl, rfl⟩ : f.row = row ∧ f.data = values := ⟨joined.sameRow, joined.sameData⟩
  have waits (queued : f.phase = .queued) : t.deeds (.enter f.row f.data) (t.enter l.plan f.row f.data) = [] := by
    rw [Traffic.deeds, Traffic.calling?, nextValid.flight? member, Option.bind_some, queued]
    rfl
  have calls {write attempt} (calling : f.phase = .calling write attempt) :
      t.deeds (.enter f.row f.data) (t.enter l.plan f.row f.data) = [⟨f.row, write, none⟩] := by
    rw [Traffic.deeds, Traffic.calling?, nextValid.flight? member, Option.bind_some, calling]
    rfl
  have rows : ∀ d ∈ t.deeds (.enter f.row f.data) (t.enter l.plan f.row f.data), d.row = f.row := by
    rcases joined.phase with queued | called
    · simp [waits queued]
    · simp [calls called]
  refine stand.moves takes rows ?_ ?_ fun o inside _ => joined.ended ▸ inside
  · have standing := stand (l.of f.row)
    rw [part, List.filter_cons_of_pos (by simp), ← part] at standing
    rw [joined.ended, joined_flights joined, List.filter_cons_of_pos (by simp), List.filter_nil, Traffic.enter_index]
    rcases joined.phase with queued | called
    · rw [waits queued] at takes ⊢
      cases takes with
      | nothing =>
        rw [List.append_nil]
        exact standing.joins queued
    · have write : f.phase = .calling (l.plan.writeOf f.data ((l.of f.row).known t.index)) 1 := by
        rw [called, Traffic.firstCall, known_flight nextValid nextData member, joined.key]
      rw [calls write] at takes ⊢
      rw [joined_alone joined nextValid nextData fresh (by simp [write])] at standing ⊢
      have first := Standing.joins (f := { f with phase := .queued }) standing rfl
      cases takes with
      | call told =>
        have goes := first.calls rfl (Function.update_self f.row _ due) told
        simp only [← write] at goes
        rw [sent_append, sent_own]
        exact goes
  · intro lane other
    have empty : [f].filter (l.of ·.row == lane) = [] := by simp [Ne.symm other]
    refine ⟨by rw [joined_flights joined, empty, List.append_nil], by rw [Traffic.enter_index], ?_⟩
    rw [part, part, List.filter_cons_of_neg (by simpa using Ne.symm other)]

theorem start_stands (l : Lanes) (settings : UpsertSettings) (index : KeyIndex) (due : Due) :
    l.Stand index [] due (Course.start settings l.rows index).done
      (Course.start settings l.rows index).traffic (Course.start settings l.rows index).ahead := by
  intro lane
  have all : (Course.start settings l.rows index).ahead = numbered l.rows := by
    simp [Course.ahead, Course.start, batches, Course.batchesFrom_flatten]
  rw [all]
  exact ⟨⟨(lane.known index).map l.face, [], []⟩, _, [], .idle, by simp, rfl, by simp [Course.start, Traffic.start],
    rfl⟩

theorem step_stands {c next : Course} (valid : c.Valid l.plan l.rows)
    (stand : l.Stand index log due c.done c.traffic c.ahead)
    (step : Course.Step l.plan l.policy room c deeds next) (takes : l.Takes log due deeds due') :
    l.Stand index (log ++ deeds) due' next.done next.traffic next.ahead := by
  cases step with
  | @batch rows rest idle none later =>
    cases takes with
    | nothing =>
      intro lane
      have standing := stand lane
      rw [Course.ahead, none, later] at standing
      rw [List.append_nil]
      refine standing.elsewhere (fun _ _ => rfl) fun o member _ => ?_
      rw [Traffic.nextBatch, List.append_nil] at member
      exact (c.traffic.outcomes_perm.append_left c.done).mem_iff.mp member
  | @row i data rest after waits fits went =>
    obtain ⟨first, count, ordered⟩ := valid.ordered
    have others := ordered.rest
    rw [waits, List.cons_append, List.cons_append] at others
    obtain ⟨rfl, found, _⟩ := Course.numbered_drop others.symm
    have ahead : c.ahead = (first + count, data) :: Course.ahead { c with traffic := after, waiting := rest } := by
      rw [Course.ahead, waits]
      rfl
    rw [ahead] at stand
    cases Traffic.advance_sound went with
    | enter fresh => exact enter_stands valid.traffic valid.data found fresh stand takes
  | event late went =>
    cases Traffic.advance_sound went with
    | enter => exact absurd rfl (late _ _)
    | proceed found waits has holds =>
      exact proceed_stands valid.traffic valid.data stand found waits has holds takes
    | ended found calling last => exact ended_stands valid.traffic valid.data stand found calling last takes
    | failed found calling again => exact failed_stands valid.traffic valid.data stand found calling again takes
    | resumed found pausing => exact resumed_stands valid.traffic valid.data stand found pausing takes
  | stop =>
    cases takes with
    | nothing =>
      rw [List.append_nil]
      exact stand

theorem served_takes {c : Course} (govern : l.Govern board origin before)
    (reached : Course.Reached l.plan l.policy room origin (log ++ deeds) c)
    (served : Served board l.plan.boardId before (log ++ deeds) due state) (few : deeds = [] ∨ ∃ d, deeds = [d]) :
    ∃ due' state', Served board l.plan.boardId before log due' state' ∧ l.Takes log due' deeds due := by
  rcases few with rfl | ⟨⟨row, write, _ | answer⟩, rfl⟩
  · rw [List.append_nil] at served
    exact ⟨due, state, served, .nothing⟩
  · obtain ⟨due', state', now, prior, rfl⟩ := served.called
    exact ⟨due', state', prior, .call (govern room log due' state' row write c prior reached now)⟩
  · obtain ⟨prior, given⟩ := served.answered
    exact ⟨due, state, prior, .answer given⟩

theorem reached_stands {c : Course} (govern : l.Govern board (.start settings l.rows index) before)
    (reached : Course.Reached l.plan l.policy room (.start settings l.rows index) log c)
    (served : Served board l.plan.boardId before log due state) :
    l.Stand index log due c.done c.traffic c.ahead := by
  induction reached generalizing due state with
  | start => exact l.start_stands settings index due
  | step prior step ih =>
    obtain ⟨due', state', before, takes⟩ := served_takes govern (prior.step step) served (Course.step_deeds step)
    exact step_stands (Course.reached_valid prior (Course.start_valid settings l.rows index)) (ih before) step takes

end
end Lanes
end TidyRows
