import Mathlib.Data.List.Nodup
import TidyRows.Proofs.Keyed
import TidyRows.Upsert.Traffic
namespace TidyRows

theorem countP_le_one {items : List α} {holds : α → Bool} {label : α → β} {only : β}
    (distinct : (items.map label).Nodup) (same : ∀ x ∈ items, holds x = true → label x = only) :
    items.countP holds ≤ 1 := by
  induction items with
  | nil => simp
  | cons head rest ih =>
    obtain ⟨absent, distinct⟩ := List.nodup_cons.mp distinct
    have later := ih distinct fun x member => same x (List.mem_cons_of_mem _ member)
    by_cases here : holds head = true
    · have none : rest.countP holds = 0 := by
        rw [List.countP_eq_zero]
        intro x member true
        have equal := (same x (List.mem_cons_of_mem _ member) true).trans (same head (by simp) here).symm
        exact absent (equal ▸ List.mem_map_of_mem member)
      simp [here, none]
    · simpa [here] using later

theorem two_le_countP {items : List α} {holds : α → Bool} (different : x ≠ y) (first : x ∈ items)
    (second : y ∈ items) (one : holds x = true) (two : holds y = true) : 2 ≤ items.countP holds := by
  induction items with
  | nil => cases first
  | cons head rest ih =>
    have counted : ∀ z ∈ rest, holds z = true → 1 ≤ rest.countP holds := fun z member true =>
      List.countP_pos_iff.mpr ⟨z, member, true⟩
    rcases List.mem_cons.mp first with rfl | left
    · have one' := counted y ((List.mem_cons.mp second).resolve_left (Ne.symm different)) two
      simp only [List.countP_cons, one, if_true]
      omega
    · rcases List.mem_cons.mp second with rfl | right
      · have one' := counted x left one
        simp only [List.countP_cons, two, if_true]
        omega
      · exact Nat.le_trans (ih left right) (by simp [List.countP_cons])

theorem Flight.shares_iff {f : Flight} :
    f.shares lock = true ↔ ∃ ticket, f.ticket = some ticket ∧ ticket.lock = lock := by
  simp [Flight.shares, Option.any_eq_true]

namespace Traffic
variable {p : UpsertPlan} {policy : RetryPolicy} {t next : Traffic}

-- The rules that `advance` follows, one for each thing that can happen.
inductive Step (p : UpsertPlan) (policy : RetryPolicy) (t : Traffic) : Event → Traffic → Prop where
  | enter (fresh : t.known row = false) : Step p policy t (.enter row data) (t.enter p row data)
  | proceed (found : t.flight? row = some f) (waits : f.phase = .queued) (has : f.ticket = some ticket)
      (holds : t.holder? ticket.lock = some row) : Step p policy t (.proceed row) (t.proceed p f)
  | ended (found : t.flight? row = some f) (calling : f.phase = .calling write attempt)
      (last : ∀ fault, answer = .error fault → policy.again fault attempt = false) :
      Step p policy t (.answered row answer) (t.finish f write attempt answer)
  | failed (found : t.flight? row = some f) (calling : f.phase = .calling write attempt)
      (again : policy.again fault attempt = true) :
      Step p policy t (.answered row (.error fault)) (t.setPhase row (.pausing write attempt))
  | resumed (found : t.flight? row = some f) (pausing : f.phase = .pausing write attempt) :
      Step p policy t (.resumed row) (t.setPhase row (.calling write (attempt + 1)))

theorem advance_sound (went : t.advance p policy event = some next) : Step p policy t event next := by
  cases event with
  | enter row data =>
    simp only [advance] at went
    split at went
    · cases went
    · rename_i fresh
      cases Option.some.inj went
      exact .enter (by simpa using fresh)
  | proceed row =>
    simp only [advance] at went
    split at went
    · rename_i f found
      split at went
      · rename_i holder waits asked
        obtain ⟨ticket, has, held⟩ := Option.bind_eq_some_iff.mp asked
        split at went
        · rename_i same
          cases Option.some.inj went
          exact .proceed found waits has (by rw [held, eq_of_beq same])
        · cases went
      · cases went
    · cases went
  | answered row answer =>
    simp only [advance] at went
    split at went
    · rename_i f found
      split at went
      · rename_i write attempt calling
        cases answer with
        | ok id => cases Option.some.inj went; exact .ended found calling (by simp)
        | error fault =>
          simp only at went
          split at went
          · rename_i again; cases Option.some.inj went; exact .failed found calling again
          · rename_i spent
            cases Option.some.inj went
            refine .ended found calling ?_
            intro other same
            cases same
            simpa using spent
      · cases went
    · cases went
  | resumed row =>
    simp only [advance] at went
    split at went
    · rename_i f found
      split at went
      · rename_i write attempt pausing; cases Option.some.inj went; exact .resumed found pausing
      · cases went
    · cases went

theorem advance_complete (step : Step p policy t event next) : t.advance p policy event = some next := by
  cases step with
  | enter fresh => simp [advance, fresh]
  | proceed found waits has holds => simp [advance, found, waits, has, holds]
  | @ended row f write attempt answer found calling last =>
    cases answer with
    | ok id => simp [advance, found, calling]
    | error fault => simp [advance, found, calling, last fault rfl]
  | failed found calling again => simp [advance, found, calling, again]
  | resumed found pausing => simp [advance, found, pausing]

theorem advance_exact : t.advance p policy event = some next ↔ Step p policy t event next :=
  ⟨advance_sound, advance_complete⟩

theorem flight?_mem (found : t.flight? row = some f) : f ∈ t.flights ∧ f.row = row :=
  ⟨List.mem_of_find?_eq_some found, by simpa using List.find?_some found⟩

theorem known_iff : t.known row = true ↔ (∃ f ∈ t.flights, f.row = row) ∨ ∃ o ∈ t.ended, o.row = row := by
  simp [known, flight?]

theorem holder?_mem (holds : t.holder? lock = some row) :
    ∃ f ∈ t.flights, f.shares lock = true ∧ f.row = row := by
  obtain ⟨f, found, same⟩ := Option.map_eq_some_iff.mp holds
  exact ⟨f, List.mem_of_find?_eq_some found, by simpa using List.find?_some found, same⟩

-- Which rows, tickets and locks belong together. A key leads to a lock exactly as long as rows want it, no
-- other key leads there, and whoever is past the look-up holds the lock.
structure Valid (p : UpsertPlan) (t : Traffic) : Prop where
  distinct : (t.flights.map (·.row)).Nodup
  apart : ∀ f ∈ t.flights, ∀ o ∈ t.ended, o.row ≠ f.row
  keyed : ∀ f ∈ t.flights, f.key = p.keyOfRow f.data
  led : ∀ f ∈ t.flights, ∀ ticket, f.ticket = some ticket → t.locks.get? ticket.key = some ticket.lock
  wanted : ∀ key lock, t.locks.get? key = some lock → ∃ f ∈ t.flights, f.ticket = some ⟨key, lock⟩
  alone : ∀ f ∈ t.flights, ∀ g ∈ t.flights, ∀ a b, f.ticket = some a → g.ticket = some b →
    a.lock = b.lock → a.key = b.key
  made : ∀ f ∈ t.flights, ∀ ticket, f.ticket = some ticket → t.known ticket.lock = true
  held : ∀ f ∈ t.flights, f.phase ≠ .queued → ∀ ticket, f.ticket = some ticket →
    t.holder? ticket.lock = some f.row
  waits : ∀ f ∈ t.flights, f.phase = .queued → f.ticket ≠ none

theorem start_valid (index : KeyIndex) : (start index).Valid p := by
  constructor <;> simp [start]

theorem Valid.same_row (valid : t.Valid p) (first : f ∈ t.flights) (second : g ∈ t.flights)
    (same : f.row = g.row) : f = g := List.inj_on_of_nodup_map valid.distinct first second same

theorem Valid.same_lock (valid : t.Valid p) (first : f ∈ t.flights) (second : g ∈ t.flights)
    (one : f.ticket = some a) (two : g.ticket = some b) (same : a.key = b.key) : a = b := by
  have lock := valid.led f first a one
  rw [same, valid.led g second b two] at lock
  cases a; cases b; cases same; cases lock; rfl

-- A change of phase leaves rows, tickets and the order of the line as they are.
theorem setPhase_mem (member : g ∈ (t.setPhase row phase).flights) :
    ∃ f ∈ t.flights, g.row = f.row ∧ g.data = f.data ∧ g.ticket = f.ticket ∧
      (g.phase = f.phase ∨ g.row = row ∧ g.phase = phase) := by
  obtain ⟨f, inside, rfl⟩ := List.mem_map.mp member
  refine ⟨f, inside, ?_⟩
  by_cases same : f.row = row <;> simp [same]

theorem mem_setPhase (row : Nat) (phase : Phase) (member : f ∈ t.flights) :
    ∃ g ∈ (t.setPhase row phase).flights, g.row = f.row ∧ g.ticket = f.ticket := by
  refine ⟨_, List.mem_map_of_mem member, ?_⟩
  by_cases same : f.row = row <;> simp [same]

@[simp] theorem setPhase_rows (t : Traffic) (row : Nat) (phase : Phase) :
    (t.setPhase row phase).flights.map (·.row) = t.flights.map (·.row) := by
  rw [setPhase, List.map_map]
  apply List.map_congr_left
  intro f _
  by_cases same : f.row = row <;> simp [same]

@[simp] theorem setPhase_holder? (t : Traffic) (row : Nat) (phase : Phase) (lock : Nat) :
    (t.setPhase row phase).holder? lock = t.holder? lock := by
  have shares : (fun f : Flight => f.shares lock) ∘ (fun f => if f.row == row then { f with phase } else f) =
      fun f => f.shares lock := by
    funext f
    by_cases same : f.row = row <;> simp [same, Flight.shares]
  have rows : (·.row) ∘ (fun f : Flight => if f.row == row then { f with phase } else f) = (·.row) := by
    funext f
    by_cases same : f.row = row <;> simp [same]
  simp only [holder?, setPhase, List.find?_map, Option.map_map, shares, rows]

@[simp] theorem setPhase_known (t : Traffic) (row : Nat) (phase : Phase) (other : Nat) :
    (t.setPhase row phase).known other = t.known other := by
  rw [Bool.eq_iff_iff, known_iff, known_iff]
  refine or_congr ⟨?_, ?_⟩ Iff.rfl
  · rintro ⟨g, member, same⟩
    obtain ⟨f, member, row, _⟩ := setPhase_mem member
    exact ⟨f, member, row ▸ same⟩
  · rintro ⟨f, member, same⟩
    obtain ⟨g, member, row, _⟩ := mem_setPhase row phase member
    exact ⟨g, member, row ▸ same⟩

theorem setPhase_flights (split : t.flights = before ++ f :: after) (others : ∀ g ∈ before ++ after, g.row ≠ f.row)
    (phase : Phase) : (t.setPhase f.row phase).flights = before ++ { f with phase } :: after := by
  have same {part : List Flight} (apart : ∀ g ∈ part, g.row ≠ f.row) :
      part.map (fun g => if g.row == f.row then { g with phase } else g) = part := by
    rw [List.map_congr_left fun g inside => by rw [if_neg (by simpa using apart g inside)], List.map_id']
  rw [setPhase, split, List.map_append, List.map_cons, same fun g inside => others g (List.mem_append_left _ inside),
    same fun g inside => others g (List.mem_append_right _ inside)]
  simp

theorem setPhase_valid (valid : t.Valid p) (active : phase ≠ .queued)
    (holds : ∀ f ∈ t.flights, f.row = row → ∀ ticket, f.ticket = some ticket → t.holder? ticket.lock = some row) :
    (t.setPhase row phase).Valid p := by
  refine ⟨by simpa using valid.distinct, ?_, ?_, ?_, ?_, ?_, ?_, ?_, ?_⟩
  · intro g member
    obtain ⟨f, member, same, _⟩ := setPhase_mem member
    rw [same]
    exact valid.apart f member
  · intro g member
    obtain ⟨f, member, _, data, ticket, _⟩ := setPhase_mem member
    rw [Flight.key, data, ticket]
    exact valid.keyed f member
  · intro g member ticket has
    obtain ⟨f, member, _, _, same, _⟩ := setPhase_mem member
    exact valid.led f member ticket (same ▸ has)
  · intro key lock leads
    obtain ⟨f, member, has⟩ := valid.wanted key lock leads
    obtain ⟨g, member, _, same⟩ := mem_setPhase row phase member
    exact ⟨g, member, same.trans has⟩
  · intro g first h second a b one two
    obtain ⟨f, first, _, _, sameF, _⟩ := setPhase_mem first
    obtain ⟨e, second, _, _, sameE, _⟩ := setPhase_mem second
    exact valid.alone f first e second a b (sameF ▸ one) (sameE ▸ two)
  · intro g member ticket has
    obtain ⟨f, member, _, _, same, _⟩ := setPhase_mem member
    rw [setPhase_known]
    exact valid.made f member ticket (same ▸ has)
  · intro g member past ticket has
    obtain ⟨f, member, row, _, same, kept | ⟨changed, _⟩⟩ := setPhase_mem member
    · rw [setPhase_holder?, row]
      exact valid.held f member (kept ▸ past) ticket (same ▸ has)
    · rw [setPhase_holder?, changed]
      exact holds f member (row.symm.trans changed) ticket (same ▸ has)
  · intro g member queued
    obtain ⟨f, member, _, _, same, kept | ⟨_, changed⟩⟩ := setPhase_mem member
    · rw [same]
      exact valid.waits f member (kept ▸ queued)
    · exact absurd (changed.symm.trans queued) active

-- A row has come to the end of the line. If it has a key, its key leads to its lock from now on.
structure Joined (p : UpsertPlan) (t : Traffic) (row : Nat) (data : Row) (f : Flight) (next : Traffic) : Prop where
  flights : next.flights = t.flights ++ [f]
  ended : next.ended = t.ended
  sameRow : f.row = row
  sameData : f.data = data
  key : f.key = p.keyOfRow data
  lock : ∀ ticket, f.ticket = some ticket → ticket.lock = t.lockFor ticket.key row
  locks : ∀ key, next.locks.get? key = if f.key = some key then some (t.lockFor key row) else t.locks.get? key
  phase : f.phase = .queued ∨ f.phase = firstCall p t data (p.keyOfRow data)
  active : f.phase ≠ .queued → ∀ ticket, f.ticket = some ticket → t.holder? ticket.lock = none
  waits : f.phase = .queued → ∃ ticket other, f.ticket = some ticket ∧ t.holder? ticket.lock = some other

theorem enter_joined (p : UpsertPlan) (t : Traffic) (row : Nat) (data : Row) :
    ∃ f, Joined p t row data f (t.enter p row data) := by
  unfold enter
  cases key : p.keyOfRow data with
  | none =>
    refine ⟨⟨row, data, none, firstCall p t data none⟩, rfl, rfl, rfl, rfl, key.symm, ?_, ?_, .inr (by rw [key]), ?_, ?_⟩
    · rintro ticket ⟨⟩
    · intro other
      rw [if_neg (by rintro ⟨⟩)]
    · rintro _ ticket ⟨⟩
    · rintro ⟨⟩
  | some k =>
    refine ⟨_, rfl, rfl, rfl, rfl, key.symm, ?_, ?_, ?_, ?_, ?_⟩
    · rintro ticket ⟨⟩
      rfl
    · intro other
      rw [Keyed.get?_put]
      by_cases same : other = k
      · simp [same, Flight.key]
      · simp [same, Ne.symm same, Flight.key]
    · cases t.holder? (t.lockFor k row) with
      | none => exact .inr (by rw [key]; rfl)
      | some other => exact .inl rfl
    · rintro active ticket ⟨⟩
      cases holder : t.holder? (t.lockFor k row) with
      | none => rfl
      | some other => exact absurd (by simp [holder]) active
    · intro queued
      cases holder : t.holder? (t.lockFor k row) with
      | none => rw [holder] at queued; cases queued
      | some other => exact ⟨_, other, rfl, holder⟩

@[simp] theorem enter_index (p : UpsertPlan) (t : Traffic) (row : Nat) (data : Row) :
    (t.enter p row data).index = t.index := by
  unfold enter
  cases p.keyOfRow data <;> rfl

theorem lockFor_led (leads : t.locks.get? k = some lock) (row : Nat) : t.lockFor k row = lock := by
  simp [lockFor, leads]

-- A lock that is made now has a number that no lock has had in this traffic.
theorem lockFor_alone (valid : t.Valid p) (fresh : t.known row = false) (member : g ∈ t.flights)
    (has : g.ticket = some ticket) (same : ticket.lock = t.lockFor k row) : ticket.key = k := by
  cases leads : t.locks.get? k with
  | none =>
    have new : t.lockFor k row = row := by simp [lockFor, leads]
    have old := valid.made g member ticket has
    rw [same, new, fresh] at old
    cases old
  | some lock =>
    obtain ⟨h, other, wants⟩ := valid.wanted k lock leads
    exact valid.alone g member h other ticket ⟨k, lock⟩ has wants (same.trans (lockFor_led leads row))

theorem lockFor_known (valid : t.Valid p) (k : String) (row : Nat) :
    t.lockFor k row = row ∨ t.known (t.lockFor k row) = true := by
  cases leads : t.locks.get? k with
  | none => exact .inl (by simp [lockFor, leads])
  | some lock =>
    obtain ⟨g, member, has⟩ := valid.wanted k lock leads
    exact .inr (by rw [lockFor_led leads]; exact valid.made g member _ has)

namespace Joined

theorem mem (joined : Joined p t row data f next) : g ∈ next.flights ↔ g ∈ t.flights ∨ g = f := by
  rw [joined.flights, List.mem_append, List.mem_singleton]

theorem holder? (joined : Joined p t row data f next) (lock : Nat) :
    next.holder? lock = (t.holder? lock).or (if f.shares lock then some f.row else none) := by
  rw [Traffic.holder?, Traffic.holder?, joined.flights, List.find?_append]
  cases t.flights.find? (·.shares lock) with
  | none => cases shared : f.shares lock <;> simp [shared]
  | some g => rfl

theorem known (joined : Joined p t row data f next) (known : t.known other = true) : next.known other = true := by
  rw [known_iff] at known ⊢
  rw [joined.ended]
  exact known.imp_left fun ⟨g, member, same⟩ => ⟨g, joined.mem.mpr (.inl member), same⟩

theorem arrived (joined : Joined p t row data f next) : next.known row = true :=
  known_iff.mpr (.inl ⟨f, joined.mem.mpr (.inr rfl), joined.sameRow⟩)

theorem distinct (valid : t.Valid p) (fresh : t.known row = false) (joined : Joined p t row data f next) :
    (next.flights.map (·.row)).Nodup := by
  rw [joined.flights, List.map_append, List.nodup_append]
  refine ⟨valid.distinct, by simp, ?_⟩
  intro r old other new equal
  obtain ⟨g, member, rfl⟩ := List.mem_map.mp old
  have own : other = row := by simpa [joined.sameRow] using new
  rw [known_iff.mpr (.inl ⟨g, member, equal.trans own⟩)] at fresh
  cases fresh

theorem apart (valid : t.Valid p) (fresh : t.known row = false) (joined : Joined p t row data f next) :
    ∀ g ∈ next.flights, ∀ o ∈ next.ended, o.row ≠ g.row := by
  intro g member o done same
  rw [joined.ended] at done
  rcases joined.mem.mp member with old | rfl
  · exact valid.apart g old o done same
  · rw [known_iff.mpr (.inr ⟨o, done, same.trans joined.sameRow⟩)] at fresh
    cases fresh

theorem led (valid : t.Valid p) (joined : Joined p t row data f next) :
    ∀ g ∈ next.flights, ∀ ticket, g.ticket = some ticket → next.locks.get? ticket.key = some ticket.lock := by
  intro g member ticket has
  rw [joined.locks]
  rcases joined.mem.mp member with old | rfl
  · have leads := valid.led g old ticket has
    split
    · rw [lockFor_led leads]
    · exact leads
  · rw [if_pos (by rw [Flight.key, has]; rfl), joined.lock ticket has]

theorem wanted (valid : t.Valid p) (joined : Joined p t row data f next) :
    ∀ key lock, next.locks.get? key = some lock → ∃ g ∈ next.flights, g.ticket = some ⟨key, lock⟩ := by
  intro key lock leads
  rw [joined.locks] at leads
  split at leads
  · rename_i own
    obtain ⟨ticket, has, same⟩ := Option.map_eq_some_iff.mp own
    have made : ticket.lock = lock := by rw [joined.lock ticket has, same, Option.some.inj leads]
    exact ⟨f, joined.mem.mpr (.inr rfl), by rw [has, ← same, ← made]⟩
  · obtain ⟨g, member, has⟩ := valid.wanted key lock leads
    exact ⟨g, joined.mem.mpr (.inl member), has⟩

theorem alone (valid : t.Valid p) (fresh : t.known row = false) (joined : Joined p t row data f next) :
    ∀ g ∈ next.flights, ∀ h ∈ next.flights, ∀ a b, g.ticket = some a → h.ticket = some b →
      a.lock = b.lock → a.key = b.key := by
  intro g first h second a b one two same
  rcases joined.mem.mp first with oldG | rfl <;> rcases joined.mem.mp second with oldH | rfl
  · exact valid.alone g oldG h oldH a b one two same
  · exact lockFor_alone valid fresh oldG one (same.trans (joined.lock b two))
  · exact (lockFor_alone valid fresh oldH two (same.symm.trans (joined.lock a one))).symm
  · rw [Option.some.inj (one.symm.trans two)]

theorem made (valid : t.Valid p) (joined : Joined p t row data f next) :
    ∀ g ∈ next.flights, ∀ ticket, g.ticket = some ticket → next.known ticket.lock = true := by
  intro g member ticket has
  rcases joined.mem.mp member with old | rfl
  · exact joined.known (valid.made g old ticket has)
  · rw [joined.lock ticket has]
    rcases lockFor_known valid ticket.key row with made | known
    · rw [made]
      exact joined.arrived
    · exact joined.known known

theorem held (valid : t.Valid p) (joined : Joined p t row data f next) :
    ∀ g ∈ next.flights, g.phase ≠ .queued → ∀ ticket, g.ticket = some ticket →
      next.holder? ticket.lock = some g.row := by
  intro g member active ticket has
  rw [joined.holder?]
  rcases joined.mem.mp member with old | rfl
  · rw [valid.held g old active ticket has]; rfl
  · rw [joined.active active ticket has, Option.none_or, if_pos (Flight.shares_iff.mpr ⟨ticket, has, rfl⟩)]

theorem valid (valid : t.Valid p) (fresh : t.known row = false) (joined : Joined p t row data f next) :
    next.Valid p := by
  refine ⟨joined.distinct valid fresh, joined.apart valid fresh, ?_, joined.led valid, joined.wanted valid,
    joined.alone valid fresh, joined.made valid, joined.held valid, ?_⟩
  · intro g member
    rcases joined.mem.mp member with old | rfl
    · exact valid.keyed g old
    · rw [joined.key, joined.sameData]
  · intro g member queued
    rcases joined.mem.mp member with old | rfl
    · exact valid.waits g old queued
    · obtain ⟨ticket, _, has, _⟩ := joined.waits queued
      simp [has]

end Joined

theorem enter_valid (valid : t.Valid p) (fresh : t.known row = false) : (t.enter p row data).Valid p := by
  obtain ⟨f, joined⟩ := enter_joined p t row data
  exact joined.valid valid fresh

theorem mem_finish : g ∈ (t.finish f write attempt answer).flights ↔ g ∈ t.flights ∧ g.row ≠ f.row := by
  simp [finish]

theorem finish_known (known : t.known row = true) :
    (t.finish f write attempt answer).known row = true := by
  rw [known_iff] at known ⊢
  rcases known with ⟨g, inside, rfl⟩ | ⟨o, done, rfl⟩
  · by_cases same : g.row = f.row
    · exact .inr ⟨_, List.mem_append_right _ (List.mem_singleton.mpr rfl), same.symm⟩
    · exact .inl ⟨g, mem_finish.mpr ⟨inside, same⟩, rfl⟩
  · exact .inr ⟨o, List.mem_append_left _ done, rfl⟩

-- A row is in progress once, so the flights are those before its own one, its own one, and those after it.
theorem Valid.split (valid : t.Valid p) (member : f ∈ t.flights) : ∃ before after,
    t.flights = before ++ f :: after ∧ ∀ g ∈ before ++ after, g.row ≠ f.row := by
  obtain ⟨before, after, split⟩ := List.append_of_mem member
  refine ⟨before, after, split, ?_⟩
  have distinct := valid.distinct
  rw [split, List.map_append, List.map_cons] at distinct
  have absent : f.row ∉ (before ++ after).map (·.row) := by
    rw [List.map_append]
    exact (List.nodup_middle.mp distinct).notMem
  exact fun g inside same => absent (same ▸ List.mem_map_of_mem inside)

theorem finish_flights (split : t.flights = before ++ f :: after) (others : ∀ g ∈ before ++ after, g.row ≠ f.row) :
    (t.finish f write attempt answer).flights = before ++ after := by
  have kept : (before ++ after).filter (·.row != f.row) = before ++ after :=
    List.filter_eq_self.mpr fun g inside => by simpa using others g inside
  rw [List.filter_append] at kept
  simpa [finish, split, List.filter_append] using kept

theorem finish_holder? (valid : t.Valid p) (member : f ∈ t.flights) (apart : f.shares lock = false) :
    (t.finish f write attempt answer).holder? lock = t.holder? lock := by
  obtain ⟨before, after, split, others⟩ := valid.split member
  simp [holder?, finish_flights split others, split, List.find?_append, apart]

theorem finish_held (valid : t.Valid p) (member : f ∈ t.flights) (holds : t.holder? lock = some row)
    (other : row ≠ f.row) : (t.finish f write attempt answer).holder? lock = some row := by
  cases shared : f.shares lock with
  | false => rw [finish_holder? valid member shared, holds]
  | true =>
    obtain ⟨before, after, split, others⟩ := valid.split member
    rw [holder?, split, List.find?_append] at holds
    cases ahead : before.find? (·.shares lock) with
    | some g => simpa [holder?, finish_flights split others, List.find?_append, ahead] using holds
    | none =>
      -- then the row that ends is the holder
      simp only [ahead, Option.none_or, List.find?_cons, shared, Option.map_some, Option.some.injEq] at holds
      exact absurd holds.symm other

theorem Valid.references_of_last (valid : t.Valid p) (member : f ∈ t.flights) (has : f.ticket = some ticket)
    (last : ∀ g ∈ t.flights, g.shares ticket.lock = true → g.row = f.row) : t.references ticket.lock ≤ 2 := by
  have keys : t.locks.entries.countP (·.2 == ticket.lock) ≤ 1 := by
    have same : ∀ entry ∈ t.locks.entries, (entry.2 == ticket.lock) = true → entry.1 = ticket.key := by
      rintro ⟨key, lock⟩ entry same
      have equal : lock = ticket.lock := by simpa using same
      obtain ⟨g, inside, wants⟩ := valid.wanted key lock (Keyed.get?_eq_some_iff.mpr entry)
      exact valid.alone g inside f member _ _ wants has equal
    exact countP_le_one t.locks.distinct same
  have rows : t.flights.countP (·.shares ticket.lock) ≤ 1 := countP_le_one valid.distinct last
  unfold references
  omega

theorem Valid.references_of_another (valid : t.Valid p) (member : f ∈ t.flights) (has : f.ticket = some ticket)
    (another : g ∈ t.flights) (shared : g.shares ticket.lock = true) (different : g.row ≠ f.row) :
    2 < t.references ticket.lock := by
  have leads := Keyed.get?_eq_some_iff.mp (valid.led f member ticket has)
  have keys : 0 < t.locks.entries.countP (·.2 == ticket.lock) :=
    List.countP_pos_iff.mpr ⟨_, leads, by simp⟩
  have rows : 2 ≤ t.flights.countP (·.shares ticket.lock) :=
    two_le_countP (fun same => different (by rw [same])) another member shared
      (Flight.shares_iff.mpr ⟨ticket, has, rfl⟩)
  unfold references
  omega

theorem release_get? (valid : t.Valid p) (member : f ∈ t.flights) (own : f.ticket = some mine) (key : String) :
    (t.release mine).get? key =
      if key = mine.key ∧ ∀ g ∈ t.flights, g.shares mine.lock = true → g.row = f.row then none
      else t.locks.get? key := by
  by_cases last : ∀ g ∈ t.flights, g.shares mine.lock = true → g.row = f.row
  · rw [release, if_pos (valid.references_of_last member own last), Keyed.get?_erase]
    simp only [and_iff_left last]
  · rw [if_neg fun both => last both.2]
    simp only [not_forall] at last
    obtain ⟨g, another, shared, different⟩ := last
    have many := valid.references_of_another member own another shared different
    rw [release, if_neg (Nat.not_le_of_lt many)]

theorem finish_led (valid : t.Valid p) (member : f ∈ t.flights) :
    ∀ g ∈ (t.finish f write attempt answer).flights, ∀ ticket, g.ticket = some ticket →
      (t.finish f write attempt answer).locks.get? ticket.key = some ticket.lock := by
  intro g stays ticket has
  obtain ⟨inside, different⟩ := mem_finish.mp stays
  have leads := valid.led g inside ticket has
  cases own : f.ticket with
  | none => simpa [finish, own] using leads
  | some mine =>
    simp only [finish, own]
    rw [release_get? valid member own, if_neg, leads]
    rintro ⟨same, last⟩
    have equal := valid.same_lock inside member has own same
    exact different (last g inside (Flight.shares_iff.mpr ⟨ticket, has, congrArg Ticket.lock equal⟩))

theorem finish_wanted (valid : t.Valid p) (member : f ∈ t.flights) :
    ∀ key lock, (t.finish f write attempt answer).locks.get? key = some lock →
      ∃ g ∈ (t.finish f write attempt answer).flights, g.ticket = some ⟨key, lock⟩ := by
  intro key lock leads
  cases own : f.ticket with
  | none =>
    simp only [finish, own] at leads
    obtain ⟨g, inside, wants⟩ := valid.wanted key lock leads
    refine ⟨g, mem_finish.mpr ⟨inside, fun same => ?_⟩, wants⟩
    rw [valid.same_row inside member same, own] at wants
    cases wants
  | some mine =>
    simp only [finish, own] at leads
    rw [release_get? valid member own] at leads
    split at leads
    · cases leads
    · rename_i kept
      obtain ⟨g, inside, wants⟩ := valid.wanted key lock leads
      by_cases same : g.row = f.row
      · -- the row that leaves was among them, so there is another one
        rw [valid.same_row inside member same, own] at wants
        cases wants
        simp only [true_and, not_forall] at kept
        obtain ⟨other, within, shared, different⟩ := kept
        obtain ⟨ticket, has, equal⟩ := Flight.shares_iff.mp shared
        have keys := valid.alone other within f member _ _ has own equal
        refine ⟨other, mem_finish.mpr ⟨within, different⟩, has.trans ?_⟩
        cases ticket; cases equal; cases keys; rfl
      · exact ⟨g, mem_finish.mpr ⟨inside, same⟩, wants⟩

theorem finish_valid (valid : t.Valid p) (member : f ∈ t.flights) :
    (t.finish f write attempt answer).Valid p := by
  refine ⟨?_, ?_, ?_, finish_led valid member, finish_wanted valid member, ?_, ?_, ?_, ?_⟩
  · exact valid.distinct.sublist (List.filter_sublist.map _)
  · intro g stays o done
    obtain ⟨inside, different⟩ := mem_finish.mp stays
    rcases List.mem_append.mp done with old | new
    · exact valid.apart g inside o old
    · rw [List.mem_singleton.mp new]
      exact Ne.symm different
  · exact fun g stays => valid.keyed g (mem_finish.mp stays).1
  · intro g first h second a b
    exact valid.alone g (mem_finish.mp first).1 h (mem_finish.mp second).1 a b
  · exact fun g stays ticket has => finish_known (valid.made g (mem_finish.mp stays).1 ticket has)
  · intro g stays active ticket has
    obtain ⟨inside, different⟩ := mem_finish.mp stays
    exact finish_held valid member (valid.held g inside active ticket has) different
  · exact fun g stays => valid.waits g (mem_finish.mp stays).1

-- A row that has its lock keeps it from one phase to the next.
theorem goOn_valid (valid : t.Valid p) (member : f ∈ t.flights) (past : f.phase ≠ .queued)
    (active : phase ≠ .queued) : (t.setPhase f.row phase).Valid p := by
  refine setPhase_valid valid active fun g inside same ticket has => ?_
  rw [valid.same_row inside member same] at has
  exact valid.held f member past ticket has

theorem step_valid (valid : t.Valid p) (step : Step p policy t event next) : next.Valid p := by
  cases step with
  | enter fresh => exact enter_valid valid fresh
  | @proceed row f ticket found waits has holds =>
    obtain ⟨member, sameRow⟩ := flight?_mem found
    refine setPhase_valid valid (by simp [firstCall]) ?_
    intro g inside same other wants
    rw [valid.same_row inside member same, has] at wants
    cases wants
    rw [holds, sameRow]
  | ended found calling => exact finish_valid valid (flight?_mem found).1
  | failed found calling =>
    obtain ⟨member, rfl⟩ := flight?_mem found
    exact goOn_valid valid member (by simp [calling]) (by simp)
  | resumed found pausing =>
    obtain ⟨member, rfl⟩ := flight?_mem found
    exact goOn_valid valid member (by simp [pausing]) (by simp)

theorem Valid.exclusive (valid : t.Valid p) (first : f ∈ t.flights) (second : g ∈ t.flights)
    (one : f.key = some k) (two : g.key = some k) (pastF : f.phase ≠ .queued) (pastG : g.phase ≠ .queued) :
    f = g := by
  obtain ⟨a, hasA, keyA⟩ := Option.map_eq_some_iff.mp one
  obtain ⟨b, hasB, keyB⟩ := Option.map_eq_some_iff.mp two
  have equal := valid.same_lock first second hasA hasB (keyA.trans keyB.symm)
  have holdsF := valid.held f first pastF a hasA
  have holdsG := valid.held g second pastG b hasB
  rw [equal, holdsG] at holdsF
  exact valid.same_row first second (Option.some.inj holdsF).symm

theorem Valid.flight? (valid : t.Valid p) (member : f ∈ t.flights) : t.flight? f.row = some f := by
  obtain ⟨before, after, split, others⟩ := valid.split member
  have absent : before.find? (·.row == f.row) = none :=
    List.find?_eq_none.mpr fun g inside => by simpa using others g (List.mem_append_left _ inside)
  simp [Traffic.flight?, split, absent]

end Traffic
end TidyRows
