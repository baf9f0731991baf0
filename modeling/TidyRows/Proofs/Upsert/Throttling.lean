import TidyRows.Proofs.Upsert.IdealBoard
import TidyRows.Proofs.Upsert.RunCourse
import TidyRows.Settings.Basic
namespace TidyRows
namespace Course

-- What is left of a list after some of its parts.
theorem batchesFrom_drop {size : Nat} (items current : List α) (short : current.length < size) (c : Nat) :
    ((batchesFrom size items current).drop c).flatten = (current ++ items).drop (c * size) := by
  induction items generalizing current c with
  | nil =>
    cases c with
    | zero => simp [batchesFrom_flatten]
    | succ c =>
      have longer : current.length ≤ (c + 1) * size := by rw [Nat.succ_mul]; omega
      rw [List.append_nil, List.drop_of_length_le longer, batchesFrom]
      split <;> simp
  | cons item rest ih =>
    have joined : current ++ item :: rest = (current ++ [item]) ++ rest := by simp
    rw [joined, batchesFrom]
    split
    · have full : (current ++ [item]).length = size := by simp; omega
      cases c with
      | zero => simp [batchesFrom_flatten]
      | succ c =>
        rw [List.drop_succ_cons, ih [] (by simp; omega) c, List.nil_append, Nat.succ_mul, Nat.add_comm, ← List.drop_drop,
          ← full, List.drop_left]
    · exact ih (current ++ [item]) (by simp; omega) c

-- A row is in the batch that its number gives it.
theorem batches_place {size : Nat} {rows : List Row} {part : List (Nat × Row)} (positive : 0 < size)
    (here : (batches size (numbered rows))[c]? = some part) (member : e ∈ part) : e.1 / size = c := by
  have rest (n : Nat) : ((batches size (numbered rows)).drop n).flatten = (numbered rows).drop (n * size) :=
    batchesFrom_drop (numbered rows) [] positive n
  have split : (numbered rows).drop (c * size) = part ++ (numbered rows).drop ((c + 1) * size) := by
    rw [← rest c, ← rest (c + 1), List.drop_eq_getElem?_toList_append, here]
    rfl
  have short : part.length ≤ size := by
    have lengths := congrArg List.length split
    rw [Nat.succ_mul] at lengths
    simp only [List.length_append, List.length_drop] at lengths
    omega
  obtain ⟨m, inside, rfl⟩ := List.getElem_of_mem member
  have found : (numbered rows)[c * size + m]? = some part[m] := by
    rw [← List.getElem?_drop, split, List.getElem?_append_left inside, List.getElem?_eq_getElem inside]
  rw [numbered_getElem?] at found
  obtain ⟨row, _, same⟩ := Option.map_eq_some_iff.mp found
  rw [← same, Nat.mul_comm, Nat.mul_add_div positive, Nat.div_eq_of_lt (by omega), Nat.add_zero]

end Course

namespace Traffic
variable {p : UpsertPlan} {policy : RetryPolicy} {t next : Traffic} {event : Event}

theorem Step.row_known (step : Step p policy t event next) (late : ∀ row data, event ≠ .enter row data) :
    ∃ f ∈ t.flights, f.row = event.row := by
  cases step with
  | enter => exact absurd rfl (late _ _)
  | proceed found => exact ⟨_, flight?_mem found⟩
  | ended found => exact ⟨_, flight?_mem found⟩
  | failed found => exact ⟨_, flight?_mem found⟩
  | resumed found => exact ⟨_, flight?_mem found⟩

theorem Step.late_starts (late : ∀ row data, event ≠ .enter row data) : event.starts = [] := by
  cases event with
  | enter row data => exact absurd rfl (late row data)
  | _ => rfl

theorem Step.started_more (valid : t.Valid p) (step : Step p policy t event next) :
    next.started.Perm (t.started ++ event.starts) := by
  have others (late : ∀ row data, event ≠ .enter row data) : next.started.Perm (t.started ++ event.starts) := by
    rw [late_starts late, List.append_nil]
    exact event_started valid late step
  cases event with
  | enter row data =>
    cases step with
    | enter fresh =>
      obtain ⟨f, joined⟩ := enter_joined p t row data
      rw [started, started, joined.flights, joined.ended, List.map_append, ← List.append_assoc, List.map_singleton,
        joined.sameRow]
      exact .refl _
  | _ => exact others (by simp)

theorem Step.flights_le (step : Step p policy t event next) (late : ∀ row data, event ≠ .enter row data) :
    next.flights.length ≤ t.flights.length := by
  cases step with
  | enter => exact absurd rfl (late _ _)
  | ended => exact List.length_filter_le _ _
  | _ => exact Nat.le_of_eq (List.length_map _)

end Traffic

namespace Course
variable {c : Course} {rows : List Row}

def ended (c : Course) : List Nat := c.done.map (·.row) ++ c.traffic.ended.map (·.row)

theorem Ordered.all_started (ordered : c.Ordered rows first count) :
    (c.ended ++ c.traffic.flights.map (·.row)).Perm (List.range (first + count)) := by
  rw [ended, List.append_assoc, ordered.done, ← range_joined]
  exact ordered.started.append_left _

theorem Valid.in_progress (valid : c.Valid p rows) (member : f ∈ c.traffic.flights) : f.row ∉ c.ended := by
  obtain ⟨first, count, ordered⟩ := valid.ordered
  have distinct := ordered.all_started.nodup_iff.mpr List.nodup_range
  exact fun inside => (List.nodup_append.mp distinct).2.2 _ inside _ (List.mem_map_of_mem member) rfl

end Course

theorem intersperse_pairs (between : α) (items : List α) :
    items.intersperse between = (items.flatMap fun item => [between, item]).tail := by
  induction items with
  | nil => rfl
  | cons item rest ih =>
    cases rest with
    | nil => rfl
    | cons second rest =>
      rw [List.intersperse_cons_cons, ih]
      rfl

-- Pauses and batches by turns, beginning and ending with a batch.
def turns (all : List (List (Nat × Row))) : List Happening := (all.map .opens).intersperse .pauses

-- What has been told when so many batches have been opened, and possibly the pause before the next one has begun.
def SpacedOut (all : List (List (Nat × Row))) (opened : Nat) (pausing : Bool) (spacings : List Happening) : Prop :=
  (if opened = 0 then [] else [.pauses]) ++ spacings =
    ((all.take opened).flatMap fun rows => [.pauses, .opens rows]) ++ if pausing then [.pauses] else []

namespace SpacedOut
variable {all : List (List (Nat × Row))} {opened : Nat} {pausing : Bool} {spacings : List Happening}

theorem pauses (spaced : SpacedOut all opened false spacings) : SpacedOut all opened true (spacings ++ [.pauses]) := by
  unfold SpacedOut at spaced ⊢
  rw [← List.append_assoc, spaced]
  simp

theorem opens (spaced : SpacedOut all opened pausing spacings) (here : all[opened]? = some rows)
    (rested : pausing = true ↔ 0 < opened) : SpacedOut all (opened + 1) false (spacings ++ [.opens rows]) := by
  unfold SpacedOut at spaced ⊢
  rw [List.take_add_one, here, List.flatMap_append]
  rcases Nat.eq_zero_or_pos opened with rfl | several
  · have going : pausing = false := Bool.eq_false_iff.mpr fun pausing => absurd (rested.mp pausing) (Nat.lt_irrefl 0)
    have nothing : spacings = [] := by simpa [going] using spaced
    simp [nothing]
  · rw [rested.mpr several, if_neg (Nat.ne_of_gt several)] at spaced
    rw [if_neg (Nat.succ_ne_zero _), ← List.append_assoc, spaced]
    simp

theorem turns_eq (all : List (List (Nat × Row))) : turns all = (all.flatMap fun rows => [.pauses, .opens rows]).tail := by
  rw [turns, intersperse_pairs, List.flatMap_map]

theorem turns_prefix (spaced : SpacedOut all opened pausing spacings)
    (between : pausing = true → 0 < opened ∧ opened < all.length) : spacings <+: turns all := by
  unfold SpacedOut at spaced
  rcases Nat.eq_zero_or_pos opened with rfl | several
  · have going : pausing = false := Bool.eq_false_iff.mpr fun pausing => absurd (between pausing).1 (Nat.lt_irrefl 0)
    have nothing : spacings = [] := by simpa [going] using spaced
    exact nothing ▸ List.nil_prefix
  · have ahead : (if pausing then [Happening.pauses] else []) <+:
        (all.drop opened).flatMap fun rows => [.pauses, .opens rows] := by
      cases pausing with
      | false => exact List.nil_prefix
      | true =>
        rw [List.drop_eq_getElem_cons (between rfl).2]
        exact ⟨[.opens _] ++ _, rfl⟩
    have whole := (List.prefix_append_right_inj ((all.take opened).flatMap fun rows => [.pauses, .opens rows])).mpr ahead
    rw [if_neg (Nat.ne_of_gt several)] at spaced
    rw [← spaced, ← List.flatMap_append, List.take_append_drop] at whole
    obtain ⟨rest, same⟩ := whole
    rw [turns_eq]
    exact ⟨rest, congrArg List.tail same⟩

-- After the last batch nothing is missing.
theorem turns_whole (spaced : SpacedOut all opened false spacings) (last : all.length ≤ opened) :
    spacings = turns all := by
  unfold SpacedOut at spaced
  rw [List.take_of_length_le last] at spaced
  rcases Nat.eq_zero_or_pos opened with rfl | several
  · have none : all = [] := List.length_eq_zero_iff.mp (Nat.le_zero.mp last)
    simpa [none, turns] using spaced
  · rw [if_neg (Nat.ne_of_gt several)] at spaced
    rw [turns_eq, ← List.append_nil (all.flatMap _)]
    exact congrArg List.tail spaced

end SpacedOut

namespace TimedCourse
variable {p : UpsertPlan} {policy : RetryPolicy} {room length : Nat} {origin k next : TimedCourse} {told : Chronicle}
  {happenings : List Happening}

-- Where a timed course stands: what has been told of it is what its rows have come to.
structure Paced (all : List (List (Nat × Row))) (size room length count : Nat) (told : Chronicle) (k : TimedCourse) :
    Prop where
  past : ∀ e ∈ told, e.1 ≤ k.now
  fits : k.course.traffic.flights.length ≤ room
  started : told.started.Perm (k.course.ended ++ k.course.traffic.flights.map (·.row))
  ended : told.ended.Perm k.course.ended
  -- rows that are still to start belong to the batch that has been opened last
  waiting : ∀ e ∈ k.course.waiting, e.1 / size + 1 = k.opened
  -- a pause ago the rows of all batches before it had ended
  earlier : ∀ j < count, j / size + 1 < k.opened → ∃ time, (time, .ends j) ∈ told ∧ time + length ≤ k.now
  rests : ∀ finish, k.restsUntil = some finish → k.course.traffic.flights = [] ∧ k.course.waiting = [] ∧
    ∀ time j, (time, .ends j) ∈ told → time + length ≤ finish
  between : k.restsUntil.isSome → 0 < k.opened ∧ k.opened < all.length
  later : k.course.later = all.drop k.opened ∨ k.course.left ≠ []
  spaced : SpacedOut all k.opened k.restsUntil.isSome told.spacings

theorem Paced.happened {waiting : List (Nat × Row)} (paced : Paced all size room length count told k)
    (valid : k.course.traffic.Valid p) (step : Traffic.Step p policy k.course.traffic event after)
    (busy : k.restsUntil = none) (fits : after.flights.length ≤ room)
    (rest : ∀ e ∈ waiting, e ∈ k.course.waiting) :
    Paced all size room length count (told ++ (k.course.traffic.happenings event after).map (k.now, ·))
      { k with course := { k.course with traffic := after, waiting } } := by
  have tells := Traffic.happenings_told step
  refine ⟨?_, fits, ?_, ?_, fun e member => paced.waiting e (rest e member), ?_, ?_, ?_, paced.later, ?_⟩
  · intro e member
    rcases List.mem_append.mp member with old | new
    · exact paced.past e old
    · obtain ⟨_, _, rfl⟩ := List.mem_map.mp new
      exact Nat.le_refl _
  · rw [Chronicle.started_append, Chronicle.started_stamped, tells.starts]
    have more := (step.started_more valid).append_left (k.course.done.map (·.row))
    rw [← List.append_assoc] at more
    refine (paced.started.append_right _).trans (.trans (.of_eq ?_) (more.symm.trans (.of_eq ?_)))
    · simp [Course.ended, Traffic.started]
    · simp [Course.ended, Traffic.started]
  · rw [Chronicle.ended_append, Chronicle.ended_stamped]
    refine (paced.ended.append_right _).trans (.of_eq ?_)
    simp only [Course.ended, tells.ended, List.append_assoc]
  · intro j inside before
    obtain ⟨time, member, past⟩ := paced.earlier j inside before
    exact ⟨time, List.mem_append_left _ member, past⟩
  · intro finish pausing
    rw [busy] at pausing
    cases pausing
  · exact paced.between
  · rw [Chronicle.spacings_append, Chronicle.spacings_stamped, tells.spacing, List.append_nil]
    exact paced.spaced

theorem Paced.rested (paced : Paced all size room length count told k)
    (busy : k.course.traffic.flights ≠ [] ∨ k.course.waiting ≠ []) : k.restsUntil = none := by
  cases pausing : k.restsUntil with
  | none => rfl
  | some finish =>
    obtain ⟨idle, started, _⟩ := paced.rests finish pausing
    exact absurd started (busy.resolve_left fun some => some idle)

-- When a batch is opened, the rows before it have all ended.
theorem Paced.all_ended {rows : List Row} (positive : 0 < size) (valid : k.course.Valid p rows)
    (paced : Paced (batches size (numbered rows)) size room length rows.length told k)
    (idle : k.course.traffic.flights = []) (started : k.course.waiting = []) (next : k.course.later = part :: rest) :
    k.course.later = (batches size (numbered rows)).drop k.opened ∧
      ∀ j < rows.length, j / size < k.opened → j ∈ told.ended := by
  obtain ⟨first, count, ordered⟩ := valid.ordered
  have left : k.course.left = [] := by
    by_contra off
    have none := (ordered.off off).2
    rw [next] at none
    cases none
  have later := paced.later.resolve_right (not_not_intro left)
  refine ⟨later, fun j inside before => ?_⟩
  rw [paced.ended.mem_iff]
  have all := ordered.all_started
  rw [idle, List.map_nil, List.append_nil] at all
  rw [all.mem_iff, List.mem_range]
  have lengths := congrArg List.length ordered.rest
  have dropped : k.course.later.flatten = (numbered rows).drop (k.opened * size) := by
    rw [later]
    exact Course.batchesFrom_drop (numbered rows) [] positive k.opened
  rw [started, left, List.nil_append, List.append_nil, dropped, List.length_drop, List.length_drop,
    Course.numbered_length] at lengths
  have less := (Nat.div_lt_iff_lt_mul positive).mp before
  omega

theorem Paced.present (paced : Paced all size room length count told k) (h : Happening) :
    ∀ e ∈ told ++ [h].map (k.now, ·), e.1 ≤ k.now := by
  intro e member
  rcases List.mem_append.mp member with old | new
  · exact paced.past e old
  · rw [List.mem_singleton.mp new]

theorem Paced.passes (paced : Paced all size room length count told k) (passes : k.now ≤ time) :
    Paced all size room length count told { k with now := time } := by
  refine { paced with past := fun e member => Nat.le_trans (paced.past e member) passes, earlier := ?_ }
  intro j inside before
  obtain ⟨time, member, past⟩ := paced.earlier j inside before
  exact ⟨time, member, Nat.le_trans past passes⟩

section
variable {rows : List Row} (positive : 0 < size) (valid : k.course.Valid p rows)
  (paced : Paced (batches size (numbered rows)) size room length rows.length told k)
include positive valid paced

theorem Paced.pauses (idle : k.course.traffic.flights = []) (started : k.course.waiting = [])
    (more : k.course.later ≠ []) (several : 0 < k.opened) (free : k.restsUntil = none) :
    Paced (batches size (numbered rows)) size room length rows.length (told ++ [.pauses].map (k.now, ·))
      { k with restsUntil := some (k.now + length) } := by
  obtain ⟨part, rest, next⟩ := List.exists_cons_of_ne_nil more
  obtain ⟨later, _⟩ := paced.all_ended positive valid idle started next
  have inside : k.opened < (batches size (numbered rows)).length := by
    by_contra beyond
    rw [later, List.drop_of_length_le (Nat.le_of_not_lt beyond)] at more
    exact more rfl
  refine ⟨paced.present .pauses, paced.fits, ?_, ?_, paced.waiting, ?_, ?_, fun _ => ⟨several, inside⟩, paced.later, ?_⟩
  · rw [Chronicle.started_snoc told k.now rfl]
    exact paced.started
  · rw [Chronicle.ended_snoc told k.now rfl]
    exact paced.ended
  · intro j inside before
    obtain ⟨time, member, past⟩ := paced.earlier j inside before
    exact ⟨time, List.mem_append_left _ member, past⟩
  · rintro finish ⟨⟩
    exact ⟨idle, started, fun time j member => Nat.add_le_add_right (paced.present .pauses _ member) length⟩
  · have spaced := paced.spaced
    rw [free] at spaced
    rw [Chronicle.spacings_snoc told k.now rfl]
    exact spaced.pauses

theorem Paced.opens (idle : k.course.traffic.flights = []) (started : k.course.waiting = [])
    (next : k.course.later = part :: rest) (rested : 0 < k.opened → ∃ time ≤ k.now, k.restsUntil = some time) :
    Paced (batches size (numbered rows)) size room length rows.length (told ++ [.opens part].map (k.now, ·))
      { k with course := { k.course with traffic := k.course.traffic.nextBatch
                                         done := k.course.done ++ k.course.traffic.outcomes
                                         waiting := part, later := rest }
               opened := k.opened + 1, restsUntil := none } := by
  obtain ⟨later, ended⟩ := paced.all_ended positive valid idle started next
  have here : (batches size (numbered rows))[k.opened]? = some part := by
    rw [← List.head?_drop, ← later, next]
    rfl
  have stands : (({ k.course with traffic := k.course.traffic.nextBatch, done := k.course.done ++ k.course.traffic.outcomes
                                  waiting := part, later := rest } : Course).ended).Perm k.course.ended := by
    simp only [Course.ended, Traffic.nextBatch, List.map_append, List.map_nil, List.append_nil]
    exact (k.course.traffic.outcomes_perm.map _).append_left _
  refine ⟨paced.present (.opens part), ?_, ?_, ?_, ?_, ?_, ?_, ?_, ?_, ?_⟩
  · simp [Traffic.nextBatch, idle]
  · rw [Chronicle.started_snoc told k.now rfl]
    exact paced.started.trans (stands.symm.append_right _)
  · rw [Chronicle.ended_snoc told k.now rfl]
    exact paced.ended.trans stands.symm
  · intro e member
    rw [Course.batches_place positive here member]
  · intro j inside before
    have less : j / size < k.opened := Nat.lt_of_succ_lt_succ before
    obtain ⟨finish, passed, pausing⟩ := rested (Nat.zero_lt_of_lt less)
    obtain ⟨time, member⟩ := Chronicle.mem_ended.mp (ended j inside less)
    exact ⟨time, List.mem_append_left _ member, Nat.le_trans ((paced.rests finish pausing).2.2 time j member) passed⟩
  · rintro finish ⟨⟩
  · rintro ⟨⟩
  · refine .inl ?_
    have tail := congrArg List.tail (next.symm.trans later)
    rwa [List.tail_drop] at tail
  · rw [Chronicle.spacings_snoc told k.now rfl]
    refine paced.spaced.opens here ⟨fun pausing => (paced.between pausing).1, fun several => ?_⟩
    obtain ⟨finish, _, pausing⟩ := rested several
    rw [pausing]
    rfl

end

theorem Paced.stops {rows : List Row} (paced : Paced (batches size (numbered rows)) size room length count told k) :
    Paced (batches size (numbered rows)) size room length count told
      { k with course := { k.course with waiting := [], later := []
                                         left := k.course.waiting ++ k.course.later.flatten ++ k.course.left } } := by
  refine { paced with waiting := by simp, rests := ?_, later := ?_ }
  · intro finish pausing
    obtain ⟨idle, _, past⟩ := paced.rests finish pausing
    exact ⟨idle, rfl, past⟩
  · by_cases off : k.course.waiting ++ k.course.later.flatten ++ k.course.left = []
    · simp only [List.append_eq_nil_iff, List.flatten_eq_nil_iff] at off
      obtain ⟨⟨_, empty⟩, left⟩ := off
      have later := paced.later.resolve_right (not_not_intro left)
      refine .inl (List.eq_nil_iff_forall_not_mem.mpr fun part member => ?_).symm
      exact Course.batchesFrom_full _ _ _ part (List.mem_of_mem_drop member) (empty part (later ▸ member))
    · exact .inr off

theorem step_paced {rows : List Row} (positive : 0 < size) (valid : k.course.Valid p rows)
    (paced : Paced (batches size (numbered rows)) size room length rows.length told k)
    (step : Step p policy room length k happenings next) :
    Paced (batches size (numbered rows)) size room length rows.length (told ++ happenings.map (k.now, ·)) next := by
  cases step with
  | time passes =>
    rw [List.map_nil, List.append_nil]
    exact paced.passes passes
  | pause idle started more several free => exact paced.pauses positive valid idle started more several free
  | batch idle started next rested => exact paced.opens positive valid idle started next rested
  | @row i data rest after next fits went =>
    refine paced.happened valid.traffic (Traffic.advance_sound went) (paced.rested (.inr (by simp [next]))) ?_ ?_
    · cases Traffic.advance_sound went with
      | enter fresh =>
        obtain ⟨f, joined⟩ := Traffic.enter_joined p k.course.traffic i data
        rw [joined.flights, List.length_append]
        exact fits
    · exact fun e member => next ▸ List.mem_cons_of_mem _ member
  | event late went =>
    have step := Traffic.advance_sound went
    obtain ⟨f, member, _⟩ := step.row_known late
    exact paced.happened valid.traffic step (paced.rested (.inl (List.ne_nil_of_mem member)))
      (Nat.le_trans (step.flights_le late) paced.fits) fun _ member => member
  | stop =>
    rw [List.map_nil, List.append_nil]
    exact paced.stops

-- What a step tells is news: nothing about rows that have ended, and rows that start are of the present batch.
structure News (size count : Nat) (told : Chronicle) (k : TimedCourse) (happenings : List Happening) : Prop where
  about : ∀ h ∈ happenings, ∀ row, h.row? = some row → row ∉ told.ended
  last : happenings.Pairwise fun before _ => ∀ row, before ≠ .ends row
  starts : ∀ i, .starts i ∈ happenings → i < count ∧ i / size + 1 = k.opened

theorem step_news {rows : List Row} (valid : k.course.Valid p rows)
    (paced : Paced all size room length rows.length told k) (step : Step p policy room length k happenings next) :
    News size rows.length told k happenings := by
  have quiet (h : Happening) (silent : h.row? = none) : News size rows.length told k [h] := by
    refine ⟨?_, List.pairwise_singleton _ _, ?_⟩
    · intro h' member row about
      rw [List.mem_singleton.mp member, silent] at about
      cases about
    · intro i member
      rw [← List.mem_singleton.mp member] at silent
      cases silent
  have nothing : News size rows.length told k [] := ⟨by simp, .nil, by simp⟩
  cases step with
  | time => exact nothing
  | pause => exact quiet .pauses rfl
  | batch => exact quiet (.opens _) rfl
  | @row i data rest after next fits went =>
    have tells := Traffic.happenings_told (Traffic.advance_sound went)
    obtain ⟨first, count, ordered⟩ := valid.ordered
    have others := ordered.rest
    rw [next, List.cons_append, List.cons_append] at others
    obtain ⟨rfl, found, _⟩ := Course.numbered_drop others.symm
    refine ⟨?_, tells.last, ?_⟩
    · intro h member row about inside
      obtain rfl : row = first + count := Option.some.inj (about.symm.trans (tells.about h member))
      have old := ordered.all_started.mem_iff.mp (List.mem_append_left _ (paced.ended.mem_iff.mp inside))
      exact Nat.lt_irrefl _ (List.mem_range.mp old)
    · intro i member
      have start := List.mem_filterMap.mpr ⟨Happening.starts i, member, (rfl : Happening.start? _ = some i)⟩
      rw [tells.starts] at start
      obtain rfl : i = first + count := List.mem_singleton.mp start
      exact ⟨(List.getElem?_eq_some_iff.mp found).1, paced.waiting (_, data) (by simp [next])⟩
  | @event event after late went =>
    have step := Traffic.advance_sound went
    have tells := Traffic.happenings_told step
    refine ⟨?_, tells.last, ?_⟩
    · intro h member row about inside
      obtain ⟨f, progress, same⟩ := step.row_known late
      obtain rfl : row = event.row := Option.some.inj (about.symm.trans (tells.about h member))
      exact valid.in_progress progress (same ▸ paced.ended.mem_iff.mp inside)
    · intro i member
      have start := List.mem_filterMap.mpr ⟨Happening.starts i, member, (rfl : Happening.start? _ = some i)⟩
      rw [tells.starts, Traffic.Step.late_starts late] at start
      cases start
  | stop => exact nothing

-- Nothing more is told of a row that has ended, and a row starts only when a pause has passed since the rows of all
-- batches before its own had ended.
structure Spread (size length : Nat) (told : Chronicle) : Prop where
  ordered : told.Pairwise fun before after => before.1 ≤ after.1
  final : told.Pairwise fun before after => ∀ row, before.2 = .ends row → after.2.row? ≠ some row
  apart : ∀ n time i : Nat, told[n]? = some (time, .starts i) → ∀ j, j / size < i / size →
    ∃ m < n, ∃ past, told[m]? = some (past, .ends j) ∧ past + length ≤ time

theorem Spread.more (spread : Spread size length told) (paced : Paced all size room length count told k)
    (news : News size count told k happenings) : Spread size length (told ++ happenings.map (k.now, ·)) := by
  refine ⟨?_, ?_, ?_⟩
  · refine List.pairwise_append.mpr ⟨spread.ordered, ?_, ?_⟩
    · exact List.pairwise_map.mpr (List.pairwise_of_forall fun _ _ => Nat.le_refl _)
    · intro e old e' new
      obtain ⟨_, _, rfl⟩ := List.mem_map.mp new
      exact paced.past e old
  · refine List.pairwise_append.mpr ⟨spread.final, ?_, ?_⟩
    · exact List.pairwise_map.mpr (news.last.imp fun none row ends => absurd ends (none row))
    · rintro ⟨time, h⟩ old e' new row rfl about
      obtain ⟨h, member, rfl⟩ := List.mem_map.mp new
      exact news.about h member row about (Chronicle.mem_ended.mpr ⟨time, old⟩)
  · intro n time i here j before
    rcases Nat.lt_or_ge n told.length with old | new
    · rw [List.getElem?_append_left old] at here
      obtain ⟨m, less, past, there, passed⟩ := spread.apart n time i here j before
      exact ⟨m, less, past, by rwa [List.getElem?_append_left (Nat.lt_trans less old)], passed⟩
    · rw [List.getElem?_append_right new] at here
      obtain ⟨h, member, same⟩ := List.mem_map.mp (List.mem_of_getElem? here)
      cases same
      obtain ⟨inside, present⟩ := news.starts i member
      have less : j < count := by
        refine Nat.lt_trans (Nat.lt_of_not_le fun above => ?_) inside
        exact absurd (Nat.div_le_div_right above) (Nat.not_le_of_lt before)
      obtain ⟨past, ended, passed⟩ := paced.earlier j less (by omega)
      obtain ⟨m, there⟩ := List.getElem?_of_mem ended
      have within : m < told.length := (List.getElem?_eq_some_iff.mp there).1
      exact ⟨m, by omega, past, by rwa [List.getElem?_append_left within], passed⟩

theorem start_paced (settings : UpsertSettings) (rows : List Row) (index : KeyIndex) (time : Nat) :
    Paced (batches (max settings.batchSize 1) (numbered rows)) (max settings.batchSize 1) room length rows.length []
      (start settings rows index time) := by
  refine ⟨by simp, Nat.zero_le _, .refl _, .refl _, ?_, ?_, ?_, ?_, .inl rfl, rfl⟩
  · exact fun e member => absurd member List.not_mem_nil
  · exact fun j _ before => absurd before (Nat.not_lt_zero _)
  · rintro finish ⟨⟩
  · rintro ⟨⟩

-- Where every timed course stands that starts with all its rows.
theorem reached_paced {settings : UpsertSettings} {rows : List Row} {index : KeyIndex} {time : Nat}
    (reached : Reached p policy room length (start settings rows index time) told k) :
    Paced (batches (max settings.batchSize 1) (numbered rows)) (max settings.batchSize 1) room length rows.length told k ∧
      Spread (max settings.batchSize 1) length told := by
  induction reached with
  | start => exact ⟨start_paced settings rows index time, .nil, .nil, by simp⟩
  | step prior step ih =>
    obtain ⟨paced, spread⟩ := ih
    have valid := Course.reached_valid prior.untimed (Course.start_valid settings rows index)
    exact ⟨step_paced (by omega) valid paced step, spread.more paced (step_news valid paced step)⟩

theorem Paced.in_progress (paced : Paced all size room length count told k) (valid : k.course.Valid p rows) :
    told.inProgress.length ≤ room := by
  have same : told.inProgress.Perm (k.course.traffic.flights.map (·.row)) := by
    have parts := paced.started.filter fun row => !told.ended.contains row
    have ended : k.course.ended.filter (fun row => !told.ended.contains row) = [] := by
      refine List.filter_eq_nil_iff.mpr fun row member => ?_
      simp [paced.ended.mem_iff.mpr member]
    have going : (k.course.traffic.flights.map (·.row)).filter (fun row => !told.ended.contains row) =
        k.course.traffic.flights.map (·.row) := by
      refine List.filter_eq_self.mpr fun row member => ?_
      obtain ⟨f, inside, rfl⟩ := List.mem_map.mp member
      simp [paced.ended.mem_iff, valid.in_progress inside]
    rwa [List.filter_append, ended, going, List.nil_append] at parts
  rw [same.length_eq, List.length_map]
  exact paced.fits

theorem Paced.spacings (paced : Paced all size room length count told k) :
    told.spacings <+: turns all ∧ (k.course.Over → k.course.left = [] → told.spacings = turns all) := by
  refine ⟨paced.spaced.turns_prefix paced.between, fun ended left => ?_⟩
  have last : all.length ≤ k.opened :=
    List.drop_eq_nil_iff.mp ((paced.later.resolve_right (not_not_intro left)).symm.trans ended.later)
  have going : k.restsUntil.isSome = false :=
    Bool.eq_false_iff.mpr fun pausing => absurd (paced.between pausing).2 (Nat.not_lt_of_le last)
  have spaced := paced.spaced
  rw [going] at spaced
  exact spaced.turns_whole last

end TimedCourse

theorem Duration.le_millisUp (d : Duration) : d.nanos ≤ d.millisUp * nanosPerMilli := by
  unfold millisUp nanosPerMilli
  omega

-- A run that holds back, as far as it has been told. Row `i` is in batch `i / batchSize`.
structure Throttled (settings : UpsertSettings) (rows : List Row) (told : Chronicle) : Prop where
  room : told.inProgress.length ≤ max settings.concurrency 1
  ordered : told.Pairwise fun before after => before.1 ≤ after.1
  -- a row that has ended does not call again
  final : told.Pairwise fun before after => ∀ row, before.2 = .ends row → after.2.row? ≠ some row
  -- a row starts after the rows of all batches before its own have ended and the delay is over
  apart : ∀ n time i : Nat, told[n]? = some (time, .starts i) →
    ∀ j, j / max settings.batchSize 1 < i / max settings.batchSize 1 →
      ∃ m < n, ∃ past, told[m]? = some (past, .ends j) ∧
        past * nanosPerMilli + settings.batchDelay.nanos ≤ time * nanosPerMilli
  pauses : told.spacings <+: turns (batches (max settings.batchSize 1) (numbered rows))

theorem TimedCourse.reached_throttled {settings : UpsertSettings} {rows : List Row} {index : KeyIndex} {time : Nat}
    (reached : Reached p policy (max settings.concurrency 1) settings.batchDelay.millisUp (start settings rows index time)
      told k) :
    Throttled settings rows told ∧ (k.course.Over → k.course.left = [] →
      told.spacings = turns (batches (max settings.batchSize 1) (numbered rows))) := by
  obtain ⟨paced, spread⟩ := reached_paced reached
  have valid := Course.reached_valid reached.untimed (Course.start_valid settings rows index)
  obtain ⟨pauses, whole⟩ := paced.spacings
  refine ⟨⟨paced.in_progress valid, spread.ordered, spread.final, ?_, pauses⟩, whole⟩
  intro n time i here j before
  obtain ⟨m, less, past, there, passed⟩ := spread.apart n time i here j before
  have long := settings.batchDelay.le_millisUp
  have scaled := Nat.mul_le_mul_right nanosPerMilli passed
  rw [Nat.add_mul] at scaled
  exact ⟨m, less, past, there, by omega⟩

-- Whatever order the rows go on in and however long everything takes, a run holds back; and what a run does with its
-- board, which is called at the times that are told, is one of these courses.
theorem run_throttled (settings : UpsertSettings) (rows : List Row) :
    (∀ p index time told k, TimedCourse.Reached p settings.retryPolicy (max settings.concurrency 1)
        settings.batchDelay.millisUp (.start settings rows index time) told k →
      Throttled settings rows told ∧ (k.course.Over → k.course.left = [] →
        told.spacings = turns (batches (max settings.batchSize 1) (numbered rows)))) ∧
    ∀ {σ : Type} (board : Board σ) target now state r,
      (Upsert.run board unstopped settings target rows now state).result = .ok r →
      ∃ p index told k due s, UpsertPlan.ofTarget target = .ok p ∧
        (Upsert.snapshot board settings.itemLimit p now state).answer = .ok index ∧
        Upsert.Chronicled board p settings.retryPolicy (max settings.concurrency 1) settings.batchDelay.millisUp
          (.start settings rows index (now + (Upsert.snapshot board settings.itemLimit p now state).duration))
          (Upsert.snapshot board settings.itemLimit p now state).after s told k due ∧
        s.now = (Upsert.run board unstopped settings target rows now state).now ∧
        s.state = (Upsert.run board unstopped settings target rows now state).state ∧
        k.course.Over ∧ k.course.left = [] ∧ r.results = k.course.outcomes ∧ Throttled settings rows told ∧
        told.spacings = turns (batches (max settings.batchSize 1) (numbered rows)) := by
  refine ⟨fun p index time told k reached => TimedCourse.reached_throttled reached, ?_⟩
  intro σ board target now state r ran
  have lasting : StopTime.Lasting board unstopped := fun _ _ _ _ stops => stops
  obtain ⟨p, index, told, k, due, s, plan, answer, arrived, chronicled, time, after⟩ :=
    Upsert.run_chronicled lasting ran
  have left : k.course.left = [] := by
    by_contra left
    cases arrived.stopped (arrived.cancelled.mpr left)
  obtain ⟨throttled, whole⟩ := TimedCourse.reached_throttled chronicled.reached
  exact ⟨p, index, told, k, due, s, plan, answer, chronicled, time, after, arrived.finished, left, arrived.results,
    throttled, whole arrived.finished left⟩

-- Two batches, on a board that is busy when it is called for the first time.
namespace BusyOnce

def board : Board Nat where
  fetch _ _ _ _ calls := ⟨.ok [], 0, 0, calls⟩
  write _ _ _ calls := ⟨if calls = 0 then .error (.status 503 "busy") else .ok "item", 1, 0, calls + 1⟩

def rows : List Row :=
  [.ofList [("email", .text "ann")], .ofList [("email", .text "bob")], .ofList [("email", .text "cem")]]

def target : WriteBack := ⟨.externalUpsert, some "contacts", none, none, some (.ofList [("email", "mail")]), none⟩

def settings : UpsertSettings :=
  { UpsertSettings.standard with batchSize := 2, concurrency := 2, batchDelay := .ofMillis 50 (by decide), jitter := false }

theorem busy_once_throttled : ∃ r told k, (Upsert.run board unstopped settings target rows 0 0).result = .ok r ∧
    r.results.map (fun o => (o.row, o.attempts.toNat)) = [(0, 2), (1, 1), (2, 1)] ∧
    TimedCourse.Reached ⟨"contacts", .ofList [("email", "mail")], none, none⟩ settings.retryPolicy 2 50
      (.start settings rows .empty 0) told k ∧ k.now = 253 ∧ Throttled settings rows told ∧
    told.spacings = [.opens ((numbered rows).take 2), .pauses, .opens ((numbered rows).drop 2)] := by
  have counts : (Upsert.run board unstopped settings target rows 0 0).result.toOption.map
      (fun r => r.results.map fun o => (o.row, o.attempts.toNat)) = some [(0, 2), (1, 1), (2, 1)] := by decide +kernel
  have time : (Upsert.run board unstopped settings target rows 0 0).now = 253 := by decide +kernel
  cases ran : (Upsert.run board unstopped settings target rows 0 0).result with
  | error fault => rw [ran] at counts; cases counts
  | ok r =>
    rw [ran] at counts
    obtain ⟨p, index, told, k, due, s, planned, shown, chronicled, now, _, _, _, _, throttled, whole⟩ :=
      (run_throttled settings rows).2 board target 0 0 r ran
    cases planned
    cases shown
    exact ⟨r, told, k, rfl, Option.some.inj counts, chronicled.reached, by rw [chronicled.now, now, time], throttled, whole⟩

end BusyOnce
end TidyRows
