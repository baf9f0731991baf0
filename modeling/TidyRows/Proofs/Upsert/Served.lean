import TidyRows.Proofs.Upsert.Schedule
import TidyRows.Upsert.Course
namespace TidyRows

abbrev Due := Nat → Option (Except BoardFault String)

-- A log that a board can have, with its state afterwards. Calls may be made at any time.
inductive Served (board : Board σ) (boardId : String) (before : σ) : List Deed → Due → σ → Prop where
  | start : Served board boardId before [] (fun _ => none) before
  | call (prior : Served board boardId before log due state) (row : Nat) (write : Write) (now : Nat) :
      Served board boardId before (log ++ [⟨row, write, none⟩])
        (Function.update due row (some (board.write now boardId write state).answer))
        (board.write now boardId write state).after
  | reply (prior : Served board boardId before log due state) (write : Write) (given : due row = some answer) :
      Served board boardId before (log ++ [⟨row, write, some answer⟩]) due state

namespace Served
variable {σ : Type} {board : Board σ} {boardId : String} {before state : σ} {log : List Deed} {due : Due}
  {row : Nat} {write : Write}

theorem called (served : Served board boardId before (log ++ [⟨row, write, none⟩]) due state) :
    ∃ due' state' now, Served board boardId before log due' state' ∧
      due = Function.update due' row (some (board.write now boardId write state').answer) := by
  generalize all : log ++ [⟨row, write, none⟩] = whole at served
  cases served with
  | start => simp at all
  | call prior row' write' now =>
    obtain ⟨rfl, same⟩ := List.append_inj' all rfl
    cases same
    exact ⟨_, _, now, prior, rfl⟩
  | reply prior write' given =>
    obtain ⟨_, same⟩ := List.append_inj' all rfl
    cases same

theorem answered (served : Served board boardId before (log ++ [⟨row, write, some answer⟩]) due state) :
    Served board boardId before log due state ∧ due row = some answer := by
  generalize all : log ++ [⟨row, write, some answer⟩] = whole at served
  cases served with
  | start => simp at all
  | call prior row' write' now =>
    obtain ⟨_, same⟩ := List.append_inj' all rfl
    cases same
  | reply prior write' given =>
    obtain ⟨rfl, same⟩ := List.append_inj' all rfl
    cases same
    exact ⟨prior, given⟩

end Served

namespace Traffic
variable {t : Traffic} {f : Flight}

theorem deeds_answered (found : t.flight? row = some f) (calling : f.phase = .calling write attempt)
    (answer : Except BoardFault String) (next : Traffic) :
    t.deeds (.answered row answer) next = [⟨row, write, some answer⟩] := by
  simp [deeds, calling?, found, calling]

theorem setPhase_calling? (found : t.flight? row = some f) (write : Write) (attempt : UInt32) :
    (t.setPhase row (.calling write attempt)).calling? row = some write := by
  have rows : (fun g : Flight => g.row == row) ∘
      (fun g => if g.row == row then { g with phase := .calling write attempt } else g) = fun g => g.row == row := by
    funext g
    by_cases same : g.row = row <;> simp [same]
  rw [calling?, flight?, setPhase, List.find?_map, rows, ← flight?, found]
  simp [(flight?_mem found).2]

theorem setPhase_calling?_other (other : r ≠ row) (phase : Phase) :
    (t.setPhase row phase).calling? r = t.calling? r := by
  have rows : (fun g : Flight => g.row == r) ∘ (fun g => if g.row == row then { g with phase } else g) =
      fun g => g.row == r := by
    funext g
    by_cases same : g.row = row <;> simp [same]
  rw [calling?, flight?, setPhase, List.find?_map, rows, calling?, flight?]
  cases found : t.flights.find? (·.row == r) with
  | none => rfl
  | some g =>
    have same : g.row = r := by simpa using List.find?_some found
    simp [same, other]

theorem finish_calling?_other (other : r ≠ f.row) (write : Write) (attempt : UInt32)
    (answer : Except BoardFault String) : (t.finish f write attempt answer).calling? r = t.calling? r := by
  have kept : (t.flights.filter (·.row != f.row)).find? (·.row == r) = t.flights.find? (·.row == r) := by
    rw [List.find?_filter]
    congr 1
    funext g
    by_cases same : g.row = r <;> simp [same, other]
  rw [calling?, flight?, finish, kept]
  rfl

theorem enter_calling?_other (other : r ≠ row) (p : UpsertPlan) (data : Row) :
    (t.enter p row data).calling? r = t.calling? r := by
  obtain ⟨f, joined⟩ := enter_joined p t row data
  have passed : [f].find? (·.row == r) = none := by simp [joined.sameRow, Ne.symm other]
  rw [calling?, flight?, joined.flights, List.find?_append, passed, Option.or_none]
  rfl

end Traffic

-- Answers that are on their way, at most one to each row, are due, and their rows wait for them.
structure Due.Keeps (due : Due) (t : Traffic) (answers : List (Nat × Except BoardFault String)) : Prop where
  given : ∀ e ∈ answers, due e.1 = some e.2
  waits : ∀ e ∈ answers, (t.calling? e.1).isSome
  single : (answers.map (·.1)).Nodup

namespace Due.Keeps
variable {due : Due} {t next : Traffic} {answers others : List (Nat × Except BoardFault String)} {row : Nat}
  {answer : Except BoardFault String}

theorem perm (keeps : due.Keeps t answers) (same : others.Perm answers) : due.Keeps t others :=
  ⟨fun e member => keeps.given e (same.mem_iff.mp member), fun e member => keeps.waits e (same.mem_iff.mp member),
    (same.map _).nodup_iff.mpr keeps.single⟩

theorem arrives (keeps : due.Keeps t ((row, answer) :: answers)) :
    due row = some answer ∧ due.Keeps t answers ∧ ∀ e ∈ answers, e.1 ≠ row := by
  obtain ⟨given, waits, single⟩ := keeps
  rw [List.map_cons, List.nodup_cons] at single
  refine ⟨given _ (.head _), ⟨fun e member => given e (.tail _ member), fun e member => waits e (.tail _ member),
    single.2⟩, fun e member same => single.1 ?_⟩
  exact List.mem_map.mpr ⟨e, member, same⟩

theorem apart (keeps : due.Keeps t answers) (quiet : t.calling? row = none) : ∀ e ∈ answers, e.1 ≠ row := by
  rintro e member rfl
  have waits := keeps.waits e member
  rw [quiet] at waits
  cases waits

theorem passes (keeps : due.Keeps t answers) (apart : ∀ e ∈ answers, e.1 ≠ row)
    (same : ∀ r, r ≠ row → next.calling? r = t.calling? r) : due.Keeps next answers :=
  ⟨keeps.given, fun e member => same e.1 (apart e member) ▸ keeps.waits e member, keeps.single⟩

theorem calls (keeps : due.Keeps t answers) (apart : ∀ e ∈ answers, e.1 ≠ row) (calling : t.calling? row = some write)
    (answer : Except BoardFault String) :
    Due.Keeps (Function.update due row (some answer)) t ((row, answer) :: answers) := by
  refine ⟨?_, ?_, ?_⟩
  · intro e member
    rcases List.mem_cons.mp member with rfl | old
    · exact Function.update_self ..
    · exact (Function.update_of_ne (apart e old) ..).trans (keeps.given e old)
  · intro e member
    rcases List.mem_cons.mp member with rfl | old
    · rw [calling]
      rfl
    · exact keeps.waits e old
  · rw [List.map_cons, List.nodup_cons]
    refine ⟨fun inside => ?_, keeps.single⟩
    obtain ⟨e, member, same⟩ := List.mem_map.mp inside
    exact apart e member same

end Due.Keeps

def Task.answer? : Task → Option (Nat × Except BoardFault String)
  | .answer row result _ => some (row, result)
  | _ => none

namespace Schedule
variable {σ : Type}

def answers (s : Schedule σ) : List (Nat × Except BoardFault String) := s.tasks.filterMap Task.answer?

@[simp] theorem fill_answers (s : Schedule σ) : s.fill.answers = s.answers := by
  unfold fill
  split
  · rfl
  · simp [answers, tasks, List.filterMap_cons, Task.answer?]

@[simp] theorem release_answers (s : Schedule σ) (f : Flight) : (s.release f).answers = s.answers := by
  have none : (s.nextTask f).toList.filterMap Task.answer? = [] := by
    unfold nextTask
    cases f.ticket.bind fun ticket => s.traffic.holder? ticket.lock <;> rfl
  rw [release_eq, fill_answers]
  simp [answers, tasks, none]

theorem later_answers (s : Schedule σ) (wait : Nat) (task : Task) :
    (s.later wait task).answers.Perm (task.answer?.toList ++ s.answers) := by
  unfold later
  split
  · cases told : task.answer? <;> simp [answers, tasks, told]
  · rw [answers, tasks, List.map_append, ← List.append_assoc, List.filterMap_append]
    refine List.perm_append_comm.trans (List.Perm.of_eq ?_)
    cases told : task.answer? <;> simp [told, answers, tasks]

theorem jump_answers {s : Schedule σ} (idle : s.ready = []) (time : Nat) : (s.jump time).answers.Perm s.answers := by
  have parts : ((s.agenda.filter (·.1 == time)) ++ s.agenda.filter (·.1 != time)).Perm s.agenda :=
    List.filter_append_perm (·.1 == time) s.agenda
  rw [answers, answers, tasks, tasks, jump, idle, ← List.map_append, List.nil_append]
  exact (parts.map _).filterMap _

end Schedule

end TidyRows
