import TidyRows.Proofs.Upsert.Served
import TidyRows.Upsert.TimedCourse
namespace TidyRows

namespace Chronicle

theorem started_append (told more : Chronicle) : (told ++ more).started = told.started ++ more.started :=
  List.filterMap_append

theorem ended_append (told more : Chronicle) : (told ++ more).ended = told.ended ++ more.ended :=
  List.filterMap_append

theorem deeds_append (told more : Chronicle) : (told ++ more).deeds = told.deeds ++ more.deeds :=
  List.filterMap_append

theorem spacings_append (told more : Chronicle) : (told ++ more).spacings = told.spacings ++ more.spacings := by
  simp [spacings]

theorem mem_ended {told : Chronicle} : row ∈ told.ended ↔ ∃ time, (time, .ends row) ∈ told := by
  rw [ended, List.mem_filterMap]
  constructor
  · rintro ⟨⟨time, h⟩, member, found⟩
    cases h <;> simp only [Happening.end?, reduceCtorEq] at found
    cases found
    exact ⟨time, member⟩
  · rintro ⟨time, member⟩
    exact ⟨_, member, rfl⟩

section
variable (now : Nat) (happenings : List Happening)

theorem started_stamped : started (happenings.map (now, ·)) = happenings.filterMap Happening.start? := by
  rw [started, List.filterMap_map]; rfl

theorem ended_stamped : ended (happenings.map (now, ·)) = happenings.filterMap Happening.end? := by
  rw [ended, List.filterMap_map]; rfl

theorem spacings_stamped : spacings (happenings.map (now, ·)) = happenings.filter Happening.spacing := by
  rw [spacings, List.map_map]
  exact congrArg _ (List.map_id' happenings)

theorem deeds_stamped : (deeds (happenings.map (now, ·))) = (happenings.filterMap Happening.deed?).map (now, ·) := by
  rw [deeds, List.filterMap_map, List.map_filterMap]; rfl

end

theorem started_snoc (told : Chronicle) (now : Nat) (quiet : h.start? = none) :
    (told ++ [h].map (now, ·)).started = told.started := by
  rw [started_append, started_stamped, List.filterMap_cons, quiet]
  exact List.append_nil _

theorem ended_snoc (told : Chronicle) (now : Nat) (quiet : h.end? = none) :
    (told ++ [h].map (now, ·)).ended = told.ended := by
  rw [ended_append, ended_stamped, List.filterMap_cons, quiet]
  exact List.append_nil _

theorem spacings_snoc (told : Chronicle) (now : Nat) (spaces : h.spacing = true) :
    (told ++ [h].map (now, ·)).spacings = told.spacings ++ [h] := by
  rw [spacings_append, spacings_stamped, List.filter_cons, if_pos spaces]
  rfl

end Chronicle

namespace Traffic
variable {p : UpsertPlan} {policy : RetryPolicy} {t next : Traffic} {event : Event}

-- What there is to tell of an event is about its row, and that the row has ended comes last.
structure Told (t : Traffic) (event : Event) (next : Traffic) (happenings : List Happening) : Prop where
  starts : happenings.filterMap Happening.start? = event.starts
  spacing : happenings.filter Happening.spacing = []
  deeds : happenings.filterMap Happening.deed? = t.deeds event next
  ended : next.ended.map (·.row) = t.ended.map (·.row) ++ happenings.filterMap Happening.end?
  about : ∀ h ∈ happenings, h.row? = some event.row
  last : happenings.Pairwise fun before _ => ∀ row, before ≠ .ends row

theorem Step.ended_more (step : Step p policy t event next) :
    next.ended = t.ended ∨ ∃ o, next.ended = t.ended ++ [o] ∧ o.row = event.row := by
  cases step with
  | @enter row data fresh =>
    obtain ⟨f, joined⟩ := enter_joined p t row data
    exact .inl joined.ended
  | ended found calling =>
    obtain ⟨_, rfl⟩ := flight?_mem found
    exact .inr ⟨_, rfl, rfl⟩
  | _ => exact .inl rfl

theorem deeds_about (t : Traffic) (event : Event) (next : Traffic) : ∀ d ∈ t.deeds event next, d.row = event.row := by
  unfold deeds
  intro d member
  cases event <;>
  · obtain ⟨_, _, rfl⟩ := Option.map_eq_some_iff.mp (Option.mem_toList.mp member)
    rfl

theorem happenings_told (step : Step p policy t event next) : Told t event next (t.happenings event next) := by
  have about := deeds_about t event next
  have enters : ∀ row ∈ event.starts, row = event.row := by cases event <;> simp [Event.starts, Event.row]
  obtain ⟨ends, more, same, single⟩ : ∃ ends : List RowOutcome, next.ended = t.ended ++ ends ∧
      (∀ o ∈ ends, o.row = event.row) ∧ ends.length ≤ 1 := by
    rcases step.ended_more with none | ⟨o, one, same⟩
    · exact ⟨[], by simpa using none, by simp, by simp⟩
    · exact ⟨[o], one, by simpa using same, by simp⟩
  have parts : t.happenings event next = event.starts.map .starts ++ (t.deeds event next).map .deed ++
      ends.map fun o => .ends o.row := by
    rw [happenings, more, List.drop_left]
  rw [parts]
  refine ⟨?_, ?_, ?_, ?_, ?_, ?_⟩
  · simp [List.filterMap_map, Function.comp_def, Happening.start?]
  · simp [List.filter_map, Function.comp_def, Happening.spacing]
  · simp [List.filterMap_map, Function.comp_def, Happening.deed?]
  · simp [more, List.filterMap_map, Function.comp_def, Happening.end?]
  · intro h member
    simp only [List.mem_append, List.mem_map] at member
    rcases member with (⟨row, inside, rfl⟩ | ⟨d, inside, rfl⟩) | ⟨o, inside, rfl⟩
    · exact congrArg some (enters row inside)
    · exact congrArg some (about d inside)
    · exact congrArg some (same o inside)
  · have before (h : Happening) (member : h ∈ event.starts.map .starts ++ (t.deeds event next).map .deed) (row : Nat) :
        h ≠ .ends row := by
      simp only [List.mem_append, List.mem_map] at member
      rcases member with ⟨_, _, rfl⟩ | ⟨_, _, rfl⟩ <;> simp
    refine List.pairwise_append.mpr ⟨?_, ?_, fun h member _ _ => before h member⟩
    · exact List.Pairwise.imp_of_mem (fun member _ _ => before _ member) (List.pairwise_of_forall fun _ _ => trivial)
    · match ends, single with
      | [], _ => exact .nil
      | [o], _ => exact List.pairwise_singleton _ _

end Traffic

theorem Chronicle.deeds_happened (told : Chronicle) (now : Nat) (step : Traffic.Step p policy t event next) :
    (told ++ (t.happenings event next).map (now, ·)).deeds = told.deeds ++ (t.deeds event next).map (now, ·) := by
  rw [deeds_append, deeds_stamped, (Traffic.happenings_told step).deeds]

-- The board has been called at the times that are told, and its answers have come back to the rows that called.
inductive ServedAt (board : Board σ) (boardId : String) (before : σ) : List (Nat × Deed) → Due → σ → Prop where
  | start : ServedAt board boardId before [] (fun _ => none) before
  | call (prior : ServedAt board boardId before log due state) (row : Nat) (write : Write) (now : Nat) :
      ServedAt board boardId before (log ++ [⟨row, write, none⟩].map (now, ·))
        (Function.update due row (some (board.write now boardId write state).answer))
        (board.write now boardId write state).after
  | reply (prior : ServedAt board boardId before log due state) (write : Write) (now : Nat) (given : due row = some answer) :
      ServedAt board boardId before (log ++ [⟨row, write, some answer⟩].map (now, ·)) due state

theorem ServedAt.served (served : ServedAt board boardId before log due state) :
    Served board boardId before (log.map (·.2)) due state := by
  induction served with
  | start => exact .start
  | call prior row write now ih =>
    rw [List.map_append]
    exact ih.call row write now
  | reply prior write now given ih =>
    rw [List.map_append]
    exact ih.reply write given

namespace TimedCourse
variable {p : UpsertPlan} {policy : RetryPolicy} {room length : Nat} {origin k : TimedCourse} {told : Chronicle}

-- Without its times it is a course.
theorem Reached.untimed (reached : Reached p policy room length origin told k) :
    Course.Reached p policy room origin.course (told.deeds.map (·.2)) k.course := by
  induction reached with
  | start => exact .start
  | @step told k happenings next prior step ih =>
    have deeds : (told ++ happenings.map (k.now, ·)).deeds.map (·.2) =
        told.deeds.map (·.2) ++ happenings.filterMap Happening.deed? := by
      rw [Chronicle.deeds_append, Chronicle.deeds_stamped, List.map_append, List.map_map]
      exact congrArg _ (List.map_id' _)
    rw [deeds]
    have quiet : happenings.filterMap Happening.deed? = [] → Course.Reached p policy room origin.course
        (told.deeds.map (·.2) ++ happenings.filterMap Happening.deed?) k.course := by
      intro none
      rw [none, List.append_nil]
      exact ih
    cases step with
    | time => exact quiet rfl
    | pause => exact quiet rfl
    | batch ended started next => exact ih.step (.batch ended started next)
    | row next fits went counted =>
      rw [(Traffic.happenings_told (Traffic.advance_sound went)).deeds]
      exact ih.step (.row next fits went counted)
    | event late went =>
      rw [(Traffic.happenings_told (Traffic.advance_sound went)).deeds]
      exact ih.step (.event late went)
    | stop => exact ih.step .stop

end TimedCourse
end TidyRows
