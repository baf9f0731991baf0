import TidyRows.Proofs.Dedupe.Books
import TidyRows.Proofs.Dedupe.Signature
import TidyRows.Proofs.Upsert.Concurrency
import TidyRows.Proofs.Upsert.Snapshot
namespace TidyRows

-- Blank cells are those whose text has nothing but blanks, and the rest of both is spelled in one way.
theorem signature_one (row : Row) (field delimiter : String) :
    signature? row [field] delimiter = normalizeKey (cellText (row.get? field)).toList := by
  have blank : isBlankCell (row.get? field) = true ↔ Text.trim (cellText (row.get? field)).toList = [] := by
    rw [← keyText_eq_nil_iff, keyText, Unicode.lower_eq_nil_iff]
  unfold signature? normalizeKey
  by_cases empty : Text.trim (cellText (row.get? field)).toList = []
  · simp [blank.mpr empty, empty]
  · have solid : isBlankCell (row.get? field) = false := Bool.eq_false_iff.mpr (mt blank.mp empty)
    simp [solid, empty, Text.joinWith, keyText]

def MarkedApart (mark : Row → Option String) (rows : List Row) : Prop :=
  ∀ (i j : Nat) (m : String), rows[i]?.bind mark = some m → rows[j]?.bind mark = some m → i = j

theorem markedApart_of_pairwise {mark : Row → Option String} {rows : List Row}
    (apart : rows.Pairwise fun row other => ∀ m, mark row = some m → mark other ≠ some m) : MarkedApart mark rows := by
  have different {i j : Nat} {m : String} (less : i < j) (here : rows[i]?.bind mark = some m)
      (there : rows[j]?.bind mark = some m) : False := by
    obtain ⟨row, found, has⟩ := Option.bind_eq_some_iff.mp here
    obtain ⟨other, found', same⟩ := Option.bind_eq_some_iff.mp there
    obtain ⟨within, rfl⟩ := List.getElem?_eq_some_iff.mp found
    obtain ⟨within', rfl⟩ := List.getElem?_eq_some_iff.mp found'
    exact List.pairwise_iff_getElem.mp apart i j within within' less m has same
  intro i j m here there
  rcases Nat.lt_trichotomy i j with less | same | less
  · exact (different less here there).elim
  · exact same
  · exact (different less there here).elim

-- No two rows that come out of a step have one signature.
theorem Dedupe.applyWith_apart (score : Similarity → List Char → List Char → Double) (d : Dedupe)
    (options : RunOptions) (threshold : Double) (rows : List Row) :
    MarkedApart (keySignature d.keys) (d.applyWith score options threshold rows).rows := by
  have phases := run_phases score d options threshold rows
  refine markedApart_of_pairwise ?_
  rw [run_rows, List.pairwise_map]
  refine (ordered_survivors phases.ordered_second phases.second).imp_of_mem fun first second less s has same => ?_
  have early := exact_survivor (phases.kept_twice first)
  exact absurd less (Nat.not_lt_of_le (kept_first (phases.kept_twice second) same early has))

def keyIn (field : String) (row : Row) : Option String := normalizeKey (cellText (row.get? field)).toList

theorem keyOfRow_eq_keyIn {p : UpsertPlan} (key : p.key = some (field, column)) : p.keyOfRow = keyIn field := by
  funext row
  rw [UpsertPlan.keyOfRow, key, Option.bind_some, keyIn]

theorem deduped_apart {d : Dedupe} (keys : d.keys = [field]) (options : RunOptions) (threshold : Double)
    (rows : List Row) : MarkedApart (keyIn field) (d.apply options threshold rows).rows := by
  have signature : Dedupe.keySignature d.keys = keyIn field := by
    funext row
    rw [Dedupe.keySignature, keys, signature_one, keyIn]
  exact signature ▸ d.applyWith_apart Similarity.score options threshold rows

-- A row that has been answered with an item is through: it makes no more calls. What is told of a row in the end is
-- what it was answered.
structure Closed (log : List Deed) (c : Course) : Prop where
  silent : log.Pairwise fun earlier d => earlier.row = d.row → ∀ id, earlier.answer ≠ some (.ok id)
  through : ∀ d ∈ log, ∀ id, d.answer = some (.ok id) → d.row ∉ Lanes.remaining c
  told : ∀ o ∈ c.done ++ c.traffic.ended, ∃ d ∈ log,
    d.row = o.row ∧ d.write.action = o.action ∧ d.answer = some o.answer

section
variable {p : UpsertPlan} {policy : RetryPolicy} {room : Nat} {c next : Course} {log deeds : List Deed} {d : Deed}
  {answer : Except BoardFault String} {id : String}

theorem call_unanswered {call : Option Write} (member : d ∈ (call.map fun w => (⟨row, w, none⟩ : Deed)).toList) :
    d.answer = none := by
  obtain ⟨write, _, rfl⟩ := Option.map_eq_some_iff.mp (Option.mem_toList.mp member)
  rfl

-- An answer in the log is one that a row in progress has got.
theorem step_answered (step : Course.Step p policy room c deeds next) (member : d ∈ deeds)
    (answered : d.answer = some answer) : c.traffic.calling? d.row = some d.write ∧
      ∃ after, Traffic.Step p policy c.traffic (.answered d.row answer) after ∧ next = { c with traffic := after } := by
  have unanswered (none : d.answer = none) : False := by
    rw [none] at answered
    cases answered
  cases step with
  | batch => cases member
  | row => exact (unanswered (call_unanswered member)).elim
  | @event event after late went =>
    cases event with
    | enter => exact absurd rfl (late _ _)
    | proceed => exact (unanswered (call_unanswered member)).elim
    | answered row answer =>
      obtain ⟨write, calling, rfl⟩ := Option.map_eq_some_iff.mp (Option.mem_toList.mp member)
      cases answered
      exact ⟨calling, after, Traffic.advance_sound went, rfl⟩
    | resumed => exact (unanswered (call_unanswered member)).elim
  | stop => cases member

theorem step_remains (step : Course.Step p policy room c deeds next) (member : d ∈ deeds) :
    d.row ∈ Lanes.remaining c := by
  cases call : d.answer with
  | none =>
    obtain ⟨f, inside, same, _⟩ := Lanes.step_caller step member call
    exact (Lanes.step_remaining step).subset (List.mem_append_left _ (List.mem_map.mpr ⟨f, inside, same⟩))
  | some answer =>
    obtain ⟨f, inside, same, _⟩ := calling?_mem (step_answered step member call).1
    exact List.mem_append_left _ (List.mem_map.mpr ⟨f, inside, same⟩)

-- The rows to come have higher numbers than those in progress.
theorem reached_sorted (settings : UpsertSettings) (rows : List Row) (index : KeyIndex)
    (reached : Course.Reached p policy room (.start settings rows index) log c) :
    (Lanes.remaining c).Pairwise (· < ·) := by
  induction reached with
  | start =>
    rw [Lanes.start_remaining]
    exact List.pairwise_lt_range
  | step _ step ih => exact ih.sublist (Lanes.step_remaining step)

theorem step_through (sorted : (Lanes.remaining c).Pairwise (· < ·)) (step : Course.Step p policy room c deeds next)
    (member : d ∈ deeds) (created : d.answer = some (.ok id)) : d.row ∉ Lanes.remaining next := by
  obtain ⟨_, after, went, rfl⟩ := step_answered step member created
  obtain ⟨_, _, apart⟩ := List.pairwise_append.mp sorted
  cases went with
  | @ended _ f write attempt _ found calling last =>
    obtain ⟨inside, same⟩ := Traffic.flight?_mem found
    intro remains
    rcases List.mem_append.mp remains with going | ahead
    · obtain ⟨g, stays, row⟩ := List.mem_map.mp going
      exact (Traffic.mem_finish.mp stays).2 (row.trans same.symm)
    · have less := apart f.row (List.mem_map_of_mem inside) d.row ahead
      omega

theorem step_told (step : Course.Step p policy room c deeds next)
    (told : ∀ o ∈ c.done ++ c.traffic.ended, ∃ d ∈ log,
      d.row = o.row ∧ d.write.action = o.action ∧ d.answer = some o.answer) :
    ∀ o ∈ next.done ++ next.traffic.ended, ∃ d ∈ log ++ deeds,
      d.row = o.row ∧ d.write.action = o.action ∧ d.answer = some o.answer := by
  have before : ∀ o ∈ c.done ++ c.traffic.ended, ∃ d ∈ log ++ deeds,
      d.row = o.row ∧ d.write.action = o.action ∧ d.answer = some o.answer := by
    intro o member
    obtain ⟨d, inside, same⟩ := told o member
    exact ⟨d, List.mem_append_left _ inside, same⟩
  cases step with
  | batch idle =>
    intro o member
    rw [Traffic.nextBatch, List.append_nil] at member
    exact before o (mem_outcomes.mp member)
  | @row i data rest after _ _ went =>
    cases Traffic.advance_sound went with
    | enter fresh =>
      obtain ⟨f, joined⟩ := Traffic.enter_joined p c.traffic i data
      rw [joined.ended]
      exact before
  | event late went =>
    cases Traffic.advance_sound went with
    | enter => exact absurd rfl (late _ _)
    | proceed => exact before
    | @ended row f write attempt answer found calling last =>
      obtain ⟨_, rfl⟩ := Traffic.flight?_mem found
      intro o member
      rw [Traffic.finish, ← List.append_assoc] at member
      rcases List.mem_append.mp member with old | new
      · exact before o old
      · cases List.mem_singleton.mp new
        rw [Traffic.deeds_answered found calling]
        exact ⟨_, List.mem_append_right _ (.head _), rfl, rfl, rfl⟩
    | failed => exact before
    | resumed => exact before
  | stop => exact before

theorem step_closed (sorted : (Lanes.remaining c).Pairwise (· < ·)) (closed : Closed log c)
    (step : Course.Step p policy room c deeds next) : Closed (log ++ deeds) next := by
  refine ⟨?_, fun d member id created => ?_, step_told step closed.told⟩
  · have single : deeds.Pairwise fun earlier d => earlier.row = d.row → ∀ id, earlier.answer ≠ some (.ok id) := by
      rcases Course.step_deeds step with rfl | ⟨d, rfl⟩
      · exact .nil
      · exact List.pairwise_singleton _ _
    refine List.pairwise_append.mpr ⟨closed.silent, single, fun earlier old d new same id created => ?_⟩
    exact closed.through earlier old id created (same ▸ step_remains step new)
  · rcases List.mem_append.mp member with old | new
    · exact fun remains => closed.through d old id created ((Lanes.step_remaining step).subset remains)
    · exact step_through sorted step new created

theorem reached_closed (settings : UpsertSettings) (rows : List Row) (index : KeyIndex)
    (reached : Course.Reached p policy room (.start settings rows index) log c) : Closed log c := by
  induction reached with
  | start => exact ⟨.nil, by simp, by simp [Course.start, Traffic.start]⟩
  | step prior step ih => exact step_closed (reached_sorted settings rows index prior) ih step

end

-- What becomes of rows whose keys are in the snapshot or not known at all.
structure BySnapshot (p : UpsertPlan) (rows : List Row) (items : List Item) (log : List Deed) (os : List RowOutcome) :
    Prop where
  -- in every call and in what is told of it, a row with a key is an update exactly when its key is in the snapshot
  calls : ∀ d ∈ log, ∀ key, p.keyAt rows d.row = some key →
    (d.write.action = .update ↔ ∃ item ∈ items, normalizeKey item.keyText.toList = some key)
  entries : ∀ o ∈ os, ∀ key, p.keyAt rows o.row = some key →
    (o.action = .update ↔ ∃ item ∈ items, normalizeKey item.keyText.toList = some key)
  first : ∀ d ∈ log, ∀ id columns, d.write = .update id columns → ∃ key item, p.keyAt rows d.row = some key ∧
    (items.find? fun item => normalizeKey item.keyText.toList == some key) = some item ∧ item.id = id
  created : ∀ d ∈ log, ∀ id, d.write.action = .create → d.answer = some (.ok id) → (∀ item ∈ items, item.id ≠ id) →
    ∀ e ∈ log, ∀ columns, e.write ≠ .update id columns

section
variable {p : UpsertPlan} {rows : List Row} {items : List Item} {log : List Deed} {os : List RowOutcome} {d : Deed}
  {id : String}

theorem writeOf_update {row : Row} {known : Option String} {columns : Columns} :
    p.writeOf row known = .update id columns ↔ known = some id ∧ p.columns row = columns := by
  cases known <;> simp [UpsertPlan.writeOf]

theorem writeOf_action {row : Row} {known : Option String} :
    (p.writeOf row known).action = .update ↔ known.isSome = true := by
  cases known <;> simp [UpsertPlan.writeOf, Write.action]

theorem created?_answered (created : d.created? p rows key = some id) : d.answer = some (.ok id) := by
  unfold Deed.created? at created
  split at created
  · rename_i answered
    split at created
    · cases created
      exact answered
    · cases created
  · cases created

-- With a key of its own, a row meets the creation of no other row, and its own one ends it.
theorem Lawful.by_index {index : KeyIndex} (lawful : Lawful p rows index log) (apart : MarkedApart p.keyOfRow rows)
    (silent : log.Pairwise fun earlier d => earlier.row = d.row → ∀ id, earlier.answer ≠ some (.ok id))
    (member : d ∈ log) : ∃ data, rows[d.row]? = some data ∧
      d.write = p.writeOf data ((p.keyOfRow data).bind index.get?) := by
  obtain ⟨earlier, later, split⟩ := List.append_of_mem member
  obtain ⟨data, found, agrees⟩ := lawful.at split
  refine ⟨data, found, ?_⟩
  cases key : p.keyOfRow data with
  | none => rw [agrees, key]; rfl
  | some k =>
    have own : p.keyAt rows d.row = some k := by rw [UpsertPlan.keyAt, found, Option.bind_some, key]
    have none : earlier.findSome? (·.created? p rows k) = none := by
      refine List.findSome?_eq_none_iff.mpr fun e before => ?_
      cases created : e.created? p rows k with
      | none => rfl
      | some id =>
        have same : e.row = d.row := apart _ _ k (created?_key created).1 own
        rw [split] at silent
        obtain ⟨_, _, across⟩ := List.pairwise_append.mp silent
        exact absurd (created?_answered created) (across e before d (.head _) same id)
    rw [agrees, key, Option.bind_some, Option.bind_some, itemOf, none, Option.or_none]

theorem bySnapshot_of_apart {policy : RetryPolicy} {room : Nat} {c : Course} (apart : MarkedApart p.keyOfRow rows)
    (settings : UpsertSettings)
    (reached : Course.Reached p policy room (.start settings rows (.ofItems items)) log c) :
    BySnapshot p rows items log c.outcomes := by
  obtain ⟨_, truthful⟩ :=
    reached_truthful reached (Course.start_valid settings rows _) (start_truthful p settings rows _)
  have closed := reached_closed settings rows (.ofItems items) reached
  have write := fun d member => truthful.lawful.by_index (d := d) apart closed.silent member
  have calls : ∀ d ∈ log, ∀ key, p.keyAt rows d.row = some key →
      (d.write.action = .update ↔ ∃ item ∈ items, normalizeKey item.keyText.toList = some key) := by
    intro d member key own
    obtain ⟨data, found, agrees⟩ := write d member
    rw [UpsertPlan.keyAt, found, Option.bind_some] at own
    rw [agrees, writeOf_action, own, Option.bind_some, ofItems_get?]
    simp
  have first : ∀ d ∈ log, ∀ id columns, d.write = .update id columns → ∃ key item, p.keyAt rows d.row = some key ∧
      (items.find? fun item => normalizeKey item.keyText.toList == some key) = some item ∧ item.id = id := by
    intro d member id columns updates
    obtain ⟨data, found, agrees⟩ := write d member
    obtain ⟨known, _⟩ := writeOf_update.mp (agrees.symm.trans updates)
    obtain ⟨key, own, known⟩ := Option.bind_eq_some_iff.mp known
    rw [ofItems_get?] at known
    obtain ⟨item, there, same⟩ := Option.map_eq_some_iff.mp known
    exact ⟨key, item, by rw [UpsertPlan.keyAt, found, Option.bind_some, own], there, same⟩
  refine ⟨calls, fun o member key own => ?_, first, fun d _ id _ _ new e member columns updates => ?_⟩
  · obtain ⟨d, inside, row, action, _⟩ := closed.told o (mem_outcomes.mp member)
    rw [← action]
    exact calls d inside key (row ▸ own)
  · obtain ⟨key, item, _, there, same⟩ := first e member id columns updates
    exact new item (List.mem_of_find?_eq_some there) same

end

theorem ofTarget_key {target : WriteBack} {p : UpsertPlan} (planned : UpsertPlan.ofTarget target = .ok p)
    (named : target.keyColumn = some field) (visible : Text.allBlank field.toList = false) :
    ∃ column, p.key = some (field, column) := by
  have planning := UpsertPlan.ofTarget_planning target
  rw [planned] at planning
  cases planning with
  | planned ready board mapped known =>
    have kept : target.keyColumn.filter (fun k => !Text.allBlank k.toList) = some field := by
      rw [named, Option.filter_some, visible]
      rfl
    rw [UpsertPlan.keyOf, kept] at known
    dsimp only at known
    split at known
    · rename_i column _
      cases known
      exact ⟨column, rfl⟩
    · cases known

-- Upserting rows by a field in which no two of them have one key.
structure Upsert.KeyedOnce (field : String) (rows : List Row) (settings : UpsertSettings) : Prop where
  apart : MarkedApart (keyIn field) rows
  -- whatever is in the snapshot, whatever is answered, and in whatever order
  courses : ∀ p column items log c, p.key = some (field, column) →
    Course.Reached p settings.retryPolicy (max settings.concurrency 1) (.start settings rows (.ofItems items)) log c →
    BySnapshot p rows items log c.outcomes
  -- and so in every run that gives a result, by a course whose writes have led the board to where it is, and which
  -- tells of all rows unless it is called off
  runs : ∀ {σ : Type} (board : Board σ) (stopsAt : StopTime σ) (target : WriteBack) (now : Nat) (state : σ)
    (r : UpsertResult), target.keyColumn = some field → Text.allBlank field.toList = false → stopsAt.Lasting board →
    (Upsert.run board stopsAt settings target rows now state).result = .ok r →
    ∃ p column items log c, UpsertPlan.ofTarget target = .ok p ∧ p.key = some (field, column) ∧
      (board.fetch now p.boardId column settings.itemLimit state).answer = .ok items ∧
      Course.Reached p settings.retryPolicy (max settings.concurrency 1) (.start settings rows (.ofItems items)) log c ∧
      Wrote board p.boardId (board.fetch now p.boardId column settings.itemLimit state).after (sent log)
        (Upsert.run board stopsAt settings target rows now state).state ∧
      BySnapshot p rows items log r.results ∧
      (r.cancelled = false → r.results.map (·.row) = List.range rows.length)

theorem keyedOnce_of_apart {rows : List Row} (apart : MarkedApart (keyIn field) rows) (settings : UpsertSettings) :
    Upsert.KeyedOnce field rows settings := by
  have courses : ∀ p column items log c, p.key = some (field, column) →
      Course.Reached p settings.retryPolicy (max settings.concurrency 1) (.start settings rows (.ofItems items)) log c →
      BySnapshot p rows items log c.outcomes := by
    intro p column items log c key reached
    exact bySnapshot_of_apart (keyOfRow_eq_keyIn key ▸ apart) settings reached
  refine ⟨apart, courses, ?_⟩
  intro σ board stopsAt target now state r named visible lasting ran
  obtain ⟨p, index, log, c, s, planned, answer, arrived, _, after⟩ := Upsert.run_arrives lasting ran
  obtain ⟨column, key⟩ := ofTarget_key planned named visible
  obtain ⟨reached, wrote, finished, results, _, cancelled, _⟩ := arrived
  simp only [Upsert.snapshot, key] at answer wrote
  cases fetched : (board.fetch now p.boardId column settings.itemLimit state).answer with
  | error fault =>
    rw [fetched] at answer
    cases answer
  | ok items =>
    rw [fetched] at answer
    cases answer
    rw [after] at wrote
    refine ⟨p, column, items, log, c, planned, key, fetched, reached, wrote,
      results ▸ courses p column items log c key reached, fun through => ?_⟩
    have none : c.left = [] := by
      by_contra some
      rw [cancelled.mpr some] at through
      cases through
    rw [results]
    exact outcomes_complete (Course.reached_valid reached (Course.start_valid settings rows _)) finished none

-- A signature by one field is the key in it, so the rows that are kept by it are upserted each for itself.
theorem dedupe_keys_agree :
    (∀ (row : Row) (field delimiter : String),
      signature? row [field] delimiter = normalizeKey (cellText (row.get? field)).toList) ∧
    ∀ (d : Dedupe) (field : String) (options : RunOptions) (threshold : Double) (rows : List Row)
      (settings : UpsertSettings), d.keys = [field] →
      Upsert.KeyedOnce field (d.apply options threshold rows).rows settings :=
  ⟨signature_one, fun _ _ options threshold rows settings keys =>
    keyedOnce_of_apart (deduped_apart keys options threshold rows) settings⟩

-- Two people, each of them in two spellings, and the board knows one of them.
namespace KnownAndNew

def rows : List Row :=
  [.ofList [("email", .text " Ann")], .ofList [("email", .text "bob")], .ofList [("email", .text "ANN ")],
    .ofList [("email", .text "Bob")]]

def step : Dedupe := ⟨["email"], none⟩

def target : WriteBack :=
  ⟨.externalUpsert, some "contacts", some "email", none, some (.ofList [("email", "mail")]), none⟩

def settings : UpsertSettings := { UpsertSettings.standard with concurrency := 2 }

def board : Rehearsal := .ofPlan ⟨[⟨"7", "ann"⟩], none, .empty, [], .empty, none, none⟩

theorem known_and_new_agree : step.keys = ["email"] ∧ target.keyColumn = some "email" ∧
    Text.allBlank "email".toList = false ∧ StopTime.Lasting Rehearsal.board Rehearsal.cancelledAt ∧
    ∃ r, (Upsert.run Rehearsal.board Rehearsal.cancelledAt settings target (step.apply ⟨false⟩ .one rows).rows 0
        board).result = .ok r ∧
      r.results.map (·.action) = [.update, .create] ∧
      ∃ p column items log c, UpsertPlan.ofTarget target = .ok p ∧ p.key = some ("email", column) ∧
        (Rehearsal.board.fetch 0 p.boardId column settings.itemLimit board).answer = .ok items ∧
        Course.Reached p settings.retryPolicy (max settings.concurrency 1)
          (.start settings (step.apply ⟨false⟩ .one rows).rows (.ofItems items)) log c ∧
        Wrote Rehearsal.board p.boardId (Rehearsal.board.fetch 0 p.boardId column settings.itemLimit board).after
          (sent log) (Upsert.run Rehearsal.board Rehearsal.cancelledAt settings target
            (step.apply ⟨false⟩ .one rows).rows 0 board).state ∧
        BySnapshot p (step.apply ⟨false⟩ .one rows).rows items log r.results ∧
        (r.cancelled = false → r.results.map (·.row) = List.range (step.apply ⟨false⟩ .one rows).rows.length) :=
  ⟨rfl, rfl, by decide, rehearsal_lasting, _, rfl, by decide,
    (dedupe_keys_agree.2 step "email" ⟨false⟩ .one rows settings rfl).runs Rehearsal.board Rehearsal.cancelledAt target
      0 board _ rfl (by decide) rehearsal_lasting rfl⟩

end KnownAndNew
end TidyRows
