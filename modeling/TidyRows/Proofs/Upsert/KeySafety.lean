import TidyRows.Proofs.Upsert.Course
import TidyRows.Settings.Basic
namespace TidyRows

def UpsertPlan.keyAt (p : UpsertPlan) (rows : List Row) (i : Nat) : Option String := rows[i]?.bind p.keyOfRow

def Deed.created? (p : UpsertPlan) (rows : List Row) (key : String) (d : Deed) : Option String :=
  match d.write, d.answer with
  | .create _ _, some (.ok id) => if p.keyAt rows d.row = some key then some id else none
  | _, _ => none

-- The item of a key: the one in the snapshot, else the first one that has been created for it.
def itemOf (p : UpsertPlan) (rows : List Row) (index : KeyIndex) (log : List Deed) (key : String) : Option String :=
  (index.get? key).or (log.findSome? (·.created? p rows key))

def Phase.write? : Phase → Option Write
  | .queued => none
  | .calling write _ => some write
  | .pausing write _ => some write

-- Each call and each answer is about the write that is right for its row at that moment.
inductive Lawful (p : UpsertPlan) (rows : List Row) (index : KeyIndex) : List Deed → Prop where
  | nil : Lawful p rows index []
  | snoc {log : List Deed} {d : Deed} {data : Row} (prior : Lawful p rows index log)
      (found : rows[d.row]? = some data)
      (agrees : d.write = p.writeOf data ((p.keyOfRow data).bind (itemOf p rows index log))) :
      Lawful p rows index (log ++ [d])

-- A row that is past its look-up would look up the same again, and the index tells what the log tells.
structure Truthful (p : UpsertPlan) (rows : List Row) (index : KeyIndex) (t : Traffic) (log : List Deed) : Prop where
  indexed : ∀ key, t.index.get? key = itemOf p rows index log key
  current : ∀ f ∈ t.flights, ∀ write, f.phase.write? = some write →
    write = p.writeOf f.data (f.key.bind t.index.get?)
  lawful : Lawful p rows index log

section
variable {p : UpsertPlan} {policy : RetryPolicy} {rows : List Row} {index : KeyIndex} {log : List Deed} {d : Deed}
  {t next : Traffic} {c : Course} {room : Nat}

theorem itemOf_snoc (key : String) : itemOf p rows index (log ++ [d]) key =
    (itemOf p rows index log key).or (d.created? p rows key) := by
  rw [itemOf, itemOf, List.findSome?_append, Option.or_assoc]
  simp

theorem remember_get? (index : KeyIndex) (own : Option String) (write : Write) (answer : Except BoardFault String)
    (key : String) : (index.remember own write answer).get? key =
      match write, answer with
      | .create _ _, .ok id => if own = some key then some id else index.get? key
      | _, _ => index.get? key := by
  cases own with
  | none => cases write <;> cases answer <;> simp [KeyIndex.remember]
  | some mine =>
    cases write <;> cases answer <;> simp [KeyIndex.remember, Keyed.get?_put, eq_comm]

theorem Lawful.at (lawful : Lawful p rows index log) (split : log = before ++ d :: after) :
    ∃ data, rows[d.row]? = some data ∧
      d.write = p.writeOf data ((p.keyOfRow data).bind (itemOf p rows index before)) := by
  induction lawful generalizing after with
  | nil => simp at split
  | @snoc log e data prior found agrees ih =>
    rcases List.eq_nil_or_concat after with rfl | ⟨rest, last, rfl⟩
    · obtain ⟨rfl, same⟩ := List.append_inj' split rfl
      cases same
      exact ⟨data, found, agrees⟩
    · have split' : log ++ [e] = (before ++ d :: rest) ++ [last] := by simpa using split
      exact ih (List.append_inj' split' rfl).1

theorem Truthful.agrees (truthful : Truthful p rows index t log) (valid : t.Valid p) (member : f ∈ t.flights)
    (past : f.phase.write? = some write) :
    write = p.writeOf f.data ((p.keyOfRow f.data).bind (itemOf p rows index log)) := by
  have same : t.index.get? = itemOf p rows index log := funext truthful.indexed
  rw [← same, ← valid.keyed f member]
  exact truthful.current f member write past

theorem calling?_mem (calling : t.calling? row = some write) :
    ∃ f ∈ t.flights, f.row = row ∧ f.phase.write? = some write := by
  obtain ⟨f, found, phase⟩ := Option.bind_eq_some_iff.mp calling
  obtain ⟨member, same⟩ := Traffic.flight?_mem found
  refine ⟨f, member, same, ?_⟩
  cases real : f.phase <;> simp_all [Phase.write?]

theorem Truthful.snoc (truthful : Truthful p rows index t log) (found : rows[d.row]? = some data)
    (agrees : d.write = p.writeOf data ((p.keyOfRow data).bind (itemOf p rows index log)))
    (kept : ∀ key, d.created? p rows key = none) : Truthful p rows index t (log ++ [d]) := by
  refine ⟨fun key => ?_, truthful.current, .snoc truthful.lawful found agrees⟩
  rw [itemOf_snoc, kept key, Option.or_none, truthful.indexed key]

theorem sent_truthful (valid : next.Valid p) (data : ∀ f ∈ next.flights, rows[f.row]? = some f.data)
    (truthful : Truthful p rows index next log) (row : Nat) :
    Truthful p rows index next (log ++ ((next.calling? row).map fun w => (⟨row, w, none⟩ : Deed)).toList) := by
  cases calling : next.calling? row with
  | none => simpa using truthful
  | some write =>
    obtain ⟨f, member, rfl, past⟩ := calling?_mem calling
    exact truthful.snoc (data f member) (truthful.agrees valid member past)
      fun key => by cases write <;> rfl

theorem setPhase_truthful (truthful : Truthful p rows index t log)
    (right : ∀ f ∈ t.flights, f.row = row → ∀ write, phase.write? = some write →
      write = p.writeOf f.data (f.key.bind t.index.get?)) :
    Truthful p rows index (t.setPhase row phase) log := by
  refine ⟨truthful.indexed, ?_, truthful.lawful⟩
  intro g member write past
  obtain ⟨f, inside, sameRow, sameData, sameTicket, kept | ⟨changed, phase⟩⟩ := Traffic.setPhase_mem member
  · rw [sameData, Flight.key, sameTicket]
    exact truthful.current f inside write (kept ▸ past)
  · rw [sameData, Flight.key, sameTicket]
    exact right f inside (sameRow.symm.trans changed) write (phase ▸ past)

theorem enter_truthful (truthful : Truthful p rows index t log) :
    Truthful p rows index (t.enter p row data) log := by
  obtain ⟨f, joined⟩ := Traffic.enter_joined p t row data
  refine ⟨by simpa using truthful.indexed, ?_, truthful.lawful⟩
  intro g member write past
  rw [Traffic.enter_index]
  rcases joined.mem.mp member with old | rfl
  · exact truthful.current g old write past
  · rcases joined.phase with queued | called
    · rw [queued] at past; cases past
    · rw [called] at past
      cases past
      rw [joined.key, joined.sameData]

theorem finish_truthful (valid : t.Valid p) (data : ∀ f ∈ t.flights, rows[f.row]? = some f.data)
    (truthful : Truthful p rows index t log) (member : f ∈ t.flights) (calling : f.phase = .calling write attempt) :
    Truthful p rows index (t.finish f write attempt answer) (log ++ [⟨f.row, write, some answer⟩]) := by
  have past : f.phase.write? = some write := by simp [calling, Phase.write?]
  have agrees := truthful.agrees valid member past
  have own : p.keyAt rows f.row = f.key := by
    rw [UpsertPlan.keyAt, data f member, valid.keyed f member]; rfl
  refine ⟨fun key => ?_, ?_, .snoc truthful.lawful (data f member) agrees⟩
  · rw [itemOf_snoc, ← truthful.indexed key, Traffic.finish]
    simp only [remember_get?, Deed.created?, own]
    cases write with
    | update => simp
    | create name columns =>
      cases answer with
      | error => simp
      | ok id =>
        by_cases mine : f.key = some key
        · -- the row creates, so its key had no item
          have new : t.index.get? key = none := by
            have made := truthful.current f member _ past
            rw [mine, Option.bind_some] at made
            cases known : t.index.get? key with
            | none => rfl
            | some id => rw [known] at made; cases made
          simp [mine, new]
        · simp [mine]
  · intro g stays other going
    obtain ⟨inside, different⟩ := Traffic.mem_finish.mp stays
    have made := truthful.current g inside other going
    cases key : g.key with
    | none => rw [key] at made; exact made
    | some k =>
      have others : f.key ≠ some k := by
        intro same
        have active : ∀ h : Flight, h.phase.write? ≠ none → h.phase ≠ .queued := by
          intro h past queued
          rw [queued] at past
          exact past rfl
        exact different (congrArg Flight.row (valid.exclusive inside member key same
          (active g (by simp [going])) (active f (by simp [past]))))
      rw [key] at made
      rw [made, Traffic.finish, Option.bind_some, Option.bind_some, remember_get?]
      cases write <;> cases answer <;> simp [others]

theorem step_truthful (valid : t.Valid p) (nextValid : next.Valid p)
    (data : ∀ f ∈ t.flights, rows[f.row]? = some f.data) (nextData : ∀ f ∈ next.flights, rows[f.row]? = some f.data)
    (truthful : Truthful p rows index t log) (step : Traffic.Step p policy t event next) :
    Truthful p rows index next (log ++ t.deeds event next) := by
  -- a row's write is right for its flight, which is the only one with its row
  have right : ∀ {f write}, f ∈ t.flights → f.phase.write? = some write →
      ∀ g ∈ t.flights, g.row = f.row → write = p.writeOf g.data (g.key.bind t.index.get?) := by
    intro f write member past g inside same
    rw [valid.same_row inside member same]
    exact truthful.current f member write past
  cases step with
  | enter fresh => exact sent_truthful nextValid nextData (enter_truthful truthful) _
  | proceed found waits has holds =>
    obtain ⟨member, rfl⟩ := Traffic.flight?_mem found
    refine sent_truthful nextValid nextData (setPhase_truthful truthful ?_) _
    intro g inside same write past
    rw [valid.same_row inside member same]
    exact (Option.some.inj past).symm
  | ended found calling =>
    obtain ⟨member, rfl⟩ := Traffic.flight?_mem found
    simpa [Traffic.deeds, Traffic.calling?, found, calling] using finish_truthful valid data truthful member calling
  | @failed row f write attempt fault found calling again =>
    obtain ⟨member, rfl⟩ := Traffic.flight?_mem found
    have past : f.phase.write? = some write := by simp [calling, Phase.write?]
    have paused : Truthful p rows index (t.setPhase f.row (.pausing write attempt)) log :=
      setPhase_truthful truthful fun g inside same other going =>
        (Option.some.inj going) ▸ right member past g inside same
    have answered := paused.snoc (d := ⟨f.row, write, some (.error fault)⟩) (data f member)
      (truthful.agrees valid member past) fun key => by cases write <;> rfl
    simpa [Traffic.deeds, Traffic.calling?, found, calling] using answered
  | @resumed row f write attempt found pausing =>
    obtain ⟨member, rfl⟩ := Traffic.flight?_mem found
    have past : f.phase.write? = some write := by simp [pausing, Phase.write?]
    exact sent_truthful nextValid nextData (setPhase_truthful truthful fun g inside same other going =>
      (Option.some.inj going) ▸ right member past g inside same) _

theorem reached_truthful (reached : Course.Reached p policy room origin log c) (valid : origin.Valid p rows)
    (truthful : Truthful p rows index origin.traffic []) :
    c.Valid p rows ∧ Truthful p rows index c.traffic log := by
  induction reached with
  | start => exact ⟨valid, truthful⟩
  | @step log c deeds next _ step ih =>
    obtain ⟨valid, truthful⟩ := ih
    have nextData := Course.step_data valid step
    have nextValid := Course.step_traffic valid step
    refine ⟨⟨nextValid, nextData, Course.step_ordered valid step⟩, ?_⟩
    cases step with
    | batch idle =>
      rw [List.append_nil]
      exact ⟨truthful.indexed, by simp [Traffic.nextBatch, idle], truthful.lawful⟩
    | row _ _ went =>
      exact step_truthful valid.traffic nextValid valid.data nextData truthful (Traffic.advance_sound went)
    | event _ went =>
      exact step_truthful valid.traffic nextValid valid.data nextData truthful (Traffic.advance_sound went)
    | stop => rwa [List.append_nil]

theorem start_truthful (p : UpsertPlan) (settings : UpsertSettings) (rows : List Row) (index : KeyIndex) :
    Truthful p rows index (Course.start settings rows index).traffic [] :=
  ⟨fun key => by simp [itemOf, Course.start, Traffic.start], by simp [Course.start, Traffic.start], .nil⟩

theorem ofItems_get? (items : List Item) (key : String) : (KeyIndex.ofItems items).get? key =
    (items.find? fun item => normalizeKey item.keyText.toList == some key).map (·.id) := by
  have general : ∀ index : KeyIndex, (items.foldl KeyIndex.addItem index).get? key =
      (index.get? key).or ((items.find? fun item => normalizeKey item.keyText.toList == some key).map (·.id)) := by
    induction items with
    | nil => simp
    | cons item rest ih =>
      intro index
      rw [List.foldl_cons, ih, List.find?_cons, KeyIndex.addItem]
      cases own : normalizeKey item.keyText.toList with
      | none => simp
      | some k =>
        by_cases same : k = key
        · subst same
          cases old : index.get? k with
          | none => simp [Keyed.contains, old]
          | some id => simp [Keyed.contains, old]
        · have unequal : (some k == some key) = false := by simpa using same
          have kept : (if index.contains k then index else index.put k item.id).get? key = index.get? key := by
            split
            · rfl
            · exact Keyed.get?_put_other index _ (Ne.symm same)
          simp only [kept, unequal]
  simpa [KeyIndex.ofItems] using general .empty

end

structure KeySafe (p : UpsertPlan) (rows : List Row) (items : List Item) (log : List Deed) (c : Course)
    (key : String) : Prop where
  -- rows with a key of the snapshot update the first item with that key and create none
  snapshot : ∀ item, (items.find? fun item => normalizeKey item.keyText.toList == some key) = some item →
    ∀ d ∈ log, p.keyAt rows d.row = some key → ∃ columns, d.write = .update item.id columns
  once : log.countP (fun d => (d.created? p rows key).isSome) ≤ 1
  -- whatever happens for the key after its creation is an update of the item that was created
  after : ∀ earlier d later id, log = earlier ++ d :: later → d.created? p rows key = some id →
    ∀ e ∈ later, p.keyAt rows e.row = some key → ∃ columns, e.write = .update id columns
  -- one row at a time is between its look-up and the entry of what it has created
  exclusive : ∀ f ∈ c.traffic.flights, ∀ g ∈ c.traffic.flights, p.keyAt rows f.row = some key →
    p.keyAt rows g.row = some key → f.phase ≠ .queued → g.phase ≠ .queued → f = g

section
variable {p : UpsertPlan} {rows : List Row} {index : KeyIndex} {log earlier later : List Deed} {d e : Deed}
  {k id : String}

-- A call of a row whose key has an item by then updates that item.
theorem Lawful.update (lawful : Lawful p rows index log) (split : log = earlier ++ d :: later)
    (key : p.keyAt rows d.row = some k) (known : itemOf p rows index earlier k = some id) :
    ∃ columns, d.write = .update id columns := by
  obtain ⟨data, found, agrees⟩ := lawful.at split
  rw [UpsertPlan.keyAt, found, Option.bind_some] at key
  rw [key, Option.bind_some, known] at agrees
  exact ⟨_, agrees⟩

theorem created?_key (created : d.created? p rows k = some id) :
    p.keyAt rows d.row = some k ∧ ∃ name columns, d.write = .create name columns := by
  unfold Deed.created? at created
  split at created
  · split at created
    · rename_i name columns _ _ _ same
      exact ⟨same, name, columns, by assumption⟩
    · cases created
  · cases created

theorem itemOf_mono (known : itemOf p rows index earlier k = some id) (later : List Deed) :
    itemOf p rows index (earlier ++ later) k = some id := by
  rw [itemOf, List.findSome?_append, ← Option.or_assoc, ← itemOf, known, Option.some_or]

theorem Lawful.created (lawful : Lawful p rows index log) (split : log = earlier ++ d :: later)
    (created : d.created? p rows k = some id) : itemOf p rows index (earlier ++ [d]) k = some id := by
  obtain ⟨key, name, columns, write⟩ := created?_key created
  cases known : itemOf p rows index earlier k with
  | none => rw [itemOf_snoc, known, created, Option.none_or]
  | some other =>
    obtain ⟨columns, updates⟩ := lawful.update split key known
    rw [write] at updates
    cases updates

theorem Lawful.after_created (lawful : Lawful p rows index log) (split : log = earlier ++ d :: later)
    (created : d.created? p rows k = some id) (member : e ∈ later) (key : p.keyAt rows e.row = some k) :
    ∃ columns, e.write = .update id columns := by
  obtain ⟨between, rest, rfl⟩ := List.append_of_mem member
  have split' : log = (earlier ++ [d] ++ between) ++ e :: rest := by simp [split]
  exact lawful.update split' key (itemOf_mono (lawful.created split created) between)

theorem Lawful.once (lawful : Lawful p rows index log) (k : String) :
    log.countP (fun d => (d.created? p rows k).isSome) ≤ 1 := by
  by_cases none : ∀ d ∈ log, (d.created? p rows k).isSome = false
  · rw [List.countP_eq_zero.mpr (by simpa using none)]
    exact Nat.zero_le _
  · -- split at the first creation: there is none before it and can be none after it
    simp only [not_forall] at none
    obtain ⟨first, member, found⟩ := none
    obtain ⟨d, earlier, later, split, made, before⟩ : ∃ d earlier later, log = earlier ++ d :: later ∧
        (d.created? p rows k).isSome = true ∧ ∀ e ∈ earlier, (e.created? p rows k).isSome = false := by
      obtain ⟨d, hit⟩ := Option.isSome_iff_exists.mp
        (List.find?_isSome.mpr ⟨first, member, eq_true_of_ne_false found⟩ :
          (log.find? fun d => (d.created? p rows k).isSome).isSome)
      obtain ⟨made, earlier, later, split, before⟩ := List.find?_eq_some_iff_append.mp hit
      exact ⟨d, earlier, later, split, made, fun e inside => by simpa using before e inside⟩
    obtain ⟨id, created⟩ := Option.isSome_iff_exists.mp made
    have after : ∀ e ∈ later, (e.created? p rows k).isSome = false := by
      intro e inside
      cases again : e.created? p rows k with
      | none => rfl
      | some other =>
        obtain ⟨key, name, columns, write⟩ := created?_key again
        obtain ⟨columns, updates⟩ := lawful.after_created split created inside key
        rw [write] at updates
        cases updates
    rw [split, List.countP_append, List.countP_cons, List.countP_eq_zero.mpr (by simpa using before),
      List.countP_eq_zero.mpr (by simpa using after)]
    simp [made]

end

-- Whatever the rows, the sizes of batches, the number of rows in progress, the snapshot, the answers and the
-- order of events: a key gets at most one new item, and none when the snapshot has one.
theorem reached_key_safe (p : UpsertPlan) (settings : UpsertSettings) (rows : List Row) (items : List Item)
    (reached : Course.Reached p settings.retryPolicy (max settings.concurrency 1)
      (.start settings rows (.ofItems items)) log c) (key : String) : KeySafe p rows items log c key := by
  have truthful : Truthful p rows (.ofItems items) (Course.start settings rows (.ofItems items)).traffic [] :=
    ⟨fun key => by simp [itemOf, Course.start, Traffic.start], by simp [Course.start, Traffic.start], .nil⟩
  obtain ⟨valid, truthful⟩ := reached_truthful reached (Course.start_valid settings rows _) truthful
  refine ⟨?_, truthful.lawful.once key, ?_, ?_⟩
  · intro item first d member same
    obtain ⟨earlier, later, split⟩ := List.append_of_mem member
    have known : itemOf p rows (.ofItems items) earlier key = some item.id := by
      rw [itemOf, ofItems_get?, first]; rfl
    exact truthful.lawful.update split same known
  · exact fun earlier d later id split created e member => truthful.lawful.after_created split created member
  · intro f first g second one two pastF pastG
    rw [UpsertPlan.keyAt, valid.data f first, Option.bind_some, ← valid.traffic.keyed f first] at one
    rw [UpsertPlan.keyAt, valid.data g second, Option.bind_some, ← valid.traffic.keyed g second] at two
    exact valid.traffic.exclusive first second one two pastF pastG

-- Two rows whose keys differ in case and spacing, both in progress: the second one waits for the first one
-- and updates the item that it has created.
namespace Twins

def plan : UpsertPlan := ⟨"contacts", .ofList [("email", "mail")], some ("email", "mail"), none⟩

def rows : List Row := [.ofList [("email", .text "Ann")], .ofList [("email", .text "ann ")]]

def settings : UpsertSettings := { UpsertSettings.standard with concurrency := 2 }

def origin : Course := .start settings rows (.ofItems [])

theorem twins_key_safe : ∃ log c, Course.Reached plan settings.retryPolicy (max settings.concurrency 1) origin log c ∧
    log.map (·.write.action) = [.create, .create, .update, .update] ∧ KeySafe plan rows [] log c "ann" := by
  have batch : Course.Reached plan settings.retryPolicy (max settings.concurrency 1) origin _ _ :=
    .step .start (.batch rfl rfl rfl)
  have first := batch.step (.row rfl (by decide) rfl rfl)
  have second := first.step (.row rfl (by decide) rfl rfl)
  have answered row : ∀ i data, Traffic.Event.answered row (.ok "7") ≠ .enter i data := by simp
  have proceeds row : ∀ i data, Traffic.Event.proceed row ≠ .enter i data := by simp
  have created := second.step (.event (answered 0) rfl)
  have woken := created.step (.event (proceeds 1) rfl)
  have reached := woken.step (.event (answered 1) rfl)
  exact ⟨_, _, reached, by decide, reached_key_safe plan settings rows [] reached "ann"⟩

end Twins
end TidyRows
