import TidyRows.Handler.Router
import TidyRows.Proofs.Upsert.Alike
import TidyRows.Proofs.Upsert.IdealBoard
namespace TidyRows

inductive Request where
  | fetch (boardId column : String) (limit : Nat)
  | write (boardId : String) (write : Write)

def Request.reads : Request → Bool
  | fetch _ _ _ => true
  | write _ _ => false

-- The board with a list of all calls to it, also of those that fail.
def Board.observed (board : Board σ) : Board (σ × List Request) where
  fetch now boardId column limit s :=
    let a := board.fetch now boardId column limit s.1
    ⟨a.answer, a.duration, a.clock, (a.after, s.2 ++ [.fetch boardId column limit])⟩
  write now boardId write s :=
    let a := board.write now boardId write s.1
    ⟨a.answer, a.duration, a.clock, (a.after, s.2 ++ [.write boardId write])⟩

def StopTime.observed (stopsAt : StopTime σ) : StopTime (σ × List Request) := fun s => stopsAt s.1

-- A target that lets a run look for keys: where the items are, and which of their columns holds the key.
structure WriteBack.Asks (w : WriteBack) (boardId column : String) : Prop where
  ready : w.ready = .ok ()
  board : w.boardId = some boardId
  key : ∃ mapping key, w.columnMapping = some mapping ∧ w.keyColumn = some key ∧ Text.allBlank key.toList = false ∧
    (w.keyColumnId = some column ∨ w.keyColumnId = none ∧ mapping.get? key = some column)

-- A target whose key column is known by name only.
def WriteBack.Unresolved (w : WriteBack) : Prop := ∃ mapping key, w.columnMapping = some mapping ∧
  w.keyColumn = some key ∧ Text.allBlank key.toList = false ∧ w.keyColumnId = none ∧ mapping.get? key = none

theorem external_ready_iff {w : WriteBack} (external : w.strategy = .externalUpsert) : w.ready = .ok () ↔
    ∃ boardId mapping, w.boardId = some boardId ∧ Text.allBlank boardId.toList = false ∧
      w.columnMapping = some mapping := by
  unfold WriteBack.ready WriteBack.missing
  rw [external]
  cases board : w.boardId with
  | none => simp
  | some boardId =>
    cases mapping : w.columnMapping with
    | none => simp
    | some mapping => cases blank : Text.allBlank boardId.toList <;> simp [blank]

namespace UpsertPlan

section
variable {w : WriteBack} {mapping : Keyed String}

theorem keyOf_error (fails : keyOf w mapping = .error fault) : (∃ c, fault = .configuration c) ∧
    ∀ key column, w.keyColumn = some key → Text.allBlank key.toList = false →
      ¬ (w.keyColumnId = some column ∨ w.keyColumnId = none ∧ mapping.get? key = some column) := by
  unfold keyOf at fails
  split at fails
  · cases fails
  · rename_i key named
    obtain ⟨named, _⟩ := Option.filter_eq_some_iff.mp named
    split at fails
    · cases fails
    · rename_i unknown
      cases fails
      obtain ⟨noId, notMapped⟩ := Option.or_eq_none_iff.mp unknown
      refine ⟨⟨_, rfl⟩, ?_⟩
      intro key' column named' _
      cases named.symm.trans named'
      simp [noId, notMapped]

theorem keyOf_ok {key : Option (String × String)} (found : keyOf w mapping = .ok key) :
    (∀ column, (∃ field, key = some (field, column)) ↔ ∃ field, w.keyColumn = some field ∧
      Text.allBlank field.toList = false ∧
      (w.keyColumnId = some column ∨ w.keyColumnId = none ∧ mapping.get? field = some column)) ∧
    ∀ field, w.keyColumn = some field → Text.allBlank field.toList = false →
      ¬ (w.keyColumnId = none ∧ mapping.get? field = none) := by
  unfold keyOf at found
  split at found
  · rename_i unnamed
    cases found
    have blank : ∀ field, w.keyColumn = some field → Text.allBlank field.toList = true := by
      simpa [Option.filter_eq_none_iff] using unnamed
    refine ⟨fun column => ⟨by simp, ?_⟩, ?_⟩
    · rintro ⟨field, named, visible, _⟩
      rw [blank field named] at visible
      cases visible
    · intro field named visible
      rw [blank field named] at visible
      cases visible
  · rename_i field named
    obtain ⟨named, visible⟩ := Option.filter_eq_some_iff.mp named
    split at found
    · rename_i column known
      cases found
      refine ⟨fun column' => ⟨?_, ?_⟩, ?_⟩
      · rintro ⟨field', same⟩
        cases same
        exact ⟨field, named, by simpa using visible, Option.or_eq_some_iff.mp known⟩
      · rintro ⟨field', named', _, known'⟩
        cases named.symm.trans named'
        cases known.symm.trans (Option.or_eq_some_iff.mpr known')
        exact ⟨field, rfl⟩
      · intro field' named' _
        cases named.symm.trans named'
        rintro ⟨noId, notMapped⟩
        simp [noId, notMapped] at known
    · cases found

end

-- What a target comes to, in the order in which it is looked at.
inductive Planning (w : WriteBack) : Except Fault UpsertPlan → Prop where
  | unready (unready : w.ready = .error fault) : Planning w (.error fault)
  | lacking (lacks : w.boardId = none ∨ w.columnMapping = none) : Planning w (.error (.configuration .noBoard))
  | unresolved (mapped : w.columnMapping = some m) (unknown : keyOf w m = .error fault) : Planning w (.error fault)
  | planned {b : String} {k : Option (String × String)} (ready : w.ready = .ok ()) (board : w.boardId = some b)
      (mapped : w.columnMapping = some m) (known : keyOf w m = .ok k) : Planning w (.ok ⟨b, m, k, w.itemNameField⟩)

theorem ofTarget_planning (w : WriteBack) : Planning w (ofTarget w) := by
  cases ready : w.ready with
  | error fault =>
    have unplanned : ofTarget w = .error fault := by rw [ofTarget, ready]; rfl
    rw [unplanned]
    exact .unready ready
  | ok _ =>
    cases board : w.boardId with
    | none =>
      have unplanned : ofTarget w = .error (.configuration .noBoard) := by rw [ofTarget, ready, board]; rfl
      rw [unplanned]
      exact .lacking (.inl board)
    | some boardId =>
      cases mapped : w.columnMapping with
      | none =>
        have unplanned : ofTarget w = .error (.configuration .noBoard) := by rw [ofTarget, ready, board, mapped]; rfl
        rw [unplanned]
        exact .lacking (.inr mapped)
      | some mapping =>
        cases key : keyOf w mapping with
        | error fault =>
          have unplanned : ofTarget w = .error fault := by
            simp only [ofTarget, ready, board, mapped, key]
            rfl
          rw [unplanned]
          exact .unresolved mapped key
        | ok known =>
          have planned : ofTarget w = .ok ⟨boardId, mapping, known, w.itemNameField⟩ := by
            simp only [ofTarget, ready, board, mapped, key]
            rfl
          rw [planned]
          exact .planned ready board mapped key

section
variable {w : WriteBack} {p : UpsertPlan}

theorem ofTarget_error (fails : ofTarget w = .error fault) :
    (∃ c, fault = .configuration c) ∧ ∀ boardId column, ¬ w.Asks boardId column := by
  have planning := ofTarget_planning w
  rw [fails] at planning
  cases planning with
  | unready unready =>
    refine ⟨?_, fun boardId column asks => ?_⟩
    · unfold WriteBack.ready at unready
      split at unready
      · cases unready
      · cases unready
        exact ⟨_, rfl⟩
    · cases unready.symm.trans asks.ready
  | lacking lacks =>
    refine ⟨⟨_, rfl⟩, fun boardId column asks => ?_⟩
    obtain ⟨mapping, _, mapped, _⟩ := asks.key
    rcases lacks with board | unmapped
    · cases board.symm.trans asks.board
    · cases unmapped.symm.trans mapped
  | unresolved mapped unknown =>
    obtain ⟨told, never⟩ := keyOf_error unknown
    refine ⟨told, fun boardId column asks => ?_⟩
    obtain ⟨mapping, field, has, named, visible, known⟩ := asks.key
    cases mapped.symm.trans has
    exact never field column named visible known

theorem ofTarget_ok (planned : ofTarget w = .ok p) : w.ready = .ok () ∧ w.boardId = some p.boardId ∧
    w.columnMapping = some p.mapping ∧ ¬ w.Unresolved ∧
    ∀ boardId column, w.Asks boardId column ↔ boardId = p.boardId ∧ ∃ field, p.key = some (field, column) := by
  have planning := ofTarget_planning w
  rw [planned] at planning
  cases planning with
  | planned ready board mapped known =>
    obtain ⟨keyed, resolved⟩ := keyOf_ok known
    refine ⟨ready, board, mapped, ?_, fun boardId' column => ⟨fun asks => ?_, ?_⟩⟩
    · rintro ⟨mapping, field, has, named, visible, unknown⟩
      cases mapped.symm.trans has
      exact resolved field named visible unknown
    · obtain ⟨mapping, field, has, named, visible, known⟩ := asks.key
      cases mapped.symm.trans has
      cases board.symm.trans asks.board
      exact ⟨rfl, (keyed column).mpr ⟨field, named, visible, known⟩⟩
    · rintro ⟨rfl, has⟩
      obtain ⟨field, named, visible, known⟩ := (keyed column).mp has
      exact ⟨ready, board, _, field, mapped, named, visible, known⟩

end
end UpsertPlan

-- The list has grown by writes to one board, and the rest is what the board itself has come to.
structure Seen (boardId : String) (log : List Request) (s : σ × List Request) (state : σ) : Prop where
  same : s.1 = state
  grown : ∃ writes : List Write, s.2 = log ++ writes.map (.write boardId)

section
variable {σ : Type} {board : Board σ} {stopsAt : StopTime σ} {settings : UpsertSettings} {p : UpsertPlan}

theorem observed_like (board : Board σ) (stopsAt : StopTime σ) (boardId : String) (log : List Request) :
    Board.Like (Seen boardId log) boardId board.observed board stopsAt.observed stopsAt := by
  refine ⟨?_, ?_⟩
  · rintro now write ⟨state, calls⟩ _ ⟨rfl, writes, grown⟩
    refine ⟨rfl, rfl, rfl, rfl, writes ++ [write], ?_⟩
    rw [List.map_append, ← List.append_assoc]
    exact congrArg (· ++ _) grown
  · rintro ⟨state, calls⟩ _ ⟨rfl, _⟩
    rfl

-- The fetch that a plan calls for.
def UpsertPlan.fetches (p : UpsertPlan) (limit : Nat) : List Request :=
  (p.key.map fun key => .fetch p.boardId key.2 limit).toList

theorem snapshot_observed (board : Board σ) (limit : Nat) (p : UpsertPlan) (now : Nat) (state : σ) :
    Upsert.snapshot board.observed limit p now (state, []) =
      ⟨(Upsert.snapshot board limit p now state).answer, (Upsert.snapshot board limit p now state).duration,
        (Upsert.snapshot board limit p now state).clock,
        ((Upsert.snapshot board limit p now state).after, p.fetches limit)⟩ := by
  unfold Upsert.snapshot UpsertPlan.fetches
  cases p.key with
  | none => rfl
  | some key => rfl

structure Upsert.Observed (boardId : String) (first : List Request) (policy : RetryPolicy) (plain : Ended σ)
    (e : Ended (σ × List Request)) : Prop where
  result : e.result = plain.result
  now : e.now = plain.now
  state : e.state.1 = plain.state
  calls : ∃ writes : List Write, e.state.2 = first ++ writes.map (.write boardId) ∧
    ∀ fault, plain.result = .error fault → (fault = .overflow → policy.attempts? = none) → writes = []

-- With a plan, a run asks for the items if there is a key, and then writes unless that has failed.
theorem run_observed (board : Board σ) (stopsAt : StopTime σ) (settings : UpsertSettings) (rows : List Row)
    (now : Nat) (state : σ) (planned : UpsertPlan.ofTarget target = .ok p) :
    Upsert.Observed p.boardId (p.fetches settings.itemLimit) settings.retryPolicy
      (Upsert.run board stopsAt settings target rows now state)
      (Upsert.run board.observed stopsAt.observed settings target rows now (state, [])) := by
  simp only [Upsert.run, planned, snapshot_observed]
  cases (Upsert.snapshot board settings.itemLimit p now state).answer with
  | error fault => exact ⟨rfl, rfl, rfl, [], (List.append_nil _).symm, fun _ _ _ => rfl⟩
  | ok index =>
    have origin (time : Nat) (after : σ) : Progress.Like (Seen p.boardId (p.fetches settings.itemLimit))
        ⟨index, time, (after, p.fetches settings.itemLimit)⟩ ⟨index, time, after⟩ :=
      ⟨rfl, rfl, rfl, [], (List.append_nil _).symm⟩
    obtain ⟨result, like⟩ := Upsert.allBatches_like settings (observed_like board stopsAt p.boardId _) true
      (batches (max settings.batchSize 1) (numbered rows)) .empty (origin _ _)
    obtain ⟨writes, grown⟩ := like.state.grown
    refine ⟨by dsimp only; rw [result], like.now, like.state.same, writes, grown, ?_⟩
    intro fault fails told
    obtain ⟨overflow, kept⟩ := Upsert.allBatches_fails (Prod.ext (result.trans fails) rfl)
    rw [kept (told overflow)] at grown
    simpa using grown

theorem run_unread (board : Board σ) (stopsAt : StopTime σ) (settings : UpsertSettings) (rows : List Row)
    (planned : UpsertPlan.ofTarget target = .ok p) (key : p.key = some (field, column))
    (fails : (board.fetch now p.boardId column settings.itemLimit state).answer = .error fault) :
    (Upsert.run board stopsAt settings target rows now state).result = .error (.board fault) := by
  simp [Upsert.run, planned, Upsert.snapshot, key, fails, Except.map]

theorem run_unplanned (board : Board σ) (stopsAt : StopTime σ) (settings : UpsertSettings) (rows : List Row)
    (now : Nat) (state : σ) (fails : UpsertPlan.ofTarget target = .error fault) :
    Upsert.run board stopsAt settings target rows now state = ⟨.error fault, now, state⟩ := by
  rw [Upsert.run, fails]

structure SnapshotFirst (board : Board σ) (stopsAt : StopTime σ) (settings : UpsertSettings) (target : WriteBack)
    (rows : List Row) (now : Nat) (state : σ) (e : Upsert.Ended (σ × List Request)) : Prop where
  sameResult : e.result = (Upsert.run board stopsAt settings target rows now state).result
  sameTime : e.now = (Upsert.run board stopsAt settings target rows now state).now
  sameState : e.state.1 = (Upsert.run board stopsAt settings target rows now state).state
  -- the items are asked for once at most, and by the first call
  once : e.state.2.countP (·.reads) ≤ 1
  first : ∀ earlier request later, e.state.2 = earlier ++ request :: later → request.reads = true → earlier = []
  asked : ∀ boardId column limit, .fetch boardId column limit ∈ e.state.2 ↔
    target.Asks boardId column ∧ limit = settings.itemLimit
  placed : target.strategy = .externalUpsert → (target.ready = .ok () ↔ ∃ boardId mapping,
    target.boardId = some boardId ∧ Text.allBlank boardId.toList = false ∧ target.columnMapping = some mapping)
  -- a target without a plan is told so, and the board is not called
  unplanned : target.ready ≠ .ok () ∨ target.boardId = none ∨ target.columnMapping = none ∨ target.Unresolved →
    ∃ c, e.result = .error (.configuration c) ∧ e.state.2 = []
  -- a fetch that fails is the only call
  failed : ∀ boardId column fault, target.Asks boardId column →
    (board.fetch now boardId column settings.itemLimit state).answer = .error fault →
    e.result = .error (.board fault) ∧ e.state.2 = [.fetch boardId column settings.itemLimit]
  -- no error comes behind a write, but an overflow of a wait for another attempt
  unwritten : ∀ fault, e.result = .error fault → (fault = .overflow → settings.retryPolicy.attempts? = none) →
    ∀ request ∈ e.state.2, request.reads = true
  -- a handler that fails keeps its last result
  kept : ∀ fault last, e.result = .error fault →
    (Handler.upsert board stopsAt settings ⟨rows, target⟩ ⟨state, now, last⟩).2.last = last ∧
      (target.strategy = .externalUpsert →
        (Handler.upsert board stopsAt settings ⟨rows, target⟩ ⟨state, now, last⟩).1 = .error fault)

theorem upsert_keeps (board : Board σ) (stopsAt : StopTime σ) (settings : UpsertSettings) (target : WriteBack)
    (rows : List Row) (now : Nat) (state : σ) (fault : Fault) (last : Option UpsertResult)
    (fails : (Upsert.run board stopsAt settings target rows now state).result = .error fault) :
    (Handler.upsert board stopsAt settings ⟨rows, target⟩ ⟨state, now, last⟩).2.last = last ∧
      (target.strategy = .externalUpsert →
        (Handler.upsert board stopsAt settings ⟨rows, target⟩ ⟨state, now, last⟩).1 = .error fault) := by
  unfold Handler.upsert
  dsimp only
  cases target.strategy with
  | csvExport => exact ⟨rfl, nofun⟩
  | externalUpsert =>
    rw [fails]
    exact ⟨rfl, fun _ => rfl⟩

theorem mem_fetches (writes : List Write) :
    .fetch boardId column limit' ∈ p.fetches limit ++ writes.map (Request.write p.boardId) ↔
      (boardId = p.boardId ∧ ∃ field, p.key = some (field, column)) ∧ limit' = limit := by
  unfold UpsertPlan.fetches
  cases p.key with
  | none => simp
  | some key =>
    obtain ⟨field, column'⟩ := key
    simp [and_assoc, eq_comm]

theorem fetches_reads (p : UpsertPlan) (limit : Nat) :
    (∀ request ∈ p.fetches limit, request.reads = true) ∧ (p.fetches limit).length ≤ 1 := by
  unfold UpsertPlan.fetches
  cases p.key with
  | none => simp
  | some key => simp [Request.reads]

theorem writes_read_nothing (writes : List Write) (id : String) :
    ∀ request ∈ writes.map (Request.write id), request.reads = false := by
  intro request member
  obtain ⟨write, _, rfl⟩ := List.mem_map.mp member
  rfl

-- Of such a list only the first call can be a fetch.
theorem first_of_calls {fetches writes earlier later : List Request} (short : fetches.length ≤ 1)
    (write : ∀ request ∈ writes, request.reads = false) (split : fetches ++ writes = earlier ++ request :: later)
    (reads : request.reads = true) : earlier = [] := by
  cases fetches with
  | nil =>
    have member : request ∈ writes := by
      rw [List.nil_append] at split
      simp [split]
    rw [write request member] at reads
    cases reads
  | cons first rest =>
    have rest : rest = [] := List.eq_nil_of_length_eq_zero (by simpa using short)
    subst rest
    cases earlier with
    | nil => rfl
    | cons other earlier =>
      have after : writes = earlier ++ request :: later := (List.cons.inj split).2
      have member : request ∈ writes := by simp [after]
      rw [write request member] at reads
      cases reads

-- Whatever the target, the board and the end of a run are, a run does not write without having looked.
theorem snapshot_first (board : Board σ) (stopsAt : StopTime σ) (settings : UpsertSettings) (target : WriteBack)
    (rows : List Row) (now : Nat) (state : σ) : SnapshotFirst board stopsAt settings target rows now state
      (Upsert.run board.observed stopsAt.observed settings target rows now (state, [])) := by
  have kept := upsert_keeps board stopsAt settings target rows now state
  cases plan : UpsertPlan.ofTarget target with
  | error fault =>
    obtain ⟨⟨c, rfl⟩, never⟩ := UpsertPlan.ofTarget_error plan
    have plain := run_unplanned board stopsAt settings rows now state plan
    rw [run_unplanned board.observed stopsAt.observed settings rows now (state, []) plan]
    rw [plain] at kept
    refine ⟨by rw [plain], by rw [plain], by rw [plain], by simp, by simp, ?_, external_ready_iff, ?_, ?_, by simp,
      kept⟩
    · simp [never]
    · exact fun _ => ⟨c, rfl, rfl⟩
    · intro boardId column fault asks
      exact absurd asks (never boardId column)
  | ok p =>
    obtain ⟨ready, placed, mapped, resolved, asks⟩ := UpsertPlan.ofTarget_ok plan
    obtain ⟨result, time, after, writes, calls, failed⟩ := run_observed board stopsAt settings rows now state plan
    obtain ⟨reads, short⟩ := fetches_reads p settings.itemLimit
    have others := writes_read_nothing writes p.boardId
    refine ⟨result, time, after, ?_, ?_, ?_, external_ready_iff, ?_, ?_, ?_, ?_⟩
    · have none : (writes.map (Request.write p.boardId)).countP (·.reads) = 0 :=
        List.countP_eq_zero.mpr (by simpa using others)
      rw [calls, List.countP_append, none]
      exact Nat.le_trans List.countP_le_length short
    · intro earlier request later split
      exact first_of_calls short others (calls ▸ split)
    · intro boardId column limit
      rw [calls, mem_fetches, asks]
    · rintro (unready | unplaced | unmapped | unresolved)
      · exact absurd ready unready
      · cases placed.symm.trans unplaced
      · cases mapped.symm.trans unmapped
      · exact absurd unresolved resolved
    · intro boardId column fault asked fails
      obtain ⟨rfl, field, key⟩ := (asks boardId column).mp asked
      have unread := run_unread board stopsAt settings rows plan key fails
      refine ⟨result.trans unread, ?_⟩
      rw [calls, failed _ unread nofun, UpsertPlan.fetches, key]
      rfl
    · intro fault fails told request member
      rw [calls, failed fault (result ▸ fails) told, List.map_nil, List.append_nil] at member
      exact reads request member
    · intro fault last fails
      exact kept fault last (result ▸ fails)

end
end TidyRows
