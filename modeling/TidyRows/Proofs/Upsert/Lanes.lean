import TidyRows.Proofs.Retry
import TidyRows.Proofs.Upsert.KeySafety
import TidyRows.Proofs.Upsert.Served
namespace TidyRows

inductive Lane where
  | key (key : String)
  | alone (row : Nat)
  deriving DecidableEq

namespace Lane

def known (index : KeyIndex) : Lane → Option String
  | key k => index.get? k
  | alone _ => none

-- A created item belongs to its key from then on. A row without a key has none to give it to.
def remember : Lane → Option String → Write → Except BoardFault String → Option String
  | key _, _, .create _ _, .ok id => some id
  | _, item, _, _ => item

end Lane

-- A write, and what has become of it, with no more of an id than `face` shows.
def Write.shown (face : String → String) : Write → Write
  | create name columns => .create name columns
  | update id columns => .update (face id) columns

def RowOutcome.shown (face : String → String) (o : RowOutcome) : RowOutcome := { o with answer := o.answer.map face }

-- Rows of a run, and answers that depend on the lane, on its earlier calls, and on the write that is sent. Of the
-- ids they depend on what `face` shows; with the identity that is all of them.
structure Lanes where
  plan : UpsertPlan
  policy : RetryPolicy
  rows : List Row
  face : String → String
  reply : Lane → List Write → Write → Except BoardFault String

structure LaneState where
  item : Option String
  sent : List Write
  ended : List RowOutcome

def LaneState.finish (st : LaneState) (lane : Lane) (row : Nat) (write : Write)
    (a : Attempted String (List Write)) : LaneState :=
  ⟨lane.remember st.item write a.answer, a.after, st.ended ++ [⟨row, write.action, a.answer, a.attempts⟩]⟩

namespace Lanes
variable (l : Lanes)

def of (i : Nat) : Lane :=
  match l.plan.keyAt l.rows i with
  | some key => .key key
  | none => .alone i

def calls (lane : Lane) (log : List Deed) : List Deed := log.filter fun d => d.answer.isNone && l.of d.row == lane

def sent (lane : Lane) (log : List Deed) : List Write := (l.calls lane log).map (·.write.shown l.face)

-- The answers of the board are as the lanes say, whenever a course comes to a call.
def Govern (board : Board σ) (origin : Course) (before : σ) : Prop :=
  ∀ room log due state row write c, Served board l.plan.boardId before log due state →
    Course.Reached l.plan l.policy room origin (log ++ [⟨row, write, none⟩]) c → ∀ now,
    (board.write now l.plan.boardId write state).answer.map l.face =
      l.reply (l.of row) (l.sent (l.of row) log) (write.shown l.face)

-- The rows of a lane, taken one after the other with nothing else going on.
def ask (lane : Lane) (write : Write) (_ : Nat) (sent : List Write) : Answered String (List Write) :=
  ⟨l.reply lane sent write, 0, 0, sent ++ [write]⟩

def next (lane : Lane) (st : LaneState) (row : Nat × Row) : LaneState :=
  st.finish lane row.1 (l.plan.writeOf row.2 st.item)
    (l.policy.tries (l.ask lane (l.plan.writeOf row.2 st.item)) 0 st.sent)

def part (lane : Lane) (rows : List (Nat × Row)) : List (Nat × Row) := rows.filter (l.of ·.1 == lane)

def final (lane : Lane) (index : KeyIndex) : LaneState :=
  (l.part lane (numbered l.rows)).foldl (l.next lane) ⟨(lane.known index).map l.face, [], []⟩

-- How far the first of the rows in progress is with its calls, what has been sent until now, and what the lane comes to
-- with this row; the others have to wait.
inductive Going (lane : Lane) (st : LaneState) (due : Due) :
    List Flight → List Write → LaneState → List Flight → Prop where
  | idle : Going lane st due flights st.sent st flights
  | calling (earlier : List Write) (phase : f.phase = .calling write attempt)
      (right : write.shown l.face = l.plan.writeOf f.data st.item)
      (count : attempt.toNat + left = l.policy.maxRetries.toNat + 1) (given : due f.row = some answer)
      (told : answer.map l.face = l.reply lane earlier (write.shown l.face)) (now : Nat) :
      Going lane st due (f :: others) (earlier ++ [write.shown l.face])
        (st.finish lane f.row (write.shown l.face)
          (l.policy.runFrom (l.ask lane (write.shown l.face)) left attempt now earlier)) others
  | pausing (phase : f.phase = .pausing write attempt) (right : write.shown l.face = l.plan.writeOf f.data st.item)
      (count : (attempt + 1).toNat + left = l.policy.maxRetries.toNat + 1) (now : Nat) :
      Going lane st due (f :: others) past
        (st.finish lane f.row (write.shown l.face)
          (l.policy.runFrom (l.ask lane (write.shown l.face)) left (attempt + 1) now past)) others

-- A lane on its way to its final state: its rows in progress, its calls so far, the item of its key, the answers
-- that are due, what has become of rows, and the rows that are still to come.
def Standing (lane : Lane) (final : LaneState) (flights : List Flight) (sent : List Write) (known : Option String)
    (due : Due) (ended : List RowOutcome) (ahead : List (Nat × Row)) : Prop :=
  ∃ st next waiting, l.Going lane st due flights sent next waiting ∧ (∀ f ∈ waiting, f.phase = .queued) ∧
    known.map l.face = st.item ∧ (∀ o ∈ ended, l.of o.row = lane → o.shown l.face ∈ st.ended) ∧
    (waiting.map (fun f => (f.row, f.data)) ++ ahead).foldl (l.next lane) next = final

end Lanes

theorem UpsertPlan.writeOf_shown (p : UpsertPlan) (data : Row) (known : Option String) (face : String → String) :
    (p.writeOf data known).shown face = p.writeOf data (known.map face) := by
  cases known <;> rfl

@[simp] theorem Write.shown_action (write : Write) (face : String → String) :
    (write.shown face).action = write.action := by
  cases write <;> rfl

namespace Lanes
section
variable {l : Lanes} {lane : Lane} {final : LaneState} {f : Flight} {flights others : List Flight} {sent : List Write}
  {known : Option String} {due : Due} {ended : List RowOutcome} {ahead : List (Nat × Row)} {write : Write}
  {attempt : UInt32} {answer : Except BoardFault String}

theorem Standing.joins (standing : l.Standing lane final flights sent known due ended ((f.row, f.data) :: ahead))
    (queued : f.phase = .queued) : l.Standing lane final (flights ++ [f]) sent known due ended ahead := by
  obtain ⟨st, next, waiting, going, waits, item, told, all⟩ := standing
  refine ⟨st, next, waiting ++ [f], ?_, ?_, item, told, by simpa using all⟩
  · cases going with
    | idle => exact .idle
    | calling earlier phase right count given told now => exact .calling earlier phase right count given told now
    | pausing phase right count now => exact .pausing phase right count now
  · intro g member
    rcases List.mem_append.mp member with old | new
    · exact waits g old
    · rw [List.mem_singleton.mp new]
      exact queued

theorem Standing.calls (standing : l.Standing lane final (f :: others) sent known due ended ahead)
    (queued : f.phase = .queued) (given : due' f.row = some answer)
    (told : answer.map l.face = l.reply lane sent ((l.plan.writeOf f.data known).shown l.face)) :
    l.Standing lane final ({ f with phase := .calling (l.plan.writeOf f.data known) 1 } :: others)
      (sent ++ [(l.plan.writeOf f.data known).shown l.face]) known due' ended ahead := by
  obtain ⟨st, next, waiting, going, waits, item, ends, all⟩ := standing
  cases going with
  | idle =>
    have right : (l.plan.writeOf f.data known).shown l.face = l.plan.writeOf f.data st.item := by
      rw [UpsertPlan.writeOf_shown, item]
    have count : (1 : UInt32).toNat + l.policy.maxRetries.toNat = l.policy.maxRetries.toNat + 1 := Nat.add_comm _ _
    refine ⟨st, _, others, .calling (f := { f with phase := _ }) st.sent rfl right count given told 0,
      fun g member => waits g (.tail _ member), item, ends, ?_⟩
    rw [List.map_cons, List.cons_append, List.foldl_cons, Lanes.next, ← right] at all
    exact all
  | calling _ phase => cases queued.symm.trans phase
  | pausing phase => cases queued.symm.trans phase

theorem ask_error (earlier : List Write) (now : Nat) (told : answer.map l.face = l.reply lane earlier write) :
    (l.ask lane write now earlier).answer = .error fault ↔ answer = .error fault := by
  rw [ask, ← told]
  cases answer <;> simp [Except.map]

theorem Standing.fails (standing : l.Standing lane final (f :: others) sent known due ended ahead)
    (calling : f.phase = .calling write attempt) (given : due f.row = some (.error fault))
    (again : l.policy.again fault attempt = true) :
    l.Standing lane final ({ f with phase := .pausing write attempt } :: others) sent known due ended ahead := by
  obtain ⟨st, next, waiting, going, waits, item, ends, all⟩ := standing
  cases going with
  | idle => cases calling.symm.trans (waits f (.head _))
  | pausing phase => cases calling.symm.trans phase
  | calling earlier phase right count given' told now =>
    cases calling.symm.trans phase
    cases given.symm.trans given'
    rcases RetryPolicy.runFrom_cases (l.ask lane (write.shown l.face)) now earlier count with
      ⟨last, _⟩ | ⟨fault', left', answered, again', rfl, goes⟩
    · have spent := last fault ((ask_error earlier now told).mpr rfl)
      rw [again] at spent
      cases spent
    · cases (ask_error earlier now told).mp answered
      have more := (RetryPolicy.leaves_counted (RetryPolicy.leaves_again again)).2
      have count' : (attempt + 1).toNat + left' = l.policy.maxRetries.toNat + 1 := by omega
      rw [goes] at all
      exact ⟨st, _, others, .pausing (f := { f with phase := _ }) rfl right count' _, waits, item, ends, all⟩

theorem Standing.resumes (standing : l.Standing lane final (f :: others) sent known due ended ahead)
    (pausing : f.phase = .pausing write attempt) (given : due' f.row = some answer)
    (told : answer.map l.face = l.reply lane sent (write.shown l.face)) :
    l.Standing lane final ({ f with phase := .calling write (attempt + 1) } :: others)
      (sent ++ [write.shown l.face]) known due' ended ahead := by
  obtain ⟨st, next, waiting, going, waits, item, ends, all⟩ := standing
  cases going with
  | idle => cases pausing.symm.trans (waits f (.head _))
  | calling _ phase => cases pausing.symm.trans phase
  | pausing phase right count now =>
    cases pausing.symm.trans phase
    exact ⟨st, _, others, .calling (f := { f with phase := _ }) sent rfl right count given told now, waits, item, ends,
      all⟩

theorem Standing.finishes (standing : l.Standing lane final (f :: others) sent known due ended ahead)
    (calling : f.phase = .calling write attempt) (given : due f.row = some answer)
    (last : ∀ fault, answer = .error fault → l.policy.again fault attempt = false)
    (remembered : known'.map l.face = lane.remember (known.map l.face) (write.shown l.face) (answer.map l.face)) :
    l.Standing lane final others sent known' due (ended ++ [⟨f.row, write.action, answer, attempt⟩]) ahead := by
  obtain ⟨st, next, waiting, going, waits, item, ends, all⟩ := standing
  cases going with
  | idle => cases calling.symm.trans (waits f (.head _))
  | pausing phase => cases calling.symm.trans phase
  | calling earlier phase right count given' told now =>
    cases calling.symm.trans phase
    cases given.symm.trans given'
    rcases RetryPolicy.runFrom_cases (l.ask lane (write.shown l.face)) now earlier count with
      ⟨_, goes⟩ | ⟨fault, left', answered, again, _⟩
    · let a : Attempted String (List Write) := ⟨answer.map l.face, attempt, now, earlier ++ [write.shown l.face]⟩
      have ended : _ = a := goes.trans (by rw [ask, ← told]; rfl)
      have idle : l.Going lane (st.finish lane f.row (write.shown l.face) a) due others
        (earlier ++ [write.shown l.face]) _ others := .idle
      rw [ended] at all
      refine ⟨_, _, others, idle, waits, ?_, ?_, all⟩
      · rw [remembered, item]
        rfl
      · intro o member own
        rcases List.mem_append.mp member with old | new
        · exact List.mem_append_left _ (ends o old own)
        · rw [List.mem_singleton.mp new, LaneState.finish, Write.shown_action]
          exact List.mem_append_right _ (List.mem_singleton.mpr rfl)
    · have spent := last fault ((ask_error earlier now told).mp answered)
      rw [again] at spent
      cases spent

theorem Standing.elsewhere (standing : l.Standing lane final flights sent known due ended ahead)
    (same : ∀ f ∈ flights, due' f.row = due f.row) (fewer : ∀ o ∈ ended', l.of o.row = lane → o ∈ ended) :
    l.Standing lane final flights sent known due' ended' ahead := by
  obtain ⟨st, next, waiting, going, waits, item, ends, all⟩ := standing
  refine ⟨st, next, waiting, ?_, waits, item, fun o member own => ends o (fewer o member own) own, all⟩
  cases going with
  | idle => exact .idle
  | calling earlier phase right count given told now =>
    exact .calling earlier phase right count ((same _ (.head _)).trans given) told now
  | pausing phase right count now => exact .pausing phase right count now

end
end Lanes
end TidyRows
