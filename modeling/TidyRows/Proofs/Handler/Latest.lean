import TidyRows.Proofs.Upsert.Snapshot
namespace TidyRows
namespace Handler

structure Handled (σ : Type) where
  call : WriteCall
  before : σ
  answer : Except Fault Unit

def handled (h : Handler σ) : List WriteCall → σ → List (Handled σ)
  | [], _ => []
  | call :: rest, s => ⟨call, s, (h call s).1⟩ :: h.handled rest (h call s).2

def after (h : Handler σ) : List WriteCall → σ → σ
  | [], s => s
  | call :: rest, s => h.after rest (h call s).2

def Handled.took (strategy : WriteStrategy) (t : Handled σ) : Bool :=
  t.call.target.strategy == strategy && t.answer.isOk

def latest (strategy : WriteStrategy) (log : List (Handled σ)) : Option (Handled σ) :=
  (log.filter (·.took strategy)).getLast?

-- Part of a handler's state that is made anew by the calls for one strategy, if they do not fail, and by no others.
def Makes (h : Handler σ) (strategy : WriteStrategy) (view : σ → Option β) (made : WriteCall → σ → Option β) : Prop :=
  ∀ call s, view (h call s).2 =
    if (⟨call, s, (h call s).1⟩ : Handled σ).took strategy then made call s else view s

section
variable {h : Handler σ} {strategy : WriteStrategy} {view : σ → Option β} {made : WriteCall → σ → Option β}
  {t : Handled σ} {log : List (Handled σ)}

theorem latest_cons (t : Handled σ) (log : List (Handled σ)) : latest strategy (t :: log) =
    (latest strategy log).or (if t.took strategy then some t else none) := by
  unfold latest
  by_cases took : t.took strategy
  · rw [List.filter_cons_of_pos took, List.getLast?_cons, if_pos took]
    cases (log.filter (·.took strategy)).getLast? <;> rfl
  · rw [List.filter_cons_of_neg took, if_neg took, Option.or_none]

theorem latest_took (found : latest strategy log = some t) : t ∈ log ∧ t.call.target.strategy = strategy ∧
    t.answer = .ok () := by
  obtain ⟨member, took⟩ := List.mem_filter.mp (List.mem_of_getLast? found)
  obtain ⟨same, fine⟩ := Bool.and_eq_true_iff.mp took
  refine ⟨member, eq_of_beq same, ?_⟩
  cases answer : t.answer with
  | ok _ => rfl
  | error _ => rw [answer] at fine; cases fine

theorem handled_answer {calls : List WriteCall} {s : σ} (member : t ∈ h.handled calls s) :
    t.answer = (h t.call t.before).1 := by
  induction calls generalizing s with
  | nil => cases member
  | cons call rest ih =>
    rcases List.mem_cons.mp member with rfl | later
    · rfl
    · exact ih later

-- The run: what one call does with a part of the state, and all calls before the last that made it are forgotten.
theorem Makes.after (makes : h.Makes strategy view made) (calls : List WriteCall) (s : σ) : view (h.after calls s) =
    (latest strategy (h.handled calls s)).elim (view s) fun t => made t.call t.before := by
  induction calls generalizing s with
  | nil => rfl
  | cons call rest ih =>
    rw [Handler.after, handled, latest_cons, ih]
    cases latest strategy (h.handled rest (h call s).2) with
    | some t => rfl
    | none =>
      rw [Option.elim_none, Option.none_or, makes call s]
      split <;> rfl

end
end Handler

-- A handler for exports, one for a board, or the choice between those of them that there are.
inductive Desk where
  | exporter
  | upserter
  | router (exports upserts : Bool)

namespace Desk
open Handler (BoardWork Handled latest)

def handler (board : Board σ) (stopsAt : StopTime σ) (settings : UpsertSettings) :
    Desk → Handler (Option String × BoardWork σ)
  | exporter => Handler.csvExport.onFirst
  | upserter => (Handler.upsert board stopsAt settings).onSecond
  | router exports upserts => (Router.mk (if exports then some Handler.csvExport.onFirst else none)
      (if upserts then some (Handler.upsert board stopsAt settings).onSecond else none)).write

def serves : Desk → WriteStrategy → Bool
  | exporter, .csvExport => true
  | exporter, .externalUpsert => false
  | upserter, .csvExport => false
  | upserter, .externalUpsert => true
  | router exports _, .csvExport => exports
  | router _ upserts, .externalUpsert => upserts

-- What a call for a board comes to there.
def attempt (board : Board σ) (stopsAt : StopTime σ) (settings : UpsertSettings) (call : WriteCall)
    (work : BoardWork σ) : Upsert.Ended σ :=
  Upsert.run board stopsAt settings call.target call.rows work.now work.state

def part (board : Board σ) (stopsAt : StopTime σ) (settings : UpsertSettings) :
    WriteStrategy → Handler (Option String × BoardWork σ)
  | .csvExport => Handler.csvExport.onFirst
  | .externalUpsert => (Handler.upsert board stopsAt settings).onSecond

inductive Handles (board : Board σ) (stopsAt : StopTime σ) (settings : UpsertSettings) (desk : Desk) (call : WriteCall)
    (s : Option String × BoardWork σ) : Except Fault Unit → Option String × BoardWork σ → Prop where
  | exported (strategy : call.target.strategy = .csvExport) (served : desk.serves .csvExport = true) :
      Handles board stopsAt settings desk call s (.ok ()) (some (Csv.ofRows call.rows), s.2)
  | upserted (strategy : call.target.strategy = .externalUpsert) (served : desk.serves .externalUpsert = true)
      (ran : (attempt board stopsAt settings call s.2).result = .ok result) :
      Handles board stopsAt settings desk call s (.ok ()) (s.1, ⟨(attempt board stopsAt settings call s.2).state,
        (attempt board stopsAt settings call s.2).now, some result⟩)
  | failed (strategy : call.target.strategy = .externalUpsert) (served : desk.serves .externalUpsert = true)
      (ran : (attempt board stopsAt settings call s.2).result = .error fault) :
      Handles board stopsAt settings desk call s (.error fault) (s.1, ⟨(attempt board stopsAt settings call s.2).state,
        (attempt board stopsAt settings call s.2).now, s.2.last⟩)
  | refused (unserved : desk.serves call.target.strategy = false) :
      Handles board stopsAt settings desk call s (.error (.unsupportedStrategy call.target.strategy.name)) s

section
variable (board : Board σ) (stopsAt : StopTime σ) (settings : UpsertSettings) {desk : Desk} {call : WriteCall}
  (s : Option String × BoardWork σ)

theorem handler_served (served : desk.serves call.target.strategy = true) :
    desk.handler board stopsAt settings call s = part board stopsAt settings call.target.strategy call s := by
  cases strategy : call.target.strategy <;> rw [strategy] at served <;> cases desk
  all_goals simp_all [serves, handler, part, Router.write]

theorem handler_unserved (unserved : desk.serves call.target.strategy = false) :
    desk.handler board stopsAt settings call s =
      (.error (.unsupportedStrategy call.target.strategy.name), s) := by
  cases strategy : call.target.strategy <;> rw [strategy] at unserved <;> cases desk
  all_goals simp_all [serves, handler, Handler.onFirst, Handler.onSecond, Handler.csvExport, Handler.upsert,
    Handler.refuse, Router.write]

theorem handler_handles (desk : Desk) (call : WriteCall) : Handles board stopsAt settings desk call s
    (desk.handler board stopsAt settings call s).1 (desk.handler board stopsAt settings call s).2 := by
  cases served : desk.serves call.target.strategy with
  | false =>
    rw [handler_unserved board stopsAt settings s served]
    exact .refused served
  | true =>
    rw [handler_served board stopsAt settings s served]
    cases strategy : call.target.strategy with
    | csvExport =>
      have exported : part board stopsAt settings .csvExport call s = (.ok (), (some (Csv.ofRows call.rows), s.2)) := by
        simp only [part, Handler.onFirst, Handler.csvExport, strategy]
      rw [exported]
      exact .exported strategy (strategy ▸ served)
    | externalUpsert =>
      cases ran : (attempt board stopsAt settings call s.2).result with
      | ok result =>
        have upserted : part board stopsAt settings .externalUpsert call s = (.ok (), (s.1,
            ⟨(attempt board stopsAt settings call s.2).state, (attempt board stopsAt settings call s.2).now,
              some result⟩)) := by
          unfold attempt at ran ⊢
          simp only [part, Handler.onSecond, Handler.upsert, strategy, ran]
        rw [upserted]
        exact .upserted strategy (strategy ▸ served) ran
      | error fault =>
        have failed : part board stopsAt settings .externalUpsert call s = (.error fault, (s.1,
            ⟨(attempt board stopsAt settings call s.2).state, (attempt board stopsAt settings call s.2).now,
              s.2.last⟩)) := by
          unfold attempt at ran ⊢
          simp only [part, Handler.onSecond, Handler.upsert, strategy, ran]
        rw [failed]
        exact .failed strategy (strategy ▸ served) ran

end

namespace Handles
variable {board : Board σ} {stopsAt : StopTime σ} {settings : UpsertSettings} {desk : Desk} {call : WriteCall}
  {s s' : Option String × BoardWork σ} {answer : Except Fault Unit}

theorem output (done : Handles board stopsAt settings desk call s answer s') : s'.1 =
    if (⟨call, s, answer⟩ : Handled _).took .csvExport then some (Csv.ofRows call.rows) else s.1 := by
  cases done with
  | exported strategy => simp [Handled.took, strategy, Except.isOk, Except.toBool]
  | upserted strategy => simp [Handled.took, strategy]
  | failed => simp [Handled.took, Except.isOk, Except.toBool]
  | refused => simp [Handled.took, Except.isOk, Except.toBool]

theorem last (done : Handles board stopsAt settings desk call s answer s') : s'.2.last =
    if (⟨call, s, answer⟩ : Handled _).took .externalUpsert then
      (attempt board stopsAt settings call s.2).result.toOption
    else s.2.last := by
  cases done with
  | exported strategy => simp [Handled.took, strategy]
  | upserted strategy _ ran => simp [Handled.took, strategy, ran, Except.isOk, Except.toBool, Except.toOption]
  | failed => simp [Handled.took, Except.isOk, Except.toBool]
  | refused => simp [Handled.took, Except.isOk, Except.toBool]

theorem unchanged (done : Handles board stopsAt settings desk call s (.error fault) s') :
    s'.1 = s.1 ∧ s'.2.last = s.2.last := by
  cases done with
  | failed => exact ⟨rfl, rfl⟩
  | refused => exact ⟨rfl, rfl⟩

theorem ran (done : Handles board stopsAt settings desk call s (.ok ()) s')
    (strategy : call.target.strategy = .externalUpsert) :
    ∃ result, (attempt board stopsAt settings call s.2).result = .ok result := by
  cases done with
  | exported other => cases strategy.symm.trans other
  | upserted _ _ ran => exact ⟨_, ran⟩

theorem work (done : Handles board stopsAt settings desk call s answer s')
    (strategy : call.target.strategy = .csvExport) : s'.2 = s.2 := by
  cases done with
  | upserted other => cases strategy.symm.trans other
  | failed other => cases strategy.symm.trans other
  | _ => rfl

theorem text (done : Handles board stopsAt settings desk call s answer s')
    (strategy : call.target.strategy = .externalUpsert) : s'.1 = s.1 := by
  cases done with
  | exported other => cases strategy.symm.trans other
  | _ => rfl

theorem exports (done : Handles board stopsAt settings desk call s answer s')
    (strategy : call.target.strategy = .csvExport) (served : desk.serves .csvExport = true) : answer = .ok () := by
  cases done with
  | exported => rfl
  | upserted => rfl
  | failed other => cases strategy.symm.trans other
  | refused unserved =>
    rw [strategy, served] at unserved
    cases unserved

theorem upserts (done : Handles board stopsAt settings desk call s answer s')
    (strategy : call.target.strategy = .externalUpsert) (served : desk.serves .externalUpsert = true) :
    answer = (attempt board stopsAt settings call s.2).result.map fun _ => () := by
  cases done with
  | exported other => cases strategy.symm.trans other
  | upserted _ _ ran => rw [ran]; rfl
  | failed _ _ ran => rw [ran]; rfl
  | refused unserved =>
    rw [strategy, served] at unserved
    cases unserved

end Handles

theorem handler_makes_text (board : Board σ) (stopsAt : StopTime σ) (settings : UpsertSettings) (desk : Desk) :
    (desk.handler board stopsAt settings).Makes .csvExport (·.1) fun call _ => some (Csv.ofRows call.rows) :=
  fun call s => (handler_handles board stopsAt settings s desk call).output

theorem handler_makes_last (board : Board σ) (stopsAt : StopTime σ) (settings : UpsertSettings) (desk : Desk) :
    (desk.handler board stopsAt settings).Makes .externalUpsert (·.2.last)
      fun call s => (attempt board stopsAt settings call s.2).result.toOption :=
  fun call s => (handler_handles board stopsAt settings s desk call).last

structure KeepsLatest (board : Board σ) (stopsAt : StopTime σ) (settings : UpsertSettings) (desk : Desk)
    (log : List (Handled (Option String × BoardWork σ))) (s : Option String × BoardWork σ) : Prop where
  -- the text of the last export that has not failed, and the result of the last upsert that has not
  exported : s.1 = (latest .csvExport log).map fun t => Csv.ofRows t.call.rows
  unsent : latest .externalUpsert log = none → s.2.last = none
  upserted : ∀ t, latest .externalUpsert log = some t → ∃ result,
    (attempt board stopsAt settings t.call t.before.2).result = .ok result ∧ s.2.last = some result
  failed : ∀ call fault, (desk.handler board stopsAt settings call s).1 = .error fault →
    (desk.handler board stopsAt settings call s).2.1 = s.1 ∧
    (desk.handler board stopsAt settings call s).2.2.last = s.2.last
  -- a call for one strategy does not touch what the other has
  work : ∀ call, call.target.strategy = .csvExport → (desk.handler board stopsAt settings call s).2.2 = s.2
  text : ∀ call, call.target.strategy = .externalUpsert → (desk.handler board stopsAt settings call s).2.1 = s.1
  -- a board that lists the calls that it gets has none more after a call that is not for it
  uncalled : ∀ call (s : Option String × BoardWork (σ × List Request)), call.target.strategy = .csvExport →
    (desk.handler board.observed stopsAt.observed settings call s).2.2.state.2 = s.2.state.2
  unserved : ∀ call, desk.serves call.target.strategy = false → desk.handler board stopsAt settings call s =
    (.error (.unsupportedStrategy call.target.strategy.name), s)
  -- what is served fails only where an upsert has no result
  exports : ∀ call, call.target.strategy = .csvExport → desk.serves .csvExport = true →
    (desk.handler board stopsAt settings call s).1 = .ok ()
  upserts : ∀ call, call.target.strategy = .externalUpsert → desk.serves .externalUpsert = true →
    (desk.handler board stopsAt settings call s).1 = (attempt board stopsAt settings call s.2).result.map fun _ => ()

-- After any calls, with any rows and targets, to a desk that has had none before.
theorem desk_keeps_latest (board : Board σ) (stopsAt : StopTime σ) (settings : UpsertSettings) (desk : Desk)
    (calls : List WriteCall) (state : σ) : KeepsLatest board stopsAt settings desk
      ((desk.handler board stopsAt settings).handled calls (none, .start state))
      ((desk.handler board stopsAt settings).after calls (none, .start state)) := by
  have done (s : Option String × BoardWork σ) := handler_handles board stopsAt settings s desk
  have took : ∀ t ∈ (desk.handler board stopsAt settings).handled calls (none, .start state), t.answer =
      (desk.handler board stopsAt settings t.call t.before).1 := fun t => Handler.handled_answer
  have text := (handler_makes_text board stopsAt settings desk).after calls (none, .start state)
  have result := (handler_makes_last board stopsAt settings desk).after calls (none, .start state)
  generalize (desk.handler board stopsAt settings).handled calls (none, .start state) = log at text result took ⊢
  generalize (desk.handler board stopsAt settings).after calls (none, .start state) = s at text result ⊢
  refine ⟨?_, ?_, ?_, ?_, fun call => (done s call).work, fun call => (done s call).text, ?_,
    fun call => handler_unserved board stopsAt settings s, fun call => (done s call).exports,
    fun call => (done s call).upserts⟩
  · rw [text]
    cases latest .csvExport log <;> rfl
  · intro none
    rw [result, none]
    rfl
  · intro t found
    obtain ⟨member, strategy, fine⟩ := Handler.latest_took found
    have here := done t.before t.call
    rw [← took t member, fine] at here
    obtain ⟨ended, ran⟩ := here.ran strategy
    refine ⟨ended, ran, ?_⟩
    rw [result, found, Option.elim_some, ran]
    rfl
  · intro call fault fails
    exact (fails ▸ done s call).unchanged
  · intro call s strategy
    rw [(handler_handles board.observed stopsAt.observed settings s desk call).work strategy]

end Desk
end TidyRows
