import Mathlib.Order.Bounds.Basic
import TidyRows.Proofs.Retry
namespace TidyRows

-- What a call is answered, how long it takes, and what the system's clock shows when it is over.
structure Trial (α : Type) where
  answer : Except BoardFault α
  duration : Nat
  clock : Nat

namespace Trial

def Settled (t : Trial α) : Prop := ∀ fault, t.answer = .error fault → fault.retryable = false

-- The numbers of retries after which a run with so many of them may not go on.
def stops (retries : Nat) (trials : Nat → Trial α) : Set Nat := {n | n = retries ∨ (trials n).Settled}

def operation (trials : Nat → Trial α) (now : Nat) (calls : List Nat) : Answered α (List Nat) :=
  ⟨(trials calls.length).answer, (trials calls.length).duration, (trials calls.length).clock, calls ++ [now]⟩

end Trial

namespace RetryPolicy
variable {p : RetryPolicy} {trials : Nat → Trial α} {fault : BoardFault} {attempt total : UInt32}

def pause (p : RetryPolicy) (trial : Trial α) (attempt : Nat) : Nat :=
  match trial.answer with
  | .ok _ => 0
  | .error fault => p.wait fault (.ofNat attempt) trial.clock

-- The timetable: when the call after so many retries is made, one pause after the end of the call before it.
def callTime (p : RetryPolicy) (trials : Nat → Trial α) (start : Nat) : Nat → Nat
  | 0 => start
  | n + 1 => callTime p trials start n + (trials n).duration + p.pause (trials n) (n + 1)

-- A run of `n` retries: a call before them and one after each of them, and no pause after the last.
structure Retried (p : RetryPolicy) (trials : Nat → Trial α) (start n : Nat) (a : Attempted α (List Nat)) : Prop where
  answer : a.answer = (trials n).answer
  attempts : a.attempts.toNat = n + 1
  calls : a.after = (List.range (n + 1)).map (p.callTime trials start)
  ends : a.now = p.callTime trials start n + (trials n).duration

theorem leaves_iff (counted : p.attempts? = some total) (number : attempt.toNat = n + 1) :
    p.leaves attempt = true ↔ n + 1 ≤ p.maxRetries.toNat := by
  have sum := attempts?_some counted
  rw [leaves, counted, Option.any_some, decide_eq_true_iff, UInt32.lt_iff_toNat_lt, number, sum, Nat.lt_succ_iff]

theorem again_iff (counted : p.attempts? = some total) (number : attempt.toNat = n + 1) :
    p.again fault attempt = true ↔
      fault.retryable = true ∧ n + 1 ≤ p.maxRetries.toNat ∧ p.overflows (.ofNat (n + 1)) = false := by
  rw [again_iff_fits, leaves_iff counted number, ← number, UInt32.ofNat_toNat]

theorem callTime_range (p : RetryPolicy) (trials : Nat → Trial α) (start n : Nat) :
    (List.range (n + 1)).map (p.callTime trials start) =
      (List.range n).map (p.callTime trials start) ++ [p.callTime trials start n] := by
  rw [List.range_succ, List.map_append]
  rfl

theorem callTime_succ (start : Nat) (answer : (trials n).answer = .error fault) (number : attempt.toNat = n + 1) :
    p.callTime trials start (n + 1) =
      p.callTime trials start n + (trials n).duration + p.wait fault attempt (trials n).clock := by
  have word : UInt32.ofNat (n + 1) = attempt := by rw [← number, UInt32.ofNat_toNat]
  simp only [callTime, pause, answer, word]

theorem operation_call (trials : Nat → Trial α) (f : Nat → Nat) (now n : Nat) :
    Trial.operation trials now ((List.range n).map f) =
      ⟨(trials n).answer, (trials n).duration, (trials n).clock, (List.range n).map f ++ [now]⟩ := by
  simp [Trial.operation]

-- What ends the calls: a stop, or a wait that overflows.
def halts (p : RetryPolicy) (trials : Nat → Trial α) : Set Nat :=
  {n | n ∈ Trial.stops p.maxRetries.toNat trials ∨ p.overflows (.ofNat (n + 1)) = true}

-- A run that has come to the attempt after `n` retries, and might not end before.
structure Trying (p : RetryPolicy) (trials : Nat → Trial α) (n left : Nat) (attempt : UInt32) : Prop where
  number : attempt.toNat = n + 1
  rest : attempt.toNat + left = p.maxRetries.toNat + 1
  before : n ∈ lowerBounds (p.halts trials)

-- What is still to come of it, after calls at the times of the timetable.
def onward (p : RetryPolicy) (trials : Nat → Trial α) (start n left : Nat) (attempt : UInt32) :
    Attempted α (List Nat) :=
  p.runFrom (Trial.operation trials) left attempt (p.callTime trials start n)
    ((List.range n).map (p.callTime trials start))

namespace Trying

theorem first (p : RetryPolicy) (trials : Nat → Trial α) : Trying p trials 0 p.maxRetries.toNat 1 :=
  ⟨rfl, Nat.add_comm .., fun _ _ => Nat.zero_le _⟩

section
variable (counted : p.attempts? = some total)
include counted

-- An attempt after which there is no other one is the first that may be the last.
theorem halts (trying : Trying p trials n left attempt)
    (last : ∀ fault, (trials n).answer = .error fault → p.again fault attempt = false) :
    IsLeast (p.halts trials) n := by
  refine ⟨?_, trying.before⟩
  by_cases spent : n = p.maxRetries.toNat
  · exact .inl (.inl spent)
  cases beyond : p.overflows (.ofNat (n + 1)) with
  | true => exact .inr beyond
  | false =>
    have left : n + 1 ≤ p.maxRetries.toNat := Nat.lt_of_le_of_ne (trying.before (.inl (.inl rfl))) spent
    refine .inl (.inr fun fault failed => ?_)
    by_contra passing
    have again : p.again fault attempt = true :=
      (again_iff counted trying.number).mpr ⟨by simpa using passing, left, beyond⟩
    rw [last fault failed] at again
    cases again

theorem goes (trying : Trying p trials n (left + 1) attempt) (failed : (trials n).answer = .error fault)
    (again : p.again fault attempt = true) : Trying p trials (n + 1) left (attempt + 1) := by
  obtain ⟨passing, left, fits⟩ := (again_iff counted trying.number).mp again
  have next := (leaves_counted (leaves_again again)).2
  have rest := trying.rest
  refine ⟨by rw [next, trying.number], by omega, ?_⟩
  intro m halts
  apply Nat.lt_of_le_of_ne (trying.before halts)
  intro same
  subst m
  rcases halts with (spent | settled) | beyond
  · omega
  · rw [settled fault failed] at passing
    cases passing
  · rw [fits] at beyond
    cases beyond

theorem step (trying : Trying p trials n left attempt) (start : Nat) :
    (IsLeast (p.halts trials) n ∧ Retried p trials start n (p.onward trials start n left attempt)) ∨
    ∃ others, left = others + 1 ∧ Trying p trials (n + 1) others (attempt + 1) ∧
      p.onward trials start n left attempt = p.onward trials start (n + 1) others (attempt + 1) := by
  have either := runFrom_cases (Trial.operation trials) (p.callTime trials start n)
    ((List.range n).map (p.callTime trials start)) trying.rest
  simp only [operation_call, ← callTime_range] at either
  rcases either with ⟨last, ends⟩ | ⟨fault, others, failed, again, rfl, goes⟩
  · refine .inl ⟨trying.halts counted last, ?_⟩
    rw [onward, ends]
    exact ⟨rfl, trying.number, rfl, rfl⟩
  · refine .inr ⟨others, rfl, trying.goes counted failed again, ?_⟩
    rw [onward, goes, ← callTime_succ start failed trying.number]
    rfl

theorem retried (trying : Trying p trials n left attempt) (start : Nat) :
    ∃ m, IsLeast (p.halts trials) m ∧ Retried p trials start m (p.onward trials start n left attempt) := by
  induction left generalizing attempt n with
  | zero =>
    rcases trying.step counted start with ends | ⟨_, none, _⟩
    · exact ⟨n, ends⟩
    · cases none
  | succ left ih =>
    rcases trying.step counted start with ends | ⟨others, more, next, same⟩
    · exact ⟨n, ends⟩
    · cases more
      rw [same]
      exact ih next

end

end Trying

theorem tries_retried (counted : p.attempts?.isSome) (trials : Nat → Trial α) (start : Nat) :
    ∃ n, IsLeast (p.halts trials) n ∧ Retried p trials start n (p.tries (Trial.operation trials) start []) := by
  obtain ⟨total, counted⟩ := Option.isSome_iff_exists.mp counted
  exact (Trying.first p trials).retried counted start

-- The calls break off where nothing stops them.
theorem breaks_iff {a : Attempted α (List Nat)} (counted : p.attempts?.isSome) (least : IsLeast (p.halts trials) n)
    (retried : Retried p trials start n a) :
    p.breaks a.attempts a.answer = true ↔ n ∉ Trial.stops p.maxRetries.toNat trials := by
  obtain ⟨total, counted⟩ := Option.isSome_iff_exists.mp counted
  have word : UInt32.ofNat (n + 1) = a.attempts := by rw [← retried.attempts, UInt32.ofNat_toNat]
  have least' : n ≤ p.maxRetries.toNat := least.2 (.inl (.inl rfl))
  rw [retried.answer]
  constructor
  · rintro broken (spent | settled)
    · cases answer : (trials n).answer with
      | ok v => rw [answer] at broken; cases broken
      | error fault =>
        simp only [answer, breaks, Bool.and_eq_true, leaves_iff counted retried.attempts] at broken
        omega
    · cases answer : (trials n).answer with
      | ok v => rw [answer] at broken; cases broken
      | error fault => simp [answer, breaks, settled fault answer] at broken
  · intro goes
    have beyond : p.overflows a.attempts = true := word ▸ least.1.resolve_left goes
    have unsettled : ¬ (trials n).Settled := fun settled => goes (.inr settled)
    simp only [Trial.Settled, not_forall, Bool.not_eq_false] at unsettled
    obtain ⟨fault, failed, passing⟩ := unsettled
    have leaves := (leaves_iff counted retried.attempts).mpr (Nat.lt_of_le_of_ne least' fun spent => goes (.inl spent))
    simp [failed, breaks, passing, leaves, beyond]

theorem run_counted (counted : p.attempts?.isSome) (operation : Nat → σ → Answered α σ) (now : Nat) (state : σ) :
    p.run operation now state =
      if p.breaks (p.tries operation now state).attempts (p.tries operation now state).answer then none
      else some (p.tries operation now state) := by
  rw [run, if_neg (by simp [Option.isNone_eq_false_iff.mpr counted])]

theorem run_uncounted (last : p.maxRetries = 0xffffffff) (operation : Nat → σ → Answered α σ) (now : Nat) (state : σ) :
    p.run operation now state = none := by
  rw [run, attempts?_none.mpr last]
  rfl

theorem counted_of_fewer (fewer : p.maxRetries ≠ 0xffffffff) : p.attempts?.isSome :=
  Option.isSome_iff_ne_none.mpr fun none => fewer (attempts?_none.mp none)

-- Whatever the answers are: the calls go on to the first that settles, or until the retries are used up. The most retries
-- that can be asked for are one too many to count, and there is no answer either when a wait before that overflows.
theorem run_retried (p : RetryPolicy) (trials : Nat → Trial α) (start : Nat) :
    (p.run (Trial.operation trials) start [] = none ↔ p.maxRetries = 0xffffffff ∨
      ∃ n, p.overflows (.ofNat (n + 1)) = true ∧ ∀ m ≤ n, m ∉ Trial.stops p.maxRetries.toNat trials) ∧
      ∀ a, p.run (Trial.operation trials) start [] = some a →
        ∃ n, IsLeast (Trial.stops p.maxRetries.toNat trials) n ∧ Retried p trials start n a := by
  by_cases last : p.maxRetries = 0xffffffff
  · have none := run_uncounted last (Trial.operation trials) start []
    simp [none, last]
  have counted := counted_of_fewer last
  obtain ⟨n, least, retried⟩ := tries_retried counted trials start
  have broken := breaks_iff counted least retried
  rw [run_counted counted]
  by_cases stops : n ∈ Trial.stops p.maxRetries.toNat trials
  · have ends : p.breaks _ _ = false := Bool.eq_false_iff.mpr fun breaks => broken.mp breaks stops
    simp only [ends, Bool.false_eq_true, if_false, Option.some_inj, reduceCtorEq, last, false_or, false_iff, not_exists]
    refine ⟨?_, ?_⟩
    · rintro m ⟨beyond, goes⟩
      exact goes n (least.2 (.inr beyond)) stops
    · rintro a rfl
      exact ⟨n, ⟨stops, fun m member => least.2 (.inl member)⟩, retried⟩
  · simp only [broken.mpr stops, if_true, reduceCtorEq, false_implies, implies_true, and_true, true_iff]
    refine .inr ⟨n, least.1.resolve_left stops, fun m before member => ?_⟩
    cases Nat.le_antisymm before (least.2 (.inl member))
    exact stops member

def tireless : RetryPolicy := fixed 0xffffffff (.ofMillis 7 (by decide))

def busyOnce : Nat → Trial String
  | 0 => ⟨.error (.status 503 "busy"), 0, 0⟩
  | _ => ⟨.ok "item", 0, 0⟩

-- One retry would settle it, and not even the first call is made.
theorem tireless_overflows :
    IsLeast (Trial.stops tireless.maxRetries.toNat busyOnce) 1 ∧ tireless.run (Trial.operation busyOnce) 0 [] = none ∧
      ¬ ∃ a, tireless.run (Trial.operation busyOnce) 0 [] = some a ∧ Retried tireless busyOnce 0 1 a := by
  have none := run_uncounted (p := tireless) rfl (Trial.operation busyOnce) 0 []
  refine ⟨⟨.inr nofun, ?_⟩, none, ?_⟩
  · intro n stops
    apply Nat.pos_of_ne_zero
    intro first
    subst n
    rcases stops with spent | settled
    · cases spent
    · cases settled _ rfl
  · rintro ⟨a, some, _⟩
    cases none.symm.trans some

end RetryPolicy
end TidyRows
