import Mathlib
import TidyRows.Proofs.RetryBudget
namespace TidyRows
namespace RetryPolicy
variable {p : RetryPolicy} {trials : Nat → Trial α}

-- What passes after an attempt that failed, beside the wait of the policy's own.
structure Heeds (own : UInt64) (fault : BoardFault) (gap : Nat) : Prop where
  waited : own.toNat ≤ gap
  asked : ∀ seconds, fault = .rateLimited seconds → seconds * millisPerSecond ≤ gap
  unasked : (∀ seconds, fault ≠ .rateLimited seconds) → gap = own.toNat
  least : ∀ longer, own.toNat ≤ longer →
    (∀ seconds, fault = .rateLimited seconds → seconds * millisPerSecond ≤ longer) → gap ≤ longer

theorem wait_heeds {own : UInt64} (delayed : p.delay? attempt clock = some own) (fault : BoardFault) :
    Heeds own fault (p.wait fault attempt clock) := by
  obtain rfl : (p.delay? attempt clock).getD 0 = own := by rw [delayed, Option.getD_some]
  cases fault with
  | rateLimited seconds =>
    refine ⟨Nat.le_max_left _ _, ?_, ?_, ?_⟩
    · intro _ same
      cases same
      exact Nat.le_max_right _ _
    · intro unasked
      exact absurd rfl (unasked seconds)
    · intro longer own asked
      exact Nat.max_le.mpr ⟨own, asked seconds rfl⟩
  | transport | status | api | malformed => exact ⟨Nat.le_refl _, nofun, fun _ => rfl, fun _ own _ => own⟩

-- What passes after the attempt that `n` others come before and another one follows.
def Follows (p : RetryPolicy) (trial : Trial α) (n gap : Nat) : Prop :=
  ∃ fault, trial.answer = .error fault ∧ fault.retryable = true ∧
    ∃ (attempt : UInt32) (own : UInt64), attempt.toNat = n + 1 ∧ p.delay? attempt trial.clock = some own ∧
      Heeds own fault gap

structure Spaced (p : RetryPolicy) (trials : Nat → Trial α) (start : Nat) (gaps : Nat → Nat) (calls : List Nat) :
    Prop where
  first : calls[0]? = some start
  between : ∀ n made next, calls[n]? = some made → calls[n + 1]? = some next →
    next = made + (trials n).duration + gaps n ∧ Follows p (trials n) n (gaps n)

theorem Spaced.summed (spaced : Spaced p trials start gaps calls) (call : calls[n]? = some made) :
    made = start + ∑ i ∈ Finset.range n, ((trials i).duration + gaps i) := by
  induction n generalizing made with
  | zero =>
    rw [spaced.first] at call
    cases call
    rfl
  | succ n ih =>
    have shorter : n < calls.length := Nat.lt_of_succ_lt (List.getElem?_eq_some_iff.mp call).1
    have before : calls[n]? = some calls[n] := List.getElem?_eq_getElem shorter
    rw [(spaced.between n _ _ before call).1, ih before, Finset.sum_range_succ, Nat.add_assoc, Nat.add_assoc]

def gapAfter (p : RetryPolicy) (trials : Nat → Trial α) (n : Nat) : Nat := p.pause (trials n) (n + 1)

-- An attempt before the last one neither settled nor was the last that the policy leaves.
theorem follows_of_lt (least : IsLeast (p.halts trials) last) (before : n < last) :
    Follows p (trials n) n (p.gapAfter trials n) := by
  have on : n ∉ p.halts trials := fun halts => Nat.not_lt.mpr (least.2 halts) before
  have unsettled : ¬ (trials n).Settled := fun settled => on (.inl (.inr settled))
  have fits : p.overflows (.ofNat (n + 1)) = false := Bool.eq_false_iff.mpr fun flows => on (.inr flows)
  have fewer : n + 1 < UInt32.size := by
    have within : last ≤ p.maxRetries.toNat := least.2 (.inl (.inl rfl))
    have word : p.maxRetries.toNat < UInt32.size := p.maxRetries.toNat_lt
    omega
  simp only [Trial.Settled, not_forall, Bool.not_eq_false] at unsettled
  obtain ⟨fault, failed, passing⟩ := unsettled
  obtain ⟨own, delayed⟩ := Option.ne_none_iff_exists'.mp fun none =>
    Bool.eq_false_iff.mp fits ((delay?_eq_none_iff (trials n).clock).mp none)
  refine ⟨fault, failed, passing, .ofNat (n + 1), own, UInt32.toNat_ofNat_of_lt' fewer, delayed, ?_⟩
  rw [gapAfter, pause, failed]
  exact wait_heeds delayed fault

theorem Retried.call {a : Attempted α (List Nat)} (retried : Retried p trials start last a)
    (call : a.after[n]? = some made) : n ≤ last ∧ made = p.callTime trials start n := by
  rw [retried.calls, List.getElem?_map, Option.map_eq_some_iff] at call
  obtain ⟨m, place, same⟩ := call
  obtain ⟨within, at_place⟩ := List.getElem?_eq_some_iff.mp place
  rw [List.length_range] at within
  rw [List.getElem_range] at at_place
  exact ⟨Nat.le_of_lt_succ within, by rw [← same, ← at_place]⟩

theorem Retried.spaced {a : Attempted α (List Nat)} (retried : Retried p trials start last a)
    (least : IsLeast (p.halts trials) last) : Spaced p trials start (p.gapAfter trials) a.after := by
  refine ⟨?_, ?_⟩
  · rw [retried.calls, List.getElem?_map, List.getElem?_range (Nat.succ_pos last)]
    rfl
  · intro n made next call following
    obtain ⟨before, later⟩ := retried.call following
    obtain ⟨_, earlier⟩ := retried.call call
    subst made next
    exact ⟨rfl, follows_of_lt least before⟩

-- Whatever the answers are, and however short the longest wait of the policy is. Calls before a wait that overflows keep
-- to it as well.
theorem run_spaced (p : RetryPolicy) (trials : Nat → Trial α) (start : Nat) :
    let a := p.tries (Trial.operation trials) start []
    (p.run (Trial.operation trials) start [] = none ↔
        p.maxRetries = 0xffffffff ∨ p.breaks a.attempts a.answer = true) ∧
      (∀ b, p.run (Trial.operation trials) start [] = some b → b = a) ∧
      (p.maxRetries ≠ 0xffffffff → a.after.length = a.attempts.toNat ∧ ∃ gaps : Nat → Nat,
        Spaced p trials start gaps a.after ∧ ∀ n made, a.after[n]? = some made →
          made = start + ∑ i ∈ Finset.range n, ((trials i).duration + gaps i)) := by
  intro a
  by_cases most : p.maxRetries = 0xffffffff
  · have none := run_uncounted most (Trial.operation trials) start []
    simp [none, most]
  have counted := counted_of_fewer most
  rw [run_counted counted]
  refine ⟨?_, ?_, fun _ => ?_⟩
  · simp [a, most]
  · intro b ran
    split at ran
    · cases ran
    · exact (Option.some_inj.mp ran).symm
  obtain ⟨last, least, retried⟩ := tries_retried counted trials start
  have spaced := retried.spaced least
  refine ⟨?_, p.gapAfter trials, spaced, fun n made call => spaced.summed call⟩
  exact (congrArg List.length retried.calls).trans ((by simp : _ = last + 1).trans retried.attempts.symm)

-- Two seconds are asked for where the longest wait is eight milliseconds; the wait after that is the policy's own again.
example : ((fixed 3 (.ofMillis 8 (by decide))).run (Trial.operation fun
    | 0 => ⟨.error (.rateLimited 2), 1, 0⟩
    | 1 => ⟨.error (.status 503 "busy"), 0, 0⟩
    | _ => ⟨.ok "item", 0, 0⟩) 0 []).map (·.after) = some [0, 2001, 2009] := by decide +kernel

end RetryPolicy
end TidyRows
