import TidyRows.Retry
namespace TidyRows
namespace RetryPolicy
variable {policy : RetryPolicy} {fault : BoardFault} {attempt retry total : UInt32} {a b c : UInt64}

theorem checkedAdd_eq_some_iff : checkedAdd a b = some c ↔ c.toNat = a.toNat + b.toNat := by
  unfold checkedAdd
  split
  case isTrue fits =>
    rw [Option.some_inj, ← UInt64.toNat_inj, UInt64.toNat_add, Nat.mod_eq_of_lt fits]
    exact eq_comm
  case isFalse large =>
    have word := c.toNat_lt_size
    simp only [reduceCtorEq, false_iff]
    intro sum
    exact large (sum ▸ word)

theorem checkedMul_eq_some_iff : checkedMul a b = some c ↔ c.toNat = a.toNat * b.toNat := by
  unfold checkedMul
  split
  case isTrue fits =>
    rw [Option.some_inj, ← UInt64.toNat_inj, UInt64.toNat_mul, Nat.mod_eq_of_lt fits]
    exact eq_comm
  case isFalse large =>
    have word := c.toNat_lt_size
    simp only [reduceCtorEq, false_iff]
    intro product
    exact large (product ▸ word)

theorem checkedMul_eq_none_iff : checkedMul a b = none ↔ UInt64.size ≤ a.toNat * b.toNat := by
  unfold checkedMul
  split <;> simp_all

theorem jitterUpTo_le (most : UInt64) (clock : Nat) : (jitterUpTo most clock).toNat ≤ most.toNat := by
  unfold jitterUpTo
  split
  · exact Nat.zero_le _
  · rw [UInt64.toNat_ofNat']
    exact Nat.le_trans (Nat.mod_le _ _) (Nat.le_of_lt_succ (Nat.mod_lt _ (Nat.succ_pos _)))

theorem overflows_iff : policy.overflows retry = true ↔
    policy.jitter = true ∧ UInt64.size ≤ (policy.plainDelay retry).toNat * jitterPercent.toNat := by
  rw [overflows, Bool.and_eq_true, Option.isNone_iff_eq_none, checkedMul_eq_none_iff]

theorem delay?_steady (steady : policy.jitter = false) (retry : UInt32) (clock : Nat) :
    policy.delay? retry clock = some (policy.plainDelay retry) := by
  rw [delay?, steady]
  rfl

-- The sum fits where the percents do: jitter is a quarter of the wait at most.
theorem withJitter_fits {plain : UInt64} (fits : (checkedMul plain jitterPercent).isNone = false) (clock : Nat) :
    ∃ d, withJitter plain clock = some d ∧ plain ≤ d ∧ d.toNat ≤ plain.toNat + plain.toNat / 4 := by
  cases found : checkedMul plain jitterPercent with
  | none => rw [found] at fits; cases fits
  | some percents =>
    have product := checkedMul_eq_some_iff.mp found
    have quarter : (percents / 100).toNat = plain.toNat / 4 := by
      rw [UInt64.toNat_div, product]
      exact Nat.mul_div_mul_right _ 4 (by decide : 0 < 25)
    have extra := Nat.le_trans (jitterUpTo_le (percents / 100) clock) (Nat.le_of_eq quarter)
    have room : plain.toNat + (jitterUpTo (percents / 100) clock).toNat ≤ percents.toNat := by
      rw [product, show jitterPercent.toNat = 25 from rfl]
      omega
    obtain ⟨d, sum⟩ : ∃ d : UInt64, d.toNat = plain.toNat + (jitterUpTo (percents / 100) clock).toNat :=
      ⟨_, UInt64.toNat_ofNat_of_lt' (Nat.lt_of_le_of_lt room percents.toNat_lt_size)⟩
    refine ⟨d, ?_, ?_, ?_⟩
    · rw [withJitter, found, Option.bind_some]
      exact checkedAdd_eq_some_iff.mpr sum
    · rw [UInt64.le_iff_toNat_le, sum]
      exact Nat.le_add_right _ _
    · rw [sum]
      exact Nat.add_le_add_left extra _

theorem delay?_jittery (jitter : policy.jitter = true) (fits : policy.overflows retry = false) (clock : Nat) :
    ∃ d, policy.delay? retry clock = some d ∧ policy.plainDelay retry ≤ d ∧
      d.toNat ≤ (policy.plainDelay retry).toNat + (policy.plainDelay retry).toNat / 4 := by
  rw [overflows, jitter, Bool.true_and] at fits
  rw [delay?, if_pos jitter]
  exact withJitter_fits fits clock

theorem delay?_eq_none_iff (clock : Nat) : policy.delay? retry clock = none ↔ policy.overflows retry = true := by
  cases jitter : policy.jitter with
  | false => simp [delay?_steady jitter, overflows, jitter]
  | true =>
    cases beyond : policy.overflows retry with
    | false =>
      obtain ⟨d, found, _⟩ := delay?_jittery jitter beyond clock
      simp [found]
    | true =>
      have none := checkedMul_eq_none_iff.mpr (overflows_iff.mp beyond).2
      simp [delay?, jitter, withJitter, none]

theorem attempts?_none : policy.attempts? = none ↔ policy.maxRetries = 0xffffffff := by simp [attempts?]

theorem attempts?_some (counted : policy.attempts? = some total) : total.toNat = policy.maxRetries.toNat + 1 := by
  unfold attempts? at counted
  split at counted
  case isTrue => cases counted
  case isFalse other =>
    cases counted
    have word := policy.maxRetries.toNat_lt
    have less : policy.maxRetries.toNat ≠ 0xffffffff := fun last => other (UInt32.toNat_inj.mp last)
    rw [UInt32.toNat_add, UInt32.toNat_one]
    omega

theorem again_iff_fits : policy.again fault attempt = true ↔
    fault.retryable = true ∧ policy.leaves attempt = true ∧ policy.overflows attempt = false := by
  rw [again, Bool.and_eq_true, Bool.and_eq_true, Bool.not_eq_true', and_assoc]

theorem leaves_again (again : policy.again fault attempt = true) : policy.leaves attempt = true :=
  (again_iff_fits.mp again).2.1

theorem breaks_overflows {answer : Except BoardFault α} (breaks : policy.breaks attempt answer = true) :
    policy.overflows attempt = true := by
  cases answer with
  | ok v => cases breaks
  | error fault => exact (Bool.and_eq_true_iff.mp breaks).2

-- An attempt after which another one may be made is not one of the last that a word can count.
theorem leaves_counted (leaves : policy.leaves attempt = true) :
    attempt.toNat ≤ policy.maxRetries.toNat ∧ (attempt + 1).toNat = attempt.toNat + 1 := by
  unfold RetryPolicy.leaves at leaves
  cases counted : policy.attempts? with
  | none => rw [counted] at leaves; cases leaves
  | some total =>
    rw [counted] at leaves
    have sum := attempts?_some counted
    have less : attempt.toNat < total.toNat := UInt32.lt_iff_toNat_lt.mp (of_decide_eq_true leaves)
    have small := total.toNat_lt
    refine ⟨by omega, ?_⟩
    rw [UInt32.toNat_add, UInt32.toNat_one]
    omega

theorem runFrom_cases (operation : Nat → σ → Answered α σ) (now : Nat) (state : σ)
    (count : attempt.toNat + left = policy.maxRetries.toNat + 1) :
    ((∀ fault, (operation now state).answer = .error fault → policy.again fault attempt = false) ∧
      policy.runFrom operation left attempt now state = ⟨(operation now state).answer, attempt,
        now + (operation now state).duration, (operation now state).after⟩) ∨
    ∃ fault others, (operation now state).answer = .error fault ∧ policy.again fault attempt = true ∧
      left = others + 1 ∧ policy.runFrom operation left attempt now state =
        policy.runFrom operation others (attempt + 1) (now + (operation now state).duration +
          policy.wait fault attempt (operation now state).clock) (operation now state).after := by
  rw [runFrom.eq_def]
  cases answer : (operation now state).answer with
  | ok v => exact .inl ⟨by simp, by simp [answer]⟩
  | error fault =>
    cases again : policy.again fault attempt with
    | false =>
      refine .inl ⟨?_, ?_⟩
      · rintro _ ⟨⟩
        exact again
      · cases left <;> simp [answer, next?, again]
    | true =>
      cases left with
      | zero =>
        have bound := (leaves_counted (leaves_again again)).1
        omega
      | succ others => exact .inr ⟨fault, others, rfl, again, rfl, by simp [answer, next?, again]⟩

end RetryPolicy
end TidyRows
