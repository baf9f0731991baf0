import TidyRows.Proofs.Number.Order
import TidyRows.Proofs.Retry
import TidyRows.Settings.Basic
namespace TidyRows
namespace RetryPolicy
variable {p : RetryPolicy} {retry later : UInt32}

def longest (p : RetryPolicy) : Nat := (Double.ofNat p.maxDelay.millis).toNatClamped 0xffffffffffffffff

def exponent (retry : UInt32) : UInt32 := if retry == 0 then 0 else retry - 1

def grown (p : RetryPolicy) (retry : UInt32) : Double :=
  Double.ofNat p.initialDelay.millis * powWord p.multiplier (exponent retry)

theorem plainDelay_toNat (p : RetryPolicy) (retry : UInt32) : (p.plainDelay retry).toNat =
    ((p.grown retry).minNumber (Double.ofNat p.maxDelay.millis)).toNatClamped 0xffffffffffffffff :=
  UInt64.toNat_ofNat_of_lt' (Nat.lt_succ_of_le (Double.toNatClamped_le _ _))

theorem exponent_toNat (retry : UInt32) : (exponent retry).toNat = retry.toNat - 1 := by
  unfold exponent
  split
  · rename_i zero
    rw [eq_of_beq zero]
    rfl
  · rename_i nonzero
    have some : retry.toNat ≠ 0 := fun none => nonzero (beq_iff_eq.mpr (UInt32.toNat_inj.mp none))
    exact UInt32.toNat_sub_of_le _ _ (UInt32.le_iff_toNat_le.mpr (Nat.pos_of_ne_zero some))

theorem powWord_unsigned {base : Double} (grown : base.Grown) (n : UInt32) : (powWord base n).Unsigned := by
  unfold powWord
  split
  · exact (Double.pow_grown grown _).unsigned
  · exact Double.div_unsigned rfl (Double.pow_grown grown _).unsigned

theorem grown_unsigned (multiplier : p.multiplier.Grown) (retry : UInt32) : (p.grown retry).Unsigned :=
  Double.mul_unsigned (Double.ofNat_unsigned _) (powWord_unsigned multiplier _)

theorem plainDelay_le (multiplier : p.multiplier.Grown) (retry : UInt32) :
    (p.plainDelay retry).toNat ≤ p.longest := by
  rw [plainDelay_toNat]
  exact Double.toNatClamped_minNumber_le _ (grown_unsigned multiplier retry) (Double.ofNat_unsigned _)
    (Double.ofNat_number _)

-- As long as no exponent is one of those that stand for negative ones.
theorem grown_mono (multiplier : p.multiplier.Grown) (less : retry ≤ later) (last : later ≤ 0x80000000) :
    (p.grown retry).height ≤ (p.grown later).height := by
  have order : retry.toNat ≤ later.toNat := UInt32.le_iff_toNat_le.mp less
  have limit : later.toNat ≤ 0x80000000 := UInt32.le_iff_toNat_le.mp last
  have power {n : UInt32} (within : n.toNat ≤ 0x80000000) :
      powWord p.multiplier (exponent n) = p.multiplier.pow (n.toNat - 1) := by
    rw [powWord, exponent_toNat, if_pos (by omega)]
  unfold grown
  rw [power (order.trans limit), power limit]
  have first := Double.pow_grown multiplier (retry.toNat - 1)
  have second := Double.pow_grown multiplier (later.toNat - 1)
  exact Double.mul_mono_right (Double.ofNat_unsigned _) first.unsigned second.unsigned first.positive
    (Double.pow_mono multiplier (Nat.sub_le_sub_right order 1))

theorem plainDelay_mono (multiplier : p.multiplier.Grown) (less : retry ≤ later) (last : later ≤ 0x80000000) :
    p.plainDelay retry ≤ p.plainDelay later := by
  rw [UInt64.le_iff_toNat_le, plainDelay_toNat, plainDelay_toNat]
  exact Double.toNatClamped_minNumber_mono _ (grown_unsigned multiplier _) (grown_unsigned multiplier _)
    (Double.ofNat_unsigned _) (Double.ofNat_number _) (grown_mono multiplier less last)

structure Backoff (p : RetryPolicy) : Prop where
  steady : p.jitter = false → ∀ retry clock, p.delay? retry clock = some (p.plainDelay retry)
  capped : ∀ retry, (p.plainDelay retry).toNat ≤ p.longest
  -- the longest wait is kept as it is, unless it takes more bits than a number has
  exact : p.maxDelay.millis ≤ 2 ^ 53 → p.longest = p.maxDelay.millis
  -- beyond the given retry the exponents stand for negative ones
  grows : ∀ retry later, 1 ≤ retry → retry ≤ later → later ≤ 0x80000000 → p.plainDelay retry ≤ p.plainDelay later
  jittery : p.jitter = true → ∀ retry clock d, p.delay? retry clock = some d →
    p.plainDelay retry ≤ d ∧ d.toNat ≤ (p.plainDelay retry).toNat + (p.plainDelay retry).toNat / 4
  -- whatever the clock shows
  overflows : p.jitter = true → ∀ retry clock,
    p.delay? retry clock = none ↔ UInt64.size ≤ (p.plainDelay retry).toNat * jitterPercent.toNat
  window : p.longest * jitterPercent.toNat < UInt64.size → ∀ retry clock, (p.delay? retry clock).isSome

theorem multiplier_grown {s : Settings} (accepted : s.fault? = none) : s.upsert.retryPolicy.multiplier.Grown := by
  unfold Settings.fault? at accepted
  repeat' split at accepted
  case isFalse.isFalse.isFalse.isFalse least => exact Double.grown_of_not_lt (Bool.eq_false_iff.mpr least)
  all_goals cases accepted

theorem delay_backoff (s : Settings) (accepted : s.fault? = none) : Backoff s.upsert.retryPolicy := by
  have multiplier := multiplier_grown accepted
  generalize s.upsert.retryPolicy = p at multiplier
  have flows {retry : UInt32} (jitter : p.jitter = true) (clock : Nat) : p.delay? retry clock = none ↔
      UInt64.size ≤ (p.plainDelay retry).toNat * jitterPercent.toNat := by
    rw [delay?_eq_none_iff clock, overflows_iff]
    exact and_iff_right jitter
  refine ⟨delay?_steady, plainDelay_le multiplier, ?_, ?_, ?_, fun jitter _ => flows jitter, ?_⟩
  · intro bits
    rw [longest, Double.toNatClamped_ofNat _ bits]
    exact Nat.min_eq_right (bits.trans (by decide))
  · intro retry later _ less last
    exact plainDelay_mono multiplier less last
  · intro jitter retry clock d found
    have fits : p.overflows retry = false :=
      Bool.eq_false_iff.mpr fun beyond => by simp [(delay?_eq_none_iff clock).mpr beyond] at found
    obtain ⟨d', found', bounds⟩ := delay?_jittery jitter fits clock
    cases found.symm.trans found'
    exact bounds
  · intro room retry clock
    rw [Option.isSome_iff_ne_none, ne_eq, delay?_eq_none_iff, overflows_iff, not_and, not_le]
    intro _
    exact Nat.lt_of_le_of_lt (Nat.mul_le_mul_right _ (plainDelay_le multiplier retry)) room

theorem standard_backoff : Settings.standard.fault? = none ∧
    [1, 2, 5, 6, 0x80000000].map Settings.standard.upsert.retryPolicy.plainDelay = [200, 400, 3200, 5000, 5000] ∧
    Settings.standard.upsert.retryPolicy.delay? 1 249 = some 245 ∧ Backoff Settings.standard.upsert.retryPolicy :=
  ⟨by decide +kernel, by decide +kernel, by decide +kernel, delay_backoff Settings.standard (by decide +kernel)⟩

-- Settings that have been accepted, with waits beyond each of the limits.
namespace BeyondLimits

def patient : Settings :=
  { Settings.standard with upsert := { UpsertSettings.standard with maxRetries := 0xffffffff, jitter := false } }

def waiting (millis : Nat) (fits : millis < wordLimit) : Settings :=
  { Settings.standard with upsert := { UpsertSettings.standard with
      retryInitialDelay := .ofMillis millis fits, retryMaxDelay := .ofMillis millis fits } }

-- One retry more and there is no wait at all; a wait is longer than the longest one; jitter is too much for a word.
theorem delays_beyond_limits :
    (patient.fault? = none ∧ patient.upsert.retryPolicy.delay? 0x80000000 0 = some 5000 ∧
      patient.upsert.retryPolicy.delay? 0x80000001 0 = some 0) ∧
    (∃ s : Settings, s.fault? = none ∧ s.upsert.retryPolicy.maxDelay.millis = 9007199254740995 ∧
      (s.upsert.retryPolicy.plainDelay 1).toNat = 9007199254740996) ∧
    ∃ s : Settings, s.fault? = none ∧ s.upsert.retryPolicy.jitter = true ∧
      s.upsert.retryPolicy.plainDelay 1 = 0xffffffffffffffff ∧ s.upsert.retryPolicy.delay? 1 1 = none :=
  ⟨by decide +kernel, ⟨waiting 9007199254740995 (by decide), by decide +kernel⟩,
    ⟨waiting 0xffffffffffffffff (by decide), by decide +kernel⟩⟩

end BeyondLimits
end RetryPolicy
end TidyRows
