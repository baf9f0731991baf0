import TidyRows.Proofs.Number.Nearest
namespace TidyRows
namespace Shortest

theorem tenPower_positive (e : Int) : 0 < (tenPower e).2 := by
  cases e with
  | ofNat e => exact Nat.one_pos
  | negSucc k => exact Nat.pow_pos (by decide)

theorem tenPower_cast (e : Int) : ((tenPower e).1 : ℚ) = 10 ^ e * (tenPower e).2 := by
  cases e with
  | ofNat e => simp [tenPower]
  | negSucc k =>
    have : (10 : ℚ) ^ (k + 1) ≠ 0 := by positivity
    simp [tenPower, zpow_negSucc, this]

theorem gridStep_positive (e : Int) : 0 < (gridStep e).2 := tenPower_positive e

theorem gridStep_cast (e : Int) : ((gridStep e).1 : ℚ) = 10 ^ e * (2 * unitsPerOne) * (gridStep e).2 := by
  show (((tenPower e).1 * (2 * unitsPerOne) : Nat) : ℚ) = _
  rw [Nat.cast_mul, tenPower_cast, gridStep]
  push_cast
  ring

theorem holds_decimal {i : Interval} {n n' : Nat} {e e' : Int} (same : (n : ℚ) * 10 ^ e = n' * 10 ^ e') :
    i.holds (n * (gridStep e).1) (gridStep e).2 = i.holds (n' * (gridStep e').1) (gridStep e').2 := by
  refine holds_same ?_ (gridStep_positive e) (gridStep_positive e')
  have : ((n * (gridStep e).1 * (gridStep e').2 : Nat) : ℚ) = (n' * (gridStep e').1 * (gridStep e).2 : Nat) := by
    push_cast
    rw [gridStep_cast, gridStep_cast]
    linear_combination (2 * unitsPerOne * (gridStep e).2 * (gridStep e').2 : ℚ) * same
  exact_mod_cast this

theorem roundDiv_near (tie : Tie) (n : Nat) {d : Nat} (positive : 0 < d) :
    2 * n ≤ 2 * (roundDiv tie n d * d) + d ∧ 2 * (roundDiv tie n d * d) ≤ 2 * n + d := by
  have parts := Nat.div_add_mod n d
  have small := Nat.mod_lt n positive
  unfold roundDiv
  generalize n / d = q at parts ⊢
  generalize n % d = r at parts small ⊢
  subst parts
  dsimp only
  split
  · constructor <;> linarith
  · split
    · constructor <;> linarith
    · cases tie with
      | toEven =>
        dsimp only
        rcases Nat.mod_two_eq_zero_or_one q with even | odd
        · rw [even]
          constructor <;> linarith
        · rw [odd]
          constructor <;> linarith
      | up =>
        dsimp only
        constructor <;> linarith

theorem neighbour_holds {tie : Tie} {i : Interval} {value k : Nat} {step : Nat × Nat}
    (found : neighbour? tie i value step = some k) : k ≠ 0 ∧ i.holds (k * step.1) step.2 = true := by
  have of_hits {n : Nat} (hits : (n != 0 && i.holds (n * step.1) step.2) = true) :
      n ≠ 0 ∧ i.holds (n * step.1) step.2 = true := by
    obtain ⟨nonzero, holds⟩ := Bool.and_eq_true_iff.mp hits
    exact ⟨bne_iff_ne.mp nonzero, holds⟩
  unfold neighbour? at found
  dsimp only at found
  generalize (if roundDiv tie _ _ = _ then _ else _) = other at found
  split at found
  · rename_i hits
    cases found
    exact of_hits hits
  · split at found
    · rename_i hits
      cases found
      exact of_hits hits
    · cases found

-- A value has a neighbour in an interval that reaches more than half a step to both sides.
theorem neighbour_exists (tie : Tie) {i : Interval} {value gap : Nat} {step : Nat × Nat} (positive : 0 < step.1)
    (low : i.low + gap ≤ value) (high : value + gap ≤ i.high) (small : step.1 < 2 * gap * step.2) :
    ∃ k, neighbour? tie i value step = some k := by
  obtain ⟨n, d⟩ := step
  dsimp only at positive small
  obtain ⟨least, most⟩ := roundDiv_near tie (value * d) positive
  unfold neighbour?
  dsimp only
  generalize roundDiv tie (value * d) n = nearest at *
  have above : i.low * d < nearest * n := by
    have : (i.low + gap) * d ≤ value * d := Nat.mul_le_mul_right _ low
    linarith
  have below : nearest * n < i.high * d := by
    have : (value + gap) * d ≤ i.high * d := Nat.mul_le_mul_right _ high
    linarith
  have nonzero : nearest ≠ 0 := by
    rintro rfl
    rw [Nat.zero_mul] at above
    exact absurd above (Nat.not_lt_zero _)
  have hits : (nearest != 0 && i.holds (nearest * n) d) = true := by
    rw [Bool.and_eq_true_iff]
    exact ⟨bne_iff_ne.mpr nonzero, holds_of_strict above below⟩
  rw [if_pos hits]
  exact ⟨nearest, rfl⟩

theorem holds_between {i : Interval} {value d a b : Nat} (low : i.low * d < value) (high : value < i.high * d)
    (holds : i.holds a d = true) (between : a ≤ b ∧ b ≤ value ∨ value ≤ b ∧ b ≤ a) : i.holds b d = true := by
  obtain ⟨least, most, inner⟩ := holds_bounds holds
  unfold Interval.holds
  split
  · simp only [Bool.and_eq_true, decide_eq_true_eq]
    omega
  · rename_i closed
    have := inner (Bool.eq_false_iff.mpr closed)
    simp only [Bool.and_eq_true, decide_eq_true_eq]
    omega

theorem roundDiv_cases (tie : Tie) (n d : Nat) : roundDiv tie n d = n / d ∨ roundDiv tie n d = n / d + 1 := by
  unfold roundDiv
  dsimp only
  repeat' split
  all_goals omega

-- When anything of a grid is within the interval, so is one of the two neighbours of its value.
theorem neighbour_some (tie : Tie) {i : Interval} {value k : Nat} {step : Nat × Nat} (positive : 0 < step.1)
    (low : i.low * step.2 < value * step.2) (high : value * step.2 < i.high * step.2) (nonzero : k ≠ 0)
    (holds : i.holds (k * step.1) step.2 = true) : ∃ n, neighbour? tie i value step = some n := by
  obtain ⟨n, d⟩ := step
  dsimp only at positive low high holds
  have least := Nat.div_mul_le_self (value * d) n
  have most : value * d < (value * d / n + 1) * n := Nat.lt_mul_of_div_lt (Nat.lt_succ_self _) positive
  have cases := roundDiv_cases tie (value * d) n
  unfold neighbour?
  dsimp only
  generalize value * d / n = below at *
  have hits : (below != 0 && i.holds (below * n) d) = true ∨ (below + 1 != 0 && i.holds ((below + 1) * n) d) = true := by
    rcases Nat.lt_or_ge below k with after | before
    · have reach : (below + 1) * n ≤ k * n := Nat.mul_le_mul_right n after
      refine .inr (Bool.and_eq_true_iff.mpr ⟨bne_iff_ne.mpr (Nat.succ_ne_zero below), ?_⟩)
      exact holds_between low high holds (.inr ⟨Nat.le_of_lt most, reach⟩)
    · have reach : k * n ≤ below * n := Nat.mul_le_mul_right n before
      refine .inl (Bool.and_eq_true_iff.mpr ⟨bne_iff_ne.mpr (by omega), ?_⟩)
      exact holds_between low high holds (.inl ⟨reach, least⟩)
  rcases cases with nearest | nearest
  · rw [nearest, if_pos rfl]
    split
    · exact ⟨_, rfl⟩
    · rename_i missed
      rw [if_pos (hits.resolve_left missed)]
      exact ⟨_, rfl⟩
  · rw [nearest, if_neg (Nat.succ_ne_self below)]
    split
    · exact ⟨_, rfl⟩
    · rename_i missed
      rw [if_pos (hits.resolve_right missed)]
      exact ⟨_, rfl⟩

theorem nearer_between {p q v : Nat} (between : q ≤ p ∧ p ≤ v ∨ v ≤ p ∧ p ≤ q) : |(p : ℤ) - v| ≤ |(q : ℤ) - v| := by
  rcases abs_cases ((p : ℤ) - v) with ⟨here, _⟩ | ⟨here, _⟩ <;> rcases abs_cases ((q : ℤ) - v) with ⟨there, _⟩ | ⟨there, _⟩ <;>
    omega

theorem nearer_apart {p q v n : Nat} (near : 2 * v ≤ 2 * p + n ∧ 2 * p ≤ 2 * v + n) (apart : p + n ≤ q ∨ q + n ≤ p) :
    |(p : ℤ) - v| ≤ |(q : ℤ) - v| := by
  rcases abs_cases ((p : ℤ) - v) with ⟨here, _⟩ | ⟨here, _⟩ <;> rcases abs_cases ((q : ℤ) - v) with ⟨there, _⟩ | ⟨there, _⟩ <;>
    omega

-- Of all that is in the interval a neighbour that is taken is the nearest to the value.
theorem neighbour_nearest {tie : Tie} {i : Interval} {value k m : Nat} {step : Nat × Nat} (positive : 0 < step.1)
    (low : i.low * step.2 < value * step.2) (high : value * step.2 < i.high * step.2)
    (found : neighbour? tie i value step = some k) (nonzero : m ≠ 0) (holds : i.holds (m * step.1) step.2 = true) :
    |((k * step.1 : Nat) : ℤ) - (value * step.2 : Nat)| ≤ |((m * step.1 : Nat) : ℤ) - (value * step.2 : Nat)| := by
  obtain ⟨n, d⟩ := step
  dsimp only at *
  have near := roundDiv_near tie (value * d) positive
  have least := Nat.div_mul_le_self (value * d) n
  have most : value * d < (value * d / n + 1) * n := Nat.lt_mul_of_div_lt (Nat.lt_succ_self _) positive
  have cases := roundDiv_cases tie (value * d) n
  have order {a b : Nat} (less : a < b) : a * n + n ≤ b * n := (Nat.succ_mul a n).symm.trans_le (Nat.mul_le_mul_right n less)
  unfold neighbour? at found
  dsimp only at found
  generalize value * d / n = below at *
  generalize roundDiv tie (value * d) n = nearest at *
  split at found
  · cases found
    rcases Nat.lt_trichotomy m k with before | rfl | after
    · exact nearer_apart near (.inr (order before))
    · exact le_refl _
    · exact nearer_apart near (.inl (order after))
  · rename_i missed
    -- what is in the interval is not beyond the nearest, which would be in it too
    have passed (between : m * n ≤ nearest * n ∧ nearest * n ≤ value * d ∨ value * d ≤ nearest * n ∧ nearest * n ≤ m * n)
        (some : nearest ≠ 0) : False :=
      missed (Bool.and_eq_true_iff.mpr ⟨bne_iff_ne.mpr some, holds_between low high holds between⟩)
    rcases cases with rfl | rfl
    · rw [if_pos rfl] at found
      split at found
      · cases found
        rcases Nat.lt_or_ge nearest m with after | before
        · exact nearer_between (.inr ⟨Nat.le_of_lt most, Nat.mul_le_mul_right n after⟩)
        · exact (passed (.inl ⟨Nat.mul_le_mul_right n before, least⟩) (by omega)).elim
      · cases found
    · rw [if_neg (Nat.succ_ne_self below)] at found
      split at found
      · cases found
        rcases Nat.lt_or_ge k m with after | before
        · exact (passed (.inr ⟨Nat.le_of_lt most, Nat.mul_le_mul_right n after⟩) (Nat.succ_ne_zero k)).elim
        · exact nearer_between (.inl ⟨Nat.mul_le_mul_right n before, least⟩)
      · cases found

-- Powers compare as `10 ^ k` and `2 ^ n` do.
theorem ten_le_two {g z k n : Int} (close : ((10 : ℚ) ^ k) ^ z ≤ (2 ^ n) ^ z) (less : g * n ≤ k * z) (more : 0 < n) :
    (10 : ℚ) ^ g ≤ 2 ^ z := by
  have root : ((10 : ℚ) ^ g) ^ n ≤ (2 ^ z) ^ n := by
    calc ((10 : ℚ) ^ g) ^ n = 10 ^ (g * n) := (zpow_mul _ _ _).symm
      _ ≤ 10 ^ (k * z) := zpow_le_zpow_right₀ (by norm_num) less
      _ = (10 ^ k) ^ z := zpow_mul _ _ _
      _ ≤ (2 ^ n) ^ z := close
      _ = (2 ^ z) ^ n := by rw [← zpow_mul, mul_comm, zpow_mul]
  exact (zpow_le_zpow_iff_left₀ (by positivity) (by positivity) more).mp root

-- `0.30103` is the logarithm of two closely enough: over the exponents of numbers the guess is never more than one too
-- high.
theorem guess_low {g z : Int} (guess : 100000 * g ≤ 30103 * z) (low : -1074 ≤ z) (high : z ≤ 1100) :
    (10 : ℚ) ^ (g - 1) ≤ 2 ^ z := by
  rcases le_total 0 z with up | down
  · have close : (10 : ℚ) ^ (31 : ℤ) ≤ 2 ^ (103 : ℤ) := by norm_num
    exact ten_le_two (zpow_le_zpow_left₀ up (by positivity) close) (by omega) (by norm_num)
  · have close : (2 : ℚ) ^ (93 : ℤ) ≤ 10 ^ (28 : ℤ) := by norm_num
    obtain ⟨w, rfl⟩ : ∃ w : ℕ, z = -w := ⟨z.natAbs, by omega⟩
    refine ten_le_two (k := 28) (n := 93) ?_ (by omega) (by norm_num)
    rw [zpow_neg, zpow_neg]
    exact inv_anti₀ (by positivity) (zpow_le_zpow_left₀ (by omega) (by positivity) close)

-- The number of a rank in units, and how far it is from the next ones. Numbers have 53 significant bits.
theorem unitsOfRank_gaps {r : Nat} (nonzero : 0 < r) : ∃ gap, 0 < gap ∧ unitsOfRank (r - 1) + gap = unitsOfRank r ∧
    unitsOfRank r + gap ≤ unitsOfRank (r + 1) ∧ unitsOfRank r ≤ 2 ^ 53 * gap := by
  obtain ⟨s, m, rfl, most, least⟩ := rank_parts r
  have here : unitsOfRank (s * binade + m) = m * 2 ^ s := unitsOfRank_parts (Nat.le_of_lt most) least
  rw [here, unitsOfRank_succ most least]
  by_cases inside : s = 0 ∨ binade < m
  · obtain ⟨k, rfl, before⟩ := unitsOfRank_pred most nonzero inside
    rw [before]
    refine ⟨2 ^ s, Nat.two_pow_pos s, by ring, by linarith, Nat.mul_le_mul_right _ ?_⟩
    rw [show 2 ^ 53 = 2 * binade from rfl]
    exact Nat.le_of_lt most
  · obtain ⟨s, rfl⟩ : ∃ t, s = t + 1 := ⟨s - 1, by omega⟩
    obtain rfl : m = binade := by omega
    have full := below_power_full s
    have half := Nat.two_pow_pos s
    rw [unitsOfRank_below_power, pow_succ]
    refine ⟨2 ^ s, half, by linarith, by linarith, ?_⟩
    rw [show 2 ^ 53 = 2 * binade from rfl]
    linarith

theorem unitsOfRank_positive {r : Nat} (nonzero : 0 < r) : 0 < unitsOfRank r := by
  obtain ⟨gap, some, below, _⟩ := unitsOfRank_gaps nonzero
  omega

theorem unitsOfRank_lt {s m : Nat} (most : m < 2 * binade) (least : s = 0 ∨ binade ≤ m) :
    unitsOfRank (s * binade + m) < 2 ^ (53 + s) := by
  rw [unitsOfRank_parts (Nat.le_of_lt most) least, pow_add]
  exact Nat.mul_lt_mul_of_pos_right most (Nat.two_pow_pos s)

theorem log2_unitsOfRank {r : Nat} (nonzero : 0 < r) (known : r < rankCount) : Nat.log2 (unitsOfRank r) < 2099 := by
  have some := unitsOfRank_positive nonzero
  obtain ⟨s, m, rfl, most, least⟩ := rank_parts r
  have size : s ≤ 2046 := by unfold rankCount binade at *; omega
  have bits := (Nat.log2_lt (Nat.ne_of_gt some)).mpr (unitsOfRank_lt most least)
  omega

theorem shifted_cast (k : Nat) : ((1 <<< k : Nat) : ℚ) = 2 ^ (k : ℤ) := by
  rw [Nat.shiftLeft_eq, one_mul, Nat.cast_pow, Nat.cast_ofNat, zpow_natCast]

theorem unitsPerOne_cast : (unitsPerOne : ℚ) = 2 ^ (1074 : ℤ) := shifted_cast 1074

theorem reaches_iff {r : Nat} {e : Int} : reaches r e = true ↔ (10 : ℚ) ^ e * unitsPerOne ≤ unitsOfRank r := by
  have positive : (0 : ℚ) < (tenPower e).2 := by exact_mod_cast tenPower_positive e
  have cast := tenPower_cast e
  unfold reaches
  generalize tenPower e = power at positive cast ⊢
  obtain ⟨n, d⟩ := power
  dsimp only at positive cast ⊢
  rw [decide_eq_true_eq, ← Nat.cast_le (α := ℚ), Nat.cast_mul, Nat.cast_mul, cast]
  rw [show (10 : ℚ) ^ e * d * unitsPerOne = 10 ^ e * unitsPerOne * d by ring]
  exact mul_le_mul_iff_left₀ positive

theorem leading_low {r : Nat} (nonzero : 0 < r) (known : r < rankCount) :
    (10 : ℚ) ^ (leadingExponent r - 1) * unitsPerOne ≤ unitsOfRank r := by
  have some := unitsOfRank_positive nonzero
  have bits := log2_unitsOfRank nonzero known
  have log : 2 ^ Nat.log2 (unitsOfRank r) ≤ unitsOfRank r := Nat.log2_self_le (Nat.ne_of_gt some)
  unfold leadingExponent
  dsimp only
  generalize found : ((Nat.log2 (unitsOfRank r) : Int) - 1074) * 30103 / 100000 = guess
  split
  · rename_i above
    rw [show guess + 2 - 1 = guess + 1 by ring]
    exact reaches_iff.mp above
  · split
    · rename_i here
      rw [show guess + 1 - 1 = guess by ring]
      exact reaches_iff.mp here
    · have low := guess_low (g := guess) (z := (Nat.log2 (unitsOfRank r) : Int) - 1074) (by omega) (by omega) (by omega)
      calc (10 : ℚ) ^ (guess - 1) * unitsPerOne
          ≤ 2 ^ ((Nat.log2 (unitsOfRank r) : Int) - 1074) * unitsPerOne :=
            mul_le_mul_of_nonneg_right low (Nat.cast_nonneg _)
        _ = 2 ^ (Nat.log2 (unitsOfRank r) : ℤ) := by
          rw [unitsPerOne_cast, ← zpow_add₀ (by norm_num), sub_add_cancel]
        _ = ((2 ^ Nat.log2 (unitsOfRank r) : Nat) : ℚ) := by
          rw [zpow_natCast, Nat.cast_pow, Nat.cast_ofNat]
        _ ≤ unitsOfRank r := Nat.cast_le.mpr log

-- On the grid of seventeen digits a step is less than twice the gap to the next number.
theorem step_small {r gap : Nat} (nonzero : 0 < r) (known : r < rankCount) (some : 0 < gap)
    (bits : unitsOfRank r ≤ 2 ^ 53 * gap) :
    (gridStep (leadingExponent r - 17)).1 < 2 * gap * (gridStep (leadingExponent r - 17)).2 := by
  have leading := leading_low nonzero known
  have cast := gridStep_cast (leadingExponent r - 17)
  have positive : (0 : ℚ) < (gridStep (leadingExponent r - 17)).2 := by exact_mod_cast gridStep_positive _
  have ten : (10 : ℚ) ^ (leadingExponent r - 1) = 10 ^ (leadingExponent r - 17) * 10 ^ 16 := by
    rw [← zpow_natCast, ← zpow_add₀ (by norm_num)]
    congr 1
    push_cast
    ring
  rw [ten] at leading
  generalize (gridStep (leadingExponent r - 17)).2 = d at *
  generalize (10 : ℚ) ^ (leadingExponent r - 17) = power at *
  have bits : (unitsOfRank r : ℚ) ≤ 2 ^ 53 * gap := by exact_mod_cast bits
  have some : (0 : ℚ) < gap := by exact_mod_cast some
  have small : power * unitsPerOne < gap := by linarith
  rw [← Nat.cast_lt (α := ℚ), cast]
  push_cast
  have := mul_lt_mul_of_pos_right small positive
  linarith

theorem gridStep_nonzero (e : Int) : 0 < (gridStep e).1 := by
  have : (0 : ℚ) < (gridStep e).1 := by
    rw [gridStep_cast, unitsPerOne_cast]
    have : (0 : ℚ) < (gridStep e).2 := by exact_mod_cast gridStep_positive e
    positivity
  exact_mod_cast this

theorem onGrid_seventeen (tie : Tie) {r : Nat} (nonzero : 0 < r) (known : r < rankCount) :
    ∃ k, onGrid tie r (leadingExponent r - 17) = some k := by
  obtain ⟨gap, some, before, after, bits⟩ := unitsOfRank_gaps nonzero
  have low : (Interval.ofRank r).low + gap ≤ 2 * unitsOfRank r := by
    show unitsOfRank (r - 1) + unitsOfRank r + gap ≤ 2 * unitsOfRank r
    omega
  have high : 2 * unitsOfRank r + gap ≤ (Interval.ofRank r).high := by
    show 2 * unitsOfRank r + gap ≤ unitsOfRank r + unitsOfRank (r + 1)
    omega
  exact neighbour_exists tie (gridStep_nonzero _) low high (step_small nonzero known some bits)

-- What the search comes to is on the coarsest grid that has anything in the interval.
theorem search_first {tie : Tie} {r : Nat} {d : Decimal} (found : search tie r (leadingExponent r) = some d) :
    ∃ n e, d = .ofScaled n e ∧ onGrid tie r e = some n ∧ ∀ f, e < f → f < leadingExponent r → onGrid tie r f = none := by
  obtain ⟨before, i, after, range, here, missed⟩ := List.findSome?_eq_some_iff.mp found
  obtain ⟨n, hit, rfl⟩ := Option.map_eq_some_iff.mp here
  refine ⟨n, _, rfl, hit, fun f later early => ?_⟩
  rw [List.range_eq_range'] at range
  obtain ⟨k, most, rfl, rest⟩ := List.range'_eq_append_iff.mp range
  obtain ⟨rfl, _⟩ := List.range'_eq_cons_iff.mp rest.symm
  obtain ⟨j, rfl⟩ : ∃ j : Nat, f = leadingExponent r - (j + 1 : Nat) := ⟨(leadingExponent r - f - 1).toNat, by omega⟩
  have never := missed j (List.mem_range'_1.mpr (by omega))
  rwa [Option.map_eq_none_iff] at never

theorem ofRank_around {r d : Nat} (nonzero : 0 < r) (positive : 0 < d) :
    (Interval.ofRank r).low * d < 2 * unitsOfRank r * d ∧ 2 * unitsOfRank r * d < (Interval.ofRank r).high * d := by
  obtain ⟨gap, some, before, after, _⟩ := unitsOfRank_gaps nonzero
  constructor
  · apply Nat.mul_lt_mul_of_pos_right _ positive
    show unitsOfRank (r - 1) + unitsOfRank r < 2 * unitsOfRank r
    omega
  · apply Nat.mul_lt_mul_of_pos_right _ positive
    show 2 * unitsOfRank r < unitsOfRank r + unitsOfRank (r + 1)
    omega

section
variable {tie : Tie} {r k : Nat} {e : Int} (nonzero : 0 < r) (positive : k ≠ 0)
  (holds : (Interval.ofRank r).holds (k * (gridStep e).1) (gridStep e).2 = true)
include nonzero positive holds

theorem onGrid_some (tie : Tie) : ∃ n, onGrid tie r e = some n := by
  obtain ⟨low, high⟩ := ofRank_around nonzero (gridStep_positive e)
  exact neighbour_some tie (gridStep_nonzero e) low high positive holds

theorem onGrid_nearest {n : Nat} (found : onGrid tie r e = some n) :
    |((n * (gridStep e).1 : Nat) : ℤ) - (2 * unitsOfRank r * (gridStep e).2 : Nat)| ≤
      |((k * (gridStep e).1 : Nat) : ℤ) - (2 * unitsOfRank r * (gridStep e).2 : Nat)| := by
  obtain ⟨low, high⟩ := ofRank_around nonzero (gridStep_positive e)
  exact neighbour_nearest (gridStep_nonzero e) low high found positive holds

end

-- So it has no digits beyond those of any decimal in the interval.
theorem search_grid {tie : Tie} {r k : Nat} {e : Int} {d : Decimal} (found : search tie r (leadingExponent r) = some d)
    (nonzero : 0 < r) (positive : k ≠ 0) (holds : (Interval.ofRank r).holds (k * (gridStep e).1) (gridStep e).2 = true)
    (early : e < leadingExponent r) : ∃ n f, d = .ofScaled n f ∧ n ≠ 0 ∧ e ≤ f := by
  obtain ⟨n, f, scaled, here, never⟩ := search_first found
  refine ⟨n, f, scaled, (neighbour_holds here).1, ?_⟩
  by_contra finer
  obtain ⟨m, hit⟩ := onGrid_some nonzero positive holds tie
  rw [never e (Int.lt_of_not_ge finer) early] at hit
  cases hit

-- The power of ten that the search begins at is above all that the value reaches, when the guess is not too low by more than one.
theorem lt_leadingExponent {r : Nat} {e : Int} (reached : reaches r e = true)
    (close : e ≤ ((Nat.log2 (unitsOfRank r) : Int) - 1074) * 30103 / 100000 + 1) : e < leadingExponent r := by
  unfold leadingExponent
  dsimp only
  generalize ((Nat.log2 (unitsOfRank r) : Int) - 1074) * 30103 / 100000 = guess at close ⊢
  split
  · omega
  · rename_i more
    have other : e ≠ guess + 1 := by
      rintro rfl
      exact more reached
    split
    · omega
    · rename_i here
      have own : e ≠ guess := by
        rintro rfl
        exact here reached
      omega

theorem search_exists (tie : Tie) {r : Nat} (nonzero : 0 < r) (known : r < rankCount) :
    ∃ d, search tie r (leadingExponent r) = some d := by
  cases search : search tie r (leadingExponent r) with
  | none =>
    obtain ⟨k, last⟩ := onGrid_seventeen tie nonzero known
    have never := List.findSome?_eq_none_iff.mp search 16 (List.mem_range.mpr (by decide))
    rw [Option.map_eq_none_iff] at never
    exact absurd (last.symm.trans never) (Option.some_ne_none k)
  | some d => exact ⟨d, rfl⟩

end Shortest

section
open Shortest
variable (tie : Tie) {r : Nat} (nonzero : 0 < r)
include nonzero

theorem shortestDecimal_of_search {d : Decimal} (found : search tie r (leadingExponent r) = some d) :
    shortestDecimal tie r = d := by
  unfold shortestDecimal
  rw [if_neg (Nat.ne_of_gt nonzero), found]
  rfl

variable (known : r < rankCount)
include known

-- The decimal that is found: its digits times its power of ten lie within the interval.
theorem shortestDecimal_found : ∃ n e, shortestDecimal tie r = .ofScaled n e ∧ n ≠ 0 ∧
    (Interval.ofRank r).holds (n * (gridStep e).1) (gridStep e).2 = true := by
  obtain ⟨d, found⟩ := search_exists tie nonzero known
  obtain ⟨n, e, scaled, hit, _⟩ := search_first found
  exact ⟨n, e, (shortestDecimal_of_search tie nonzero found).trans scaled, neighbour_holds hit⟩

theorem shortestDecimal_grid {k : Nat} {e : Int} (positive : k ≠ 0)
    (holds : (Interval.ofRank r).holds (k * (gridStep e).1) (gridStep e).2 = true) (early : e < leadingExponent r) :
    ∃ n f, shortestDecimal tie r = .ofScaled n f ∧ n ≠ 0 ∧ e ≤ f := by
  obtain ⟨d, found⟩ := search_exists tie nonzero known
  obtain ⟨n, f, scaled, some, coarse⟩ := search_grid found nonzero positive holds early
  exact ⟨n, f, (shortestDecimal_of_search tie nonzero found).trans scaled, some, coarse⟩

end
end TidyRows
