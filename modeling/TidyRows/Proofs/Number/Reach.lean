import TidyRows.Proofs.Number.Places
namespace TidyRows
open Shortest

def valueOfRank (r : Nat) : ℚ := unitsOfRank r / unitsPerOne

section
variable {r n : Nat} {e z : ℤ} {p q t : ℚ}

theorem valueOfRank_strictMono : StrictMono valueOfRank := fun _ _ less =>
  (div_lt_div_iff_of_pos_right Double.ones_positive).mpr (Nat.cast_lt.mpr (unitsOfRank_strictMono less))

theorem value_of_units {m s : Nat} (units : unitsOfRank r = m * 2 ^ s) : valueOfRank r = m * 2 ^ ((s : ℤ) - 1074) := by
  unfold valueOfRank
  rw [units, unitsPerOne_cast, Nat.cast_mul, Nat.cast_pow, Nat.cast_ofNat, mul_div_assoc, ← zpow_natCast, ← zpow_sub₀ (by norm_num)]

theorem binade_cast : (binade : ℚ) = 2 ^ (52 : ℤ) := by norm_num [binade]

-- A number and the next one count the same places, unless the next one is a power of two and counts places twice as large.
theorem valueOfRank_parts (r : Nat) : ∃ (m : Nat) (z : ℤ), valueOfRank r = m * 2 ^ z ∧ valueOfRank (r + 1) = (m + 1) * 2 ^ z ∧
    (m : ℚ) < 2 ^ (53 : ℤ) ∧ (z = -1074 ∨ 2 ^ (52 : ℤ) ≤ (m : ℚ)) := by
  obtain ⟨s, m, rfl, most, least⟩ := rank_parts r
  have next := value_of_units (unitsOfRank_succ most least)
  push_cast at next
  refine ⟨m, s - 1074, value_of_units (unitsOfRank_parts (Nat.le_of_lt most) least), next, ?_, ?_⟩
  · have few : (m : ℚ) < 2 * binade := by exact_mod_cast most
    rw [binade_cast] at few
    exact few.trans_eq (by norm_num)
  · rw [← binade_cast]
    exact least.imp (fun first => by omega) Nat.cast_le.mpr

theorem step_power (r : Nat) : ∃ z : ℤ, valueOfRank (r + 1) - valueOfRank r = 2 ^ z := by
  obtain ⟨m, z, here, next, _⟩ := valueOfRank_parts r
  exact ⟨z, by rw [here, next]; ring⟩

theorem step_le (low : -1021 ≤ z) (below : valueOfRank (r + 1) ≤ 2 ^ z) :
    valueOfRank (r + 1) - valueOfRank r ≤ 2 ^ (z - 53) := by
  obtain ⟨m, y, here, next, _, least⟩ := valueOfRank_parts r
  rw [next] at below
  rw [here, next, show ((m : ℚ) + 1) * 2 ^ y - m * 2 ^ y = 2 ^ y by ring]
  apply zpow_le_zpow_right₀ one_le_two
  by_contra large
  have full : (2 : ℚ) ^ (52 : ℤ) ≤ m := least.resolve_left (by omega)
  have place : (0 : ℚ) < 2 ^ y := by positivity
  have reach : (2 : ℚ) ^ z ≤ 2 ^ (52 : ℤ) * 2 ^ y := by
    rw [← zpow_add₀ (by norm_num)]
    exact zpow_le_zpow_right₀ one_le_two (by omega)
  have := mul_le_mul_of_nonneg_right full (le_of_lt place)
  linarith

theorem le_step (above : 2 ^ z ≤ valueOfRank r) : 2 ^ (z - 52) ≤ valueOfRank (r + 1) - valueOfRank r := by
  obtain ⟨m, y, here, next, most, _⟩ := valueOfRank_parts r
  rw [here] at above
  rw [here, next, show ((m : ℚ) + 1) * 2 ^ y - m * 2 ^ y = 2 ^ y by ring]
  apply zpow_le_zpow_right₀ one_le_two
  by_contra small
  have place : (0 : ℚ) < 2 ^ y := by positivity
  have reach : (2 : ℚ) ^ (53 : ℤ) * 2 ^ y ≤ 2 ^ z := by
    rw [← zpow_add₀ (by norm_num)]
    exact zpow_le_zpow_right₀ one_le_two (by omega)
  have := mul_lt_mul_of_pos_right most place
  linarith

-- The steps to both neighbours are the same except at a power of two, whose rank is even.
theorem step_before (nonzero : 0 < r) : valueOfRank r - valueOfRank (r - 1) = valueOfRank (r + 1) - valueOfRank r ∨
    r % 2 = 0 ∧ ∃ z : ℤ, valueOfRank r = 2 ^ (z + 53) ∧ valueOfRank (r + 1) - valueOfRank r = 2 ^ (z + 1) ∧
      valueOfRank r - valueOfRank (r - 1) = 2 ^ z := by
  obtain ⟨s, m, rfl, most, least⟩ := rank_parts r
  have here := value_of_units (unitsOfRank_parts (Nat.le_of_lt most) least)
  have next := value_of_units (unitsOfRank_succ most least)
  push_cast at next
  by_cases inside : s = 0 ∨ binade < m
  · obtain ⟨k, rfl, before⟩ := unitsOfRank_pred most nonzero inside
    left
    rw [here, next, value_of_units before]
    push_cast
    ring
  · obtain ⟨t, rfl⟩ : ∃ t, s = t + 1 := ⟨s - 1, by omega⟩
    obtain rfl : m = binade := by omega
    have before := value_of_units (unitsOfRank_below_power t)
    rw [Nat.cast_sub (by decide), Nat.cast_mul, binade_cast] at before
    rw [binade_cast] at here next
    push_cast at before here next
    have twice : (2 : ℚ) ^ ((t : ℤ) + 1 - 1074) = 2 * 2 ^ ((t : ℤ) - 1074) := by
      rw [show (t : ℤ) + 1 - 1074 = 1 + (t - 1074) by ring, zpow_add₀ (by norm_num), zpow_one]
    rw [twice] at here next
    refine .inr ⟨?_, t - 1074, ?_, ?_, ?_⟩
    · rw [show (t + 1) * binade + binade = (t + 2) * binade by ring, Nat.mul_mod, show binade % 2 = 0 from rfl, Nat.mul_zero]
    · rw [here, zpow_add₀ (by norm_num)]
      ring
    · rw [here, next, zpow_add₀ (by norm_num)]
      ring
    · rw [here, before]
      ring

theorem step_grows (r : Nat) : valueOfRank r - valueOfRank (r - 1) ≤ valueOfRank (r + 1) - valueOfRank r := by
  rcases Nat.eq_zero_or_pos r with rfl | nonzero
  · have := valueOfRank_strictMono (Nat.lt_succ_self 0)
    simpa using le_of_lt this
  · rcases step_before nonzero with same | ⟨_, z, _, after, before⟩
    · exact le_of_eq same
    · rw [after, before]
      exact zpow_le_zpow_right₀ one_le_two (by omega)

theorem exists_value {k : Nat} (bits : k ≤ 2 ^ 53) : ∃ r, valueOfRank r = k := by
  obtain ⟨r, _, units⟩ := Double.exists_rank bits
  refine ⟨r, ?_⟩
  unfold valueOfRank
  rw [units, Nat.cast_mul, mul_div_cancel_right₀ _ (ne_of_gt Double.ones_positive)]

theorem exists_power {k : Nat} (small : k < 1024) : ∃ r, valueOfRank r = 2 ^ (k : ℤ) := by
  refine ⟨(Finite.power k small).rank, ?_⟩
  rw [zpow_natCast]
  exact Finite.power_magnitude k small

theorem below_power {k : Nat} (small : k < 1024) (below : valueOfRank r < 2 ^ (k : ℤ)) : valueOfRank (r + 1) ≤ 2 ^ (k : ℤ) := by
  obtain ⟨top, known⟩ := exists_power small
  rw [← known] at below ⊢
  exact valueOfRank_strictMono.monotone (valueOfRank_strictMono.lt_iff_lt.mp below)

-- The number before a power of two is half a step before it.
theorem exists_power_step {k : Nat} (small : k + 1 < 1024) : ∃ r, 0 < r ∧ valueOfRank r = 2 ^ ((k : ℤ) + 1) ∧
    valueOfRank r - valueOfRank (r - 1) = 2 ^ ((k : ℤ) - 52) := by
  obtain ⟨half, low⟩ := exists_power (Nat.lt_of_succ_lt small)
  obtain ⟨r, known⟩ := exists_power small
  push_cast at known
  have before : half < r := by
    apply valueOfRank_strictMono.lt_iff_lt.mp
    rw [low, known]
    exact zpow_lt_zpow_right₀ one_lt_two (Int.lt_succ _)
  have nonzero : r - 1 + 1 = r := Nat.sub_add_cancel (Nat.one_le_of_lt before)
  have least := le_step (low ▸ valueOfRank_strictMono.monotone (Nat.le_sub_one_of_lt before))
  have most := step_le (r := r - 1) (z := k + 1) (by omega) (by rw [nonzero, known])
  rw [nonzero] at least most
  rw [show (k : ℤ) + 1 - 53 = k - 52 by ring] at most
  exact ⟨r, Nat.zero_lt_of_lt before, known, le_antisymm most least⟩

theorem units_of_value {k : Nat} (worth : valueOfRank r = k) : unitsOfRank r = k * unitsPerOne := by
  unfold valueOfRank at worth
  rw [div_eq_iff (ne_of_gt Double.ones_positive)] at worth
  exact_mod_cast worth

-- Numbers of 53 bits and more are whole.
theorem whole_of_large (large : 2 ^ (52 : ℤ) ≤ valueOfRank r) : ∃ k : Nat, valueOfRank r = k := by
  obtain ⟨m, z, here, _, most, _⟩ := valueOfRank_parts r
  have high : (2 : ℚ) ^ (52 : ℤ) < 2 ^ (53 + z) := by
    rw [zpow_add₀ (by norm_num)]
    rw [here] at large
    exact large.trans_lt (mul_lt_mul_of_pos_right most (by positivity))
  have wide := (zpow_lt_zpow_iff_right₀ one_lt_two).mp high
  obtain ⟨more, rfl⟩ := Int.eq_ofNat_of_zero_le (by omega : 0 ≤ z)
  refine ⟨m * 2 ^ more, ?_⟩
  rw [here]
  push_cast
  rw [zpow_natCast]

-- The decimal is between the middles from the number of the rank to its neighbours. The middles themselves belong to even ranks.
structure Takes (r : Nat) (q : ℚ) : Prop where
  low : valueOfRank (r - 1) + valueOfRank r ≤ 2 * q
  high : 2 * q ≤ valueOfRank r + valueOfRank (r + 1)
  inner : r % 2 = 1 → valueOfRank (r - 1) + valueOfRank r < 2 * q ∧ 2 * q < valueOfRank r + valueOfRank (r + 1)

namespace Takes
variable {i j : Nat}

theorem between (first : Takes r p) (last : Takes r q) (least : p ≤ t) (most : t ≤ q) : Takes r t := by
  refine ⟨?_, ?_, fun odd => ⟨?_, ?_⟩⟩
  · have := first.low
    linarith
  · have := last.high
    linarith
  · have := (first.inner odd).1
    linarith
  · have := (last.inner odd).2
    linarith

theorem of_strict (low : valueOfRank (r - 1) + valueOfRank r < 2 * q) (high : 2 * q < valueOfRank r + valueOfRank (r + 1)) :
    Takes r q := ⟨le_of_lt low, le_of_lt high, fun _ => ⟨low, high⟩⟩

theorem apart (first : Takes r p) (last : Takes r q) : 2 * (q - p) ≤ valueOfRank (r + 1) - valueOfRank (r - 1) := by
  have := first.low
  have := last.high
  linarith

-- A decimal is not read as less than a number that it reaches, nor as more than one that it stays under.
theorem rank_le {k : Nat} (takes : Takes r q) (below : q < valueOfRank k) : r ≤ k := by
  by_contra more
  have := valueOfRank_strictMono.monotone (Nat.le_sub_one_of_lt (Nat.lt_of_not_le more))
  have := valueOfRank_strictMono.monotone (Nat.le_of_lt (Nat.lt_of_not_le more))
  have := takes.low
  linarith

theorem le_rank {k : Nat} (takes : Takes r q) (above : valueOfRank k < q) : k ≤ r := by
  by_contra less
  have := valueOfRank_strictMono.monotone (Nat.succ_le_of_lt (Nat.lt_of_not_le less))
  have := valueOfRank_strictMono.monotone (Nat.le_of_lt (Nat.lt_of_not_le less))
  have := takes.high
  linarith

theorem itself (nonzero : 0 < r) : Takes r (valueOfRank r) := by
  have before := valueOfRank_strictMono (Nat.sub_lt nonzero Nat.one_pos)
  have after := valueOfRank_strictMono (Nat.lt_succ_self r)
  exact .of_strict (by linarith) (by linarith)

theorem mono (first : Takes i p) (second : Takes j q) (less : p < q) : i ≤ j := by
  by_contra more
  have := valueOfRank_strictMono.monotone (Nat.le_sub_one_of_lt (Nat.lt_of_not_le more))
  have := valueOfRank_strictMono.monotone (Nat.succ_le_of_lt (Nat.lt_of_not_le more))
  have := first.low
  have := second.high
  linarith

-- The middle between two numbers is read as the even one of them.
theorem not_both (first : Takes i q) (second : Takes j q) : ¬i < j := by
  intro less
  have high := first.high
  have low := second.low
  have here := valueOfRank_strictMono.monotone (Nat.le_sub_one_of_lt less)
  have next := valueOfRank_strictMono.monotone (Nat.succ_le_of_lt less)
  have adjacent : i = j - 1 := valueOfRank_strictMono.injective (by linarith)
  rcases Nat.mod_two_eq_zero_or_one i with even | odd
  · have := (second.inner (by omega)).1
    linarith
  · have := (first.inner odd).2
    linarith

theorem unique (first : Takes i q) (second : Takes j q) : i = j :=
  Nat.le_antisymm (Nat.not_lt.mp (second.not_both first)) (Nat.not_lt.mp (first.not_both second))

theorem beyond (other : ¬Takes r q) (above : valueOfRank (r - 1) + valueOfRank r < 2 * q) :
    valueOfRank r + valueOfRank (r + 1) ≤ 2 * q ∧ (2 * q = valueOfRank r + valueOfRank (r + 1) → r % 2 = 1) := by
  constructor
  · by_contra inside
    exact other (.of_strict above (not_le.mp inside))
  · intro middle
    by_contra even
    exact other ⟨le_of_lt above, le_of_eq middle, fun odd => absurd odd even⟩

theorem short (other : ¬Takes r q) (below : 2 * q < valueOfRank r + valueOfRank (r + 1)) :
    2 * q ≤ valueOfRank (r - 1) + valueOfRank r ∧ (2 * q = valueOfRank (r - 1) + valueOfRank r → r % 2 = 1) := by
  constructor
  · by_contra inside
    exact other (.of_strict (not_le.mp inside) below)
  · intro middle
    by_contra even
    exact other ⟨le_of_eq middle.symm, le_of_lt below, fun odd => absurd odd even⟩

theorem reaches {k : Nat} {q : ℚ} (takes : Takes r q) (bits : k ≤ 2 ^ 53) (less : (k : ℚ) < q) :
    (k : ℚ) ≤ valueOfRank r := by
  obtain ⟨i, known⟩ := exists_value bits
  rw [← known] at less ⊢
  exact valueOfRank_strictMono.monotone (takes.le_rank less)

theorem reached {k : Nat} {q : ℚ} (takes : Takes r q) (bits : k ≤ 2 ^ 53) (more : (k : ℚ) < valueOfRank r) :
    (k : ℚ) ≤ q := by
  obtain ⟨i, known⟩ := exists_value bits
  rw [← known] at more ⊢
  by_contra less
  exact absurd (takes.rank_le (not_le.mp less)) (Nat.not_le_of_lt (valueOfRank_strictMono.lt_iff_lt.mp more))

end Takes

theorem gridStep_worth (n : Nat) (e : ℤ) :
    ((n * (gridStep e).1 : Nat) : ℚ) = 2 * (n * 10 ^ e) * unitsPerOne * (gridStep e).2 := by
  push_cast
  rw [gridStep_cast]
  ring

theorem holds_iff_takes : (Interval.ofRank r).holds (n * (gridStep e).1) (gridStep e).2 = true ↔ Takes r (n * 10 ^ e) := by
  have ones := Double.ones_positive
  have cast := gridStep_worth n e
  have positive : (0 : ℚ) < (gridStep e).2 := by exact_mod_cast gridStep_positive e
  generalize n * (gridStep e).1 = a at cast ⊢
  generalize (gridStep e).2 = d at cast positive ⊢
  generalize (n : ℚ) * 10 ^ e = q at cast ⊢
  have sum (i j : Nat) : valueOfRank i + valueOfRank j = ((unitsOfRank i + unitsOfRank j : Nat) : ℚ) / unitsPerOne := by
    unfold valueOfRank
    push_cast
    ring
  have least (i j : Nat) : (unitsOfRank i + unitsOfRank j) * d ≤ a ↔ valueOfRank i + valueOfRank j ≤ 2 * q := by
    rw [sum, div_le_iff₀ ones, ← Nat.cast_le (α := ℚ), Nat.cast_mul, cast]
    exact mul_le_mul_iff_left₀ positive
  have most (i j : Nat) : a ≤ (unitsOfRank i + unitsOfRank j) * d ↔ 2 * q ≤ valueOfRank i + valueOfRank j := by
    rw [sum, le_div_iff₀ ones, ← Nat.cast_le (α := ℚ), Nat.cast_mul, cast]
    exact mul_le_mul_iff_left₀ positive
  unfold Interval.holds Interval.ofRank
  dsimp only
  cases parity : r % 2 == 0 with
  | true =>
    rw [if_pos rfl, Bool.and_eq_true, decide_eq_true_eq, decide_eq_true_eq, least, most]
    have even : r % 2 = 0 := beq_iff_eq.mp parity
    exact ⟨fun within => ⟨within.1, within.2, fun odd => by omega⟩, fun takes => ⟨takes.low, takes.high⟩⟩
  | false =>
    have odd : r % 2 = 1 := by
      have := beq_eq_false_iff_ne.mp parity
      omega
    rw [if_neg Bool.false_ne_true, Bool.and_eq_true, decide_eq_true_eq, decide_eq_true_eq, ← not_le, ← not_le, least, most, not_le, not_le]
    exact ⟨fun within => .of_strict within.1 within.2, fun takes => takes.inner odd⟩

theorem leading_of_large (large : 10 ≤ valueOfRank r) : 1 < leadingExponent r := by
  unfold valueOfRank at large
  rw [le_div_iff₀ Double.ones_positive] at large
  have least : unitsPerOne ≤ unitsOfRank r := by
    have : (10 * unitsPerOne : Nat) ≤ unitsOfRank r := by exact_mod_cast large
    exact (Nat.le_mul_of_pos_left _ (by decide)).trans this
  refine leading_of_reached least (reaches_iff.mpr ?_) (le_refl 1)
  rw [zpow_one]
  exact large

theorem dvd_of_tens {b n : Nat} {e : ℤ} (tens : (b : ℚ) * 10 ^ e = n * 10 ^ (e + 1)) : 10 ∣ b := by
  have place : (10 : ℚ) ^ e ≠ 0 := by positivity
  rw [zpow_add₀ (by norm_num), zpow_one, mul_comm (10 ^ e) 10, ← mul_assoc] at tens
  have same := mul_right_cancel₀ place tens
  refine ⟨n, ?_⟩
  rw [mul_comm]
  exact_mod_cast same

end

namespace Finite
variable {x : Finite} {n k : Nat} {e : ℤ}

section
variable (nonzero : 0 < x.rank.val)
include nonzero

theorem takes_of_read (found : Double.ofDecimal x.negative n e = .finite x) : Takes x.rank (n * 10 ^ e) :=
  holds_iff_takes.mp (Double.ofDecimal_holds found nonzero)

theorem read_of_takes (takes : Takes x.rank (n * 10 ^ e)) : Double.ofDecimal x.negative n e = .finite x :=
  ofDecimal_of_holds x.negative nonzero x.rank.isLt (holds_iff_takes.mpr takes)

theorem takes_shortest : Takes x.rank x.shortest := by
  have reads : x.numeral.Reads x := plainNumeral_reads x
  exact takes_of_read nonzero reads.value

theorem shortest_on_grid (takes : Takes x.rank (k * 10 ^ e)) (some : k ≠ 0) (early : e < leadingExponent x.rank) :
    ∃ n : Nat, x.shortest = n * 10 ^ e := by
  obtain ⟨n, f, scaled, count, coarse⟩ := shortestDecimal_grid .up nonzero x.rank.isLt some (holds_iff_takes.mpr takes) early
  obtain ⟨more, rest⟩ := Int.eq_ofNat_of_zero_le (by omega : 0 ≤ f - e)
  refine ⟨n * 10 ^ more, ?_⟩
  rw [shortest_scaled scaled count, show f = more + e by omega, zpow_add₀ (by norm_num), zpow_natCast]
  push_cast
  ring

-- Where no decimal with fewer digits is taken, the shortest one is the nearest of its length.
theorem shortest_nearest (takes : Takes x.rank (k * 10 ^ e)) (some : k ≠ 0) (early : e < leadingExponent x.rank)
    (fine : ∀ n : Nat, x.shortest ≠ n * 10 ^ (e + 1)) : |x.shortest - x.magnitude| ≤ |k * 10 ^ e - x.magnitude| := by
  have holds := holds_iff_takes.mpr takes
  obtain ⟨d, found⟩ := search_exists .up nonzero x.rank.isLt
  obtain ⟨n, f, scaled, hit, never⟩ := search_first found
  have worth := shortest_scaled ((shortestDecimal_of_search .up nonzero found).trans scaled) (neighbour_holds hit).1
  have coarse : e ≤ f := by
    by_contra finer
    obtain ⟨m, other⟩ := onGrid_some nonzero some holds .up
    rw [never e (Int.lt_of_not_ge finer) early] at other
    cases other
  obtain rfl : f = e := by
    by_contra other
    obtain ⟨more, rest⟩ := Int.eq_ofNat_of_zero_le (by omega : 0 ≤ f - (e + 1))
    refine fine (n * 10 ^ more) ?_
    rw [worth, show f = more + (e + 1) by omega, zpow_add₀ (by norm_num), zpow_natCast]
    push_cast
    ring
  have near : |((n * (gridStep f).1 : Nat) : ℚ) - (2 * unitsOfRank x.rank * (gridStep f).2 : Nat)| ≤
      |((k * (gridStep f).1 : Nat) : ℚ) - (2 * unitsOfRank x.rank * (gridStep f).2 : Nat)| := by
    exact_mod_cast onGrid_nearest nonzero some holds hit
  have size : ((2 * unitsOfRank x.rank * (gridStep f).2 : Nat) : ℚ) = 2 * x.magnitude * unitsPerOne * (gridStep f).2 := by
    have ones := Double.ones_positive
    unfold Finite.magnitude
    push_cast
    field_simp
  have unit : (0 : ℚ) < 2 * unitsPerOne * (gridStep f).2 :=
    mul_pos (mul_pos two_pos Double.ones_positive) (by exact_mod_cast gridStep_positive f)
  have apart (i : Nat) : |((i * (gridStep f).1 : Nat) : ℚ) - (2 * unitsOfRank x.rank * (gridStep f).2 : Nat)| =
      |(i : ℚ) * 10 ^ f - x.magnitude| * (2 * unitsPerOne * (gridStep f).2) := by
    rw [gridStep_worth, size]
    calc _ = |((i : ℚ) * 10 ^ f - x.magnitude) * (2 * unitsPerOne * (gridStep f).2)| := by congr 1; ring
      _ = |(i : ℚ) * 10 ^ f - x.magnitude| * |(2 : ℚ) * unitsPerOne * (gridStep f).2| := abs_mul _ _
      _ = |(i : ℚ) * 10 ^ f - x.magnitude| * (2 * unitsPerOne * (gridStep f).2) := by rw [abs_of_pos unit]
  rw [apart, apart, mul_le_mul_iff_left₀ unit, ← worth] at near
  exact near

end

theorem nonzero_of_large (large : 10 ≤ x.magnitude) : 0 < x.rank.val := by
  apply Nat.pos_of_ne_zero
  intro zero
  unfold Finite.magnitude at large
  rw [zero, unitsOfRank_zero, Nat.cast_zero, zero_div] at large
  norm_num at large

theorem nonzero_of_shortest (some : x.shortest ≠ 0) : 0 < x.rank.val :=
  Nat.pos_of_ne_zero fun zero => some (shortest_zero zero)

theorem shortest_reaches {k : Nat} (bits : k ≤ 2 ^ 53) (less : (k : ℚ) < x.shortest) : (k : ℚ) ≤ x.magnitude := by
  have some : x.shortest ≠ 0 := ne_of_gt (lt_of_le_of_lt (Nat.cast_nonneg k) less)
  exact (takes_shortest (nonzero_of_shortest some)).reaches bits less

section
variable {b k : Nat} {e : ℤ} (large : 10 ≤ x.magnitude) (worth : x.shortest = b * 10 ^ e)
include large worth

theorem dvd_of_takes (takes : Takes x.rank (k * 10 ^ e)) (tens : 10 ∣ k) (some : k ≠ 0) (low : e ≤ 0) : 10 ∣ b := by
  obtain ⟨t, rfl⟩ := tens
  have leading := leading_of_large large
  have coarse : ((10 * t : Nat) : ℚ) * 10 ^ e = t * 10 ^ (e + 1) := by
    rw [zpow_add₀ (by norm_num), zpow_one]
    push_cast
    ring
  rw [coarse] at takes
  obtain ⟨n, digits⟩ := shortest_on_grid (nonzero_of_large large) takes (by omega) (by omega)
  exact dvd_of_tens (worth.symm.trans digits)

theorem shortest_close (takes : Takes x.rank (k * 10 ^ e)) (some : k ≠ 0) (low : e ≤ 0) (fine : ¬10 ∣ b) :
    |b * 10 ^ e - x.magnitude| ≤ |k * 10 ^ e - x.magnitude| := by
  have leading := leading_of_large large
  rw [← worth]
  apply shortest_nearest (nonzero_of_large large) takes some (by omega)
  intro n tens
  exact fine (dvd_of_tens (worth.symm.trans tens))

end

end Finite
end TidyRows
