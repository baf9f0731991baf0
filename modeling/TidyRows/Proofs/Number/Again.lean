import TidyRows.Proofs.Number.Reach
namespace TidyRows
open Shortest
variable {r : Nat}

-- Two whole numbers on both sides of a middle, each within half a place of one of two ends: where the farther one is the one
-- at the top, the ends are as far from each other as the numbers.
theorem squeezed {a b c : ℤ} {place u v : ℚ} (positive : 0 < place) (middle : u + v ≤ 2 * (b * place))
    (top : c * place ≤ v + place / 2) (bottom : a * place ≤ u + place / 2) (more : b - a < c - b) :
    v - u = (c - a) * place := by
  have whole : 2 * (b : ℚ) + 1 ≤ c + a := by
    have : 2 * b + 1 ≤ c + a := by omega
    exact_mod_cast this
  have scaled := mul_le_mul_of_nonneg_right whole (le_of_lt positive)
  linarith

-- So small a step is no whole number of places: ten to the tenth has no more than ten factors two.
theorem step_off_places {z k : ℤ} (small : (2 : ℚ) ^ z ≤ 2 ^ (-30 : ℤ)) : (2 : ℚ) ^ z ≠ k * 10 ^ (-10 : ℤ) := by
  intro same
  have low := (zpow_le_zpow_iff_right₀ one_lt_two).mp small
  obtain ⟨m, rfl⟩ : ∃ m : Nat, z = -(30 + m) := ⟨(-30 - z).toNat, by omega⟩
  have ten : (k * 2 ^ m * 2 ^ 30 : ℚ) = 10 ^ 10 := by
    rw [zpow_neg, zpow_add₀ (by norm_num), zpow_natCast, zpow_neg] at same
    field_simp at same
    norm_num at same ⊢
    linarith
  have whole : k * 2 ^ m * 2 ^ 30 = (10 ^ 10 : ℤ) := by exact_mod_cast ten
  have divides : (2 ^ 30 : ℤ) ∣ 10 ^ 10 := ⟨k * 2 ^ m, by rw [← whole]; ring⟩
  revert divides
  decide

-- Three decimals in the order `a`, `b`, `c` or the other way round. The number of rank `l` is `b` and is read from `a`, but not
-- from `c`; that of rank `j` is read from `b` and `c`, but not from `a`.
section
variable {i j l a b c : Nat} {place : ℚ} (positive : 0 < place) (own : valueOfRank l = b) (first : Takes l a)
  (moved : ¬Takes l c) (given : Takes i (a * place)) (kept : Takes j (b * place)) (again : Takes j (c * place))
  (apart : ¬Takes j (a * place))
include positive own first moved given kept again apart

theorem squeezed_above (more : b < c) (near : a * place ≤ valueOfRank i + place / 2)
    (close : c * place ≤ valueOfRank j + place / 2) :
    valueOfRank j - valueOfRank (j - 1) = (c - a) * place := by
  have later : (b : ℚ) < c := by exact_mod_cast more
  have below := valueOfRank_strictMono.monotone (Nat.sub_le l 1)
  obtain ⟨far, odd⟩ := Takes.beyond moved (by linarith)
  have within := first.high
  have before : a < b := by
    by_contra after
    have after : (b : ℚ) ≤ a := by exact_mod_cast not_lt.mp after
    exact apart (kept.between again (mul_le_mul_of_nonneg_right after (le_of_lt positive))
      (mul_le_mul_of_nonneg_right (by linarith) (le_of_lt positive)))
  have order : i < j := by
    apply Nat.lt_of_le_of_ne
    · exact given.mono kept (mul_lt_mul_of_pos_right (by exact_mod_cast before) positive)
    · rintro rfl
      exact apart given
  have bound := valueOfRank_strictMono.monotone (Nat.le_sub_one_of_lt order)
  have least := first.low
  have step := step_grows l
  have less : (b : ℤ) - a < c - b := by
    by_contra other
    have other : (c : ℚ) - b ≤ b - a := by exact_mod_cast not_lt.mp other
    have strict := (first.inner (odd (by linarith))).1
    linarith
  have middle := kept.low
  have equal := squeezed (u := valueOfRank (j - 1)) (v := valueOfRank j) positive (by push_cast; linarith) (by push_cast; linarith)
    (by push_cast; linarith) less
  push_cast at equal
  exact equal

theorem squeezed_below (less : c < b) (even : valueOfRank l - valueOfRank (l - 1) = valueOfRank (l + 1) - valueOfRank l)
    (near : valueOfRank i - place / 2 ≤ a * place) (close : valueOfRank j - place / 2 ≤ c * place) :
    valueOfRank (j + 1) - valueOfRank j = (a - c) * place := by
  have earlier : (c : ℚ) < b := by exact_mod_cast less
  have above := valueOfRank_strictMono.monotone (Nat.le_succ l)
  obtain ⟨far, odd⟩ := Takes.short moved (by linarith)
  have within := first.low
  have after : b < a := by
    by_contra before
    have before : (a : ℚ) ≤ b := by exact_mod_cast not_lt.mp before
    exact apart (again.between kept (mul_le_mul_of_nonneg_right (by linarith) (le_of_lt positive))
      (mul_le_mul_of_nonneg_right before (le_of_lt positive)))
  have order : j < i := by
    apply Nat.lt_of_le_of_ne
    · exact kept.mono given (mul_lt_mul_of_pos_right (by exact_mod_cast after) positive)
    · rintro rfl
      exact apart given
  have bound := valueOfRank_strictMono.monotone order
  have most := first.high
  have more : -(b : ℤ) - -a < -c - -b := by
    by_contra other
    have other : (b : ℚ) - c ≤ a - b := by
      have : (b : ℤ) - c ≤ a - b := by omega
      exact_mod_cast this
    have strict := (first.inner (odd (by linarith))).2
    linarith
  have middle := kept.high
  have equal := squeezed (u := -valueOfRank (j + 1)) (v := -valueOfRank j) positive (by push_cast; linarith) (by push_cast; linarith)
    (by push_cast; linarith) more
  push_cast at equal
  linarith

end

-- Only a number from `2 ^ 56` on is read from two decimals that are ten apart, and from there on a whole number is read from one
-- that ends in zero.
theorem far_of_two {p q : ℚ} (first : Takes r p) (second : Takes r q) (far : p + 10 ≤ q) : 2 ^ (56 : ℤ) ≤ valueOfRank r := by
  by_contra less
  have step := step_le (by decide) (below_power (by decide) (not_le.mp less))
  have grows := step_grows r
  have wide := first.apart second
  norm_num at step
  linarith

theorem tens_of_far {b : Nat} (far : 2 ^ (56 : ℤ) ≤ valueOfRank r) (worth : valueOfRank r = b) :
    ∃ t : Nat, 10 ∣ t ∧ t ≠ 0 ∧ Takes r t := by
  obtain ⟨top, some, known, step⟩ := exists_power_step (k := 55) (by decide)
  have known : valueOfRank top = 2 ^ (56 : ℤ) := known
  have reached : top ≤ r := by
    rw [← known] at far
    exact valueOfRank_strictMono.le_iff_le.mp far
  have before := valueOfRank_strictMono.monotone (Nat.sub_le_sub_right reached 1)
  have after := le_step far
  have least := le_step (r := r - 1) (z := 55) (by
    norm_num at known step ⊢
    linarith)
  rw [Nat.sub_add_cancel (Nat.le_trans some reached)] at least
  norm_num at after least
  obtain ⟨t, tens, low, high⟩ : ∃ t, 10 ∣ t ∧ b < t + 4 ∧ t < b + 8 := ⟨(b + 6) / 10 * 10, by omega, by omega, by omega⟩
  have more : 10 ≤ b := by
    norm_num at far
    rw [worth] at far
    have : (10 : ℚ) ≤ b := by linarith
    exact_mod_cast this
  have some : t ≠ 0 := by omega
  have low : (b : ℚ) < t + 4 := by exact_mod_cast low
  have high : (t : ℚ) < b + 8 := by exact_mod_cast high
  exact ⟨t, tens, some, .of_strict (by linarith) (by linarith)⟩

namespace Finite
variable {x : Finite}

theorem tens_of_whole {b k : Nat} (large : 10 ≤ x.magnitude) (worth : x.shortest = b) (takes : Takes x.rank k) (tens : 10 ∣ k)
    (some : k ≠ 0) : 10 ∣ b :=
  dvd_of_takes (e := 0) large (by simpa using worth) (by simpa using takes) tens some (le_refl 0)

-- Above `2 ^ 19` the grid of ten places is finer than the steps between numbers.
theorem exists_near (large : 2 ^ (19 : ℤ) < x.magnitude) : ∃ k : Nat, k ≠ 0 ∧ Takes x.rank (k * 10 ^ (-10 : ℤ)) ∧
    |k * 10 ^ (-10 : ℤ) - x.magnitude| ≤ 10 ^ (-10 : ℤ) / 2 := by
  have own : x.magnitude = valueOfRank x.rank := rfl
  obtain ⟨half, known⟩ := exists_value (k := 2 ^ 19) (by decide)
  have known : valueOfRank half = 2 ^ (19 : ℤ) := by exact_mod_cast known
  have before : half < x.rank.val := by
    apply valueOfRank_strictMono.lt_iff_lt.mp
    rw [known, ← own]
    exact large
  have unit : (10 : ℚ) ^ (-10 : ℤ) * 10 ^ (10 : ℤ) = 1 := by norm_num
  have fine : (10 : ℚ) ^ (-10 : ℤ) < 2 ^ ((19 : ℤ) - 52) := by norm_num
  have small : (10 : ℚ) ^ (-10 : ℤ) < 2 ^ (19 : ℤ) := by norm_num
  have positive : (0 : ℚ) < 10 ^ (-10 : ℤ) := by positivity
  have after := le_step (le_of_lt (own ▸ large))
  have previous : 2 ^ (19 : ℤ) ≤ valueOfRank (x.rank - 1) := by
    rw [← known]
    exact valueOfRank_strictMono.monotone (Nat.le_sub_one_of_lt before)
  have low := le_step previous
  rw [Nat.sub_add_cancel (Nat.one_le_of_lt before)] at low
  have near := abs_sub_round (x.magnitude * 10 ^ (10 : ℤ))
  generalize (10 : ℚ) ^ (10 : ℤ) = scale at *
  generalize (10 : ℚ) ^ (-10 : ℤ) = place at *
  generalize (2 : ℚ) ^ ((19 : ℤ) - 52) = step at *
  generalize (2 : ℚ) ^ (19 : ℤ) = bound at *
  generalize round (x.magnitude * scale) = k at *
  have close : |(k : ℚ) * place - x.magnitude| ≤ place / 2 := by
    calc |(k : ℚ) * place - x.magnitude| = |x.magnitude * scale - k| * place := by
          rw [← abs_of_pos positive, ← abs_mul, abs_of_pos positive, abs_sub_comm]
          congr 1
          linear_combination (-x.magnitude) * unit
      _ ≤ 1 / 2 * place := mul_le_mul_of_nonneg_right near (le_of_lt positive)
      _ = place / 2 := by ring
  obtain ⟨least, most⟩ := abs_le.mp close
  have some : 0 < k := by
    by_contra none
    have : (k : ℚ) ≤ 0 := by exact_mod_cast not_lt.mp none
    have := mul_nonpos_of_nonpos_of_nonneg this (le_of_lt positive)
    linarith
  lift k to Nat using le_of_lt some
  refine ⟨k, by omega, .of_strict ?_ ?_, close⟩
  · push_cast at least
    linarith
  · push_cast at most
    linarith

theorem shortest_near {b : Nat} (large : 2 ^ (19 : ℤ) < x.magnitude) (worth : x.shortest = b * 10 ^ (-10 : ℤ)) (fine : ¬10 ∣ b) :
    |b * 10 ^ (-10 : ℤ) - x.magnitude| ≤ 10 ^ (-10 : ℤ) / 2 := by
  obtain ⟨k, some, takes, near⟩ := exists_near large
  have more : 10 ≤ x.magnitude := le_of_lt (lt_trans (by norm_num) large)
  exact (shortest_close more worth takes some (by decide) fine).trans near

theorem shortest_tenth (large : 2 ^ (19 : ℤ) < x.magnitude) : ∃ a : Nat, x.shortest = a * 10 ^ (-10 : ℤ) := by
  obtain ⟨k, some, takes, _⟩ := exists_near large
  have more : 10 ≤ x.magnitude := le_of_lt (lt_trans (by norm_num) large)
  have leading := leading_of_large more
  exact shortest_on_grid (nonzero_of_large more) takes some (by omega)

theorem magnitude_of_places {c : Nat} (grid : x.shortest = c * 10 ^ (-10 : ℤ)) (bits : 2 ^ 53 ≤ c) : 900000 ≤ x.magnitude := by
  have bits : (9007199254740992 : ℚ) ≤ c := by exact_mod_cast bits
  have less : ((900000 : Nat) : ℚ) < x.shortest := by
    rw [grid]
    norm_num
    linarith
  exact_mod_cast shortest_reaches (by decide) less

end Finite

-- What two roundings go through: `n` has `a` places and is read as `y`, the digits `b` of this one are read as `w`, which has `c`
-- places and is read as `v` with the digits `d`.
structure Passes (n y w v : Finite) (a b c d : Nat) : Prop where
  source : n.shortest = a * 10 ^ (-10 : ℤ)
  out : Takes y.rank a
  middle : y.shortest = b
  back : Takes w.rank (b * 10 ^ (-10 : ℤ))
  result : w.shortest = c * 10 ^ (-10 : ℤ)
  again : Takes v.rank c
  last : v.shortest = d
  large : 2 ^ (19 : ℤ) < n.magnitude
  bits : 2 ^ 53 ≤ c
  small : w.magnitude < 2 ^ (23 : ℤ)

namespace Passes
variable {n y w v : Finite} {a b c d : Nat} (p : Passes n y w v a b c d)
include p

theorem result_large : 900000 ≤ w.magnitude := Finite.magnitude_of_places p.result p.bits

theorem nonzero : 0 < w.rank.val := Finite.nonzero_of_large (le_trans (by norm_num) p.result_large)

theorem kept : Takes w.rank (c * 10 ^ (-10 : ℤ)) := by
  have own := Finite.takes_shortest p.nonzero
  rwa [p.result] at own

theorem steps : valueOfRank (w.rank + 1) - valueOfRank w.rank ≤ 2 ^ (-30 : ℤ) ∧
    valueOfRank w.rank - valueOfRank (w.rank - 1) ≤ 2 ^ (-30 : ℤ) := by
  have after := step_le (by decide) (below_power (k := 23) (by decide) p.small)
  exact ⟨after, (step_grows w.rank).trans after⟩

theorem close : b < c + 10 ∧ c < b + 10 := by
  obtain ⟨after, before⟩ := p.steps
  have upward := p.kept.apart p.back
  have downward := p.back.apart p.kept
  have fine : (2 : ℚ) ^ (-30 : ℤ) < 10 * 10 ^ (-10 : ℤ) := by norm_num
  have unit : (0 : ℚ) < 10 ^ (-10 : ℤ) := by positivity
  generalize (10 : ℚ) ^ (-10 : ℤ) = place at *
  have less {i j : Nat} (apart : (i : ℚ) * place - j * place < 10 * place) : i < j + 10 := by
    have : (i : ℚ) * place < ((j + 10 : Nat) : ℚ) * place := by
      push_cast
      linarith
    exact_mod_cast lt_of_mul_lt_mul_right this (le_of_lt unit)
  exact ⟨less (by linarith), less (by linarith)⟩

theorem same_digits (taken : Takes y.rank c) : d = b := by
  have written : v.shortest = y.shortest := Finite.shortest_same (Fin.ext (p.again.unique taken))
  rw [p.last, p.middle] at written
  exact_mod_cast written

theorem least : 2 ^ 53 ≤ b + 9 := by
  have := p.close
  have := p.bits
  omega

theorem own : Takes y.rank b := by
  have some : y.shortest ≠ 0 := by
    rw [p.middle]
    have := p.least
    exact_mod_cast (by omega : b ≠ 0)
  have own := Finite.takes_shortest (Finite.nonzero_of_shortest some)
  rwa [p.middle] at own

theorem middle_large : 10 ≤ y.magnitude := by
  have := p.least
  exact_mod_cast p.own.reaches (k := 10) (by decide) (by exact_mod_cast (by omega : 10 < b))

theorem last_large : 10 ≤ v.magnitude := by
  have := p.bits
  exact_mod_cast p.again.reaches (k := 10) (by decide) (by exact_mod_cast (by omega : 10 < c))

theorem last_taken : Takes v.rank d := by
  have own := Finite.takes_shortest (Finite.nonzero_of_large p.last_large)
  rwa [p.last] at own

theorem whole : ∃ k : Nat, y.magnitude = k := by
  have := p.least
  have large := p.own.reaches (k := 2 ^ 52) (by decide) (by exact_mod_cast (by omega : 2 ^ 52 < b))
  exact whole_of_large (by exact_mod_cast large)

section
variable (fine : ¬10 ∣ b)
include fine

theorem untaken {k : Nat} (tens : 10 ∣ k) (some : k ≠ 0) : ¬Takes y.rank k := fun taken =>
  fine (Finite.tens_of_whole p.middle_large p.middle taken tens some)

theorem own_value : valueOfRank y.rank = b := by
  obtain ⟨k, worth⟩ := p.whole
  have large := p.middle_large
  have some : k ≠ 0 := by
    rintro rfl
    rw [worth] at large
    norm_num at large
  have count : y.shortest = b * 10 ^ (0 : ℤ) := by rw [p.middle, zpow_zero, mul_one]
  have taken : Takes y.rank (k * 10 ^ (0 : ℤ)) := by
    rw [zpow_zero, mul_one, ← worth]
    exact .itself (Finite.nonzero_of_large large)
  have close := Finite.shortest_close large count taken some (le_refl 0) fine
  rw [zpow_zero, mul_one, mul_one, worth, sub_self, abs_zero] at close
  have same := abs_eq_zero.mp (le_antisymm close (abs_nonneg _))
  show y.magnitude = b
  rw [worth]
  linarith

-- A decimal that ends in zero is not moved: the number that it is read as has no second one with so few digits.
theorem tens_last (tens : 10 ∣ c) : d = c := by
  have bits := p.bits
  have nearby := p.close
  have lastTens : 10 ∣ d := Finite.tens_of_whole p.last_large p.last p.again tens (by omega)
  by_contra apart
  have far : 2 ^ (56 : ℤ) ≤ valueOfRank v.rank := by
    rcases Nat.lt_or_gt_of_ne apart with less | more
    · exact far_of_two p.last_taken p.again (by exact_mod_cast (by omega : d + 10 ≤ c))
    · exact far_of_two p.again p.last_taken (by exact_mod_cast (by omega : c + 10 ≤ d))
  have worth := p.own_value fine
  have near : valueOfRank y.rank < 2 ^ (56 : ℤ) := by
    by_contra beyond
    obtain ⟨t, ends, some, taken⟩ := tens_of_far (not_lt.mp beyond) worth
    exact p.untaken fine ends some taken
  -- the last number before `2 ^ 56` is eight before it, and the middle is read as the power
  obtain ⟨top, some, known, step⟩ := exists_power_step (k := 55) (by decide)
  have known : valueOfRank top = 2 ^ (56 : ℤ) := known
  rw [← known] at far near
  have before := valueOfRank_strictMono.monotone (Nat.le_sub_one_of_lt (valueOfRank_strictMono.lt_iff_lt.mp near))
  have after := valueOfRank_strictMono.monotone (Nat.sub_le_sub_right (valueOfRank_strictMono.le_iff_le.mp far) 1)
  have low := p.again.low
  norm_num at known step
  have least : (72057594037927932 : ℚ) ≤ c := by linarith
  have most : (b : ℚ) ≤ 72057594037927928 := by linarith
  have least : 72057594037927932 ≤ c := by exact_mod_cast least
  have most : b ≤ 72057594037927928 := by exact_mod_cast most
  omega

end

theorem source_taken : Takes n.rank (a * 10 ^ (-10 : ℤ)) := by
  have large : 10 ≤ n.magnitude := le_of_lt (lt_trans (by norm_num) p.large)
  have own := Finite.takes_shortest (Finite.nonzero_of_large large)
  rwa [p.source] at own

theorem source_apart (moved : ¬Takes y.rank c) : ¬Takes w.rank (a * 10 ^ (-10 : ℤ)) := by
  intro taken
  have written : n.shortest = w.shortest := Finite.shortest_same (Fin.ext (p.source_taken.unique taken))
  have unit : (10 : ℚ) ^ (-10 : ℤ) ≠ 0 := by positivity
  rw [p.source, p.result] at written
  have equal : (a : ℚ) = c := mul_right_cancel₀ unit written
  exact moved (equal ▸ p.out)

theorem source_near (fine : ¬10 ∣ b) : |a * 10 ^ (-10 : ℤ) - n.magnitude| ≤ 10 ^ (-10 : ℤ) / 2 := by
  apply Finite.shortest_near p.large p.source
  intro tens
  refine p.untaken fine tens ?_ p.out
  rintro rfl
  have low := p.out.low
  have large : 10 ≤ valueOfRank y.rank := p.middle_large
  have least : 0 ≤ valueOfRank (y.rank - 1) := div_nonneg (Nat.cast_nonneg _) (le_of_lt Double.ones_positive)
  rw [Nat.cast_zero] at low
  linarith

theorem result_near (fine : ¬10 ∣ c) : |c * 10 ^ (-10 : ℤ) - w.magnitude| ≤ 10 ^ (-10 : ℤ) / 2 :=
  Finite.shortest_near (lt_of_lt_of_le (by norm_num) p.result_large) p.result fine

theorem not_above (fine : ¬10 ∣ b) (other : ¬10 ∣ c) (moved : ¬Takes y.rank c) : ¬b < c := by
  intro more
  have unit : (0 : ℚ) < 10 ^ (-10 : ℤ) := by positivity
  have near := (abs_le.mp (p.source_near fine)).2
  have close := (abs_le.mp (p.result_near other)).2
  have equal := squeezed_above unit (p.own_value fine) p.out moved p.source_taken p.back p.kept (p.source_apart moved) more
    (by rw [add_comm]; exact sub_le_iff_le_add.mp near) (by rw [add_comm]; exact sub_le_iff_le_add.mp close)
  obtain ⟨z, power⟩ := step_power (w.rank - 1)
  rw [Nat.sub_add_cancel p.nonzero] at power
  have small := p.steps.2
  rw [power] at equal small
  exact step_off_places (k := c - a) small (by exact_mod_cast equal)

theorem not_below (fine : ¬10 ∣ b) (other : ¬10 ∣ c) (moved : ¬Takes y.rank c)
    (even : valueOfRank y.rank - valueOfRank (y.rank - 1) = valueOfRank (y.rank + 1) - valueOfRank y.rank) : ¬c < b := by
  intro less
  have unit : (0 : ℚ) < 10 ^ (-10 : ℤ) := by positivity
  have near := (abs_le.mp (p.source_near fine)).1
  have close := (abs_le.mp (p.result_near other)).1
  have equal := squeezed_below unit (p.own_value fine) p.out moved p.source_taken p.back p.kept (p.source_apart moved) less even
    (by linarith [show n.magnitude = valueOfRank n.rank from rfl]) (by linarith [show w.magnitude = valueOfRank w.rank from rfl])
  obtain ⟨z, power⟩ := step_power w.rank
  have small := p.steps.1
  rw [power] at equal small
  exact step_off_places (k := a - c) small (by exact_mod_cast equal)

theorem taken_after {k : Nat} (fine : ¬10 ∣ b) (some : 0 < k)
    (within : 2 * (k : ℚ) < valueOfRank (y.rank + 1) - valueOfRank y.rank) : Takes y.rank ((b + k : Nat) : ℚ) := by
  have worth := p.own_value fine
  have before := valueOfRank_strictMono.monotone (Nat.sub_le y.rank 1)
  have more : (0 : ℚ) < k := by exact_mod_cast some
  push_cast
  exact .of_strict (by linarith) (by linarith)

-- Below a power of two the steps are half as long. There are only three of them that are not too small or too large.
section
variable {z : ℤ} (fine : ¬10 ∣ b) (power : valueOfRank y.rank = 2 ^ (z + 53))
include fine power

theorem power_low (less : c < b) : 0 < z := by
  have earlier : (c : ℚ) < b := by exact_mod_cast less
  have bits : (2 : ℚ) ^ (53 : ℤ) ≤ c := by exact_mod_cast p.bits
  have low : 53 < z + 53 := by
    apply (zpow_lt_zpow_iff_right₀ (one_lt_two (α := ℚ))).mp
    rw [← power, p.own_value fine]
    linarith
  omega

theorem power_high : z < 4 := by
  have high : z + 53 < 57 := by
    apply (zpow_lt_zpow_iff_right₀ (one_lt_two (α := ℚ))).mp
    have most := p.back.high
    have next := below_power (by decide) p.small
    have here : valueOfRank w.rank < 2 ^ (23 : ℤ) := p.small
    rw [← power, p.own_value fine, show (2 : ℚ) ^ (57 : ℤ) = 144115188075855872 by norm_num]
    norm_num at most next here
    linarith
  omega

theorem digits_of_power {m : Nat} (worth : (2 : ℚ) ^ (z + 53) = m) : b = m := by
  rw [p.own_value fine, worth] at power
  exact_mod_cast power

end

-- At the least of the three the result is below `2 ^ 21`, so that its digits are within a step of two of the decimal.
theorem not_below_least (other : ¬10 ∣ c) (value : b = 18014398509481984) : ¬c + 2 ≤ b := by
  intro apart
  have apart : (c : ℚ) + 2 ≤ b := by exact_mod_cast apart
  obtain ⟨i, known⟩ := exists_value (k := 1900000) (by decide)
  have under := p.back.rank_le (k := i) (by
    rw [known, value]
    norm_num)
  have size : valueOfRank w.rank < 2 ^ (21 : ℤ) := by
    refine (valueOfRank_strictMono.monotone under).trans_lt ?_
    rw [known]
    norm_num
  have step := step_le (by decide) (below_power (by decide) size)
  have middle := p.back.high
  have near := (abs_le.mp (p.result_near other)).1
  rw [show w.magnitude = valueOfRank w.rank from rfl] at near
  norm_num at near step middle
  linarith

theorem not_below_power (fine : ¬10 ∣ b) (other : ¬10 ∣ c) (moved : ¬Takes y.rank c) {z : ℤ} (even : y.rank.val % 2 = 0)
    (power : valueOfRank y.rank = 2 ^ (z + 53)) (after : valueOfRank (y.rank + 1) - valueOfRank y.rank = 2 ^ (z + 1))
    (before : valueOfRank y.rank - valueOfRank (y.rank - 1) = 2 ^ z) : ¬c < b := by
  intro less
  have low := p.power_low fine power less
  have high := p.power_high fine power
  rcases (by omega : z = 1 ∨ z = 2 ∨ z = 3) with rfl | rfl | rfl
  · apply p.not_below_least other (p.digits_of_power fine power (by norm_num))
    have worth := p.own_value fine
    have earlier : (c : ℚ) < b := by exact_mod_cast less
    have grows : valueOfRank (y.rank - 1) ≤ valueOfRank y.rank := valueOfRank_strictMono.monotone (Nat.sub_le _ 1)
    obtain ⟨far, odd⟩ := Takes.short moved (by linarith [step_grows y.rank])
    have strict : 2 * (c : ℚ) < valueOfRank (y.rank - 1) + valueOfRank y.rank :=
      lt_of_le_of_ne far fun same => by have := odd same; omega
    norm_num at before
    have : (c : ℚ) + 1 < b := by linarith
    have : c + 1 < b := by exact_mod_cast this
    omega
  -- at the other two the next whole number that ends in zero is read as the same
  · have value := p.digits_of_power fine power (m := 36028797018963968) (by norm_num)
    exact p.untaken fine (by omega) (by omega) (p.taken_after (k := 2) fine (by decide) (by norm_num [after]))
  · have value := p.digits_of_power fine power (m := 72057594037927936) (by norm_num)
    exact p.untaken fine (by omega) (by omega) (p.taken_after (k := 4) fine (by decide) (by norm_num [after]))

theorem taken (fine : ¬10 ∣ b) (other : ¬10 ∣ c) : Takes y.rank c := by
  by_contra moved
  rcases Nat.lt_trichotomy b c with more | same | less
  · exact p.not_above fine other moved more
  · exact moved (same ▸ p.own)
  · rcases step_before (Finite.nonzero_of_large p.middle_large) with equal | ⟨even, z, power, after, before⟩
    · exact p.not_below fine other moved equal less
    · exact p.not_below_power fine other moved even power after before less

theorem settles : Takes w.rank (d * 10 ^ (-10 : ℤ)) := by
  by_cases fine : 10 ∣ b
  · have tens : 10 ∣ c := by
      have large : 10 ≤ w.magnitude := le_trans (by norm_num) p.result_large
      have := p.least
      exact Finite.dvd_of_takes large p.result p.back fine (by omega) (by decide)
    have same : c = b := by
      have := p.close
      omega
    rw [p.same_digits (same ▸ p.own)]
    exact p.back
  · by_cases tens : 10 ∣ c
    · rw [p.tens_last fine tens]
      exact p.kept
    · rw [p.same_digits (p.taken fine tens)]
      exact p.back

end Passes

namespace Double
variable {n x y w : Finite} {k : Nat}

theorem ofDecimal_nonzero {negative : Bool} {e : ℤ} (found : ofDecimal negative k e = .finite x) (large : 1 ≤ (k : ℚ) * 10 ^ e) :
    0 < x.rank.val := by
  obtain ⟨sign, closest⟩ := ofDecimal_closest found
  have one := Finite.power_magnitude 0 (by decide)
  have near := closest.near ⟨negative, (Finite.power 0 (by decide)).rank⟩
  rw [x.value_signed, Finite.value_signed, sign, signed_same, signed_same] at near
  apply Nat.pos_of_ne_zero
  intro zero
  unfold Finite.magnitude at one
  rw [zero, unitsOfRank_zero, Nat.cast_zero, zero_div, zero_sub, abs_neg, abs_of_pos (by linarith)] at near
  dsimp only at near
  rw [one, pow_zero, abs_of_nonpos (by linarith)] at near
  linarith

theorem roundAway_reached (rounded : roundAway (.finite x) = .finite y) (bits : k ≤ 2 ^ 53) (more : (k : ℚ) < y.magnitude) :
    (k : ℚ) ≤ x.magnitude := by
  by_contra less
  have ones := ones_positive
  have units : x.units ≤ k * unitsPerOne := by
    have : (unitsOfRank x.rank : ℚ) < k * unitsPerOne := (div_lt_iff₀ ones).mp (not_le.mp less)
    exact_mod_cast le_of_lt this
  have below : roundDiv .up x.units unitsPerOne ≤ k := roundDiv_le units unitsPerOne_positive
  obtain ⟨z, known, _, worth⟩ := ofRatio_whole x.negative (below.trans bits)
  have same : Double.finite y = .finite z := rounded.symm.trans known
  cases same
  have size : y.magnitude = roundDiv .up x.units unitsPerOne := by
    unfold Finite.magnitude
    rw [show unitsOfRank y.rank = roundDiv .up x.units unitsPerOne * unitsPerOne from worth, Nat.cast_mul,
      mul_div_cancel_right₀ _ (ne_of_gt ones)]
  rw [size] at more
  exact absurd below (Nat.not_le_of_lt (by exact_mod_cast more))

theorem roundAway_large (large : 2 ^ 52 ≤ x.magnitude) : roundAway (.finite x) = .finite x := by
  obtain ⟨k, worth⟩ := whole_of_large (by exact_mod_cast large : 2 ^ (52 : ℤ) ≤ valueOfRank x.rank)
  exact roundAway_kept (units_of_value worth)

section
variable {c : Nat} (grid : w.shortest = c * 10 ^ (-10 : ℤ)) (bits : 2 ^ 53 ≤ c)
include grid bits

-- All numbers that the first rounding goes through are large where the result is.
theorem first_pass (found : (finite n).roundPlaces 10 = .finite w) : ∃ (y : Finite) (a b : Nat),
    n.shortest = a * 10 ^ (-10 : ℤ) ∧ Takes y.rank a ∧ y.shortest = b ∧ Takes w.rank (b * 10 ^ (-10 : ℤ)) ∧
      2 ^ (19 : ℤ) < n.magnitude := by
  obtain ⟨y, z, out, rounded, back⟩ := roundPlaces_parts (by decide) found
  obtain ⟨b, whole⟩ := Finite.shortest_whole (roundAway_whole rounded)
  have same : z.shortest * 10 ^ (-10 : ℤ) = b * 10 ^ (-10 : ℤ) := by rw [whole]
  rw [show -((10 : Nat) : ℤ) = -10 from rfl, movePoint_decimal same] at back
  have sign := (ofDecimal_closest back).1
  rw [← sign] at back
  have large := Finite.magnitude_of_places grid bits
  have kept := Finite.takes_of_read (Finite.nonzero_of_large (le_trans (by norm_num) large)) back
  have digits := kept.reached (k := 850000) (by decide) (lt_of_lt_of_le (by norm_num) large)
  have middle : ((8400000000000000 : Nat) : ℚ) ≤ z.magnitude := by
    apply Finite.shortest_reaches (by decide)
    have : (8500000000000000 : ℚ) ≤ b := by
      norm_num at digits
      linarith
    rw [whole]
    exact lt_of_lt_of_le (by norm_num) this
  have start : ((8300000000000000 : Nat) : ℚ) ≤ y.magnitude :=
    roundAway_reached rounded (by decide) (lt_of_lt_of_le (by norm_num) middle)
  have equal : Double.finite y = .finite z := (roundAway_large (le_trans (by norm_num) start)).symm.trans rounded
  cases equal
  obtain ⟨ds, e, worth, moved⟩ := movePoint_finite n 10
  rw [show ((10 : Nat) : ℤ) = 10 from rfl, moved] at out
  have same := (ofDecimal_closest out).1
  rw [← same] at out
  have taken := Finite.takes_of_read (Finite.nonzero_of_large (le_trans (by norm_num) start)) out
  rw [zpow_add₀ (by norm_num), ← mul_assoc, ← worth] at taken
  have reached := taken.reached (k := 8200000000000000) (by decide) (lt_of_lt_of_le (by norm_num) start)
  have source : ((810000 : Nat) : ℚ) ≤ n.magnitude := by
    apply Finite.shortest_reaches (by decide)
    norm_num at reached ⊢
    linarith
  have far : 2 ^ (19 : ℤ) < n.magnitude := lt_of_lt_of_le (by norm_num) source
  obtain ⟨a, places⟩ := Finite.shortest_tenth far
  rw [places, mul_assoc, ← zpow_add₀ (by norm_num), neg_add_cancel, zpow_zero, mul_one] at taken
  exact ⟨y, a, b, places, taken, whole, kept, far⟩

theorem second_pass (small : w.magnitude < 2 ^ (23 : ℤ)) : ∃ (v : Finite) (d : Nat), v.negative = w.negative ∧
    movePoint (.finite w) 10 = .finite v ∧ 2 ^ 52 ≤ v.magnitude ∧ Takes v.rank c ∧ v.shortest = d := by
  have same : w.shortest * 10 ^ (10 : ℤ) = c * 10 ^ (0 : ℤ) := by
    rw [grid, mul_assoc, ← zpow_add₀ (by norm_num)]
    rfl
  have finite : (movePoint (.finite w) 10).isFinite = true := by
    rw [movePoint_isFinite]
    refine Finite.fits_of_small (small.trans ?_) 10
    rw [← zpow_natCast]
    exact zpow_lt_zpow_right₀ one_lt_two (by decide)
  obtain ⟨v, moved⟩ := isFinite_iff.mp finite
  have read := moved
  rw [movePoint_decimal same] at read
  have sign := (ofDecimal_closest read).1
  rw [← sign] at read
  have large : (2 : ℚ) ^ 53 ≤ c := by exact_mod_cast bits
  have again := Finite.takes_of_read (ofDecimal_nonzero read (by rw [zpow_zero, mul_one]; linarith)) read
  rw [zpow_zero, mul_one] at again
  have reached := again.reaches (k := 2 ^ 52) (by decide) (by push_cast; linarith)
  have size : 2 ^ 52 ≤ v.magnitude := by exact_mod_cast reached
  obtain ⟨k, worth⟩ := whole_of_large (by exact_mod_cast size : 2 ^ (52 : ℤ) ≤ valueOfRank v.rank)
  obtain ⟨d, written⟩ := Finite.shortest_whole (x := v) (by
    show unitsOfRank v.rank % unitsPerOne = 0
    rw [units_of_value worth, Nat.mul_mod_left])
  exact ⟨v, d, sign, moved, size, again, written⟩

end

-- The sign makes no difference to that.
theorem roundPlaces_again (found : (finite n).roundPlaces 10 = .finite w) (same : x.rank = w.rank)
    (small : x.magnitude < 2 ^ (23 : ℤ)) : (finite x).roundPlaces 10 = .finite x := by
  have written := Finite.shortest_same same
  obtain ⟨c, share⟩ := roundPlaces_share found
  rw [← written] at share
  rcases Nat.lt_or_ge c (2 ^ 53) with fits | bits
  · exact roundPlaces_fixed (by decide) share fits
  · have grid : x.shortest = c * 10 ^ (-10 : ℤ) := by
      rw [← share, mul_assoc, ← zpow_natCast, ← zpow_add₀ (by norm_num)]
      simp
    obtain ⟨y, a, b, source, out, middle, back, large⟩ := first_pass (written ▸ grid) bits found
    rw [← same] at back
    obtain ⟨v, d, sign, moved, size, again, last⟩ := second_pass grid bits small
    have passes : Passes n y x v a b c d := ⟨source, out, middle, back, grid, again, last, large, bits, small⟩
    have same : v.shortest * 10 ^ (-10 : ℤ) = d * 10 ^ (-10 : ℤ) := by rw [last]
    unfold roundPlaces
    dsimp only
    rw [show (min ((10 : Nat) : ℤ) maxPlaces : ℤ) = 10 by decide, moved, roundAway_large size, movePoint_decimal same, sign]
    exact Finite.read_of_takes passes.nonzero passes.settles

end Double
end TidyRows
