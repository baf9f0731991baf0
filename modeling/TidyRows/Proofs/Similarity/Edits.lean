import Mathlib
import TidyRows.Similarity
namespace TidyRows
namespace Similarity

inductive Edit : List Char → List Char → Prop where
  | insert (before after : List Char) (c : Char) : Edit (before ++ after) (before ++ c :: after)
  | delete (before after : List Char) (c : Char) : Edit (before ++ c :: after) (before ++ after)
  | replace (before after : List Char) (c d : Char) : Edit (before ++ c :: after) (before ++ d :: after)

inductive Edits : Nat → List Char → List Char → Prop where
  | done : Edits 0 a a
  | next (edit : Edit a b) (rest : Edits n b c) : Edits (n + 1) a c

theorem Edit.symm (edit : Edit a b) : Edit b a := by
  cases edit with
  | insert before after c => exact .delete before after c
  | delete before after c => exact .insert before after c
  | replace before after c d => exact .replace before after d c

theorem Edit.cons (x : Char) (edit : Edit a b) : Edit (x :: a) (x :: b) := by
  cases edit with
  | insert before after c => exact .insert (x :: before) after c
  | delete before after c => exact .delete (x :: before) after c
  | replace before after c d => exact .replace (x :: before) after c d

theorem Edit.reverse (edit : Edit a b) : Edit a.reverse b.reverse := by
  cases edit with
  | insert before after c => simpa using Edit.insert after.reverse before.reverse c
  | delete before after c => simpa using Edit.delete after.reverse before.reverse c
  | replace before after c d => simpa using Edit.replace after.reverse before.reverse c d

namespace Edits

theorem single (edit : Edit a b) : Edits 1 a b := .next edit .done

theorem trans (first : Edits n a b) (second : Edits m b c) : Edits (n + m) a c := by
  induction first with
  | done => simpa using second
  | next edit _ ih =>
    have later := ih second
    simpa only [Nat.add_right_comm] using Edits.next edit later

theorem symm (edits : Edits n a b) : Edits n b a := by
  induction edits with
  | done => exact .done
  | next edit _ ih => exact ih.trans (.single edit.symm)

theorem cons (x : Char) (edits : Edits n a b) : Edits n (x :: a) (x :: b) := by
  induction edits with
  | done => exact .done
  | next edit _ ih => exact .next (edit.cons x) ih

theorem reverse (edits : Edits n a b) : Edits n a.reverse b.reverse := by
  induction edits with
  | done => exact .done
  | next edit _ ih => exact .next edit.reverse ih

end Edits

def fewest : List Char → List Char → Nat
  | [], b => b.length
  | a, [] => a.length
  | c :: a, d :: b =>
    min (min (fewest a (d :: b) + 1) (fewest (c :: a) b + 1)) (fewest a b + if c = d then 0 else 1)

@[simp] theorem fewest_nil_left (b : List Char) : fewest [] b = b.length := by simp [fewest]

@[simp] theorem fewest_nil_right (a : List Char) : fewest a [] = a.length := by cases a <;> simp [fewest]

theorem fewest_cons_cons (c d : Char) (a b : List Char) : fewest (c :: a) (d :: b) =
    min (min (fewest a (d :: b) + 1) (fewest (c :: a) b + 1)) (fewest a b + if c = d then 0 else 1) := by
  rw [fewest]

theorem fewest_self (a : List Char) : fewest a a = 0 := by
  induction a with
  | nil => simp
  | cons c a ih => simp [fewest_cons_cons, ih]

theorem fewest_delete (c : Char) (a b : List Char) : fewest (c :: a) b ≤ fewest a b + 1 := by
  cases b with
  | nil => simp
  | cons d b =>
    rw [fewest_cons_cons]
    omega

theorem fewest_insert (d : Char) (a b : List Char) : fewest a (d :: b) ≤ fewest a b + 1 := by
  cases a with
  | nil => simp
  | cons c a =>
    rw [fewest_cons_cons]
    omega

theorem fewest_both (c d : Char) (a b : List Char) :
    fewest (c :: a) (d :: b) ≤ fewest a b + if c = d then 0 else 1 := by
  rw [fewest_cons_cons]
  exact Nat.min_le_right _ _

theorem fewest_replace (c d : Char) (a b : List Char) : fewest (c :: a) (d :: b) ≤ fewest a b + 1 := by
  have both := fewest_both c d a b
  split at both <;> omega

-- A change within a text moves its distance to any other by one at most; so it does behind one more character.
theorem close_cons {a b : List Char} (close : ∀ t, fewest a t ≤ fewest b t + 1) (x : Char) (t : List Char) :
    fewest (x :: a) t ≤ fewest (x :: b) t + 1 := by
  induction t with
  | nil => simpa using close []
  | cons y t ih =>
    have whole := close (y :: t)
    have behind := close t
    have deleted := fewest_delete x a (y :: t)
    have inserted := fewest_insert y (x :: a) t
    have both := fewest_both x y a t
    rw [fewest_cons_cons x y b t]
    omega

theorem close_insert (c : Char) (a t : List Char) : fewest a t ≤ fewest (c :: a) t + 1 := by
  induction t with
  | nil => simp; omega
  | cons y t ih =>
    have inserted := fewest_insert y a t
    rw [fewest_cons_cons c y a t]
    omega

theorem close_replace (c d : Char) (a t : List Char) : fewest (c :: a) t ≤ fewest (d :: a) t + 1 := by
  induction t with
  | nil => simp
  | cons y t ih =>
    have deleted := fewest_delete c a (y :: t)
    have inserted := fewest_insert y (c :: a) t
    have replaced := fewest_replace c y a t
    rw [fewest_cons_cons d y a t]
    omega

theorem Edit.close (edit : Edit a b) : ∀ t, fewest a t ≤ fewest b t + 1 := by
  cases edit with
  | insert before after c =>
    induction before with
    | nil => exact close_insert c after
    | cons x before ih => exact close_cons ih x
  | delete before after c =>
    induction before with
    | nil => exact fewest_delete c after
    | cons x before ih => exact close_cons ih x
  | replace before after c d =>
    induction before with
    | nil => exact close_replace c d after
    | cons x before ih => exact close_cons ih x

theorem Edits.at_least (edits : Edits n a b) : fewest a b ≤ n := by
  induction edits with
  | done => rw [fewest_self]
  | @next _ _ _ c edit _ ih =>
    have near := edit.close c
    omega

theorem Edits.either (one : Edits n a b) (two : Edits m a b) : Edits (min n m) a b := by
  rcases Nat.le_total n m with less | less
  · rwa [Nat.min_eq_left less]
  · rwa [Nat.min_eq_right less]

theorem Edits.all_deleted (a : List Char) : Edits a.length a [] := by
  induction a with
  | nil => exact .done
  | cons c a ih => exact .next (.delete [] a c) ih

theorem fewest_enough (a b : List Char) : Edits (fewest a b) a b := by
  fun_induction fewest a b with
  | case1 b => exact (Edits.all_deleted b).symm
  | case2 a _ => exact Edits.all_deleted a
  | case3 c a d b deleted inserted kept =>
    have first : Edits (fewest a (d :: b) + 1) (c :: a) (d :: b) := .next (.delete [] a c) deleted
    have second : Edits (fewest (c :: a) b + 1) (c :: a) (d :: b) := inserted.trans (.single (.insert [] b d))
    have third : Edits (fewest a b + if c = d then 0 else 1) (c :: a) (d :: b) := by
      split
      · rename_i same
        subst same
        exact kept.cons c
      · exact (kept.cons c).trans (.single (.replace [] b c d))
    exact (first.either second).either third

theorem fewest_isLeast (a b : List Char) : IsLeast {n | Edits n a b} (fewest a b) :=
  ⟨fewest_enough a b, fun _ edits => edits.at_least⟩

-- Read backwards, two texts are as far apart as before.
theorem fewest_reverse (a b : List Char) : fewest a.reverse b.reverse = fewest a b := by
  apply Nat.le_antisymm
  · exact (fewest_enough a b).reverse.at_least
  · have back := (fewest_enough a.reverse b.reverse).reverse
    rw [List.reverse_reverse, List.reverse_reverse] at back
    exact back.at_least

-- From a start of a text to the starts of another that are longer than `p`; both are turned round, so that a longer
-- start has one more character before it.
def distances (x p : List Char) : List Char → List Nat
  | [] => []
  | c :: rest => fewest x (c :: p) :: distances x (c :: p) rest

theorem distances_empty (p rest : List Char) : distances [] p rest = List.range' (p.length + 1) rest.length := by
  induction rest generalizing p with
  | nil => rfl
  | cons c rest ih =>
    simp only [distances, fewest_nil_left, List.length_cons, List.range'_succ]
    rw [ih (c :: p), List.length_cons]

theorem nextRow_distances (a : Char) (x p rest : List Char) :
    nextRow a (fewest x p) (fewest (a :: x) p) rest (distances x p rest) = distances (a :: x) p rest := by
  induction rest generalizing p with
  | nil => rfl
  | cons c rest ih =>
    have here : min (min (fewest x (c :: p) + 1) (fewest (a :: x) p + 1)) (fewest x p + if a = c then 0 else 1) =
        fewest (a :: x) (c :: p) := (fewest_cons_cons a c x p).symm
    simp only [distances, nextRow, here, ih (c :: p)]

-- Every row holds the distances of one start of the first text to all starts of the second.
theorem rowsFrom_distances (b x rest : List Char) :
    rowsFrom b x.length (x.length :: distances x [] b) rest =
      (rest.reverse ++ x).length :: distances (rest.reverse ++ x) [] b := by
  induction rest generalizing x with
  | nil => rfl
  | cons a rest ih =>
    have row := nextRow_distances a x [] b
    simp only [fewest_nil_right, List.length_cons] at row
    have step := ih (a :: x)
    simp only [List.length_cons] at step
    simp only [rowsFrom, List.head?_cons, Option.getD_some, List.drop_one, List.tail_cons, row, step,
      List.reverse_cons, List.append_assoc, List.singleton_append]

theorem distances_last (x p rest : List Char) :
    (fewest x p :: distances x p rest).getLast? = some (fewest x (rest.reverse ++ p)) := by
  induction rest generalizing p with
  | nil => rfl
  | cons c rest ih =>
    rw [distances, List.getLast?_cons_cons, ih (c :: p)]
    simp

theorem range_distances (b : List Char) : List.range (b.length + 1) = 0 :: distances [] [] b := by
  rw [distances_empty, List.range_eq_range', List.range'_succ]
  rfl

theorem distance_eq_fewest (a b : List Char) : distance a b = fewest a b := by
  have rows := rowsFrom_distances b [] a
  have last := distances_last a.reverse [] b
  simp only [List.append_nil, fewest_nil_right, List.length_nil] at rows last
  rw [distance, range_distances, rows, last, Option.getD_some, fewest_reverse]

-- One pass over the second text that writes every place of a row but the first. Nothing comes of it if it reads or
-- writes outside a row.
def fillRow (a : Char) (above : List Nat) : Nat → List Char → List Nat → Option (List Nat)
  | _, [], row => some row
  | j, b :: rest, row => do
    let up ← above[j + 1]?
    let left ← row[j]?
    let diagonal ← above[j]?
    guard (j + 1 < row.length)
    fillRow a above (j + 1) rest (row.set (j + 1) (min (min (up + 1) (left + 1)) (diagonal + if a = b then 0 else 1)))

-- Two rows that change places after each pass: what the row to be written still holds is from the pass before the last.
def fillRows (b : List Char) : Nat → List Nat → List Nat → List Char → Option (List Nat)
  | _, last, _, [] => some last
  | i, last, spare, a :: rest => do
    guard (0 < spare.length)
    let row ← fillRow a last 0 b (spare.set 0 (i + 1))
    fillRows b (i + 1) row last rest

def distanceInTwoRows (a b : List Char) : Option Nat := do
  let last ← fillRows b 0 (List.range (b.length + 1)) (List.replicate (b.length + 1) 0) a
  last[b.length]?

-- `done` is the part of the row that has been written, `old` what it still holds.
theorem fillRow_eq (a : Char) (rest : List Char) (before done above old : List Nat) (diagonal left : Nat)
    (same : before.length = done.length) (full : above.length = rest.length) (room : old.length = rest.length) :
    fillRow a (before ++ diagonal :: above) done.length rest (done ++ left :: old) =
      some (done ++ left :: nextRow a diagonal left rest above) := by
  induction rest generalizing before done above old diagonal left with
  | nil =>
    obtain rfl := List.eq_nil_of_length_eq_zero room
    simp [fillRow, nextRow]
  | cons b rest ih =>
    obtain ⟨up, above, rfl⟩ := List.exists_cons_of_length_eq_add_one full
    obtain ⟨stale, old, rfl⟩ := List.exists_cons_of_length_eq_add_one room
    have read : (before ++ diagonal :: up :: above)[done.length]? = some diagonal := by simp [← same]
    have readUp : (before ++ diagonal :: up :: above)[done.length + 1]? = some up := by simp [← same]
    have readLeft : (done ++ left :: stale :: old)[done.length]? = some left := by simp
    have inside : done.length + 1 < (done ++ left :: stale :: old).length := by simp
    have written (here : Nat) : (done ++ left :: stale :: old).set (done.length + 1) here =
        done ++ left :: here :: old := by simp
    have step (here : Nat) := ih (before ++ [diagonal]) (done ++ [left]) above old up here (by simp [same])
      (by simpa using full) (by simpa using room)
    simp only [List.append_assoc, List.singleton_append, List.length_append, List.length_singleton] at step
    simp only [fillRow, read, readUp, readLeft, inside, guard_true, written, step, nextRow, Option.bind_eq_bind,
      Option.bind_some, pure_bind]

theorem distances_length (x p rest : List Char) : (distances x p rest).length = rest.length := by
  induction rest generalizing p with
  | nil => rfl
  | cons c rest ih => simp [distances, ih]

-- Whatever the spare row still holds, each pass writes the distances of the next start.
theorem fillRows_distances (b x rest : List Char) (spare : List Nat) (room : spare.length = b.length + 1) :
    fillRows b x.length (x.length :: distances x [] b) spare rest =
      some ((rest.reverse ++ x).length :: distances (rest.reverse ++ x) [] b) := by
  induction rest generalizing x spare with
  | nil => rfl
  | cons a rest ih =>
    obtain ⟨stale, old, rfl⟩ := List.exists_cons_of_length_eq_add_one room
    have filled := fillRow_eq a b [] [] (distances x [] b) old x.length (x.length + 1) rfl (distances_length x [] b)
      (by simpa using room)
    have row := nextRow_distances a x [] b
    have step := ih (a :: x) (x.length :: distances x [] b) (by simp [distances_length])
    simp only [fewest_nil_right, List.length_cons, List.nil_append, List.length_nil] at filled row step
    simp only [fillRows, List.length_cons, Nat.zero_lt_succ, guard_true, List.set_cons_zero, filled, row, step,
      Option.bind_eq_bind, Option.bind_some, pure_bind, List.reverse_cons, List.append_assoc, List.singleton_append]

theorem distanceInTwoRows_eq (a b : List Char) : distanceInTwoRows a b = some (distance a b) := by
  have rows := fillRows_distances b [] a (List.replicate (b.length + 1) 0) (by simp)
  have last := distances_last a.reverse [] b
  rw [List.getLast?_eq_getElem?] at last
  simp only [fewest_nil_right, List.append_nil, List.length_nil, List.length_cons, distances_length,
    Nat.add_sub_cancel] at rows last
  rw [distanceInTwoRows, range_distances, rows, Option.bind_eq_bind, Option.bind_some, last, fewest_reverse,
    distance_eq_fewest]

theorem distance_isLeast (a b : List Char) : IsLeast {n | Edits n a b} (distance a b) := by
  rw [distance_eq_fewest]
  exact fewest_isLeast a b

theorem distance_eq_zero_iff (a b : List Char) : distance a b = 0 ↔ a = b := by
  constructor
  · intro none
    have edits := (distance_isLeast a b).1
    rw [Set.mem_ofPred_eq, none] at edits
    cases edits
    rfl
  · intro same
    rw [same, distance_eq_fewest, fewest_self]

theorem distance_comm (a b : List Char) : distance b a = distance a b := by
  apply Nat.le_antisymm
  · exact (distance_isLeast b a).2 (Edits.symm (distance_isLeast a b).1)
  · exact (distance_isLeast a b).2 (Edits.symm (distance_isLeast b a).1)

theorem distance_triangle (a b c : List Char) : distance a c ≤ distance a b + distance b c :=
  (distance_isLeast a c).2 (Edits.trans (distance_isLeast a b).1 (distance_isLeast b c).1)

theorem distance_le_longer (a b : List Char) : distance a b ≤ max a.length b.length := by
  rw [distance_eq_fewest]
  fun_induction fewest a b with
  | case1 b => simp
  | case2 a _ => simp
  | case3 c a d b _ _ kept =>
    have cost : (if c = d then 0 else 1) ≤ 1 := by split <;> omega
    simp only [List.length_cons]
    omega

-- The score by any arithmetic that knows the whole numbers.
def levenshteinIn {R : Type} [Sub R] [Div R] (number : Nat → R) (a b : List Char) : R :=
  let longest := max a.length b.length
  if longest = 0 then number 1 else number 1 - number (distance a b) / number longest

theorem levenshteinScore_eq (a b : List Char) : levenshteinScore a b = levenshteinIn Double.ofNat a b := by
  have one : Double.ofNat 1 = .one := by decide +kernel
  rw [levenshteinScore, levenshteinIn, one]

def rational (n : Nat) : ℚ := n

@[simp] theorem rational_one : rational 1 = 1 := Nat.cast_one

theorem part_bounds {n whole : Nat} (within : n ≤ whole) : 0 ≤ rational n / rational whole ∧
    rational n / rational whole ≤ 1 := by
  have ordered : rational n ≤ rational whole := Nat.cast_le.mpr within
  have below : 0 ≤ rational n := Nat.cast_nonneg n
  have above : 0 ≤ rational whole := Nat.cast_nonneg whole
  exact ⟨div_nonneg below above, div_le_one_of_le₀ ordered above⟩

theorem levenshtein_exact (a b : List Char) :
    0 ≤ levenshteinIn rational a b ∧ levenshteinIn rational a b ≤ 1 ∧ (levenshteinIn rational a b = 1 ↔ a = b) := by
  have same := distance_eq_zero_iff a b
  obtain ⟨above, below⟩ := part_bounds (distance_le_longer a b)
  have within := distance_le_longer a b
  simp only [levenshteinIn, rational_one]
  split
  · rename_i empty
    have none : distance a b = 0 := by omega
    simp [same.mp none]
  · rename_i some
    refine ⟨by linarith, by linarith, ?_⟩
    have longest : rational (max a.length b.length) ≠ 0 := Nat.cast_ne_zero.mpr some
    calc
      _ ↔ rational (distance a b) / rational (max a.length b.length) = 0 := sub_eq_self
      _ ↔ rational (distance a b) = 0 := by rw [div_eq_zero_iff, or_iff_left longest]
      _ ↔ distance a b = 0 := Nat.cast_eq_zero
      _ ↔ a = b := same

-- What two rows are enough to compute is a distance, with the fewest changes there are, and the score tells equal texts
-- from all others.
theorem distance_fewest_edits (a b : List Char) :
    IsLeast {n | Edits n a b} (distance a b) ∧
    distance a b = fewest a b ∧
    distanceInTwoRows a b = some (distance a b) ∧
    (distance a b = 0 ↔ a = b) ∧
    distance b a = distance a b ∧
    (∀ c, distance a c ≤ distance a b + distance b c) ∧
    distance a b ≤ max a.length b.length ∧
    levenshteinScore a b = levenshteinIn Double.ofNat a b ∧
    0 ≤ levenshteinIn rational a b ∧ levenshteinIn rational a b ≤ 1 ∧ (levenshteinIn rational a b = 1 ↔ a = b) :=
  ⟨distance_isLeast a b, distance_eq_fewest a b, distanceInTwoRows_eq a b, distance_eq_zero_iff a b,
    distance_comm a b, fun c => distance_triangle a b c, distance_le_longer a b, levenshteinScore_eq a b,
    levenshtein_exact a b⟩

end Similarity
end TidyRows
