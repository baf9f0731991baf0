import Mathlib.Data.List.Zip
import TidyRows.Step.Dedupe
namespace TidyRows

theorem Double.add_comm (x y : Double) : x + y = y + x := by
  change x.add y = y.add x
  cases x with
  | nan => cases y <;> rfl
  | infinite s =>
    cases y with
    | infinite t => cases s <;> cases t <;> rfl
    | _ => rfl
  | finite x =>
    cases y with
    | finite y => rw [add, add, Int.add_comm, Bool.and_comm]
    | _ => rfl

namespace Similarity

-- Places that may be paired.
def Fits (window : Nat) (a b : List Char) (i j : Nat) : Prop :=
  (∃ c, a[i]? = some c ∧ b[j]? = some c) ∧ i ≤ j + window ∧ j ≤ i + window

theorem Fits.swap (fits : Fits window a b i j) : Fits window b a j i := by
  obtain ⟨⟨c, first, second⟩, below, above⟩ := fits
  exact ⟨⟨c, second, first⟩, above, below⟩

structure Pairing (fits paired : Nat → Nat → Prop) : Prop where
  fit : ∀ i j, paired i j → fits i j
  left : ∀ i j k, paired i j → paired i k → j = k
  right : ∀ i j k, paired i k → paired j k → i = j
  -- a possible pair that is not made has a place with an earlier partner
  earlier : ∀ i j, fits i j → paired i j ∨ (∃ k < j, paired i k) ∨ ∃ k < i, paired k j

namespace Pairing
variable {fits other paired : Nat → Nat → Prop}

theorem swap (pairing : Pairing fits paired) : Pairing (fun j i => fits i j) (fun j i => paired i j) :=
  ⟨fun j i => pairing.fit i j, fun j i k => pairing.right i k j, fun j i k => pairing.left k j i,
    fun j i possible => (pairing.earlier i j possible).imp_right Or.symm⟩

-- What keeps a pair out is a pair whose places have a smaller sum.
theorem within (one : Pairing fits paired) (two : Pairing fits other) (made : paired i j) : other i j := by
  induction sum : i + j using Nat.strongRecOn generalizing i j with
  | _ n ih =>
    have same {k l} (less : k + l < n) : other k l → paired k l := by
      intro pair
      rcases one.earlier k l (two.fit k l pair) with made | ⟨m, before, made⟩ | ⟨m, before, made⟩
      · exact made
      · have agreed := ih (k + m) (by omega) made rfl
        have equal := two.left k m l agreed pair
        omega
      · have agreed := ih (m + l) (by omega) made rfl
        have equal := two.right m k l agreed pair
        omega
    rcases two.earlier i j (one.fit i j made) with pair | ⟨k, before, pair⟩ | ⟨k, before, pair⟩
    · exact pair
    · have equal := one.left i k j (same (by omega) pair) made
      omega
    · have equal := one.right k i j (same (by omega) pair) made
      omega

theorem unique (one : Pairing fits paired) (two : Pairing fits other) : paired = other := by
  funext i j
  exact propext ⟨one.within two, two.within one⟩

end Pairing

theorem markFirst_none (none : markFirst c start stop j marked = none) :
    ∀ k, start ≤ j + k → j + k < stop → marked[k]? ≠ some (c, false) := by
  induction marked generalizing j with
  | nil => simp
  | cons mark rest ih =>
    obtain ⟨d, taken⟩ := mark
    rw [markFirst] at none
    split at none
    · cases none
    · rename_i unfit
      intro k above below free
      cases k with
      | zero =>
        simp only [List.getElem?_cons_zero, Option.some.injEq, Prod.mk.injEq] at free
        obtain ⟨rfl, rfl⟩ := free
        simp at unfit
        omega
      | succ k =>
        exact ih (Option.map_eq_none_iff.mp none) k (by omega) (by omega) (by simpa using free)

theorem markFirst_some (found : markFirst c start stop j marked = some after) :
    ∃ k, start ≤ j + k ∧ j + k < stop ∧ marked[k]? = some (c, false) ∧ after = marked.set k (c, true) ∧
      ∀ l < k, start ≤ j + l → marked[l]? ≠ some (c, false) := by
  induction marked generalizing j after with
  | nil => cases found
  | cons mark rest ih =>
    obtain ⟨d, taken⟩ := mark
    rw [markFirst] at found
    split at found
    · rename_i fit
      simp only [Bool.and_eq_true, decide_eq_true_eq, Bool.not_eq_true', beq_iff_eq] at fit
      obtain ⟨⟨⟨above, below⟩, rfl⟩, rfl⟩ := fit
      cases found
      exact ⟨0, above, below, rfl, rfl, fun l less => absurd less (Nat.not_lt_zero l)⟩
    · rename_i unfit
      obtain ⟨later, marking, rfl⟩ := Option.map_eq_some_iff.mp found
      obtain ⟨k, above, below, free, rfl, first⟩ := ih marking
      refine ⟨k + 1, by omega, by omega, by simpa using free, rfl, ?_⟩
      intro l less inside
      cases l with
      | zero =>
        simp only [List.getElem?_cons_zero, ne_eq, Option.some.injEq, Prod.mk.injEq]
        rintro ⟨rfl, rfl⟩
        simp at unfit
        omega
      | succ l => simpa using first l (by omega) (by omega)

structure Marks (text : List Char) (paired : Nat → Nat → Prop) (marked : List (Char × Bool)) : Prop where
  chars : marked.map (·.1) = text
  taken : ∀ j c flag, marked[j]? = some (c, flag) → (flag = true ↔ ∃ i, paired i j)

theorem Marks.mark {text : List Char} {marked : List (Char × Bool)} {j : Nat} (marks : Marks text paired marked)
    (here : text[j]? = some c) :
    ∃ flag, marked[j]? = some (c, flag) := by
  rw [← marks.chars, List.getElem?_map] at here
  obtain ⟨⟨d, flag⟩, found, rfl⟩ := Option.map_eq_some_iff.mp here
  exact ⟨flag, found⟩

theorem Marks.partner {text : List Char} {marked : List (Char × Bool)} (marks : Marks text paired marked)
    (here : text[j]? = some c) (busy : marked[j]? ≠ some (c, false)) : ∃ i, paired i j := by
  obtain ⟨flag, found⟩ := marks.mark here
  cases flag with
  | false => exact absurd found busy
  | true => exact (marks.taken j c true found).mp rfl

theorem Marks.set {text : List Char} (marks : Marks text paired marked) (free : marked[k]? = some (c, false)) :
    Marks text (fun i j => paired i j ∨ i = n ∧ j = k) (marked.set k (c, true)) := by
  have within := (List.getElem?_eq_some_iff.mp free).1
  refine ⟨?_, fun j d flag found => ?_⟩
  · have same : text[k]? = some c := by rw [← marks.chars, List.getElem?_map, free]; rfl
    obtain ⟨inside, here⟩ := List.getElem?_eq_some_iff.mp same
    rw [List.map_set, marks.chars, ← here, List.set_getElem_self]
  · by_cases equal : j = k
    · subst equal
      rw [List.getElem?_set_self within] at found
      cases found
      simp
    · rw [List.getElem?_set_ne (Ne.symm equal)] at found
      rw [marks.taken j d flag found]
      simp [equal]

inductive Chosen (chosen : Nat → Prop) : Nat → List Char → List Char → Prop where
  | nil : Chosen chosen i [] []
  | take (yes : chosen i) (later : Chosen chosen (i + 1) rest found) : Chosen chosen i (c :: rest) (c :: found)
  | skip (no : ¬ chosen i) (later : Chosen chosen (i + 1) rest found) : Chosen chosen i (c :: rest) found

theorem Chosen.unique (one : Chosen chosen i text found) (two : Chosen chosen i text other) : found = other := by
  induction one generalizing other with
  | nil => cases two; rfl
  | take yes _ ih =>
    cases two with
    | take _ later => rw [ih later]
    | skip no => exact absurd yes no
  | skip no _ ih =>
    cases two with
    | take yes => exact absurd yes no
    | skip _ later => exact ih later

theorem chosen_marked {marked : List (Char × Bool)}
    (taken : ∀ k c flag, marked[k]? = some (c, flag) → (flag = true ↔ chosen (j + k))) :
    Chosen chosen j (marked.map (·.1)) ((marked.filter (·.2)).map (·.1)) := by
  induction marked generalizing j with
  | nil => exact .nil
  | cons mark rest ih =>
    obtain ⟨c, flag⟩ := mark
    have here := taken 0 c flag rfl
    have later := ih (j := j + 1) fun k d flag found => by
      rw [taken (k + 1) d flag (by simpa using found), Nat.add_right_comm, Nat.add_assoc]
    cases flag with
    | true => exact .take (here.mp rfl) later
    | false => exact .skip (fun yes => by cases here.mpr yes) later

section
variable {window : Nat} {a b rest found : List Char} {marked after : List (Char × Bool)} {paired : Nat → Nat → Prop}

-- The pairs of the places before `n`. A place without a partner is passed over.
abbrev PairedBefore (window : Nat) (a b : List Char) (n : Nat) (paired : Nat → Nat → Prop) : Prop :=
  Pairing (fun i j => i < n ∧ Fits window a b i j) paired

theorem PairedBefore.pass (pairing : PairedBefore window a b n paired) (marks : Marks b paired marked)
    (here : a[n]? = some c) (none : markFirst c (n - window) (n + window + 1) 0 marked = none) :
    PairedBefore window a b (n + 1) paired := by
  refine ⟨fun i j made => ?_, pairing.left, pairing.right, ?_⟩
  · obtain ⟨below, fits⟩ := pairing.fit i j made
    exact ⟨by omega, fits⟩
  · rintro i j ⟨below, fits⟩
    by_cases last : i = n
    · subst last
      obtain ⟨⟨d, first, second⟩, low, high⟩ := fits
      cases here.symm.trans first
      obtain ⟨k, made⟩ := marks.partner second (by simpa using markFirst_none none j (by omega) (by omega))
      exact .inr (.inr ⟨k, (pairing.fit k j made).1, made⟩)
    · exact pairing.earlier i j ⟨by omega, fits⟩

theorem PairedBefore.pair (pairing : PairedBefore window a b n paired) (marks : Marks b paired marked)
    (here : a[n]? = some c) (above : n - window ≤ k) (below : k < n + window + 1) (free : marked[k]? = some (c, false))
    (first : ∀ l < k, n - window ≤ l → marked[l]? ≠ some (c, false)) :
    PairedBefore window a b (n + 1) fun i j => paired i j ∨ i = n ∧ j = k := by
  have there : b[k]? = some c := by rw [← marks.chars, List.getElem?_map, free]; rfl
  have alone (i : Nat) : ¬ paired i k := fun made => by cases (marks.taken k c false free).mpr ⟨i, made⟩
  have before (i j : Nat) (made : paired i j) : i < n := (pairing.fit i j made).1
  refine ⟨?_, ?_, ?_, ?_⟩
  · rintro i j (made | ⟨rfl, rfl⟩)
    · obtain ⟨less, fits⟩ := pairing.fit i j made
      exact ⟨by omega, fits⟩
    · exact ⟨by omega, ⟨c, here, there⟩, by omega, by omega⟩
  · rintro i j l (made | ⟨rfl, rfl⟩) (again | ⟨same, rfl⟩)
    · exact pairing.left i j l made again
    · exact absurd (before i j made) (by omega)
    · exact absurd (before _ l again) (by omega)
    · rfl
  · rintro i j l (made | ⟨own, rfl⟩) (again | ⟨same, last⟩)
    · exact pairing.right i j l made again
    · exact absurd (last ▸ made) (alone i)
    · exact absurd again (alone j)
    · exact own.trans same.symm
  · rintro i j ⟨less, fits⟩
    by_cases last : i = n
    · subst last
      obtain ⟨⟨d, one, two⟩, low, high⟩ := fits
      cases here.symm.trans one
      rcases Nat.lt_trichotomy j k with smaller | rfl | larger
      · obtain ⟨l, made⟩ := marks.partner two (first j smaller (by omega))
        exact .inr (.inr ⟨l, before l j made, .inl made⟩)
      · exact .inl (.inr ⟨rfl, rfl⟩)
      · exact .inr (.inl ⟨k, larger, .inr ⟨rfl, rfl⟩⟩)
    · rcases pairing.earlier i j ⟨by omega, fits⟩ with made | ⟨l, less, made⟩ | ⟨l, less, made⟩
      · exact .inl (.inl made)
      · exact .inr (.inl ⟨l, less, .inl made⟩)
      · exact .inr (.inr ⟨l, less, .inl made⟩)

-- The scan goes on from place `n` with the pairs of the places before it, and leaves these as they are.
theorem matchFrom_pairs (split : a.drop n = rest) (pairing : PairedBefore window a b n paired)
    (marks : Marks b paired marked) (scan : matchFrom window n rest marked = (found, after)) :
    ∃ final, Pairing (Fits window a b) final ∧ Marks b final after ∧ Chosen (fun i => ∃ j, final i j) n rest found ∧
      ∀ i < n, ∀ j, final i j ↔ paired i j := by
  induction rest generalizing n marked paired found with
  | nil =>
    cases scan
    have long : a.length ≤ n := List.drop_eq_nil_iff.mp split
    refine ⟨paired, ⟨fun i j made => (pairing.fit i j made).2, pairing.left, pairing.right, ?_⟩, marks, .nil,
      fun _ _ _ => Iff.rfl⟩
    intro i j fits
    obtain ⟨c, first, _⟩ := fits.1
    have inside := (List.getElem?_eq_some_iff.mp first).1
    exact pairing.earlier i j ⟨by omega, fits⟩
  | cons c rest ih =>
    have here : a[n]? = some c := by rw [← List.head?_drop, split]; rfl
    have tail : a.drop (n + 1) = rest := by rw [← List.tail_drop, split]; rfl
    rw [matchFrom] at scan
    cases marking : markFirst c (n - window) (n + window + 1) 0 marked with
    | none =>
      rw [marking] at scan
      obtain ⟨final, whole, ends, chosen, kept⟩ := ih tail (pairing.pass marks here marking) marks scan
      refine ⟨final, whole, ends, .skip ?_ chosen, fun i less => kept i (by omega)⟩
      rintro ⟨j, made⟩
      have old := (pairing.fit n j ((kept n (by omega) j).mp made)).1
      omega
    | some next =>
      rw [marking] at scan
      cases scan
      obtain ⟨k, above, below, free, rfl, first⟩ := markFirst_some marking
      simp only [Nat.zero_add] at above below first
      obtain ⟨final, whole, ends, chosen, kept⟩ :=
        ih tail (pairing.pair marks here above below free first) (marks.set free) rfl
      refine ⟨final, whole, ends, .take ⟨k, (kept n (by omega) k).mpr (.inr ⟨rfl, rfl⟩)⟩ chosen, ?_⟩
      intro i less j
      rw [kept i (by omega) j, or_iff_left (by omega)]

end

theorem matching_pairs (a b : List Char) : ∃ paired, Pairing (Fits (matchWindow a b) a b) paired ∧
    Chosen (fun i => ∃ j, paired i j) 0 a (matching a b).1 ∧
    Chosen (fun j => ∃ i, paired i j) 0 b (matching a b).2 := by
  have none : PairedBefore (matchWindow a b) a b 0 fun _ _ => False :=
    ⟨nofun, nofun, nofun, fun i _ possible => absurd possible.1 (Nat.not_lt_zero i)⟩
  have blank : Marks b (fun _ _ => False) (b.map (·, false)) := by
    refine ⟨by simp [Function.comp_def], fun j c flag found => ?_⟩
    rw [List.getElem?_map] at found
    obtain ⟨_, _, same⟩ := Option.map_eq_some_iff.mp found
    cases same
    simp
  obtain ⟨paired, pairing, marks, found, _⟩ := matchFrom_pairs (n := 0) rfl none blank rfl
  have other := chosen_marked (j := 0) fun k c flag inside => by
    rw [Nat.zero_add]
    exact marks.taken k c flag inside
  rw [marks.chars] at other
  exact ⟨paired, pairing, found, other⟩

theorem matchWindow_comm (a b : List Char) : matchWindow b a = matchWindow a b := by
  rw [matchWindow, matchWindow, Nat.max_comm]

-- The same places are paired from either side.
theorem matching_swap (a b : List Char) : matching b a = (matching a b).swap := by
  obtain ⟨paired, pairing, found, other⟩ := matching_pairs a b
  obtain ⟨back, reverse, first, second⟩ := matching_pairs b a
  have fits : (fun j i => Fits (matchWindow b a) b a i j) = Fits (matchWindow a b) a b := by
    funext i j
    rw [matchWindow_comm]
    exact propext ⟨Fits.swap, Fits.swap⟩
  have turned := reverse.swap
  rw [fits] at turned
  cases pairing.unique turned
  exact Prod.ext (first.unique other) (second.unique found)

theorem markFirst_count (found : markFirst c start stop j marked = some after) :
    after.countP (·.2) = marked.countP (·.2) + 1 := by
  induction marked generalizing j after with
  | nil => cases found
  | cons mark rest ih =>
    obtain ⟨d, taken⟩ := mark
    rw [markFirst] at found
    split at found
    · rename_i fit
      simp only [Bool.and_eq_true, Bool.not_eq_true'] at fit
      cases found
      simp [fit.1.2]
    · obtain ⟨later, marking, rfl⟩ := Option.map_eq_some_iff.mp found
      rw [List.countP_cons, List.countP_cons, ih marking, Nat.add_right_comm]

-- Every character that is found adds a mark.
theorem matchFrom_count (scan : matchFrom window n rest marked = (found, after)) :
    after.countP (·.2) = marked.countP (·.2) + found.length := by
  induction rest generalizing n marked found with
  | nil => cases scan; rfl
  | cons c rest ih =>
    rw [matchFrom] at scan
    split at scan
    · rename_i marking
      cases scan
      rw [ih rfl, markFirst_count marking, List.length_cons, Nat.add_right_comm, Nat.add_assoc]
    · exact ih scan

theorem matching_length (a b : List Char) : (matching a b).2.length = (matching a b).1.length := by
  have scan : matchFrom (matchWindow a b) 0 a (b.map (·, false)) = (_, _) := rfl
  have count := matchFrom_count scan
  have blank : (b.map (·, false)).countP (·.2) = 0 := by simp [List.countP_eq_zero]
  rw [blank, Nat.zero_add, List.countP_eq_length_filter] at count
  rw [matching, List.length_map, count]

theorem transpositions_comm (found other : List Char) : transpositions other found = transpositions found other := by
  rw [transpositions, transpositions, ← List.zip_swap, List.countP_map]
  congr 1
  funext pair
  exact bne_comm

theorem commonLead_comm (a b : List Char) : commonLead b a = commonLead a b := by
  have alike : (fun pair : Char × Char => pair.1 == pair.2) ∘ Prod.swap = fun pair => pair.1 == pair.2 := by
    funext pair
    exact BEq.comm
  rw [commonLead, commonLead, ← List.zip_swap, ← List.map_take, List.takeWhile_map, List.length_map]
  exact congrArg (fun p => (((a.zip b).take leadLimit).takeWhile p).length) alike

theorem jaro_comm (a b : List Char) : jaro b a = jaro a b := by
  have length := matching_length a b
  have empty : (matching a b).2.isEmpty = (matching a b).1.isEmpty := by
    rw [Bool.eq_iff_iff, List.isEmpty_iff_length_eq_zero, List.isEmpty_iff_length_eq_zero, length]
  simp only [jaro, matching_swap a b, Prod.fst_swap, Prod.snd_swap, Bool.and_comm b.isEmpty, empty, length,
    transpositions_comm, Double.add_comm (Double.ofNat _ / Double.ofNat b.length)]

theorem jaroWinklerScore_comm (a b : List Char) : jaroWinklerScore b a = jaroWinklerScore a b := by
  rw [jaroWinklerScore, jaroWinklerScore, jaro_comm, commonLead_comm]

-- Which of two texts comes first changes nothing: neither what is matched, nor the score, nor what is dropped for it.
theorem jaro_symmetric (a b : List Char) :
    matching b a = (matching a b).swap ∧
    (matching b a).1.length = (matching a b).1.length ∧
    transpositions (matching b a).1 (matching b a).2 = transpositions (matching a b).1 (matching a b).2 ∧
    jaro b a = jaro a b ∧
    score .jaroWinkler b a = score .jaroWinkler a b ∧
    (∀ threshold, Dedupe.likeEnough (score .jaroWinkler) threshold b a =
      Dedupe.likeEnough (score .jaroWinkler) threshold a b) ∧
    ∀ keys threshold rows, Dedupe.fuzzyPhase keys (fun x y => score .jaroWinkler y x) threshold rows =
      Dedupe.fuzzyPhase keys (score .jaroWinkler) threshold rows := by
  have swap := matching_swap a b
  refine ⟨swap, ?_, ?_, jaro_comm a b, jaroWinklerScore_comm a b, fun threshold => ?_, fun keys threshold rows => ?_⟩
  · rw [swap, Prod.fst_swap, matching_length]
  · rw [swap, Prod.fst_swap, Prod.snd_swap, transpositions_comm]
  · rw [Dedupe.likeEnough, Dedupe.likeEnough, score, score, jaroWinklerScore_comm]
  · have same : (fun x y => score .jaroWinkler y x) = score .jaroWinkler := by
      funext x y
      exact jaroWinklerScore_comm x y
    rw [same]

end Similarity
end TidyRows
