import Mathlib.Data.List.Perm.Subperm
import TidyRows.Proofs.Dedupe.Exact
import TidyRows.Proofs.Keyed
namespace TidyRows

namespace Value

theorem sameFields_iff {fields others : List (String × Value)} : sameFields fields others = true ↔
    ∀ f ∈ fields, ∃ w, others.lookup f.1 = some w ∧ f.2.same w = true := by
  induction fields with
  | nil => simp [sameFields]
  | cons head rest ih =>
    obtain ⟨name, v⟩ := head
    rw [sameFields, Bool.and_eq_true_iff, ih, List.forall_mem_cons]
    refine and_congr_left fun _ => ?_
    cases others.lookup name <;> simp

end Value

-- The same fields, each with the same value. Their order does not count.
def SameObject (row other : Row) : Prop :=
  ∀ name, Option.Rel (fun v w => Value.same v w = true) (row.get? name) (other.get? name)

theorem rel_none {r : α → β → Prop} {v : Option α} {w : Option β} (rel : Option.Rel r v w) : v = none ↔ w = none := by
  cases rel <;> simp

theorem same_toValue_iff {row other : Row} : row.toValue.same other.toValue = true ↔ SameObject row other := by
  have object : row.toValue.same other.toValue = (row.entries.length == other.entries.length &&
      Value.sameFields row.entries other.entries) := rfl
  rw [object, Bool.and_eq_true_iff, beq_iff_eq, Value.sameFields_iff]
  constructor
  · rintro ⟨count, fields⟩ name
    have inside : row.names ⊆ other.names := by
      intro name member
      obtain ⟨f, known, rfl⟩ := List.mem_map.mp member
      obtain ⟨w, found, _⟩ := fields f known
      exact List.mem_map.mpr ⟨_, mem_of_lookup found, rfl⟩
    have names : row.names.Perm other.names := by
      refine (List.subperm_of_subset row.distinct inside).perm_of_length_le (Nat.le_of_eq ?_)
      unfold Keyed.names
      rw [List.length_map, List.length_map, count]
    cases here : row.get? name with
    | none =>
      have absent : name ∉ other.names := fun member => Keyed.get?_eq_none_iff.mp here (names.mem_iff.mpr member)
      rw [Keyed.get?_eq_none_iff.mpr absent]
      exact .none
    | some v =>
      obtain ⟨w, found, same⟩ := fields (name, v) (Keyed.get?_eq_some_iff.mp here)
      rw [show other.get? name = some w from found]
      exact .some same
  · intro same
    have names : row.names.Perm other.names := by
      refine (List.perm_ext_iff_of_nodup row.distinct other.distinct).mpr fun name => ?_
      show name ∈ row.names ↔ name ∈ other.names
      rw [← not_iff_not, ← Keyed.get?_eq_none_iff, ← Keyed.get?_eq_none_iff]
      exact (rel_none (same name))
    refine ⟨by simpa [Keyed.names] using names.length_eq, fun f known => ?_⟩
    have both := same f.1
    rw [Keyed.get?_eq_some_iff.mpr (show (f.1, f.2) ∈ row.entries from known)] at both
    cases there : other.get? f.1 with
    | none => rw [there] at both; cases both
    | some w =>
      rw [there] at both
      cases both with
      | some equal => exact ⟨w, there, equal⟩

namespace Dedupe

def signatureAt (keys : List String) (rows : List Row) (i : Nat) : Option String := rows[i]?.bind (keySignature keys)

def compositeAt (keys : List String) (rows : List Row) (i : Nat) : Option (List Char) := rows[i]?.bind (compositeMark keys)

def changeAt (rows : List Row) (i j : Nat) : Option Change :=
  rows[i]?.bind fun row => rows[j]?.bind fun other => Change.dropped i row other

def Below (score threshold : Double) : Prop := score.lt threshold = true ∨ score = .nan ∨ threshold = .nan

-- Where every row has gone: kept, or dropped by a phase for the row beside it.
structure Ledger where
  kept : List Nat
  exact : List (Nat × Nat)
  fuzzy : List (Nat × Nat × Double)

-- Row `i` repeats row `j`, the first with its signature, which the first phase keeps.
structure ExactDrop (keys : List String) (rows : List Row) (l : Ledger) (i j : Nat) : Prop where
  earlier : j < i
  stays : j ∉ l.exact.map (·.1)
  signature : ∃ s, signatureAt keys rows i = some s ∧ signatureAt keys rows j = some s ∧
    ∀ k < j, signatureAt keys rows k ≠ some s

-- Row `i` is much like row `j`, the first of the kept rows that it is much like.
structure FuzzyDrop (score : List Char → List Char → Double) (threshold : Double) (keys : List String) (rows : List Row)
    (l : Ledger) (i j : Nat) (s : Double) : Prop where
  earlier : j < i
  stays : j ∈ l.kept
  alike : ∃ mine other, compositeAt keys rows i = some mine ∧ compositeAt keys rows j = some other ∧
    s = score mine other ∧ threshold.le s = true
  first : ∀ k ∈ l.kept, k < j → ∀ mine other, compositeAt keys rows i = some mine →
    compositeAt keys rows k = some other → Below (score mine other) threshold

structure Books (score : Similarity → List Char → List Char → Double) (d : Dedupe) (options : RunOptions)
    (defaultThreshold : Double) (rows : List Row) (out : Outcome) (l : Ledger) : Prop where
  places : (l.kept ++ l.exact.map (·.1) ++ l.fuzzy.map (·.1)).Perm (List.range rows.length)
  ordered : l.kept.Pairwise (· < ·) ∧ (l.exact.map (·.1)).Pairwise (· < ·) ∧ (l.fuzzy.map (·.1)).Pairwise (· < ·)
  result : out.rows.map some = l.kept.map (rows[·]?)
  within : out.rows.Sublist rows
  exact : ∀ p ∈ l.exact, ExactDrop d.keys rows l p.1 p.2
  fuzzy : ∀ p ∈ l.fuzzy, ∃ f, d.gate options = .passed f ∧
    FuzzyDrop (score (f.algorithm.getD defaultAlgorithm)) (thresholdOf f defaultThreshold) d.keys rows l p.1 p.2.1 p.2.2
  -- No two kept rows have one signature, nor are they much alike when that was asked for and allowed.
  apart : ∀ i ∈ l.kept, ∀ j ∈ l.kept, i ≠ j → ∀ s, signatureAt d.keys rows i = some s → signatureAt d.keys rows j ≠ some s
  unlike : ∀ f, d.gate options = .passed f → ∀ i ∈ l.kept, ∀ j ∈ l.kept, j < i → ∀ mine other,
    compositeAt d.keys rows i = some mine → compositeAt d.keys rows j = some other →
    Below (score (f.algorithm.getD defaultAlgorithm) mine other) (thresholdOf f defaultThreshold)
  -- phase by phase, with the notice in the place of a second phase that is not allowed
  findings : out.findings = l.exact.map (fun p => exactFinding d.keys p.1 p.2) ++ match d.gate options with
    | .off => []
    | .blocked => [blockedFinding]
    | .passed _ => l.fuzzy.map fun p => fuzzyFinding d.keys p.1 p.2.1 p.2.2
  once : ∀ i < rows.length, (out.findings.filter fun f => f.row == some i).length = if i ∈ l.kept then 0 else 1
  changes : out.changes = (l.exact ++ l.fuzzy.map fun p => (p.1, p.2.1)).filterMap fun p => changeAt rows p.1 p.2
  differ : ∀ p ∈ l.exact ++ l.fuzzy.map (fun p => (p.1, p.2.1)), ∀ row other,
    rows[p.1]? = some row → rows[p.2]? = some other →
    (⟨p.1, droppedField, row.toValue, other.toValue⟩ ∈ out.changes ↔ ¬ SameObject row other)

def ledger (exact : List (Judged Unit)) (fuzzy : List (Judged Double)) : Ledger :=
  ⟨(survivors fuzzy).map (·.2), (dropped exact).map fun p => (p.1, p.2.1), dropped fuzzy⟩

-- Two phases, the second over the rows that the first keeps.
structure Phases (rows : List Row) (exact : List (Judged Unit)) (fuzzy : List (Judged Double)) : Prop where
  first : exact.map (·.row) = rows.zipIdx
  second : fuzzy.map (·.row) = survivors exact
  firstStays : ∀ n k u, ⟨n, some (k, u)⟩ ∈ exact → k ∈ survivors exact
  secondStays : ∀ n k u, ⟨n, some (k, u)⟩ ∈ fuzzy → k ∈ survivors fuzzy

namespace Phases
variable {rows : List Row} {exact : List (Judged Unit)} {fuzzy : List (Judged Double)} (phases : Phases rows exact fuzzy)
include phases

theorem ordered_second : Ordered (survivors exact) := ordered_survivors (ordered_zipIdx rows 0) phases.first

theorem known_first {j : Judged Unit} (member : j ∈ exact) : rows[j.row.2]? = some j.row.1 := by
  rw [← mem_zipIdx_iff, ← phases.first]
  exact List.mem_map_of_mem member

theorem known_kept {n : Numbered} (stays : n ∈ survivors exact) : rows[n.2]? = some n.1 :=
  phases.known_first (mem_survivors.mp stays)

theorem kept_twice {n : Numbered} (stays : n ∈ survivors fuzzy) : n ∈ survivors exact := by
  rw [← phases.second]
  exact (survivors_sublist _).subset stays

theorem places : ((survivors fuzzy).map (·.2) ++ gone exact ++ gone fuzzy).Perm (List.range rows.length) := by
  have first := survivors_or_gone exact
  have second := survivors_or_gone fuzzy
  rw [phases.first, List.zipIdx_map_snd, ← List.range_eq_range'] at first
  rw [phases.second] at second
  rw [List.append_assoc]
  refine (List.perm_append_comm.append_left _).trans ?_
  rw [← List.append_assoc]
  exact (second.append_right _).trans first

theorem kept_ordered : ((survivors fuzzy).map (·.2)).Pairwise (· < ·) :=
  List.pairwise_map.mpr (ordered_survivors phases.ordered_second phases.second)

theorem result : ((survivors fuzzy).map (·.1)).map some = ((survivors fuzzy).map (·.2)).map (rows[·]?) := by
  rw [List.map_map, List.map_map]
  refine List.map_congr_left fun n stays => ?_
  exact (phases.known_kept (phases.kept_twice stays)).symm

theorem within : ((survivors fuzzy).map (·.1)).Sublist rows := by
  have second := survivors_sublist fuzzy
  have first := survivors_sublist exact
  rw [phases.second] at second
  rw [phases.first] at first
  have names := (second.trans first).map Prod.fst
  rwa [List.zipIdx_map_fst] at names

-- Each row goes in one phase at most, and only if it is not kept.
theorem counted {i : Nat} (known : i < rows.length) :
    (gone exact).count i + (gone fuzzy).count i = if i ∈ (survivors fuzzy).map (·.2) then 0 else 1 := by
  have one : ((survivors fuzzy).map (·.2) ++ gone exact ++ gone fuzzy).count i = 1 := by
    rw [phases.places.count_eq]
    exact List.count_eq_one_of_mem List.nodup_range (List.mem_range.mpr known)
  rw [List.count_append, List.count_append] at one
  have single := phases.kept_ordered.imp fun less => Nat.ne_of_lt less
  split
  · rename_i stays
    rw [List.count_eq_one_of_mem single stays] at one
    omega
  · rename_i goes
    rw [List.count_eq_zero_of_not_mem goes] at one
    omega

end Phases

theorem changeAt_known {rows : List Row} {i j : Nat} {row other : Row} (here : rows[i]? = some row)
    (there : rows[j]? = some other) : changeAt rows i j = Change.dropped i row other := by
  unfold changeAt
  rw [here, Option.bind_some, there, Option.bind_some]

theorem changeAt_row {rows : List Row} {i j : Nat} {change : Change} (found : changeAt rows i j = some change) :
    change.row = i := by
  unfold changeAt Change.dropped Change.between at found
  obtain ⟨row, _, found⟩ := Option.bind_eq_some_iff.mp found
  obtain ⟨other, _, found⟩ := Option.bind_eq_some_iff.mp found
  split at found
  · cases found
  · cases found
    rfl

theorem changes_at {rows : List Row} {judged : List (Judged α)} (known : ∀ j ∈ judged, rows[j.row.2]? = some j.row.1)
    (stays : ∀ n k u, ⟨n, some (k, u)⟩ ∈ judged → rows[k.2]? = some k.1) :
    changes judged = (dropped judged).filterMap fun p => changeAt rows p.1 p.2.1 := by
  unfold changes dropped
  rw [List.filterMap_filterMap]
  refine List.filterMap_congr fun j member => ?_
  have here := known j member
  obtain ⟨n, repeats⟩ := j
  cases repeats with
  | none => rfl
  | some found =>
    obtain ⟨k, likeness⟩ := found
    exact (changeAt_known here (stays n k likeness member)).symm

-- A dropped row is reported as changed when it is not the same object as the one it repeats.
theorem change_iff {rows : List Row} {pairs : List (Nat × Nat)} (single : (pairs.map (·.1)).Nodup) {p : Nat × Nat}
    (member : p ∈ pairs) {row other : Row} (here : rows[p.1]? = some row) (there : rows[p.2]? = some other) :
    ⟨p.1, droppedField, row.toValue, other.toValue⟩ ∈ pairs.filterMap (fun p => changeAt rows p.1 p.2) ↔
      ¬ SameObject row other := by
  have change : changeAt rows p.1 p.2 = Change.dropped p.1 row other := changeAt_known here there
  unfold Change.dropped Change.between at change
  rw [← same_toValue_iff, List.mem_filterMap]
  constructor
  · rintro ⟨q, inside, found⟩ same
    rw [same, if_pos rfl] at change
    have number : q.1 = p.1 := (changeAt_row found).symm
    rw [List.inj_on_of_nodup_map single inside member number, change] at found
    cases found
  · intro differ
    rw [if_neg differ] at change
    exact ⟨p, member, change⟩

namespace Phases
variable {rows : List Row} {exact : List (Judged Unit)} {fuzzy : List (Judged Double)} (phases : Phases rows exact fuzzy)
include phases

theorem changed : changes exact ++ changes fuzzy =
    ((ledger exact fuzzy).exact ++ (ledger exact fuzzy).fuzzy.map fun p => (p.1, p.2.1)).filterMap
      fun p => changeAt rows p.1 p.2 := by
  have knownSecond (j : Judged Double) (member : j ∈ fuzzy) : rows[j.row.2]? = some j.row.1 := by
    refine phases.known_kept ?_
    rw [← phases.second]
    exact List.mem_map_of_mem member
  rw [changes_at (fun _ => phases.known_first) fun n k u member => phases.known_kept (phases.firstStays n k u member),
    changes_at knownSecond fun n k u member => phases.known_kept (phases.kept_twice (phases.secondStays n k u member)),
    List.filterMap_append]
  unfold ledger
  rw [List.filterMap_map, List.filterMap_map]
  rfl

theorem single : (((ledger exact fuzzy).exact ++ (ledger exact fuzzy).fuzzy.map fun p => (p.1, p.2.1)).map (·.1)).Nodup := by
  have all : ((survivors fuzzy).map (·.2) ++ gone exact ++ gone fuzzy).Nodup := phases.places.symm.nodup List.nodup_range
  rw [List.append_assoc] at all
  have numbers : ((ledger exact fuzzy).exact ++ (ledger exact fuzzy).fuzzy.map fun p => (p.1, p.2.1)).map (·.1) =
      gone exact ++ gone fuzzy := by
    unfold ledger gone
    rw [List.map_append, List.map_map, List.map_map]
    rfl
  rw [numbers]
  exact all.sublist (List.sublist_append_right _ _)

end Phases

theorem signatureAt_known {keys : List String} {rows : List Row} {n : Numbered} (known : rows[n.2]? = some n.1) :
    signatureAt keys rows n.2 = keySignature keys n.1 := by
  unfold signatureAt
  rw [known, Option.bind_some]

theorem compositeAt_known {keys : List String} {rows : List Row} {n : Numbered} (known : rows[n.2]? = some n.1) :
    compositeAt keys rows n.2 = compositeMark keys n.1 := by
  unfold compositeAt
  rw [known, Option.bind_some]

theorem below_of_not_le {score threshold : Double} (other : threshold.le score = false) : Below score threshold := by
  cases score with
  | nan => exact .inr (.inl rfl)
  | infinite _ => cases threshold with
    | nan => exact .inr (.inr rfl)
    | _ => exact .inl (by simp [Double.lt, other])
  | finite _ => cases threshold with
    | nan => exact .inr (.inr rfl)
    | _ => exact .inl (by simp [Double.lt, other])

section
variable {score : List Char → List Char → Double} {threshold : Double} {composite other : List Char} {s : Double}

theorem likeEnough_some : likeEnough score threshold composite other = some s ↔
    s = score composite other ∧ threshold.le s = true := by
  unfold likeEnough
  dsimp only
  split
  · rename_i enough
    constructor
    · rintro ⟨⟩
      exact ⟨rfl, enough⟩
    · rintro ⟨rfl, _⟩
      rfl
  · rename_i low
    constructor
    · nofun
    · rintro ⟨rfl, enough⟩
      exact absurd enough low

theorem likeEnough_none (unlike : likeEnough score threshold composite other = none) :
    Below (score composite other) threshold := by
  refine below_of_not_le (Bool.eq_false_iff.mpr fun enough => ?_)
  rw [likeEnough_some.mpr ⟨rfl, enough⟩] at unlike
  cases unlike

end

theorem mem_kept {judged : List (Judged α)} {i : Nat} (member : i ∈ (survivors judged).map (·.2)) :
    ∃ n ∈ survivors judged, n.2 = i := List.mem_map.mp member

theorem exact_drop {keys : List String} {rows : List Row} {fuzzy : List (Judged Double)} {i j : Nat}
    (phases : Phases rows (exactPhase keys rows.zipIdx) fuzzy)
    (member : (i, j) ∈ (ledger (exactPhase keys rows.zipIdx) fuzzy).exact) :
    ExactDrop keys rows (ledger (exactPhase keys rows.zipIdx) fuzzy) i j := by
  obtain ⟨⟨_, _, u⟩, inside, same⟩ := List.mem_map.mp member
  cases same
  obtain ⟨row, kept, inside⟩ := mem_dropped.mp inside
  obtain ⟨s, repeated⟩ := exact_repeats inside
  have here := phases.known_first inside
  have there := phases.known_kept repeated.stays
  refine ⟨repeated.earlier, ?_, s, ?_, ?_, ?_⟩
  · have stays := survivor_not_gone (ordered_zipIdx rows 0) phases.first repeated.stays
    unfold ledger
    rw [List.map_map]
    exact stays
  · exact (signatureAt_known here).trans repeated.signature
  · exact (signatureAt_known there).trans repeated.same
  · intro k less same
    obtain ⟨other, known, has⟩ := Option.bind_eq_some_iff.mp same
    exact absurd less (Nat.not_lt_of_le (repeated.first (other, k) (mem_zipIdx_iff.mpr known) has))

theorem exact_apart {keys : List String} {rows : List Row} {fuzzy : List (Judged Double)} {i j : Nat} {s : String}
    (phases : Phases rows (exactPhase keys rows.zipIdx) fuzzy) (stays : i ∈ (survivors fuzzy).map (·.2))
    (other : j ∈ (survivors fuzzy).map (·.2)) (different : i ≠ j) (has : signatureAt keys rows i = some s) :
    signatureAt keys rows j ≠ some s := by
  intro same
  obtain ⟨n, keptN, rfl⟩ := mem_kept stays
  obtain ⟨k, keptK, rfl⟩ := mem_kept other
  have first := phases.kept_twice keptN
  have second := phases.kept_twice keptK
  rw [signatureAt_known (phases.known_kept first)] at has
  rw [signatureAt_known (phases.known_kept second)] at same
  exact different (Nat.le_antisymm (kept_first first has (exact_survivor second) same)
    (kept_first second same (exact_survivor first) has))

section
variable {keys : List String} {rows : List Row} {exact : List (Judged Unit)} {score : List Char → List Char → Double}
  {threshold : Double} (phases : Phases rows exact (fuzzyPhase keys score threshold (survivors exact)))
include phases

theorem fuzzy_drop {i j : Nat} {s : Double} (member : (i, j, s) ∈ dropped (fuzzyPhase keys score threshold (survivors exact))) :
    FuzzyDrop score threshold keys rows (ledger exact (fuzzyPhase keys score threshold (survivors exact))) i j s := by
  obtain ⟨row, kept, inside⟩ := mem_dropped.mp member
  have repeated := pass_repeats phases.ordered_second inside
  obtain ⟨mine, other, has, hasOther, enough⟩ := repeated.alike
  have reached : (row, i) ∈ survivors exact := by
    rw [← phases.second]
    exact List.mem_map_of_mem inside
  have here : compositeAt keys rows i = some mine := (compositeAt_known (phases.known_kept reached)).trans has
  have known (n : Numbered) (stays : n ∈ survivors (fuzzyPhase keys score threshold (survivors exact))) :
      compositeAt keys rows n.2 = compositeMark keys n.1 :=
    compositeAt_known (phases.known_kept (phases.kept_twice stays))
  refine ⟨repeated.earlier, List.mem_map_of_mem repeated.stays, ⟨mine, other, here, ?_, likeEnough_some.mp enough⟩, ?_⟩
  · exact (known _ repeated.stays).trans hasOther
  · intro k stays less m o hasM hasO
    obtain ⟨n, staysN, rfl⟩ := mem_kept stays
    cases here.symm.trans hasM
    rw [known n staysN] at hasO
    exact likeEnough_none (repeated.first n staysN less mine o has hasO)

theorem fuzzy_apart {i j : Nat} {mine other : List Char}
    (stays : i ∈ (survivors (fuzzyPhase keys score threshold (survivors exact))).map (·.2))
    (kept : j ∈ (survivors (fuzzyPhase keys score threshold (survivors exact))).map (·.2)) (less : j < i)
    (has : compositeAt keys rows i = some mine) (hasOther : compositeAt keys rows j = some other) :
    Below (score mine other) threshold := by
  obtain ⟨n, keptN, rfl⟩ := mem_kept stays
  obtain ⟨k, keptK, rfl⟩ := mem_kept kept
  rw [compositeAt_known (phases.known_kept (phases.kept_twice keptN))] at has
  rw [compositeAt_known (phases.known_kept (phases.kept_twice keptK))] at hasOther
  exact likeEnough_none (pass_apart phases.ordered_second keptN keptK less has hasOther)

end

theorem findings_count {tell : Nat → Nat → α → Finding} (names : ∀ i k u, (tell i k u).row = some i)
    (judged : List (Judged α)) (i : Nat) :
    (findings tell judged).countP (fun f => f.row == some i) = (gone judged).count i := by
  rw [findings_dropped]
  unfold gone List.count
  rw [List.countP_map, List.countP_map]
  refine List.countP_congr fun p _ => ?_
  show (tell p.1 p.2.1 p.2.2).row == some i ↔ p.1 == i
  rw [names]
  simp

-- The second phase in every case: where it does not run, it keeps everything.
def secondPhase (score : Similarity → List Char → List Char → Double) (d : Dedupe) (options : RunOptions)
    (defaultThreshold : Double) (kept : List Numbered) : List (Judged Double) :=
  match d.gate options with
  | .passed f => fuzzyPhase d.keys (score (f.algorithm.getD defaultAlgorithm)) (thresholdOf f defaultThreshold) kept
  | _ => kept.map (⟨·, none⟩)

theorem untouched {kept : List Numbered} {j : Judged α} (member : j ∈ kept.map (⟨·, none⟩)) : j.repeats = none := by
  obtain ⟨n, _, rfl⟩ := List.mem_map.mp member
  rfl

theorem survivors_untouched (kept : List Numbered) : survivors (α := α) (kept.map (⟨·, none⟩)) = kept := by
  unfold survivors
  rw [List.filter_eq_self.mpr fun j member => by rw [untouched member]; rfl, List.map_map]
  exact List.map_id kept

theorem dropped_untouched (kept : List Numbered) : dropped (α := α) (kept.map (⟨·, none⟩)) = [] :=
  List.filterMap_eq_nil_iff.mpr fun j member => by rw [untouched member]; rfl

theorem changes_untouched (kept : List Numbered) : changes (α := α) (kept.map (⟨·, none⟩)) = [] :=
  List.filterMap_eq_nil_iff.mpr fun j member => by rw [untouched member]; rfl

section
variable (score : Similarity → List Char → List Char → Double) (d : Dedupe) (options : RunOptions)
  (defaultThreshold : Double) (rows : List Row)

theorem second_untouched (kept : List Numbered) (closed : ∀ f, d.gate options ≠ .passed f) :
    secondPhase score d options defaultThreshold kept = kept.map (⟨·, none⟩) := by
  unfold secondPhase
  split
  · rename_i f passed
    exact absurd passed (closed f)
  · rfl

theorem second_passed {f : FuzzyMatching} (kept : List Numbered) (passed : d.gate options = .passed f) :
    secondPhase score d options defaultThreshold kept =
      fuzzyPhase d.keys (score (f.algorithm.getD defaultAlgorithm)) (thresholdOf f defaultThreshold) kept := by
  unfold secondPhase
  rw [passed]

theorem second_rows (kept : List Numbered) : (secondPhase score d options defaultThreshold kept).map (·.row) = kept := by
  unfold secondPhase
  split
  · exact pass_rows [] kept
  · rw [List.map_map]
    exact List.map_id kept

theorem second_stays {kept : List Numbered} (ordered : Ordered kept) (n k : Numbered) (u : Double)
    (member : ⟨n, some (k, u)⟩ ∈ secondPhase score d options defaultThreshold kept) :
    k ∈ survivors (secondPhase score d options defaultThreshold kept) := by
  unfold secondPhase at member ⊢
  split at member
  · exact (pass_repeats ordered member).stays
  · cases untouched member

def runFirst : List (Judged Unit) := exactPhase d.keys rows.zipIdx

def runSecond : List (Judged Double) := secondPhase score d options defaultThreshold (survivors (runFirst d rows))

def runLedger : Ledger := ledger (runFirst d rows) (runSecond score d options defaultThreshold rows)

theorem run_phases : Phases rows (runFirst d rows) (runSecond score d options defaultThreshold rows) := by
  have ordered : Ordered (survivors (runFirst d rows)) :=
    ordered_survivors (ordered_zipIdx rows 0) (exact_rows d.keys rows)
  refine ⟨exact_rows d.keys rows, second_rows score d options defaultThreshold _, ?_, ?_⟩
  · intro n k u member
    obtain ⟨_, repeated⟩ := exact_repeats member
    exact repeated.stays
  · exact second_stays score d options defaultThreshold ordered

theorem run_rows : (d.applyWith score options defaultThreshold rows).rows =
    (survivors (runSecond score d options defaultThreshold rows)).map (·.1) := by
  unfold applyWith runSecond secondPhase runFirst
  dsimp only
  cases d.gate options with
  | passed f => rfl
  | _ => rw [survivors_untouched]

theorem run_changes : (d.applyWith score options defaultThreshold rows).changes =
    changes (runFirst d rows) ++ changes (runSecond score d options defaultThreshold rows) := by
  unfold applyWith runSecond secondPhase runFirst
  dsimp only
  cases d.gate options with
  | passed f => rfl
  | _ => rw [changes_untouched, List.append_nil]

theorem applyWith_findings : (d.applyWith score options defaultThreshold rows).findings =
    exactFindings d.keys (runFirst d rows) ++ match d.gate options with
      | .off => []
      | .blocked => [blockedFinding]
      | .passed _ => fuzzyFindings d.keys (runSecond score d options defaultThreshold rows) := by
  unfold applyWith runSecond secondPhase runFirst
  dsimp only
  cases d.gate options with
  | off => exact (List.append_nil _).symm
  | blocked => rfl
  | passed f => rfl

theorem run_findings : (d.applyWith score options defaultThreshold rows).findings =
    (runLedger score d options defaultThreshold rows).exact.map (fun p => exactFinding d.keys p.1 p.2) ++
      match d.gate options with
      | .off => []
      | .blocked => [blockedFinding]
      | .passed _ => (runLedger score d options defaultThreshold rows).fuzzy.map
          fun p => fuzzyFinding d.keys p.1 p.2.1 p.2.2 := by
  rw [applyWith_findings]
  unfold runLedger ledger exactFindings fuzzyFindings
  rw [findings_dropped, findings_dropped, List.map_map]
  rfl

-- The row of a finding is the row that went.
theorem run_counted {i : Nat} (known : i < rows.length) :
    ((d.applyWith score options defaultThreshold rows).findings.filter fun f => f.row == some i).length =
      if i ∈ (runLedger score d options defaultThreshold rows).kept then 0 else 1 := by
  have both := (run_phases score d options defaultThreshold rows).counted known
  rw [applyWith_findings, ← List.countP_eq_length_filter, List.countP_append]
  have exact : (exactFindings d.keys (runFirst d rows)).countP (fun f => f.row == some i) =
      (gone (runFirst d rows)).count i := findings_count (fun _ _ _ => rfl) _ i
  rw [exact]
  refine Eq.trans ?_ both
  congr 1
  cases gate : d.gate options with
  | passed f => exact findings_count (fun _ _ _ => rfl) _ i
  | _ =>
    unfold gone runSecond
    rw [second_untouched score d options defaultThreshold _ (by rw [gate]; nofun), dropped_untouched]
    rfl

theorem run_fuzzy (p : Nat × Nat × Double) (member : p ∈ (runLedger score d options defaultThreshold rows).fuzzy) :
    ∃ f, d.gate options = .passed f ∧ FuzzyDrop (score (f.algorithm.getD defaultAlgorithm))
      (thresholdOf f defaultThreshold) d.keys rows (runLedger score d options defaultThreshold rows) p.1 p.2.1 p.2.2 := by
  have phases := run_phases score d options defaultThreshold rows
  unfold runLedger runSecond at *
  cases gate : d.gate options with
  | passed f =>
    refine ⟨f, rfl, ?_⟩
    rw [second_passed score d options defaultThreshold _ gate] at member phases ⊢
    exact fuzzy_drop phases member
  | _ =>
    unfold ledger at member
    rw [second_untouched score d options defaultThreshold _ (by rw [gate]; nofun), dropped_untouched] at member
    cases member

theorem keeps_books : ∃ l, Books score d options defaultThreshold rows (d.applyWith score options defaultThreshold rows) l := by
  have phases := run_phases score d options defaultThreshold rows
  have exactGone : (runLedger score d options defaultThreshold rows).exact.map (·.1) = gone (runFirst d rows) := by
    unfold runLedger ledger gone
    rw [List.map_map]
    rfl
  refine ⟨runLedger score d options defaultThreshold rows, ?_⟩
  exact {
    places := by rw [exactGone]; exact phases.places
    ordered := by
      rw [exactGone]
      exact ⟨phases.kept_ordered, ordered_gone (ordered_zipIdx rows 0) phases.first,
        ordered_gone phases.ordered_second phases.second⟩
    result := by rw [run_rows]; exact phases.result
    within := by rw [run_rows]; exact phases.within
    exact := fun p member => exact_drop phases member
    fuzzy := run_fuzzy score d options defaultThreshold rows
    apart := fun i stays j kept different s has => exact_apart phases stays kept different has
    unlike := by
      intro f gate i stays j kept less mine other has hasOther
      unfold runLedger runSecond at *
      rw [second_passed score d options defaultThreshold _ gate] at stays kept phases
      exact fuzzy_apart phases stays kept less has hasOther
    findings := run_findings score d options defaultThreshold rows
    once := fun i known => run_counted score d options defaultThreshold rows known
    changes := by rw [run_changes]; exact phases.changed
    differ := by
      intro p member row other here there
      rw [run_changes, phases.changed]
      exact change_iff phases.single member here there }

end

end Dedupe
end TidyRows
