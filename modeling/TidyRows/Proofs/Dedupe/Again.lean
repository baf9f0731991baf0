import TidyRows.Proofs.Dedupe.Books
namespace TidyRows.Dedupe

def Apart (mark : Row → Option κ) (like : κ → κ → Option α) (rows : List Row) : Prop :=
  rows.Pairwise fun earlier later =>
    ∀ m other, mark later = some m → mark earlier = some other → like m other = none

section
variable {mark : Row → Option κ} {like : κ → κ → Option α}

theorem survivors_apart {rows : List Numbered} (ordered : Ordered rows) :
    Apart mark like ((survivors (pass mark like [] rows)).map (·.1)) := by
  have numbers : Ordered (survivors (pass mark like [] rows)) := ordered_survivors ordered (pass_rows [] rows)
  apply List.pairwise_map.mpr
  apply numbers.imp_of_mem
  intro k n kept stays less m other has hasOther
  exact pass_apart ordered stays kept less has hasOther

theorem judge_apart {kept : List Numbered} {n : Numbered}
    (unlike : ∀ k ∈ kept, ∀ m other, mark n.1 = some m → mark k.1 = some other → like m other = none) :
    judge mark like kept n = none := by
  unfold judge
  cases has : mark n.1 with
  | none => rfl
  | some m =>
    apply List.findSome?_eq_none_iff.mpr
    rintro ⟨k, other⟩ member
    obtain ⟨inside, hasOther⟩ := mem_marked.mp member
    simp [unlike k inside m other has hasOther]

-- The rows that have been met are all kept, so the induction takes them along.
theorem pass_keeps {kept rows : List Numbered} (apart : Apart mark like ((kept ++ rows).map (·.1))) :
    pass mark like (marked mark kept) rows = rows.map (⟨·, none⟩) := by
  induction rows generalizing kept with
  | nil => rfl
  | cons n rest ih =>
    obtain ⟨_, _, across⟩ := List.pairwise_append.mp (List.pairwise_map.mp apart)
    have stays : judge mark like kept n = none := judge_apart fun k inside => across k inside n (by simp)
    have later : pass mark like (marked mark (kept ++ [n])) rest = rest.map (⟨·, none⟩) := ih (by simpa using apart)
    simpa [pass_cons, stays, survivors] using later

theorem pass_all {rows : List Row} (apart : Apart mark like rows) :
    pass mark like [] rows.zipIdx = rows.zipIdx.map (⟨·, none⟩) := by
  have whole : Apart mark like ((([] : List Numbered) ++ rows.zipIdx).map (·.1)) := by simpa using apart
  exact pass_keeps whole

end

section
variable {score : Similarity → List Char → List Char → Double} {d : Dedupe} {options : RunOptions}
  {defaultThreshold : Double} {rows : List Row}

-- What has come out once is apart in both ways.

theorem exact_apart_after : Apart (keySignature d.keys) sameSignature
    (d.applyWith score options defaultThreshold rows).rows := by
  have phases := run_phases score d options defaultThreshold rows
  have fewer : ((survivors (runSecond score d options defaultThreshold rows)).map (·.1)).Sublist
      ((survivors (runFirst d rows)).map (·.1)) := by
    rw [← phases.second]
    exact (survivors_sublist _).map _
  rw [run_rows]
  exact (survivors_apart (ordered_zipIdx rows 0)).sublist fewer

theorem fuzzy_apart_after {f : FuzzyMatching} (passed : d.gate options = .passed f) :
    Apart (compositeMark d.keys)
      (likeEnough (score (f.algorithm.getD defaultAlgorithm)) (thresholdOf f defaultThreshold))
      (d.applyWith score options defaultThreshold rows).rows := by
  have phases := run_phases score d options defaultThreshold rows
  rw [run_rows, runSecond, second_passed score d options defaultThreshold _ passed]
  exact survivors_apart phases.ordered_second

theorem runFirst_again : runFirst d (d.applyWith score options defaultThreshold rows).rows =
    (d.applyWith score options defaultThreshold rows).rows.zipIdx.map (⟨·, none⟩) :=
  pass_all exact_apart_after

theorem runSecond_again :
    runSecond score d options defaultThreshold (d.applyWith score options defaultThreshold rows).rows =
      (d.applyWith score options defaultThreshold rows).rows.zipIdx.map (⟨·, none⟩) := by
  rw [runSecond, runFirst_again, survivors_untouched]
  cases gate : d.gate options with
  | passed f =>
    rw [second_passed score d options defaultThreshold _ gate]
    exact pass_all (fuzzy_apart_after gate)
  | _ => exact second_untouched score d options defaultThreshold _ (by rw [gate]; nofun)

theorem findings_coded (tell : Nat → Nat → α → Finding) {code : FindingCode}
    (coded : ∀ i k u, (tell i k u).code = code) (judged : List (Judged α)) (wanted : FindingCode) :
    (findings tell judged).filter (·.code == wanted) = if code = wanted then findings tell judged else [] := by
  have known : ∀ f ∈ findings tell judged, f.code = code := by
    intro f member
    rw [findings_dropped] at member
    obtain ⟨p, _, rfl⟩ := List.mem_map.mp member
    exact coded _ _ _
  split
  · rename_i same
    exact List.filter_eq_self.mpr fun f member => by simp [known f member, same]
  · rename_i other
    exact List.filter_eq_nil_iff.mpr fun f member => by simp [known f member, other]

theorem exactFindings_coded (keys : List String) (judged : List (Judged Unit)) (wanted : FindingCode) :
    (exactFindings keys judged).filter (·.code == wanted) =
      if .dedupeExact = wanted then exactFindings keys judged else [] :=
  findings_coded (fun i k _ => exactFinding keys i k) (fun _ _ _ => rfl) judged wanted

theorem fuzzyFindings_coded (keys : List String) (judged : List (Judged Double)) (wanted : FindingCode) :
    (fuzzyFindings keys judged).filter (·.code == wanted) =
      if .dedupeFuzzy = wanted then fuzzyFindings keys judged else [] :=
  findings_coded (fuzzyFinding keys) (fun _ _ _ => rfl) judged wanted

theorem findings_untouched (tell : Nat → Nat → α → Finding) (kept : List Numbered) :
    findings tell (kept.map (⟨·, none⟩)) = [] := by
  rw [findings_dropped, dropped_untouched]
  rfl

end

section
variable (score : Similarity → List Char → List Char → Double) (d : Dedupe) (options : RunOptions)
  (defaultThreshold : Double) (rows : List Row)

theorem rows_again :
    (d.applyWith score options defaultThreshold (d.applyWith score options defaultThreshold rows).rows).rows =
      (d.applyWith score options defaultThreshold rows).rows := by
  rw [run_rows, runSecond_again, survivors_untouched, List.zipIdx_map_fst]

theorem changes_again :
    (d.applyWith score options defaultThreshold (d.applyWith score options defaultThreshold rows).rows).changes = [] := by
  rw [run_changes, runFirst_again, runSecond_again, changes_untouched, changes_untouched]
  rfl

theorem findings_again :
    (d.applyWith score options defaultThreshold (d.applyWith score options defaultThreshold rows).rows).findings =
      (d.applyWith score options defaultThreshold rows).findings.filter (·.code == .dedupeFuzzyBlocked) := by
  rw [applyWith_findings, applyWith_findings, List.filter_append, exactFindings_coded, runFirst_again,
    runSecond_again, exactFindings, findings_untouched]
  cases d.gate options with
  | off => rfl
  | blocked => rfl
  | passed f =>
    simp only [fuzzyFindings_coded]
    exact findings_untouched (fuzzyFinding d.keys) _

-- The second time nothing happens: the rows stay, no change is told of, and of the findings only the notice that
-- fuzzy matching is not to be had comes back.
theorem dedupe_again :
    d.applyWith score options defaultThreshold (d.applyWith score options defaultThreshold rows).rows =
      { rows := (d.applyWith score options defaultThreshold rows).rows
        findings := (d.applyWith score options defaultThreshold rows).findings.filter
          (·.code == .dedupeFuzzyBlocked)
        changes := [] } := by
  have rows_again := rows_again score d options defaultThreshold rows
  have findings_again := findings_again score d options defaultThreshold rows
  have changes_again := changes_again score d options defaultThreshold rows
  generalize d.applyWith score options defaultThreshold (d.applyWith score options defaultThreshold rows).rows = o
    at rows_again findings_again changes_again
  obtain ⟨again, findings, changes⟩ := o
  cases rows_again
  cases findings_again
  cases changes_again
  rfl

end

end TidyRows.Dedupe
