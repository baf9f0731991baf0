import Mathlib.Data.List.Nodup
import TidyRows.Step.Dedupe
namespace TidyRows.Dedupe

def marked (mark : Row → Option κ) (rows : List Numbered) : List (Numbered × κ) :=
  rows.filterMap fun n => (mark n.1).map (n, ·)

variable {mark : Row → Option κ} {like : κ → κ → Option α}

def judge (mark : Row → Option κ) (like : κ → κ → Option α) (kept : List Numbered) (n : Numbered) :
    Option (Numbered × α) :=
  (mark n.1).bind fun m => firstLike like m (marked mark kept)

theorem mem_marked {n : Numbered} {m : κ} : (n, m) ∈ marked mark rows ↔ n ∈ rows ∧ mark n.1 = some m := by
  unfold marked
  constructor
  · intro member
    obtain ⟨other, inside, same⟩ := List.mem_filterMap.mp member
    obtain ⟨found, has, equal⟩ := Option.map_eq_some_iff.mp same
    cases equal
    exact ⟨inside, has⟩
  · rintro ⟨inside, has⟩
    exact List.mem_filterMap.mpr ⟨n, inside, by rw [has]; rfl⟩

theorem survivors_append (first second : List (Judged α)) :
    survivors (first ++ second) = survivors first ++ survivors second := by
  unfold survivors
  rw [List.filter_append, List.map_append]

theorem mem_survivors {judged : List (Judged α)} {n : Numbered} : n ∈ survivors judged ↔ ⟨n, none⟩ ∈ judged := by
  unfold survivors
  constructor
  · intro member
    obtain ⟨⟨row, repeats⟩, inside, rfl⟩ := List.mem_map.mp member
    obtain ⟨inside, kept⟩ := List.mem_filter.mp inside
    cases repeats with
    | none => exact inside
    | some _ => cases kept
  · intro inside
    exact List.mem_map.mpr ⟨_, List.mem_filter.mpr ⟨inside, rfl⟩, rfl⟩

-- One row of a pass: it is judged, and the rows after it meet it only if it stays.
theorem pass_cons (kept : List Numbered) (n : Numbered) (rest : List Numbered) :
    pass mark like (marked mark kept) (n :: rest) =
      ⟨n, judge mark like kept n⟩ ::
        pass mark like (marked mark (kept ++ survivors [⟨n, judge mark like kept n⟩])) rest := by
  rw [pass]
  unfold judge
  cases has : mark n.1 with
  | none =>
    have unmarked : marked mark (kept ++ [n]) = marked mark kept := by simp [marked, has]
    simp [survivors, unmarked]
  | some m =>
    simp only [Option.bind_some]
    cases found : firstLike like m (marked mark kept) with
    | none =>
      have more : marked mark (kept ++ [n]) = marked mark kept ++ [(n, m)] := by simp [marked, has]
      simp [survivors, more]
    | some _ => simp [survivors]

theorem pass_rows (kept : List Numbered) (rows : List Numbered) :
    (pass mark like (marked mark kept) rows).map (·.row) = rows := by
  induction rows generalizing kept with
  | nil => rfl
  | cons n rest ih => rw [pass_cons, List.map_cons, ih]

-- Every row is judged by those kept before the pass and those that the pass has kept so far.
theorem pass_judges (kept : List Numbered) {rows : List Numbered} {before after : List (Judged α)} {j : Judged α}
    (split : pass mark like (marked mark kept) rows = before ++ j :: after) :
    j.repeats = judge mark like (kept ++ survivors before) j.row := by
  induction rows generalizing kept before with
  | nil => simp [pass] at split
  | cons n rest ih =>
    rw [pass_cons] at split
    cases before with
    | nil =>
      obtain ⟨rfl, _⟩ := List.cons.inj split
      simp [survivors]
    | cons head before =>
      obtain ⟨rfl, later⟩ := List.cons.inj split
      have later := ih _ later
      rwa [List.append_assoc, ← survivors_append] at later

def Ordered (rows : List Numbered) : Prop := rows.Pairwise (·.2 < ·.2)

section
variable {rows : List Numbered} {judged : List (Judged α)}

theorem ordered_judged (ordered : Ordered rows) (whole : judged.map (·.row) = rows) :
    judged.Pairwise fun a b => a.row.2 < b.row.2 := by
  subst whole
  unfold Ordered at ordered
  rwa [List.pairwise_map] at ordered

theorem survivors_sublist (judged : List (Judged α)) : (survivors judged).Sublist (judged.map (·.row)) :=
  List.filter_sublist.map _

theorem ordered_survivors (ordered : Ordered rows) (whole : judged.map (·.row) = rows) : Ordered (survivors judged) :=
  List.Pairwise.sublist (whole ▸ survivors_sublist judged) ordered

-- The kept rows with a smaller number are those that the pass has met before.
theorem survivors_before {before after : List (Judged α)} {j : Judged α} {k : Numbered}
    (ordered : Ordered ((before ++ j :: after).map (·.row))) (kept : k ∈ survivors (before ++ j :: after)) (less : k.2 < j.row.2) :
    k ∈ survivors before := by
  rw [survivors_append, List.mem_append] at kept
  refine kept.resolve_right fun late => ?_
  obtain ⟨_, tail, _⟩ := List.pairwise_append.mp (ordered_judged ordered rfl)
  rcases List.mem_cons.mp (mem_survivors.mp late) with rfl | late
  · exact Nat.lt_irrefl _ less
  · exact Nat.lt_asymm less (List.rel_of_pairwise_cons tail late)

theorem number_before {before after : List (Judged α)} {j : Judged α} {k : Numbered}
    (ordered : Ordered ((before ++ j :: after).map (·.row))) (kept : k ∈ survivors before) : k.2 < j.row.2 := by
  obtain ⟨_, _, across⟩ := List.pairwise_append.mp (ordered_judged ordered rfl)
  exact across _ (mem_survivors.mp kept) j List.mem_cons_self

end

theorem ordered_marked (ordered : Ordered kept) : (marked mark kept).Pairwise fun a b => a.1.2 < b.1.2 := by
  refine List.Pairwise.filterMap _ ?_ ordered
  intro a b less c hc e he
  obtain ⟨_, _, rfl⟩ := Option.map_eq_some_iff.mp hc
  obtain ⟨_, _, rfl⟩ := Option.map_eq_some_iff.mp he
  exact less

-- Of the kept rows that a mark is like, the one with the smallest number is found.
theorem firstLike_first {m : κ} {kept : List Numbered} {k : Numbered} {likeness : α} (ordered : Ordered kept)
    (found : firstLike like m (marked mark kept) = some (k, likeness)) :
    k ∈ kept ∧ (∃ other, mark k.1 = some other ∧ like m other = some likeness) ∧
      ∀ l ∈ kept, l.2 < k.2 → ∀ other, mark l.1 = some other → like m other = none := by
  obtain ⟨smaller, ⟨first, other⟩, larger, split, here, unlike⟩ := List.findSome?_eq_some_iff.mp found
  obtain ⟨_, alike, same⟩ := Option.map_eq_some_iff.mp here
  cases same
  have inside : (k, other) ∈ marked mark kept := by rw [split]; simp
  obtain ⟨stays, has⟩ := mem_marked.mp inside
  refine ⟨stays, ⟨other, has, alike⟩, ?_⟩
  intro l staysL less otherL hasL
  have place : (l, otherL) ∈ smaller ++ (k, other) :: larger := split ▸ mem_marked.mpr ⟨staysL, hasL⟩
  have numbers : (marked mark kept).Pairwise fun a b => a.1.2 < b.1.2 := ordered_marked ordered
  rw [split] at numbers
  obtain ⟨_, tail, _⟩ := List.pairwise_append.mp numbers
  rcases List.mem_append.mp place with early | late
  · exact Option.map_eq_none_iff.mp (unlike _ early)
  · rcases List.mem_cons.mp late with same | late
    · cases same
      exact absurd less (Nat.lt_irrefl _)
    · exact absurd less (Nat.lt_asymm (List.rel_of_pairwise_cons tail late))

structure Repeats (mark : Row → Option κ) (like : κ → κ → Option α) (kept : List Numbered) (n k : Numbered)
    (likeness : α) : Prop where
  stays : k ∈ kept
  earlier : k.2 < n.2
  alike : ∃ m other, mark n.1 = some m ∧ mark k.1 = some other ∧ like m other = some likeness
  first : ∀ l ∈ kept, l.2 < k.2 → ∀ m other, mark n.1 = some m → mark l.1 = some other → like m other = none

variable {rows : List Numbered}

theorem pass_repeats (ordered : Ordered rows) {n k : Numbered} {likeness : α}
    (member : ⟨n, some (k, likeness)⟩ ∈ pass mark like [] rows) :
    Repeats mark like (survivors (pass mark like [] rows)) n k likeness := by
  obtain ⟨before, after, split⟩ := List.append_of_mem member
  have judged : some (k, likeness) = judge mark like ([] ++ survivors before) n := pass_judges [] split
  rw [List.nil_append] at judged
  have sorted : Ordered ((before ++ ⟨n, some (k, likeness)⟩ :: after).map (·.row)) := by
    rw [← split, show (pass mark like [] rows).map (·.row) = rows from pass_rows [] rows]
    exact ordered
  have sortedBefore : Ordered (survivors before) := by
    refine List.Pairwise.sublist ?_ (ordered_survivors sorted rfl)
    rw [survivors_append]
    exact List.sublist_append_left _ _
  obtain ⟨m, has, found⟩ := Option.bind_eq_some_iff.mp judged.symm
  obtain ⟨kept, ⟨other, hasOther, alike⟩, first⟩ := firstLike_first sortedBefore found
  have earlier : k.2 < n.2 := number_before sorted kept
  rw [split]
  refine ⟨?_, earlier, ⟨m, other, has, hasOther, alike⟩, ?_⟩
  · rw [survivors_append]
    exact List.mem_append_left _ kept
  · intro l stays less m' otherL has' hasL
    cases has.symm.trans has'
    exact first l (survivors_before sorted stays (Nat.lt_trans less earlier)) less otherL hasL

-- No kept row is like one kept before it.
theorem pass_apart (ordered : Ordered rows) {n k : Numbered} {m other : κ}
    (stays : n ∈ survivors (pass mark like [] rows)) (kept : k ∈ survivors (pass mark like [] rows))
    (less : k.2 < n.2) (has : mark n.1 = some m) (hasOther : mark k.1 = some other) : like m other = none := by
  obtain ⟨before, after, split⟩ := List.append_of_mem (mem_survivors.mp stays)
  have judged : none = judge mark like ([] ++ survivors before) n := pass_judges [] split
  rw [List.nil_append, judge, has, Option.bind_some] at judged
  have sorted : Ordered ((before ++ ⟨n, none⟩ :: after).map (·.row)) := by
    rw [← split, show (pass mark like [] rows).map (·.row) = rows from pass_rows [] rows]
    exact ordered
  rw [split] at kept
  have prior : k ∈ survivors before := survivors_before sorted kept less
  exact Option.map_eq_none_iff.mp
    (List.findSome?_eq_none_iff.mp judged.symm _ (mem_marked.mpr ⟨prior, hasOther⟩))

def dropped (judged : List (Judged α)) : List (Nat × Nat × α) :=
  judged.filterMap fun j => j.repeats.map fun (k, likeness) => (j.row.2, k.2, likeness)

def gone (judged : List (Judged α)) : List Nat := (dropped judged).map (·.1)

section
variable {judged : List (Judged α)}

theorem mem_dropped {i k : Nat} {likeness : α} : (i, k, likeness) ∈ dropped judged ↔
    ∃ row kept, ⟨(row, i), some ((kept, k), likeness)⟩ ∈ judged := by
  unfold dropped
  rw [List.mem_filterMap]
  constructor
  · rintro ⟨⟨⟨row, _⟩, repeats⟩, inside, same⟩
    obtain ⟨⟨⟨kept, _⟩, _⟩, rfl, equal⟩ := Option.map_eq_some_iff.mp same
    cases equal
    exact ⟨row, kept, inside⟩
  · rintro ⟨row, kept, inside⟩
    exact ⟨_, inside, rfl⟩

theorem mem_gone {i : Nat} : i ∈ gone judged ↔ ∃ row found, ⟨(row, i), some found⟩ ∈ judged := by
  unfold gone
  rw [List.mem_map]
  constructor
  · rintro ⟨⟨_, k, likeness⟩, member, rfl⟩
    obtain ⟨row, kept, inside⟩ := mem_dropped.mp member
    exact ⟨row, _, inside⟩
  · rintro ⟨row, ⟨⟨kept, k⟩, likeness⟩, inside⟩
    exact ⟨_, mem_dropped.mpr ⟨row, kept, inside⟩, rfl⟩

-- What is told of a pass is told of the rows that go, in their order.
theorem findings_dropped (tell : Nat → Nat → α → Finding) (judged : List (Judged α)) :
    findings tell judged = (dropped judged).map fun p => tell p.1 p.2.1 p.2.2 := by
  unfold findings dropped
  rw [List.map_filterMap]
  refine List.filterMap_congr fun j _ => ?_
  rw [Option.map_map]
  rfl

theorem gone_numbers (judged : List (Judged α)) :
    gone judged = ((judged.filter fun j => !j.repeats.isNone).map (·.row)).map (·.2) := by
  unfold gone dropped
  induction judged with
  | nil => rfl
  | cons j rest ih =>
    obtain ⟨n, repeats⟩ := j
    cases repeats with
    | none => simpa using ih
    | some found => simpa using ih

theorem survivors_or_gone (judged : List (Judged α)) :
    ((survivors judged).map (·.2) ++ gone judged).Perm ((judged.map (·.row)).map (·.2)) := by
  rw [gone_numbers, ← List.map_append]
  unfold survivors
  rw [← List.map_append]
  exact ((List.filter_append_perm _ judged).map _).map _

theorem ordered_gone {rows : List Numbered} (ordered : Ordered rows) (whole : judged.map (·.row) = rows) :
    (gone judged).Pairwise (· < ·) := by
  rw [gone_numbers, List.pairwise_map]
  refine List.Pairwise.sublist (List.filter_sublist.map _) ?_
  rw [whole]
  exact ordered

theorem survivor_not_gone {rows : List Numbered} {n : Numbered} (ordered : Ordered rows)
    (whole : judged.map (·.row) = rows) (stays : n ∈ survivors judged) : n.2 ∉ gone judged := by
  intro goes
  obtain ⟨row, found, inside⟩ := mem_gone.mp goes
  have numbers : (judged.map fun j => j.row.2).Nodup :=
    List.pairwise_map.mpr ((ordered_judged ordered whole).imp fun less => Nat.ne_of_lt less)
  have same := congrArg Judged.repeats (List.inj_on_of_nodup_map numbers (mem_survivors.mp stays) inside rfl)
  cases same

theorem survivors_gone {rows : List Numbered} (ordered : Ordered rows) (whole : judged.map (·.row) = rows) :
    survivors judged = rows.filter fun n => !(gone judged).contains n.2 := by
  have same (j : Judged α) (member : j ∈ judged) : j.repeats.isNone = !(gone judged).contains j.row.2 := by
    obtain ⟨n, repeats⟩ := j
    cases repeats with
    | some found =>
      have goes : n.2 ∈ gone judged := mem_gone.mpr ⟨n.1, found, member⟩
      simp [goes]
    | none =>
      have stays : n.2 ∉ gone judged := survivor_not_gone ordered whole (mem_survivors.mpr member)
      simp [stays]
  unfold survivors
  rw [List.filter_congr same, ← whole, List.filter_map]
  rfl

end

end TidyRows.Dedupe
