import TidyRows.Proofs.Dedupe.Exact
import TidyRows.Proofs.Text.Blanks
import TidyRows.Proofs.Text.Words
import TidyRows.Proofs.Unicode.Casing
import TidyRows.Proofs.Value.RoundTrip
import TidyRows.Step.Validate
namespace TidyRows

namespace Text

-- The separator stands behind the text for the first time where it was put.
def Clear (separator w : List Char) : Prop := ¬ separator <:+: (w ++ separator).dropLast

theorem clear_shorter {separator w v rest more : List Char} (clear : Clear separator v)
    (same : w ++ separator ++ rest = v ++ separator ++ more) (shorter : w.length ≤ v.length) : w = v := by
  have inside : w ++ separator <+: v ++ separator := by
    refine List.prefix_of_prefix_length_le ⟨rest, rfl⟩ ⟨more, same.symm⟩ ?_
    rw [List.length_append, List.length_append]
    exact Nat.add_le_add_right shorter _
  obtain ⟨after, whole⟩ := inside
  by_cases none : after = []
  · rw [none, List.append_nil] at whole
    exact List.append_cancel_right whole
  · refine absurd ⟨w, after.dropLast, ?_⟩ clear
    rw [← whole, List.dropLast_append_of_ne_nil none]

theorem clear_first {separator w v rest more : List Char} (clear : Clear separator w) (other : Clear separator v)
    (same : w ++ separator ++ rest = v ++ separator ++ more) : w = v := by
  rcases Nat.le_total w.length v.length with shorter | longer
  · exact clear_shorter other same shorter
  · exact (clear_shorter clear same.symm longer).symm

theorem joinWith_injective {separator : List Char} {ws vs : List (List Char)} (count : ws.length = vs.length)
    (clear : ∀ w ∈ ws.dropLast, Clear separator w) (other : ∀ v ∈ vs.dropLast, Clear separator v)
    (same : joinWith separator ws = joinWith separator vs) : ws = vs := by
  induction ws generalizing vs with
  | nil => exact (List.eq_nil_of_length_eq_zero count.symm).symm
  | cons w rest ih =>
    cases vs with
    | nil => cases count
    | cons v more =>
      have fewer : rest.length = more.length := Nat.succ.inj count
      cases rest with
      | nil =>
        cases List.eq_nil_of_length_eq_zero fewer.symm
        exact congrArg (· :: []) same
      | cons w' rest =>
        cases more with
        | nil => cases fewer
        | cons v' more =>
          rw [joinWith_cons, joinWith_cons] at same
          have first : w = v := clear_first (clear w (by simp)) (other v (by simp)) same
          subst first
          have others := List.append_cancel_left same
          rw [ih fewer (fun u member => clear u (by simp [member])) (fun u member => other u (by simp [member])) others]

end Text

namespace Unicode

theorem isBlank_of_visible {c : Char} (visible : Read.Visible c) : isBlank c = false := by
  obtain ⟨low, high⟩ := visible
  unfold isBlank
  simp
  omega

end Unicode

theorem keyText_eq_nil_iff {row : Row} {field : String} : keyText row field = [] ↔ isBlankCell (row.get? field) = true := by
  unfold keyText
  rw [Unicode.lower_eq_nil_iff, Text.trim_eq_nil_iff]
  have shown (v : Value) : Text.allBlank v.written.toList = false := by
    obtain ⟨c, more, text, visible, _⟩ := Read.chars_head v
    unfold Value.written Text.allBlank
    rw [String.toList_ofList, text, List.all_cons, Unicode.isBlank_of_visible visible, Bool.false_and]
  cases row.get? field with
  | none => simp [cellText, isBlankCell, Text.allBlank]
  | some v =>
    cases v with
    | null => simp [cellText, Value.cellText, isBlankCell, Text.allBlank]
    | text s => simp [cellText, Value.cellText, isBlankCell]
    | _ => simp [cellText, Value.cellText, isBlankCell, shown]

namespace Dedupe

def keyTexts (keys : List String) (row : Row) : List (List Char) := keys.map (keyText row)

def Agree (keys : List String) (row other : Row) : Prop := ∀ field ∈ keys, keyText row field = keyText other field

-- The delimiter can be told from the key texts before it.
def ClearKeys (keys : List String) (row : Row) : Prop :=
  ∀ w ∈ (keyTexts keys row).dropLast, Text.Clear signatureDelimiter.toList w

section
variable {keys : List String} {row other : Row} {s : String}

theorem keySignature_blank : keySignature keys row = none ↔ ∀ field ∈ keys, keyText row field = [] := by
  unfold keySignature signature?
  simp [keyText_eq_nil_iff]

theorem keySignature_texts (has : keySignature keys row = some s) :
    s = String.ofList (Text.joinWith signatureDelimiter.toList (keyTexts keys row)) := by
  unfold keySignature signature? at has
  split at has
  · cases has
  · exact (Option.some.inj has).symm

theorem agree_texts (agree : Agree keys row other) : keyTexts keys row = keyTexts keys other :=
  List.map_congr_left agree

theorem agree_signature (agree : Agree keys row other) (has : keySignature keys row = some s) :
    keySignature keys other = some s := by
  cases found : keySignature keys other with
  | none =>
    have blank : keySignature keys row = none :=
      keySignature_blank.mpr fun field member => (agree field member).trans (keySignature_blank.mp found field member)
    rw [blank] at has
    cases has
  | some t => rw [keySignature_texts has, keySignature_texts found, agree_texts agree]

theorem signature_agree (has : keySignature keys row = some s) (same : keySignature keys other = some s)
    (clear : ClearKeys keys row) (clear' : ClearKeys keys other) : Agree keys row other := by
  have joined : Text.joinWith signatureDelimiter.toList (keyTexts keys row) =
      Text.joinWith signatureDelimiter.toList (keyTexts keys other) :=
    String.ofList_injective ((keySignature_texts has).symm.trans (keySignature_texts same))
  have texts : keyTexts keys row = keyTexts keys other :=
    Text.joinWith_injective (by simp [keyTexts]) clear clear' joined
  intro field member
  exact List.map_inj_left.mp texts field member

theorem keySignature_some (shown : ∃ field ∈ keys, isBlankCell (row.get? field) = false) :
    ∃ s, keySignature keys row = some s := by
  refine Option.ne_none_iff_exists'.mp fun none => ?_
  obtain ⟨field, member, solid⟩ := shown
  have blank := keyText_eq_nil_iff.mp (keySignature_blank.mp none field member)
  rw [solid] at blank
  cases blank

end

-- What it tells of a row that it is among the repeated ones.
structure Told (keys : List String) (rows : List Row) (repeated : List Nat) : Prop where
  signature : ∀ i row, rows[i]? = some row →
    (i ∈ repeated ↔ ∃ j < i, ∃ other s, rows[j]? = some other ∧
      keySignature keys row = some s ∧ keySignature keys other = some s)
  -- not all keys are blank, so that there is a signature
  agreeing : ∀ i row j other, rows[i]? = some row → rows[j]? = some other → j < i → Agree keys row other →
    (∃ field ∈ keys, isBlankCell (row.get? field) = false) → i ∈ repeated
  -- no key text can be taken for a delimiter
  clear : ∀ i row, rows[i]? = some row → i ∈ repeated → (∀ r ∈ rows, ClearKeys keys r) →
    ∃ j < i, ∃ other, rows[j]? = some other ∧ Agree keys row other

theorem told_of_signature {keys : List String} {rows : List Row} {repeated : List Nat}
    (signature : ∀ i row, rows[i]? = some row →
      (i ∈ repeated ↔ ∃ j < i, ∃ other s, rows[j]? = some other ∧
        keySignature keys row = some s ∧ keySignature keys other = some s)) : Told keys rows repeated := by
  refine ⟨signature, ?_, ?_⟩
  · intro i row j other here there less agree shown
    obtain ⟨s, has⟩ := keySignature_some shown
    exact (signature i row here).mpr ⟨j, less, other, s, there, has, agree_signature agree has⟩
  · intro i row here member clear
    obtain ⟨j, less, other, s, there, has, same⟩ := (signature i row here).mp member
    exact ⟨j, less, other, there, signature_agree has same (clear row (List.mem_of_getElem? here))
      (clear other (List.mem_of_getElem? there))⟩

theorem exact_told (keys : List String) (rows : List Row) : Told keys rows (gone (exactPhase keys rows.zipIdx)) := by
  refine told_of_signature fun i row here => ?_
  have known : (row, i) ∈ rows.zipIdx := mem_zipIdx_iff.mpr here
  have goes : i ∈ gone (exactPhase keys rows.zipIdx) ↔ ∃ found, ⟨(row, i), some found⟩ ∈ exactPhase keys rows.zipIdx := by
    rw [mem_gone]
    constructor
    · rintro ⟨other, found, inside⟩
      have place : (other, i) ∈ rows.zipIdx := by
        rw [← exact_rows keys rows]
        exact List.mem_map.mpr ⟨_, inside, rfl⟩
      cases here.symm.trans (mem_zipIdx_iff.mp place)
      exact ⟨found, inside⟩
    · rintro ⟨found, inside⟩
      exact ⟨row, found, inside⟩
  rw [goes, exact_drops_iff known]
  constructor
  · rintro ⟨k, member, less, s, has, same⟩
    exact ⟨k.2, less, k.1, s, mem_zipIdx_iff.mp member, has, same⟩
  · rintro ⟨j, less, other, s, there, has, same⟩
    exact ⟨(other, j), mem_zipIdx_iff.mpr there, less, s, has, same⟩

def repeatedRows [Libraries] (keys : List String) (message : Option String) (rows : List Row) : List Nat :=
  (Rule.checkRows [.unique keys message] rows).filterMap (·.row)

-- The rule finds a row when one before it has its signature.
theorem unique_ask [Libraries] {keys : List String} {message : Option String} {earlier : List Row} {row : Row} {index i : Nat} :
    (∃ f, (Rule.unique keys message).check.ask earlier row index = some f ∧ f.row = some i) ↔
      index = i ∧ ∃ s, keySignature keys row = some s ∧ ∃ other ∈ earlier, keySignature keys other = some s := by
  unfold Rule.check keySignature
  dsimp only
  cases signature? row keys signatureDelimiter with
  | none => simp
  | some s =>
    dsimp only
    by_cases known : ∃ other ∈ earlier, signature? other keys signatureDelimiter = some s
    · rw [if_pos (by simpa using known)]
      simp [known]
    · rw [if_neg (by simpa using known)]
      simp [known]

theorem unique_told [Libraries] (keys : List String) (message : Option String) (rows : List Row) :
    Told keys rows (repeatedRows keys message rows) := by
  refine told_of_signature fun i row here => ?_
  have found : i ∈ repeatedRows keys message rows ↔
      ∃ n ∈ rows.zipIdx, ∃ f, (Rule.unique keys message).check.ask (rows.take n.2) n.1 n.2 = some f ∧ f.row = some i := by
    unfold repeatedRows Rule.checkRows
    simp only [List.map_cons, List.map_nil, List.mem_filterMap, List.mem_flatMap, List.mem_singleton, exists_eq_left]
    constructor
    · rintro ⟨f, ⟨n, member, asks⟩, names⟩
      exact ⟨n, member, f, asks, names⟩
    · rintro ⟨n, member, f, asks, names⟩
      exact ⟨f, ⟨n, member, asks⟩, names⟩
  rw [found]
  constructor
  · rintro ⟨⟨row', _⟩, member, asks⟩
    obtain ⟨rfl, s, has, other, earlier, same⟩ := unique_ask.mp asks
    cases here.symm.trans (mem_zipIdx_iff.mp member)
    obtain ⟨j, there⟩ := List.mem_iff_getElem?.mp earlier
    rw [List.getElem?_take] at there
    split at there
    · rename_i less
      exact ⟨j, less, other, s, there, has, same⟩
    · cases there
  · rintro ⟨j, less, other, s, there, has, same⟩
    refine ⟨(row, i), mem_zipIdx_iff.mpr here, unique_ask.mpr ⟨rfl, s, has, other, ?_, same⟩⟩
    refine List.mem_iff_getElem?.mpr ⟨j, ?_⟩
    rw [List.getElem?_take, if_pos less, there]

theorem findings_gone (keys : List String) (judged : List (Judged Unit)) :
    (exactFindings keys judged).filterMap (·.row) = gone judged := by
  unfold exactFindings gone
  rw [findings_dropped, List.filterMap_map]
  exact congrFun List.filterMap_eq_map _

-- Without the second phase the rows go that are told to repeat one, and the rule against repetition tells the same.
theorem exact_dedupe_tells [Libraries] {d : Dedupe} {options : RunOptions} (off : ∀ f, d.gate options ≠ .passed f)
    (threshold : Double) (rows : List Row) :
    (d.apply options threshold rows).rows = (rows.zipIdx.filter fun n =>
      !((d.apply options threshold rows).findings.filterMap (·.row)).contains n.2).map (·.1) ∧
    Told d.keys rows ((d.apply options threshold rows).findings.filterMap (·.row)) ∧
    ∀ message, Told d.keys rows (repeatedRows d.keys message rows) := by
  have findings : (d.apply options threshold rows).findings.filterMap (·.row) = gone (exactPhase d.keys rows.zipIdx) := by
    unfold apply applyWith
    dsimp only
    split
    · exact findings_gone _ _
    · rw [List.filterMap_append, findings_gone]
      exact List.append_nil _
    · rename_i f gate
      exact absurd gate (off f)
  have kept : (d.apply options threshold rows).rows = (survivors (exactPhase d.keys rows.zipIdx)).map (·.1) := by
    unfold apply applyWith
    dsimp only
    split
    · rfl
    · rfl
    · rename_i f gate
      exact absurd gate (off f)
  rw [findings, kept, survivors_gone (ordered_zipIdx rows 0) (exact_rows d.keys rows)]
  exact ⟨rfl, exact_told d.keys rows, fun message => unique_told d.keys message rows⟩

namespace SpelledTwice
open Bare

-- One name in two spellings, and fuzzy matching that is asked for and not allowed.
def rows : List Row :=
  [.ofList [("name", .text " Ann"), ("city", .null)], .empty, .ofList [("city", .text "  "), ("name", .text "ANN ")]]

def step : Dedupe := ⟨["name", "city"], some ⟨true, none, none⟩⟩

theorem blocked (f : FuzzyMatching) : step.gate ⟨false⟩ ≠ .passed f := nofun

theorem spelled_twice_tells :
    (∀ f, step.gate ⟨false⟩ ≠ .passed f) ∧
    (step.apply ⟨false⟩ .one rows).rows = (rows.zipIdx.filter fun n =>
      !((step.apply ⟨false⟩ .one rows).findings.filterMap (·.row)).contains n.2).map (·.1) ∧
    Told ["name", "city"] rows ((step.apply ⟨false⟩ .one rows).findings.filterMap (·.row)) ∧
    ∀ message, Told ["name", "city"] rows (repeatedRows ["name", "city"] message rows) :=
  ⟨blocked, exact_dedupe_tells blocked .one rows⟩

end SpelledTwice

namespace Collision
open Bare

-- The delimiter stands in the first value of one row and in the second value of the other.
def rows : List Row :=
  [.ofList [("a", .text "x||y"), ("b", .text "z")], .ofList [("a", .text "x"), ("b", .text "y||z")]]

def step : Dedupe := ⟨["a", "b"], none⟩

theorem joined_alike (row : Row) (member : row ∈ rows) :
    keySignature step.keys row = some (String.ofList ['x', '|', '|', 'y', '|', '|', 'z']) := by
  rcases List.mem_cons.mp member with rfl | member
  · rfl
  · rw [List.mem_singleton.mp member]
    rfl

theorem second_told {repeated : List Nat} (told : Told step.keys rows repeated) : 1 ∈ repeated :=
  (told.signature 1 _ rfl).mpr ⟨0, by decide, _, _, rfl, joined_alike _ (by simp [rows]), joined_alike _ (by simp [rows])⟩

theorem collision_drops :
    1 ∈ (step.apply ⟨false⟩ .one rows).findings.filterMap (·.row) ∧ 1 ∈ repeatedRows step.keys none rows ∧
      ¬ ∃ j < 1, ∃ row other, rows[1]? = some row ∧ rows[j]? = some other ∧ Agree step.keys row other := by
  refine ⟨?_, second_told (unique_told step.keys none rows), ?_⟩
  · have findings : (step.apply ⟨false⟩ .one rows).findings.filterMap (·.row) = gone (exactPhase step.keys rows.zipIdx) :=
      findings_gone _ _
    rw [findings]
    exact second_told (exact_told step.keys rows)
  · rintro ⟨j, less, row, other, here, there, agree⟩
    cases Nat.lt_one_iff.mp less
    cases here
    cases there
    exact absurd (agree "a" (by simp [step])) (by decide)

end Collision

end Dedupe
end TidyRows
