import TidyRows.Proofs.Text.Blanks
import TidyRows.Proofs.Text.Replacing
import TidyRows.Transform.Apply
namespace TidyRows.Transform
open Text
variable {cs ds : List Char} {c : Char} {after? : List Char → Option (List Char)}

def Tagless (cs : List Char) : Prop := cs.Pairwise fun a b => ¬(a = '<' ∧ b = '>')

theorem removeFrom_sublist (after? : List Char → Option (List Char)) (skip : Nat) (cs : List Char) :
    (removeFrom after? skip cs).Sublist cs := by
  induction cs generalizing skip with
  | nil => exact List.Sublist.slnil
  | cons c rest ih =>
    unfold removeFrom
    split
    · exact (ih _).cons c
    · split
      · exact (ih _).cons c
      · exact (ih 0).cons_cons c

theorem removeFrom_kept (none : ∀ c rest, Tagless (c :: rest) → after? (c :: rest) = none) (tagless : Tagless cs) :
    removeFrom after? 0 cs = cs := by
  induction cs with
  | nil => rfl
  | cons c rest ih =>
    unfold removeFrom
    rw [none c rest tagless, ih tagless.of_cons]

theorem afterTagEnd?_eq_none_iff : afterTagEnd? cs = none ↔ '>' ∉ cs := by
  have gone : cs.dropWhile (· != '>') = [] ↔ '>' ∉ cs := by
    rw [List.dropWhile_eq_nil_iff]
    simp only [bne_iff_ne]
    exact ⟨fun all member => all _ member rfl, fun away c member same => away (same ▸ member)⟩
  rw [← gone]
  unfold afterTagEnd?
  split <;> simp [*]

theorem tagless_away (tagless : Tagless ('<' :: cs)) : '>' ∉ cs := fun member =>
  (List.pairwise_cons.mp tagless).1 '>' member ⟨rfl, rfl⟩

theorem removeTags_tagless (cs : List Char) : Tagless (removeTags cs) := by
  suffices ∀ skip, Tagless (removeFrom afterTag? skip cs) from this 0
  induction cs with
  | nil => exact fun _ => .nil
  | cons c rest ih =>
    intro skip
    unfold removeFrom
    split
    · exact ih _
    · split
      · exact ih _
      · rename_i unclosed
        refine List.pairwise_cons.mpr ⟨?_, ih 0⟩
        rintro d member ⟨rfl, rfl⟩
        exact afterTagEnd?_eq_none_iff.mp unclosed ((removeFrom_sublist ..).subset member)

theorem removeTags_kept (tagless : Tagless cs) : removeTags cs = cs := by
  refine removeFrom_kept (fun c rest tagless => ?_) tagless
  unfold afterTag?
  split
  · rename_i same
    cases same
    exact afterTagEnd?_eq_none_iff.mpr (tagless_away tagless)
  · rfl

theorem afterBlockName?_suffix {rest : List Char} (found : afterBlockName? cs = some rest) : rest <:+ cs := by
  have word {word cs rest : List Char} (found : afterWord? word cs = some rest) : rest <:+ cs := by
    obtain ⟨_, same⟩ := Option.ite_none_right_eq_some.mp found
    cases same
    exact List.drop_suffix ..
  rcases Option.or_eq_some_iff.mp found with script | ⟨_, style⟩
  · exact word script
  · exact word style

theorem removeBlocks_kept (tagless : Tagless cs) : removeBlocks cs = cs := by
  refine removeFrom_kept (fun c rest tagless => ?_) tagless
  unfold afterBlock?
  split
  · rename_i same
    cases same
    cases named : afterBlockName? rest with
    | none => rfl
    | some more =>
      have away : '>' ∉ more := fun member => tagless_away tagless ((afterBlockName?_suffix named).subset member)
      simp [afterTagEnd?_eq_none_iff.mpr away]
  · rfl

-- Every entity starts with its only ampersand, and what it stands for is in no entity that comes later in the table.
structure Codes (table : List (String × Char)) : Prop where
  spelled : ∀ e ∈ table, ∃ body, e.1.toList = '&' :: body ∧ body ≠ [] ∧ '&' ∉ body
  apart : table.Pairwise fun e later => e.2 ∉ later.1.toList

-- Reading from left to right, each entity of the table is read as its character, and all else as itself. The mark tells
-- which characters were written as entities.
inductive Decoded (table : List (String × Char)) : List Char → List (Char × Bool) → Prop
  | done : Decoded table [] []
  | entity {e : String × Char} {cs : List Char} {read : List (Char × Bool)} (known : e ∈ table)
      (rest : Decoded table cs read) : Decoded table (e.1.toList ++ cs) ((e.2, true) :: read)
  | plain {c : Char} {cs : List Char} {read : List (Char × Bool)} (none : ∀ e ∈ table, ¬e.1.toList <+: c :: cs)
      (rest : Decoded table cs read) : Decoded table (c :: cs) ((c, false) :: read)

theorem entities_codes : Codes entities := by
  have spelled : ∀ e ∈ entities, e.1.toList.head? = some '&' ∧ e.1.toList.tail ≠ [] ∧ '&' ∉ e.1.toList.tail := by decide
  refine ⟨fun e known => ?_, by decide⟩
  obtain ⟨first, long, single⟩ := spelled e known
  exact ⟨e.1.toList.tail, (List.cons_head?_tail first).symm, long, single⟩

namespace Codes
variable {e : String × Char} {table : List (String × Char)}

theorem tail (codes : Codes (e :: table)) : Codes table :=
  ⟨fun e member => codes.spelled e (List.mem_cons_of_mem _ member), codes.apart.of_cons⟩

theorem filled (codes : Codes table) (known : e ∈ table) : e.1.toList ≠ [] := by
  obtain ⟨body, spelled, _⟩ := codes.spelled e known
  simp [spelled]

-- An entity that starts with a character left alone by the replacing of another one started there before.
theorem absent {other : String × Char} (codes : Codes (e :: table)) (known : other ∈ table)
    (replaced : Replaced e.1.toList [e.2] cs ds) (none : ¬other.1.toList <+: c :: ds) : ¬other.1.toList <+: c :: cs := by
  intro start
  obtain ⟨body, spelled, _⟩ := codes.spelled e (List.mem_cons_self ..)
  obtain ⟨inner, spelled', _, single⟩ := codes.spelled other (List.mem_cons_of_mem _ known)
  rw [spelled', List.cons_prefix_cons] at start
  obtain ⟨rfl, more, rfl⟩ := start
  have apart : ∀ c ∈ inner, e.1.toList.head? ≠ some c := by
    intro c inside same
    rw [spelled, List.head?_cons, Option.some_inj] at same
    exact single (same ▸ inside)
  obtain ⟨later, rfl, _⟩ := replaced.after (codes.filled (List.mem_cons_self ..)) apart
  exact none (spelled' ▸ List.prefix_append ('&' :: inner) later)

-- Replacing one entity first and decoding the others behind it is decoding all of them at once.
theorem decode (codes : Codes (e :: table)) {read : List (Char × Bool)} (replaced : Replaced e.1.toList [e.2] cs ds)
    (decoded : Decoded table ds read) :
    ∃ all, Decoded (e :: table) cs all ∧ all.map Prod.fst = read.map Prod.fst := by
  induction decoded generalizing cs with
  | done =>
    rcases replaced.parts with ⟨rfl, _⟩ | ⟨_, _, _, same, _⟩ | ⟨_, _, _, _, same, _⟩
    · exact ⟨[], .done, rfl⟩
    · cases same
    · cases same
  | @entity other ds read known rest ih =>
    have fresh : ∀ c ∈ other.1.toList, [e.2].head? ≠ some c := by
      rintro c member same
      cases same
      exact (List.pairwise_cons.mp codes.apart).1 other known member
    obtain ⟨before, rfl, behind⟩ := replaced.before (List.cons_ne_nil _ _) fresh
    obtain ⟨all, decoded, same⟩ := ih behind
    exact ⟨_, .entity (List.mem_cons_of_mem _ known) decoded, by simp [same]⟩
  | @plain c ds read none rest ih =>
    rcases replaced.parts with ⟨_, same⟩ | ⟨before, after, rfl, same, behind⟩ | ⟨d, before, after, rfl, same, away, behind⟩
    · cases same
    · obtain ⟨rfl, rfl⟩ := List.cons.inj same
      obtain ⟨all, decoded, same⟩ := ih behind
      exact ⟨_, .entity (List.mem_cons_self ..) decoded, by simp [same]⟩
    · obtain ⟨rfl, rfl⟩ := List.cons.inj same
      obtain ⟨all, decoded, same⟩ := ih behind
      refine ⟨_, .plain ?_ decoded, by simp [same]⟩
      intro other member start
      rcases List.mem_cons.mp member with rfl | known
      · exact away start
      · exact codes.absent known behind (none other known) start

end Codes

namespace Decoded
variable {table : List (String × Char)} {read : List (Char × Bool)}

theorem own (decoded : Decoded table cs read) (member : (c, false) ∈ read) : c ∈ cs := by
  induction decoded with
  | done => cases member
  | entity known rest ih =>
    rcases List.mem_cons.mp member with same | later
    · cases same
    · exact List.mem_append_right _ (ih later)
  | plain none rest ih =>
    rcases List.mem_cons.mp member with same | later
    · cases same
      exact List.mem_cons_self ..
    · exact List.mem_cons_of_mem _ (ih later)

-- Where the text has no tag, none is read whose brackets both stood there.
theorem tagless (decoded : Decoded table cs read) (tagless : Tagless cs) :
    read.Pairwise fun a b => ¬(a = ('<', false) ∧ b = ('>', false)) := by
  induction decoded with
  | done => exact .nil
  | entity known rest ih => exact List.pairwise_cons.mpr ⟨by simp, ih (List.pairwise_append.mp tagless).2.1⟩
  | plain none rest ih =>
    refine List.pairwise_cons.mpr ⟨?_, ih tagless.of_cons⟩
    rintro d member ⟨same, rfl⟩
    cases same
    exact tagless_away tagless (rest.own member)

theorem length_le (codes : Codes table) (decoded : Decoded table cs read) : read.length ≤ cs.length := by
  induction decoded with
  | done => exact Nat.le_refl 0
  | entity known rest ih =>
    have := List.length_pos_iff.mpr (codes.filled known)
    rw [List.length_append, List.length_cons]
    omega
  | plain none rest ih => exact Nat.succ_le_succ ih

theorem entityless (codes : Codes table) (decoded : Decoded table cs read) (whole : cs.length ≤ read.length) :
    ∀ e ∈ table, ¬e.1.toList <:+: cs := by
  induction decoded with
  | done =>
    intro e member held
    exact codes.filled member (List.infix_nil.mp held)
  | entity known rest ih =>
    obtain ⟨body, spelled, long, _⟩ := codes.spelled _ known
    have := List.length_pos_iff.mpr long
    have := rest.length_le codes
    rw [spelled, List.length_append, List.length_cons, List.length_cons] at whole
    omega
  | plain none rest ih =>
    intro e member held
    exact (List.infix_cons_iff.mp held).elim (none e member) (ih (Nat.le_of_succ_le_succ whole) e member)

theorem unchanged (decoded : Decoded table cs read) (absent : ∀ e ∈ table, ¬e.1.toList <:+: cs) :
    read.map Prod.fst = cs := by
  induction decoded with
  | done => rfl
  | entity known rest ih => exact absurd (List.prefix_append ..).isInfix (absent _ known)
  | plain none rest ih =>
    rw [List.map_cons, ih fun e member held => absent e member (List.infix_cons held)]

end Decoded

theorem Codes.decoded {table : List (String × Char)} (codes : Codes table) (cs : List Char) :
    ∃ read, Decoded table cs read ∧
      table.foldl (fun cs e => replaceAll e.1.toList [e.2] cs) cs = read.map Prod.fst := by
  induction table generalizing cs with
  | nil =>
    refine ⟨cs.map fun c => (c, false), ?_, by simp [Function.comp_def]⟩
    induction cs with
    | nil => exact .done
    | cons c rest ih => exact .plain nofun ih
  | cons e table ih =>
    obtain ⟨read, decoded, same⟩ := ih codes.tail (replaceAll e.1.toList [e.2] cs)
    obtain ⟨all, decoded', same'⟩ := codes.decode (replaceAll_replaced (codes.filled (List.mem_cons_self ..)) _ cs) decoded
    exact ⟨all, decoded', same.trans same'.symm⟩

theorem decodeEntities_decoded (cs : List Char) :
    ∃ read, Decoded entities cs read ∧ decodeEntities cs = read.map Prod.fst :=
  entities_codes.decoded cs

-- The text that stays when blocks and tags are gone.
def unmarked (cs : List Char) : List Char := removeTags (removeBlocks cs)

theorem unmarked_tagless (cs : List Char) : Tagless (unmarked cs) := removeTags_tagless _

theorem unmarked_length_le (cs : List Char) : (unmarked cs).length ≤ cs.length :=
  ((removeFrom_sublist ..).trans (removeFrom_sublist ..)).length_le

theorem unmarked_kept (tagless : Tagless cs) : unmarked cs = cs := by
  rw [unmarked, removeBlocks_kept tagless, removeTags_kept tagless]

theorem tagless_of_unmarked (whole : cs.length ≤ (unmarked cs).length) : Tagless cs := by
  have same : unmarked cs = cs :=
    ((removeFrom_sublist ..).trans (removeFrom_sublist ..)).eq_of_length_le whole
  exact same ▸ unmarked_tagless cs

-- A text that has neither of the characters that markup starts with is left alone, blanks at the ends included.
def Marked (cs : List Char) : Prop := '<' ∈ cs ∨ '&' ∈ cs

instance (cs : List Char) : Decidable (Marked cs) := inferInstanceAs (Decidable (_ ∨ _))

theorem sanitizeMarkup_eq (cs : List Char) :
    sanitizeMarkup cs = if Marked cs then trim (decodeEntities (unmarked cs)) else cs := by
  have same : (cs.contains '<' || cs.contains '&') = true ↔ Marked cs := by simp [Marked]
  unfold sanitizeMarkup unmarked
  rw [if_congr same rfl rfl]

-- Nothing is left to do in a text without tags and entities.
def Clean (cs : List Char) : Prop := Tagless cs ∧ ∀ e ∈ entities, ¬e.1.toList <:+: cs

theorem clean_of_plain (plain : ¬Marked cs) : Clean cs := by
  constructor
  · refine List.pairwise_of_forall_mem_list fun a member b _ => ?_
    rintro ⟨rfl, -⟩
    exact plain (.inl member)
  · intro e known held
    obtain ⟨body, spelled, _⟩ := entities_codes.spelled e known
    exact plain (.inr (held.subset (spelled ▸ List.mem_cons_self ..)))

theorem sanitizeMarkup_clean (clean : Clean cs) (trimmed : Marked cs → trim cs = cs) : sanitizeMarkup cs = cs := by
  obtain ⟨tagless, absent⟩ := clean
  obtain ⟨read, decoded, same⟩ := decodeEntities_decoded (unmarked cs)
  rw [unmarked_kept tagless] at decoded
  rw [sanitizeMarkup_eq]
  split
  · rename_i marked
    rw [same, decoded.unchanged absent, trimmed marked]
  · rfl

theorem clean_of_sanitizeMarkup (still : sanitizeMarkup cs = cs) : Clean cs := by
  by_cases marked : Marked cs
  · obtain ⟨read, decoded, same⟩ := decodeEntities_decoded (unmarked cs)
    rw [sanitizeMarkup_eq, if_pos marked, same] at still
    have shown := (trim_within (read.map Prod.fst)).length_le
    rw [still, List.length_map] at shown
    have less := decoded.length_le entities_codes
    have kept := unmarked_length_le cs
    have tagless := tagless_of_unmarked (shown.trans less)
    rw [unmarked_kept tagless] at decoded
    exact ⟨tagless, decoded.entityless entities_codes shown⟩
  · exact clean_of_plain marked

theorem sanitizeMarkup_decoded (cs : List Char) : ∃ read, Decoded entities (unmarked cs) read ∧
    sanitizeMarkup cs = if Marked cs then trim (read.map Prod.fst) else read.map Prod.fst := by
  obtain ⟨read, decoded, same⟩ := decodeEntities_decoded (unmarked cs)
  refine ⟨read, decoded, ?_⟩
  rw [sanitizeMarkup_eq, same]
  split
  · rfl
  · rename_i plain
    have clean := clean_of_plain plain
    rw [unmarked_kept clean.1] at decoded
    exact (decoded.unchanged clean.2).symm

theorem sanitizeMarkup_trimmed (marked : Marked (sanitizeMarkup cs)) : trim (sanitizeMarkup cs) = sanitizeMarkup cs := by
  by_cases before : Marked cs
  · rw [sanitizeMarkup_eq, if_pos before, trim_trim]
  · rw [sanitizeMarkup_eq, if_neg before] at marked
    exact absurd marked before

-- What is made of a text: all markup goes, the entities of what stays are decoded once, and blanks at the ends go. A tag in the
-- result has a bracket that was written as an entity.
structure Sanitized (cs out : List Char) : Prop where
  tagless : Tagless (unmarked cs)
  decoded : ∃ read, Decoded entities (unmarked cs) read ∧
    out = (if Marked cs then trim (read.map Prod.fst) else read.map Prod.fst) ∧
    ∃ shown, shown <:+: read ∧ out = shown.map Prod.fst ∧
      shown.Pairwise fun a b => ¬(a = ('<', false) ∧ b = ('>', false))
  again : sanitizeMarkup out = out ↔ Clean out

theorem fieldValue_sanitizeHtml [Libraries] (options : TransformOptions) (row : Row) (s : String) : ∃ out,
    fieldValue .sanitizeHtml options row (.text s) = .text (String.ofList out) ∧ Sanitized s.toList out := by
  refine ⟨sanitizeMarkup s.toList, rfl, unmarked_tagless _, ?_, ?_⟩
  · obtain ⟨read, decoded, text⟩ := sanitizeMarkup_decoded s.toList
    have part : sanitizeMarkup s.toList <:+: read.map Prod.fst := by
      rw [text]
      split
      · exact trim_within _
      · exact List.infix_rfl
    obtain ⟨shown, inside, same⟩ := List.infix_map_iff.mp part
    have ends := (decoded.tagless (unmarked_tagless s.toList)).sublist inside.sublist
    exact ⟨read, decoded, text, shown, inside, same, ends⟩
  · exact ⟨clean_of_sanitizeMarkup, fun clean => sanitizeMarkup_clean clean sanitizeMarkup_trimmed⟩

example : sanitizeMarkup " <p>1 &amp;lt; <b>2</b></p>".toList = "1 &lt; 2".toList := rfl

section
open Bare

-- A tag that is written with entities comes out as one, and the next time it is removed.
theorem fieldValue_sanitizeHtml_uncovers :
    fieldValue .sanitizeHtml .none .empty (.text "&lt;b&gt;bold&lt;/b&gt;") = .text "<b>bold</b>" ∧
    ¬Tagless "<b>bold</b>".toList ∧ fieldValue .sanitizeHtml .none .empty (.text "<b>bold</b>") = .text "bold" := by
  refine ⟨congrArg Value.text rfl, ?_, congrArg Value.text rfl⟩
  unfold Tagless
  decide

end

end TidyRows.Transform
