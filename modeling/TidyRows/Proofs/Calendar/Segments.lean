import TidyRows.Proofs.Calendar.Reading
namespace TidyRows.Calendar
open Unicode (isBlank)

namespace Item
variable {cs rest : List Char} {items : List Item}

theorem specification?_shorter (found : specification? cs = some (items, rest)) : rest.length < cs.length := by
  unfold specification? at found
  split at found
  case h_11 c more _ _ _ _ _ _ _ _ _ _ =>
    obtain ⟨_, _, same⟩ := Option.map_eq_some_iff.mp found
    cases same
    exact Nat.lt_succ_self _
  all_goals cases found
  all_goals simp only [List.length_cons]; omega

theorem afterPercent_le (cs : List Char) : (afterPercent cs).2.length ≤ cs.length := by
  unfold afterPercent
  dsimp only
  split
  case h_1 more | h_2 more | h_3 more =>
    refine Nat.le_trans ?_ (Nat.le_succ _)
    cases found : specification? more with
    | none => exact Nat.zero_le _
    | some read => exact (specification?_shorter found).le
  case h_4 => simp only [List.length_cons]; omega
  case h_5 =>
    cases found : specification? cs with
    | none => exact Nat.zero_le _
    | some read => exact (specification?_shorter found).le

-- Every step of the reading takes a character at least, so that no more than the length is needed.
theorem readFrom_enough (isBlank : Char → Bool) {fuel other : Nat} (enough : cs.length ≤ fuel)
    (enough' : cs.length ≤ other) : readFrom isBlank fuel cs = readFrom isBlank other cs := by
  induction fuel generalizing other cs with
  | zero =>
    obtain rfl := List.length_eq_zero_iff.mp (Nat.le_zero.mp enough)
    cases other <;> rfl
  | succ fuel ih =>
    cases cs with
    | nil => cases other <;> rfl
    | cons c rest =>
      cases other with
      | zero => cases enough'
      | succ other =>
        have enough := Nat.le_of_succ_le_succ enough
        have enough' := Nat.le_of_succ_le_succ enough'
        have later {more : List Char} (shorter : more.length ≤ rest.length) :
            readFrom isBlank fuel more = readFrom isBlank other more :=
          ih (shorter.trans enough) (shorter.trans enough')
        simp only [readFrom]
        rw [later (afterPercent_le rest), later (List.dropWhile_sublist _).length_le,
          later (List.dropWhile_sublist _).length_le]

end Item

section
variable {c : Char} {cs rest letters : List Char} {it : Item} {m : Moment} {text : List Char}

theorem itemsOf_percent (rest : List Char) :
    itemsOf ('%' :: rest) = (Item.afterPercent rest).1 ++ itemsOf (Item.afterPercent rest).2 := by
  have shorter := Item.readFrom_enough isBlank (Item.afterPercent_le rest) (Nat.le_refl _)
  unfold itemsOf
  rw [List.length_cons, Item.readFrom, if_pos rfl, ← shorter]

-- A character outside the percent signs begins an item of all the characters like it.
theorem itemsOf_cons (other : c ≠ '%') : ∃ (alike : Char → Bool) (item : List Char → Item), alike c = true ∧
    (∀ m t, (item t).write? m = some t) ∧ ∀ d, alike d = true → ∀ more,
      itemsOf (d :: more) = item (d :: more.takeWhile alike) :: itemsOf (more.dropWhile alike) := by
  have shorter (alike : Char → Bool) (more : List Char) : Item.readFrom isBlank more.length (more.dropWhile alike) =
      Item.readFrom isBlank (more.dropWhile alike).length (more.dropWhile alike) :=
    Item.readFrom_enough isBlank (List.dropWhile_sublist _).length_le (Nat.le_refl _)
  cases blank : isBlank c with
  | true =>
    refine ⟨isBlank, .blanks, blank, fun _ _ => rfl, fun d like more => ?_⟩
    have sign : d ≠ '%' := by
      rintro rfl
      cases like
    unfold itemsOf
    rw [List.length_cons, Item.readFrom, if_neg sign, if_pos like, shorter]
  | false =>
    refine ⟨fun d => !isBlank d && d != '%', .literal, by simp [blank, other], fun _ _ => rfl, fun d like more => ?_⟩
    obtain ⟨dark, sign⟩ : isBlank d = false ∧ d ≠ '%' := by simpa using like
    unfold itemsOf
    rw [List.length_cons, Item.readFrom, if_neg sign, if_neg (by simp [dark])]
    simp only [shorter]

theorem write?_cons (other : c ≠ '%') (rest : List Char) : write? m (c :: rest) = (write? m rest).map (c :: ·) := by
  obtain ⟨alike, item, own, shows, reads⟩ := itemsOf_cons other
  have stretch (d : Char) (like : alike d = true) (more : List Char) :
      write? m (d :: more) = (write? m (more.dropWhile alike)).map (d :: more.takeWhile alike ++ ·) := by
    rw [write?_eq, reads d like, written?_next (shows m _)]
    rfl
  rw [stretch c own]
  cases rest with
  | nil => rfl
  | cons d more =>
    cases like : alike d with
    | true =>
      rw [stretch d like, List.takeWhile_cons_of_pos like, List.dropWhile_cons_of_pos like, Option.map_map]
      rfl
    | false =>
      rw [List.takeWhile_cons_of_neg (by simp [like]), List.dropWhile_cons_of_neg (by simp [like])]
      rfl

theorem write?_append (other : '%' ∉ cs) (rest : List Char) : write? m (cs ++ rest) = (write? m rest).map (cs ++ ·) := by
  induction cs with
  | nil => exact Option.map_id'.symm
  | cons c more ih =>
    rw [List.mem_cons, not_or] at other
    rw [List.cons_append, write?_cons (Ne.symm other.1), ih other.2, Option.map_map]
    rfl

theorem write?_percent (read : Item.afterPercent letters = ([it], rest)) (shown : it.write? m = some text) :
    write? m ('%' :: letters) = (write? m rest).map (text ++ ·) := by
  rw [write?_eq, itemsOf_percent, read]
  exact written?_next shown _

end

open Segment (apostrophe)

-- The segments that a pattern falls into: quotations, of which the last may be left open, and between them runs of one
-- character that go on as long as they can.
inductive FallsInto : List Char → List Segment → Prop
  | done : FallsInto [] []
  | opened {text : List Char} (solid : apostrophe ∉ text) : FallsInto (apostrophe :: text) [.quoted text]
  | quoted {text rest : List Char} {segments : List Segment} (solid : apostrophe ∉ text) (others : FallsInto rest segments) :
      FallsInto (apostrophe :: (text ++ apostrophe :: rest)) (.quoted text :: segments)
  | run {c : Char} {count : Nat} {rest : List Char} {segments : List Segment} (other : c ≠ apostrophe) (filled : 0 < count)
      (ends : rest.head? ≠ some c) (others : FallsInto rest segments) :
      FallsInto (List.replicate count c ++ rest) (.run c count :: segments)

namespace Segment
variable {c : Char} {cs rest : List Char} {segments : List Segment}

theorem ofPattern_nil : ofPattern [] = [] := by rw [ofPattern]

theorem takes_solid {text : List Char} (solid : apostrophe ∉ text) : ∀ c ∈ text, (c != apostrophe) = true := by
  intro c member
  rw [bne_iff_ne]
  rintro rfl
  exact solid member

theorem ofPattern_quoted {text : List Char} (solid : apostrophe ∉ text) (rest : List Char) :
    ofPattern (apostrophe :: (text ++ apostrophe :: rest)) = .quoted text :: ofPattern rest := by
  rw [ofPattern, if_pos rfl, List.takeWhile_append_of_pos (takes_solid solid),
    List.dropWhile_append_of_pos (takes_solid solid)]
  simp

theorem ofPattern_opened {text : List Char} (solid : apostrophe ∉ text) :
    ofPattern (apostrophe :: text) = [.quoted text] := by
  rw [ofPattern, if_pos rfl, List.takeWhile_eq_self_iff.mpr (takes_solid solid),
    List.dropWhile_eq_nil_iff.mpr (takes_solid solid), List.drop_nil, ofPattern_nil]

theorem ofPattern_run (other : c ≠ apostrophe) (ends : rest.head? ≠ some c) (count : Nat) :
    ofPattern (List.replicate (count + 1) c ++ rest) = .run c (count + 1) :: ofPattern rest := by
  have alike : ∀ d ∈ List.replicate count c, (d == c) = true := fun d member => by
    simpa using (List.mem_replicate.mp member).2
  have stop : rest.takeWhile (· == c) = [] ∧ rest.dropWhile (· == c) = rest := by
    cases rest with
    | nil => exact ⟨rfl, rfl⟩
    | cons d more =>
      have next : (d == c) = false := by simpa using ends
      exact ⟨List.takeWhile_cons_of_neg (by simp [next]), List.dropWhile_cons_of_neg (by simp [next])⟩
  rw [List.replicate_succ, List.cons_append, ofPattern, if_neg other, List.takeWhile_append_of_pos alike,
    List.dropWhile_append_of_pos alike, stop.1, stop.2, List.append_nil, List.length_replicate]

theorem quotation (rest : List Char) : apostrophe ∉ rest.takeWhile (· != apostrophe) ∧
    (rest.dropWhile (· != apostrophe) = [] ∧ rest = rest.takeWhile (· != apostrophe) ∨
      rest.dropWhile (· != apostrophe) = apostrophe :: (rest.dropWhile (· != apostrophe)).drop 1) := by
  refine ⟨fun member => by simpa using List.mem_takeWhile_imp member, ?_⟩
  cases left : rest.dropWhile (· != apostrophe) with
  | nil => exact .inl ⟨rfl, (List.takeWhile_eq_self_iff.mpr (List.dropWhile_eq_nil_iff.mp left)).symm⟩
  | cons d more =>
    have stop := List.head_dropWhile_not (· != apostrophe) (l := rest) (by simp [left])
    simp only [left, List.head_cons, bne_eq_false_iff_eq] at stop
    exact .inr (by rw [stop]; rfl)

theorem ofPattern_fallsInto (cs : List Char) : FallsInto cs (ofPattern cs) := by
  induction cs using ofPattern.induct with
  | case1 =>
    rw [ofPattern_nil]
    exact .done
  | case2 rest ih =>
    obtain ⟨solid, ⟨_, whole⟩ | closed⟩ := quotation rest
    · rw [whole, ofPattern_opened solid]
      exact .opened solid
    · have whole : rest = rest.takeWhile (· != apostrophe) ++
          apostrophe :: (rest.dropWhile (· != apostrophe)).drop 1 := by
        rw [← closed, List.takeWhile_append_dropWhile]
      rw [whole, ofPattern_quoted solid]
      exact .quoted solid ih
  | case3 c rest other ih =>
    have alike : rest.takeWhile (· == c) = List.replicate (rest.takeWhile (· == c)).length c :=
      List.eq_replicate_iff.mpr ⟨rfl, fun d member => by simpa using List.mem_takeWhile_imp member⟩
    have ends : (rest.dropWhile (· == c)).head? ≠ some c := fun first => by
      have := List.head?_dropWhile_not (· == c) rest
      simp [first] at this
    have whole : c :: rest = List.replicate ((rest.takeWhile (· == c)).length + 1) c ++ rest.dropWhile (· == c) := by
      rw [List.replicate_succ, List.cons_append, ← alike, List.takeWhile_append_dropWhile]
    rw [whole, ofPattern_run other ends]
    exact .run other (Nat.succ_pos _) ends ih

end Segment

def Segment.Lettered : Segment → Prop
  | .quoted text => '%' ∉ text
  | .run c _ => c ≠ '%'

namespace FallsInto
variable {cs : List Char} {segments : List Segment}

theorem eq_ofPattern (falls : FallsInto cs segments) : segments = Segment.ofPattern cs := by
  induction falls with
  | done => exact Segment.ofPattern_nil.symm
  | opened solid => exact (Segment.ofPattern_opened solid).symm
  | quoted solid others ih => rw [Segment.ofPattern_quoted solid, ih]
  | @run c count _ _ other filled ends others ih =>
    obtain ⟨n, rfl⟩ := Nat.exists_eq_add_of_lt filled
    rw [Nat.zero_add, Segment.ofPattern_run other ends, ih]

theorem length_le (falls : FallsInto cs segments) : segments.length ≤ cs.length := by
  induction falls with
  | done => exact Nat.le_refl _
  | opened solid => simp
  | quoted solid others ih =>
    simp only [List.length_cons, List.length_append]
    omega
  | run other filled ends others ih =>
    simp only [List.length_cons, List.length_append, List.length_replicate]
    omega

theorem letters (falls : FallsInto cs segments) (lettered : '%' ∉ cs) : ∀ s ∈ segments, s.Lettered := by
  induction falls with
  | done => nofun
  | opened solid =>
    rw [List.forall_mem_singleton]
    exact fun member => lettered (List.mem_cons_of_mem _ member)
  | quoted solid others ih =>
    simp only [List.mem_cons, List.mem_append, not_or] at lettered
    exact List.forall_mem_cons.mpr ⟨lettered.2.1, ih lettered.2.2.2⟩
  | @run c count _ _ other filled ends others ih =>
    rw [List.mem_append, not_or] at lettered
    refine List.forall_mem_cons.mpr ⟨?_, ih lettered.2⟩
    rintro rfl
    exact lettered.1 (List.mem_replicate.mpr ⟨filled.ne', rfl⟩)

end FallsInto

theorem fallsInto_iff {cs : List Char} {segments : List Segment} :
    FallsInto cs segments ↔ segments = Segment.ofPattern cs :=
  ⟨FallsInto.eq_ofPattern, fun same => same ▸ Segment.ofPattern_fallsInto cs⟩

namespace Segment
open Item (numberText nameOf)
variable {c : Char} {count : Nat} {t : String} {segments : List Segment} {front back : List Char} {m : Moment}

theorem token?_percent (token : token? c count = some t) : ∃ letters, t.toList = '%' :: letters ∧ '%' ∉ letters := by
  unfold token? at token
  split at token
  case h_7 | h_8 =>
    cases token
    exact ⟨_, rfl, by decide⟩
  case h_10 => cases token
  all_goals
    cases token
    split_ifs
    all_goals exact ⟨_, rfl, by decide⟩

-- Within the text of a segment only the first character of a token can be a percent sign.
theorem percent_within {s : Segment} (lettered : s.Lettered) (place : s.text = front ++ '%' :: back) :
    ∃ c count t, s = .run c count ∧ token? c count = some t ∧ front = [] ∧ t.toList = '%' :: back := by
  cases s with
  | quoted words =>
    have whole : words = front ++ '%' :: back := place
    exact absurd (by simp [whole]) lettered
  | run c count =>
    cases token : token? c count with
    | none =>
      have same : List.replicate count c = front ++ '%' :: back := by rw [← place, text, token]
      have member : '%' ∈ List.replicate count c := by simp [same]
      exact absurd (List.mem_replicate.mp member).2.symm lettered
    | some t =>
      obtain ⟨letters, spelt, none⟩ := token?_percent token
      have whole : '%' :: letters = front ++ '%' :: back := by rw [← spelt, ← place, text, token]
      cases front with
      | nil => exact ⟨c, count, t, rfl, token, rfl, spelt.trans whole⟩
      | cons d more =>
        refine absurd ?_ none
        rw [(List.cons.inj whole).2]
        simp

-- The token of a run begins between the two parts of a text that segments make.
def TokenAt (segments : List Segment) (front rest : List Char) : Prop :=
  ∃ before c count after t, segments = before ++ .run c count :: after ∧ token? c count = some t ∧
    front = before.flatMap text ∧ rest = t.toList ++ after.flatMap text

theorem TokenAt.behind {rest : List Char} (found : TokenAt segments front rest) (s : Segment) :
    TokenAt (s :: segments) (s.text ++ front) rest := by
  obtain ⟨before, c, count, after, t, rfl, token, rfl, tail⟩ := found
  exact ⟨s :: before, c, count, after, t, rfl, token, rfl, tail⟩

theorem percent_begins (lettered : ∀ s ∈ segments, s.Lettered) (place : segments.flatMap text = front ++ '%' :: back) :
    TokenAt segments front ('%' :: back) := by
  induction segments generalizing front with
  | nil => simp at place
  | cons s rest ih =>
    obtain ⟨own, others⟩ := List.forall_mem_cons.mp lettered
    rw [List.flatMap_cons] at place
    rcases List.append_eq_append_iff.mp place with ⟨more, rfl, beyond⟩ | ⟨more, first, tail⟩
    · exact (ih others beyond).behind s
    · cases more with
      | nil =>
        have beyond : rest.flatMap text = [] ++ '%' :: back := tail.symm
        have found := (ih others beyond).behind s
        rwa [first, List.append_nil, List.append_nil] at found
      | cons d more =>
        obtain ⟨rfl, rfl⟩ := List.cons.inj tail
        obtain ⟨c, count, t, rfl, token, rfl, spelt⟩ := percent_within own first
        exact ⟨[], c, count, rest, t, rfl, token, rfl, by rw [spelt]; rfl⟩

def halfText (c : Clock) : List Char := if c.afternoon then ['P', 'M'] else ['A', 'M']

def letterText? (m : Moment) (c : Char) (count : Nat) : Option (List Char) :=
  match c with
  | 'y' => some (numberText .zero m (if count = 2 then .yearOfCentury else .year))
  | 'M' => some (if count = 1 then numberText .nothing m .month else if count = 2 then numberText .zero m .month
      else if count = 3 then (nameOf Date.monthNames (m.date.month - 1)).take 3
      else nameOf Date.monthNames (m.date.month - 1))
  | 'd' => some (numberText (if count = 1 then .nothing else .zero) m .day)
  | 'H' => some (numberText (if count = 1 then .nothing else .zero) m .hour)
  | 'h' => some (numberText (if count = 1 then .nothing else .zero) m .hour12)
  | 'm' => some (numberText (if count = 1 then .nothing else .zero) m .minute)
  | 's' => some (numberText .zero m .second)
  | 'a' => some (halfText m.clock)
  | 'E' => some (if count ≤ 3 then (nameOf Date.weekdayNames m.date.weekday).take 3
      else nameOf Date.weekdayNames m.date.weekday)
  | _ => none

def shown (m : Moment) : Segment → List Char
  | .quoted text => text
  | .run c count => (letterText? m c count).getD (List.replicate count c)

theorem write?_token (token : token? c count = some t) (m : Moment) (rest : List Char) : ∃ text,
    letterText? m c count = some text ∧ write? m (t.toList ++ rest) = (write? m rest).map (text ++ ·) := by
  unfold token? at token
  unfold letterText?
  split at token
  case h_7 | h_8 =>
    cases token
    exact ⟨_, rfl, write?_percent rfl rfl⟩
  case h_10 => cases token
  all_goals
    cases token
    split_ifs
    all_goals exact ⟨_, rfl, write?_percent rfl rfl⟩

theorem letterText?_none (untokened : token? c count = none) (m : Moment) : letterText? m c count = none := by
  unfold token? at untokened
  split at untokened
  case h_10 => simp_all [letterText?]
  all_goals cases untokened

theorem write?_text {s : Segment} (lettered : s.Lettered) (m : Moment) (rest : List Char) :
    write? m (s.text ++ rest) = (write? m rest).map (s.shown m ++ ·) := by
  cases s with
  | quoted text => exact write?_append lettered rest
  | run c count =>
    cases token : token? c count with
    | none =>
      have solid : '%' ∉ List.replicate count c := fun member => lettered (List.mem_replicate.mp member).2.symm
      rw [text, token, shown, letterText?_none token]
      exact write?_append solid rest
    | some t =>
      obtain ⟨text, shows, written⟩ := write?_token token m rest
      rw [Segment.text, token, shown, shows]
      exact written

theorem write?_segments (lettered : ∀ s ∈ segments, s.Lettered) (m : Moment) :
    write? m (segments.flatMap text) = some (segments.flatMap (shown m)) := by
  induction segments with
  | nil => rfl
  | cons s rest ih =>
    obtain ⟨own, others⟩ := List.forall_mem_cons.mp lettered
    rw [List.flatMap_cons, write?_text own, ih others, List.flatMap_cons, Option.map_some]

end Segment

structure Translated (pattern output : List Char) (segments : List Segment) : Prop where
  falls : ∀ others, FallsInto pattern others ↔ others = segments
  steps : segments.length ≤ pattern.length
  text : output = segments.flatMap Segment.text
  -- every percent sign begins the token of a run
  percent : ∀ front back, output = front ++ '%' :: back → Segment.TokenAt segments front ('%' :: back)
  written : ∀ m, write? m output = some (segments.flatMap (Segment.shown m))

theorem percentPattern_translated {pattern : List Char} (lettered : '%' ∉ pattern) :
    Translated pattern (percentPattern pattern) (Segment.ofPattern pattern) := by
  have falls := Segment.ofPattern_fallsInto pattern
  have letters := falls.letters lettered
  have text : percentPattern pattern = (Segment.ofPattern pattern).flatMap Segment.text :=
    if_neg (by simpa using lettered)
  refine ⟨fun others => fallsInto_iff, falls.length_le, text, fun front back place => ?_, fun m => ?_⟩
  · exact Segment.percent_begins letters (text ▸ place)
  · rw [text]
    exact Segment.write?_segments letters m

end TidyRows.Calendar
