import TidyRows.Number.Literal
import TidyRows.Proofs.Number.Decimal
namespace TidyRows

theorem isDigit_of_natText {n : Nat} {c : Char} (member : c ∈ natText n) : isDigit c = true := by
  have digit := Nat.isDigit_of_mem_toDigits (by decide) (by decide) member
  unfold Char.isDigit at digit
  unfold isDigit
  exact digit

theorem digitsValue_natText (n : Nat) : digitsValue 0 (natText n) = n :=
  Nat.ofDigitChars_toDigits (by decide) (by decide)

theorem digitsValue_append (start : Nat) (first second : List Char) :
    digitsValue start (first ++ second) = digitsValue (digitsValue start first) second := List.foldl_append

theorem digitsValue_zeros (start k : Nat) : digitsValue start (List.replicate k '0') = 10 ^ k * start :=
  Nat.ofDigitChars_replicate_zero

-- Only zero is written with a zero in front.
theorem natText_lead {n : Nat} {rest : List Char} (lead : natText n = '0' :: rest) : n = 0 := by
  unfold natText at lead
  induction n using Nat.strongRecOn generalizing rest with
  | ind n ih =>
    rw [Nat.toDigits_eq_if (by decide)] at lead
    split at lead
    · rename_i small
      have digits := digitsValue_natText n
      unfold natText at digits
      rw [Nat.toDigits_of_lt_base small, (List.cons.inj lead).1] at digits
      exact digits.symm
    · rename_i large
      obtain ⟨c, more, front⟩ := List.exists_cons_of_ne_nil (Nat.toDigits_ne_nil (n := n / 10) (b := 10))
      rw [front] at lead
      obtain ⟨rfl, _⟩ := List.cons.inj lead
      have := ih (n / 10) (by omega) front
      omega

theorem digitChar_digit {c : Char} (digit : isDigit c = true) : digitChar (c.toNat - '0'.toNat) = c := by
  unfold isDigit at digit
  rw [Bool.and_eq_true_iff, decide_eq_true_eq, decide_eq_true_eq] at digit
  have low : '0'.toNat ≤ c.toNat := digit.1
  unfold digitChar
  rw [Nat.add_sub_cancel' low, Char.ofNat_toNat]

theorem digitText_decimalDigits (n : Nat) : digitText (decimalDigits n) = natText n := by
  unfold digitText decimalDigits
  rw [List.map_map]
  refine (List.map_congr_left fun c member => ?_).trans (List.map_id _)
  exact digitChar_digit (isDigit_of_natText member)

theorem zeros_at_end (ds : List Nat) :
    ∃ z, ds = (ds.reverse.dropWhile (· == 0)).reverse ++ List.replicate z 0 := by
  refine ⟨(ds.reverse.takeWhile (· == 0)).length, ?_⟩
  have zeros : ds.reverse.takeWhile (· == 0) = List.replicate (ds.reverse.takeWhile (· == 0)).length 0 := by
    refine List.eq_replicate_of_mem fun d member => ?_
    exact beq_iff_eq.mp (List.all_eq_true.mp List.all_takeWhile d member)
  rw [← List.reverse_replicate, ← zeros, ← List.reverse_append, List.takeWhile_append_dropWhile, List.reverse_reverse]

-- The digits of a decimal are those of its number, without the zeros at the end.
theorem ofScaled_text {n : Nat} (nonzero : n ≠ 0) (e : Int) : ∃ ds c rest z, digitText ds = c :: rest ∧ c ≠ '0' ∧
    (∀ d ∈ c :: rest, isDigit d = true) ∧ natText n = c :: rest ++ List.replicate z '0' ∧
    Decimal.ofScaled n e = ⟨ds, e + (rest.length + 1 + z)⟩ := by
  obtain ⟨z, strip⟩ := zeros_at_end (decimalDigits n)
  have text := digitText_decimalDigits n
  have scaled : Decimal.ofScaled n e =
      ⟨((decimalDigits n).reverse.dropWhile (· == 0)).reverse, e + (decimalDigits n).length⟩ := by
    unfold Decimal.ofScaled
    rw [if_neg nonzero]
  generalize ((decimalDigits n).reverse.dropWhile (· == 0)).reverse = ds at strip scaled
  rw [strip] at text scaled
  unfold digitText at text
  rw [List.map_append, List.map_replicate, show digitChar 0 = '0' from rfl] at text
  cases parts : ds.map digitChar with
  | nil =>
    rw [parts, List.nil_append] at text
    have value := digitsValue_natText n
    rw [← text, digitsValue_zeros] at value
    exact absurd value.symm nonzero
  | cons c rest =>
    rw [parts] at text
    refine ⟨ds, c, rest, z, parts, ?_, ?_, text.symm, ?_⟩
    · rintro rfl
      exact nonzero (natText_lead text.symm)
    · intro d member
      refine isDigit_of_natText (n := n) ?_
      rw [← text]
      exact List.mem_append_left _ member
    · have count : ds.length = rest.length + 1 := by rw [← List.length_map (f := digitChar), parts, List.length_cons]
      rw [scaled, List.length_append, List.length_replicate, count]
      push_cast
      rfl

structure Numeral where
  whole : List Char
  fraction : List Char
  exponent : Option Int

namespace Numeral

def exponentText : Option Int → List Char
  | none => []
  | some e => 'e' :: (if e < 0 then '-' else '+') :: natText e.natAbs

def fractionText : List Char → List Char
  | [] => []
  | fraction => '.' :: fraction

def text (n : Numeral) : List Char := n.whole ++ fractionText n.fraction ++ exponentText n.exponent

def digits (n : Numeral) : Nat := digitsValue (digitsValue 0 n.whole) n.fraction

def power (n : Numeral) : Int := n.exponent.getD 0 - n.fraction.length

-- A whole part has a digit, and a zero in front of it only when it is zero.
structure Sound (n : Numeral) : Prop where
  lead : n.whole = ['0'] ∨ ∃ c rest, n.whole = c :: rest ∧ c ≠ '0'
  whole : ∀ c ∈ n.whole, isDigit c = true
  fraction : ∀ c ∈ n.fraction, isDigit c = true

-- A numeral that shows that it is not a whole number of its own kind.
def Marked (n : Numeral) : Prop := n.fraction ≠ [] ∨ n.exponent.isSome

end Numeral

namespace Decimal

-- The numeral of a decimal in structured data.
def numeral (d : Decimal) : Numeral :=
  if d.digits.isEmpty then ⟨['0'], ['0'], none⟩
  else if -4 ≤ d.point ∧ d.point ≤ 16 then
    ⟨d.positional.1, if d.positional.2.isEmpty then ['0'] else d.positional.2, none⟩
  else ⟨digitText (d.digits.take 1), digitText (d.digits.drop 1), some (d.point - 1)⟩

end Decimal

theorem dataText_numeral (x : Finite) :
    x.dataText = signText x.negative ++ (shortestDecimal .toEven x.rank).numeral.text := by
  unfold Finite.dataText Decimal.numeral
  generalize shortestDecimal .toEven x.rank = d
  dsimp only
  split
  · rfl
  · split
    · cases d.positional with
      | mk whole fraction =>
        cases fraction <;> simp [Numeral.text, Numeral.fractionText, Numeral.exponentText]
    · unfold Decimal.scientific Numeral.text
      cases digitText (d.digits.drop 1) <;> simp [Numeral.fractionText, Numeral.exponentText]

-- What a numeral says of a number: its decimal, and that it is not one of the whole numbers.
structure Numeral.Tells (numeral : Numeral) (digits : Nat) (power : Int) : Prop where
  sound : numeral.Sound
  marked : numeral.Marked
  worth : (numeral.digits : ℚ) * 10 ^ numeral.power = digits * 10 ^ power

namespace Numeral

-- The layouts of the digits `c rest`, one after the other.
section
variable {c : Char} {rest : List Char} (lead : c ≠ '0') (all : ∀ d ∈ c :: rest, isDigit d = true)
include all

theorem tells_fraction (k : Nat) :
    Tells ⟨['0'], List.replicate k '0' ++ c :: rest, none⟩ (digitsValue 0 (c :: rest)) (-(k + (rest.length + 1))) := by
  refine ⟨⟨.inl rfl, List.forall_mem_singleton.mpr rfl, ?_⟩, .inl (by simp), ?_⟩
  · intro d member
    rcases List.mem_append.mp member with zero | inside
    · rw [List.eq_of_mem_replicate zero]
      rfl
    · exact all d inside
  · unfold digits power
    rw [digitsValue_append, show digitsValue 0 ['0'] = 0 from rfl, digitsValue_zeros, Nat.mul_zero]
    simp

include lead

theorem tells_split {front back : List Char} (parts : c :: rest = front ++ back) (some : front ≠ []) (more : back ≠ []) :
    Tells ⟨front, back, none⟩ (digitsValue 0 (c :: rest)) (-back.length) := by
  obtain ⟨d, others, rfl⟩ := List.exists_cons_of_ne_nil some
  have first : d = c := (List.cons.inj parts).1.symm
  rw [parts] at all ⊢
  refine ⟨⟨.inr ⟨d, others, rfl, first ▸ lead⟩, ?_, ?_⟩, .inl more, ?_⟩
  · exact fun d member => all d (List.mem_append_left _ member)
  · exact fun d member => all d (List.mem_append_right _ member)
  · rw [digitsValue_append]
    simp [digits, power]

theorem tells_whole (k : Nat) :
    Tells ⟨c :: rest ++ List.replicate k '0', ['0'], none⟩ (digitsValue 0 (c :: rest)) k := by
  refine ⟨⟨.inr ⟨c, rest ++ List.replicate k '0', rfl, lead⟩, ?_, List.forall_mem_singleton.mpr rfl⟩, .inl (by simp), ?_⟩
  · intro d member
    rcases List.mem_append.mp member with inside | zero
    · exact all d inside
    · rw [List.eq_of_mem_replicate zero]
      rfl
  · unfold digits power
    rw [digitsValue_append, digitsValue_zeros, show (['0'] : List Char) = List.replicate 1 '0' from rfl, digitsValue_zeros]
    simp
    ring

theorem tells_scientific (e : Int) : Tells ⟨[c], rest, some e⟩ (digitsValue 0 (c :: rest)) (e - rest.length) := by
  refine ⟨⟨.inr ⟨c, [], rfl, lead⟩, ?_, ?_⟩, .inr rfl, ?_⟩
  · intro d member
    exact all d (List.mem_cons.mpr (.inl (List.mem_singleton.mp member)))
  · exact fun d member => all d (List.mem_cons_of_mem _ member)
  · rfl

end
end Numeral

section
variable {ds : List Nat} {c : Char} {rest : List Char} (text : digitText ds = c :: rest)
include text

theorem count_of_text : ds.length = rest.length + 1 := by
  rw [← List.length_map (f := digitChar), ← List.length_cons (a := c), ← text]
  rfl

theorem take_text (k : Nat) : digitText (ds.take k) = (c :: rest).take k := by
  rw [← text]
  exact List.map_take

theorem drop_text (k : Nat) : digitText (ds.drop k) = (c :: rest).drop k := by
  rw [← text]
  exact List.map_drop

variable (lead : c ≠ '0') (all : ∀ d ∈ c :: rest, isDigit d = true)
include lead all

theorem positional_tells (p : Int) :
    Numeral.Tells ⟨(Decimal.mk ds p).positional.1,
      if (Decimal.mk ds p).positional.2.isEmpty then ['0'] else (Decimal.mk ds p).positional.2, none⟩
      (digitsValue 0 (c :: rest)) (p - (rest.length + 1)) := by
  unfold Decimal.positional
  dsimp only
  by_cases small : p ≤ 0
  · have layout := Numeral.tells_fraction all p.natAbs
    rw [show -((p.natAbs : Int) + (rest.length + 1)) = p - (rest.length + 1) by omega] at layout
    simpa [small, text] using layout
  · obtain ⟨q, rfl⟩ := Int.eq_ofNat_of_zero_le (Int.le_of_lt (Int.not_le.mp small))
    rw [if_neg small, Int.toNat_natCast]
    dsimp only
    rw [drop_text text, count_of_text text]
    by_cases inside : q < rest.length + 1
    · have more : (c :: rest).drop q ≠ [] := by simpa using inside
      have some : (c :: rest).take q ≠ [] := by simp; omega
      have layout := Numeral.tells_split lead all (List.take_append_drop q _).symm some more
      rw [List.length_drop, List.length_cons] at layout
      rw [if_neg (by simpa using more), Nat.sub_eq_zero_of_le (Nat.le_of_lt inside), List.replicate_zero, List.append_nil,
        take_text text, show (q : Int) - (rest.length + 1) = -((rest.length + 1 - q : Nat) : Int) by omega]
      exact layout
    · have past : rest.length + 1 ≤ q := Nat.not_lt.mp inside
      have none : (c :: rest).drop q = [] := List.drop_eq_nil_of_le past
      have whole : digitText (ds.take q ++ List.replicate (q - (rest.length + 1)) 0) =
          c :: rest ++ List.replicate (q - (rest.length + 1)) '0' := by
        rw [List.take_of_length_le (count_of_text text ▸ past), ← text]
        unfold digitText
        rw [List.map_append, List.map_replicate]
        rfl
      rw [none, whole, show (q : Int) - (rest.length + 1) = (q - (rest.length + 1) : Nat) by omega]
      exact Numeral.tells_whole lead all (q - (rest.length + 1))

theorem numeral_tells (p : Int) :
    (Decimal.mk ds p).numeral.Tells (digitsValue 0 (c :: rest)) (p - (rest.length + 1)) := by
  have some : ds ≠ [] := by
    rintro rfl
    cases text
  unfold Decimal.numeral
  rw [if_neg (by simpa using some)]
  dsimp only
  split
  · exact positional_tells text lead all p
  · have layout := Numeral.tells_scientific lead all (p - 1)
    rw [take_text text, drop_text text, show p - (rest.length + 1) = p - 1 - (rest.length : Int) by ring]
    exact layout

end

structure Numeral.Reads (numeral : Numeral) (x : Finite) : Prop where
  sound : numeral.Sound
  marked : numeral.Marked
  value : Double.ofDecimal x.negative numeral.digits numeral.power = .finite x

section
variable {layout : Decimal → Numeral}
  (tells : ∀ {ds : List Nat} {c : Char} {rest : List Char}, digitText ds = c :: rest → c ≠ '0' →
    (∀ d ∈ c :: rest, isDigit d = true) → ∀ p : Int,
      (layout ⟨ds, p⟩).Tells (digitsValue 0 (c :: rest)) (p - (rest.length + 1)))
include tells

-- A layout of digits that is worth them, whatever they are, is worth the decimal whose digits they are.
theorem layout_tells {n : Nat} (some : n ≠ 0) (e : Int) : (layout (.ofScaled n e)).Tells n e := by
  obtain ⟨ds, c, rest, z, text, lead, all, digits, scaled⟩ := ofScaled_text some e
  obtain ⟨sound, marked, worth⟩ := tells text lead all (e + (rest.length + 1 + z))
  rw [scaled]
  refine ⟨sound, marked, worth.trans ?_⟩
  have value : n = 10 ^ z * digitsValue 0 (c :: rest) := by
    rw [← digitsValue_natText n, digits, digitsValue_append, digitsValue_zeros]
  rw [value, show e + (rest.length + 1 + z) - ((rest.length : Int) + 1) = e + z by ring, zpow_add₀ (by norm_num)]
  push_cast
  rw [zpow_natCast]
  ring

-- So it is read as the number that the decimal is the shortest of.
theorem layout_reads (tie : Tie) (zero : layout .zero = ⟨['0'], ['0'], none⟩) (x : Finite) :
    (layout (shortestDecimal tie x.rank)).Reads x := by
  obtain ⟨negative, r, known⟩ := x
  dsimp only
  rcases Nat.eq_zero_or_pos r with rfl | nonzero
  · rw [show shortestDecimal tie 0 = .zero from rfl, zero]
    refine ⟨⟨.inl rfl, List.forall_mem_singleton.mpr rfl, List.forall_mem_singleton.mpr rfl⟩, .inl (by simp), ?_⟩
    show Double.ofRank negative 0 = _
    unfold Double.ofRank
    exact dif_pos known
  · obtain ⟨n, e, shortest, some, holds⟩ := shortestDecimal_found tie nonzero known
    obtain ⟨sound, marked, worth⟩ := layout_tells tells some e
    rw [shortest]
    refine ⟨sound, marked, ofDecimal_of_holds negative nonzero known ?_⟩
    rw [← holds]
    exact Shortest.holds_decimal worth

end

theorem numeral_reads (x : Finite) : (shortestDecimal .toEven x.rank).numeral.Reads x :=
  layout_reads numeral_tells .toEven rfl x

end TidyRows
