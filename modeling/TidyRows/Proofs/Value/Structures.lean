import TidyRows.Proofs.Value.RoundTrip
import TidyRows.Value.Decode
namespace TidyRows

namespace Keyed

-- Entries under new names of their own are added at the end.
theorem putAll_new (k : Keyed α) (added : List (String × α)) (distinct : ((k.entries ++ added).map Prod.fst).Nodup) :
    (k.putAll added).entries = k.entries ++ added := by
  induction added generalizing k with
  | nil => exact (List.append_nil _).symm
  | cons head rest ih =>
    have absent : head.1 ∉ k.entries.map Prod.fst := by
      intro member
      rw [List.map_append] at distinct
      exact (List.nodup_append.mp distinct).2.2 head.1 member head.1 (by simp) rfl
    have first : (k.put head.1 head.2).entries = k.entries ++ [head] := putEntry_new absent _
    rw [putAll_cons, ih _ (by rw [first]; simpa using distinct), first, List.append_assoc]
    rfl

theorem ofList_entries (k : Keyed α) : ofList k.entries = k :=
  ext (putAll_new empty k.entries k.distinct)

end Keyed

namespace Value

theorem names_present (fields : List (String × Option Value)) :
    ((present fields).map Prod.fst).Sublist (fields.map Prod.fst) := by
  induction fields with
  | nil => exact List.Sublist.refl _
  | cons head rest ih =>
    obtain ⟨name, v⟩ := head
    cases v with
    | none => exact ih.cons name
    | some v => exact ih.cons_cons name

theorem mem_present {fields : List (String × Option Value)} {name : String} {v : Value} :
    (name, v) ∈ present fields ↔ (name, some v) ∈ fields := by
  induction fields with
  | nil => simp [present]
  | cons head rest ih =>
    obtain ⟨first, w⟩ := head
    cases w <;> simp [present, ih]

-- A field that need not be there.
def Shown (levels : Nat) (v : Option Value) : Prop := ∀ w, v = some w → Readable levels w

theorem shown_some {v : Value} (readable : Readable levels v) : Shown levels (some v) := by
  rintro _ ⟨⟩
  exact readable

theorem shown_map {encode : α → Value} (each : ∀ a, Readable levels (encode a)) (o : Option α) :
    Shown levels (o.map encode) := by
  intro w same
  obtain ⟨a, _, rfl⟩ := Option.map_eq_some_iff.mp same
  exact each a

theorem list_readable {encode : α → Value} (each : ∀ a, Readable levels (encode a)) (items : List α) :
    Readable (levels + 1) (.list (items.map encode)) := by
  refine .list fun v member => ?_
  obtain ⟨a, _, rfl⟩ := List.mem_map.mp member
  exact each a

theorem ofPresent_readable {fields : List (String × Option Value)} (distinct : (fields.map Prod.fst).Nodup)
    (all : ∀ f ∈ fields, Shown levels f.2) : Readable (levels + 1) (ofPresent fields) :=
  .record (distinct.sublist (names_present fields)) fun f member => all (f.1, some f.2) (mem_present.mp member) f.2 rfl

theorem lookup_present {fields : List (String × Option Value)} (distinct : (fields.map Prod.fst).Nodup) {name : String}
    {v : Option Value} (member : (name, v) ∈ fields) : (present fields).lookup name = v := by
  have names : ((present fields).map Prod.fst).Nodup := distinct.sublist (names_present fields)
  apply Option.ext
  intro w
  rw [lookup_eq_some_iff_mem names, mem_present]
  constructor
  · intro other
    exact congrArg Prod.snd (List.inj_on_of_nodup_map distinct member other rfl)
  · rintro rfl
    exact member

-- The fields of a structure are those that it was made of.
theorem fields?_ofPresent {fields : List (String × Option Value)} (distinct : (fields.map Prod.fst).Nodup) :
    (ofPresent fields).fields? (fields.map Prod.fst) = some (fields.map Prod.snd) := by
  show some ((fields.map Prod.fst).map fun name => (present fields).lookup name) = _
  rw [List.map_map]
  refine congrArg some (List.map_congr_left fun f member => ?_)
  exact lookup_present distinct (show (f.1, f.2) ∈ fields from member)

theorem optional_map {decode : Value → Option α} {encode : α → Value} (back : ∀ a, decode (encode a) = some a)
    (shown : ∀ a, encode a ≠ .null) (o : Option α) : optional decode (o.map encode) = some o := by
  cases o with
  | none => rfl
  | some a =>
    have here := back a
    have notNull := shown a
    rw [Option.map_some]
    unfold optional
    split
    · rename_i same
      cases same
    · rename_i same
      exact absurd (Option.some.inj same) notNull
    · rename_i v _ same
      rw [← Option.some.inj same, here]
      rfl

theorem asList_map {decode : Value → Option α} {encode : α → Value} (back : ∀ a, decode (encode a) = some a)
    (items : List α) : asList decode (.list (items.map encode)) = some items := by
  show (items.map encode).mapM decode = some items
  induction items with
  | nil => rfl
  | cons a rest ih => simp [List.mapM_cons, back, ih]

theorem asEntries_map {decode : Value → Option α} {encode : α → Value} (back : ∀ a, decode (encode a) = some a)
    (entries : List (String × α)) : asEntries decode (.record (entries.map fun (n, a) => (n, encode a))) = some entries := by
  show (entries.map fun (n, a) => (n, encode a)).mapM _ = some entries
  induction entries with
  | nil => rfl
  | cons head rest ih => simp [List.mapM_cons, back, ih]

theorem ofInt_whole {n : Int} {w : Whole} (found : Whole.ofInt? n = some w) : ofInt n = .whole w := by
  unfold ofInt
  rw [found]

theorem ofNat_word (w : UInt32) : ∃ n : Whole, n.val = w.toNat ∧ ofNat w.toNat = .whole n := by
  have small : w.toNat < 4294967296 := w.toNat_lt
  have range : -0x8000000000000000 ≤ (w.toNat : Int) ∧ (w.toNat : Int) < 0x10000000000000000 := by omega
  have found : Whole.ofInt? w.toNat = some ⟨w.toNat, range.1, range.2⟩ := dif_pos range
  exact ⟨⟨w.toNat, range.1, range.2⟩, rfl, ofInt_whole found⟩

theorem asWord_ofNat (w : UInt32) : asWord (.ofNat w.toNat) = some w := by
  obtain ⟨n, value, whole⟩ := ofNat_word w
  have below : 0 ≤ n.val ∧ n.val < UInt32.size := by
    rw [value]
    exact ⟨Int.natCast_nonneg _, Int.ofNat_lt.mpr w.toNat_lt⟩
  have read : asNatBelow UInt32.size (.whole n) = some n.val.toNat := if_pos below
  rw [whole, asWord, read, value, Int.toNat_natCast, Option.map_some, UInt32.ofNat_toNat]

end Value
end TidyRows
