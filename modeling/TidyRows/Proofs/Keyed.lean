import TidyRows.Value.Keyed
namespace TidyRows

theorem lookup_cons_if (name head : String) (value : α) (rest : List (String × α)) :
    ((head, value) :: rest).lookup name = if name = head then some value else rest.lookup name := by
  by_cases same : name = head
  · simp [same]
  · have unequal : (name == head) = false := by simpa using same
    simp [List.lookup_cons, same, unequal]

theorem lookup_putEntry (name other : String) (value : α) (entries : List (String × α)) :
    (putEntry name value entries).lookup other = if other = name then some value else entries.lookup other := by
  induction entries with
  | nil => simp [putEntry, lookup_cons_if]
  | cons head rest ih =>
    obtain ⟨first, old⟩ := head
    by_cases here : first = name
    · subst here
      by_cases same : other = first <;> simp [putEntry, lookup_cons_if, same]
    · by_cases same : other = first
      · simp [putEntry, here, same]
      · simp [putEntry, lookup_cons_if, here, same, ih]

theorem putEntry_new {name : String} {entries : List (String × α)} (absent : name ∉ entries.map Prod.fst) (value : α) :
    putEntry name value entries = entries ++ [(name, value)] := by
  induction entries with
  | nil => rfl
  | cons head rest ih =>
    rw [List.map_cons, List.mem_cons, not_or] at absent
    rw [putEntry, if_neg (Ne.symm absent.1), ih absent.2]
    rfl

theorem putEntry_last {name : String} {entries : List (String × α)} (absent : name ∉ entries.map Prod.fst)
    (old value : α) : putEntry name value (entries ++ [(name, old)]) = entries ++ [(name, value)] := by
  induction entries with
  | nil => simp [putEntry]
  | cons head rest ih =>
    rw [List.map_cons, List.mem_cons, not_or] at absent
    rw [List.cons_append, putEntry, if_neg (Ne.symm absent.1), ih absent.2]
    rfl

theorem lookup_eq_some_iff_mem {entries : List (String × α)} (distinct : (entries.map Prod.fst).Nodup)
    {name : String} {value : α} : entries.lookup name = some value ↔ (name, value) ∈ entries := by
  induction entries with
  | nil => simp
  | cons head rest ih =>
    obtain ⟨first, old⟩ := head
    obtain ⟨absent, distinct⟩ := List.nodup_cons.mp distinct
    rw [lookup_cons_if]
    by_cases same : name = first
    · subst same
      have later : (name, value) ∉ rest := fun member => absent (List.mem_map.mpr ⟨_, member, rfl⟩)
      simp [later, eq_comm]
    · simp [same, ih distinct]

theorem lookup_of_only {entries : List (String × α)} (member : (name, value) ∈ entries)
    (only : ∀ other, (name, other) ∈ entries → other = value) : entries.lookup name = some value := by
  induction entries with
  | nil => cases member
  | cons head rest ih =>
    obtain ⟨first, old⟩ := head
    rw [lookup_cons_if]
    split
    · rename_i same
      rw [only old (by simp [same])]
    · rename_i different
      refine ih ((List.mem_cons.mp member).resolve_left fun same => different (Prod.mk.inj same).1) ?_
      exact fun other inside => only other (List.mem_cons_of_mem _ inside)

theorem mem_of_lookup {entries : List (String × α)} (found : entries.lookup name = some value) :
    (name, value) ∈ entries := by
  induction entries with
  | nil => cases found
  | cons head rest ih =>
    obtain ⟨first, old⟩ := head
    rw [lookup_cons_if] at found
    split at found
    · rename_i same
      cases found
      simp [same]
    · exact List.mem_cons_of_mem _ (ih found)

theorem lookup_absent {entries : List (String × α)} (absent : name ∉ entries.map Prod.fst) :
    entries.lookup name = none := by
  cases found : entries.lookup name with
  | none => rfl
  | some value => exact absurd (List.mem_map_of_mem (mem_of_lookup found)) absent

theorem lookup_last {entries : List (String × α)} (absent : name ∉ entries.map Prod.fst) (value : α) :
    (entries ++ [(name, value)]).lookup name = some value := by
  rw [List.lookup_append, lookup_absent absent]
  simp

namespace Keyed

@[simp] theorem get?_empty (name : String) : (empty : Keyed α).get? name = none := rfl

theorem get?_put (k : Keyed α) (name other : String) (value : α) :
    (k.put name value).get? other = if other = name then some value else k.get? other :=
  lookup_putEntry _ _ _ _

@[simp] theorem get?_put_same (k : Keyed α) (name : String) (value : α) :
    (k.put name value).get? name = some value := by simp [get?_put]

theorem get?_put_other (k : Keyed α) (value : α) (different : other ≠ name) :
    (k.put name value).get? other = k.get? other := by simp [get?_put, different]

theorem get?_eq_some_iff {k : Keyed α} : k.get? name = some value ↔ (name, value) ∈ k.entries :=
  lookup_eq_some_iff_mem k.distinct

theorem get?_eq_none_iff {k : Keyed α} : k.get? name = none ↔ name ∉ k.names := by
  constructor
  · intro none member
    obtain ⟨entry, inside, rfl⟩ := List.mem_map.mp member
    have found : k.get? entry.1 = some entry.2 := get?_eq_some_iff.mpr inside
    rw [none] at found
    cases found
  · intro absent
    cases found : k.get? name with
    | none => rfl
    | some value => exact absurd (List.mem_map.mpr ⟨_, get?_eq_some_iff.mp found, rfl⟩) absent

theorem get?_erase (k : Keyed α) (name other : String) :
    (k.erase name).get? other = if other = name then none else k.get? other := by
  apply Option.ext
  intro value
  rw [get?_eq_some_iff]
  by_cases same : other = name
  · simp [erase, same]
  · simp [erase, same, get?_eq_some_iff]

-- The names in their order and what is under each of them make up everything.
theorem ext_get? {k l : Keyed α} (names : k.names = l.names) (same : ∀ name, k.get? name = l.get? name) : k = l := by
  have parts (k : Keyed α) : k.names.map (fun name => (k.get? name).map (name, ·)) = k.entries.map some := by
    rw [Keyed.names, List.map_map]
    refine List.map_congr_left fun entry member => ?_
    simp [get?_eq_some_iff.mpr (show (entry.1, entry.2) ∈ k.entries from member)]
  have equal : k.entries.map some = l.entries.map some := by
    rw [← parts, ← parts, names]
    simp only [same]
  exact ext ((List.map_inj_right fun _ _ => Option.some.inj).mp equal)

theorem putAll_cons (k : Keyed α) (name : String) (value : α) (rest : List (String × α)) :
    k.putAll ((name, value) :: rest) = (k.put name value).putAll rest := rfl

theorem putAll_append (k : Keyed α) (first second : List (String × α)) :
    k.putAll (first ++ second) = (k.putAll first).putAll second := List.foldl_append

theorem get?_putAll (k : Keyed α) (added : List (String × α)) (name : String) :
    (k.putAll added).get? name = (added.reverse.lookup name).or (k.get? name) := by
  induction added generalizing k with
  | nil => rfl
  | cons head rest ih =>
    obtain ⟨first, value⟩ := head
    rw [putAll_cons, ih, get?_put, List.reverse_cons, List.lookup_append, lookup_cons_if, Option.or_assoc]
    by_cases same : name = first <;> simp [same]

theorem lookup_reverse (k : Keyed α) (name : String) : k.entries.reverse.lookup name = k.get? name := by
  apply Option.ext
  intro value
  rw [get?_eq_some_iff, lookup_eq_some_iff_mem, List.mem_reverse]
  rw [List.map_reverse]
  exact (List.reverse_perm _).symm.nodup k.distinct

theorem names_put (k : Keyed α) (name : String) (value : α) :
    (k.put name value).names = if name ∈ k.names then k.names else k.names ++ [name] :=
  putEntry_names name value k.entries

theorem names_putAll {k : Keyed α} {added : List (String × α)} (known : ∀ entry ∈ added, entry.1 ∈ k.names) :
    (k.putAll added).names = k.names := by
  induction added generalizing k with
  | nil => rfl
  | cons head rest ih =>
    have here : (k.put head.1 head.2).names = k.names := by rw [names_put, if_pos (known head (by simp))]
    rw [putAll_cons, ih, here]
    exact fun entry member => here ▸ known entry (List.mem_cons_of_mem _ member)

theorem mem_names_putAll {k : Keyed α} {added : List (String × α)}
    (known : name ∈ k.names ∨ ∃ entry ∈ added, entry.1 = name) : name ∈ (k.putAll added).names := by
  induction added generalizing k with
  | nil => simpa [putAll] using known
  | cons head rest ih =>
    rw [putAll_cons]
    refine ih ?_
    rw [names_put]
    split <;> grind

-- What has been put once changes nothing when it is put again.
theorem putAll_again (k : Keyed α) (added : List (String × α)) :
    (k.putAll added).putAll added = k.putAll added := by
  refine ext_get? (names_putAll fun entry member => mem_names_putAll (.inr ⟨entry, member, rfl⟩)) fun name => ?_
  rw [get?_putAll, get?_putAll, ← Option.or_assoc, Option.or_self]

theorem putAll_self (k : Keyed α) : k.putAll k.entries = k := by
  refine ext_get? (names_putAll fun entry member => List.mem_map_of_mem member) fun name => ?_
  rw [get?_putAll, lookup_reverse, Option.or_self]

end Keyed
end TidyRows
