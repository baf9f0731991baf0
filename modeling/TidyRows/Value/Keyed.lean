namespace TidyRows

def putEntry (name : String) (value : α) : List (String × α) → List (String × α)
  | [] => [(name, value)]
  | (n, v) :: rest => if n = name then (n, value) :: rest else (n, v) :: putEntry name value rest

theorem putEntry_names (name : String) (value : α) (entries : List (String × α)) :
    (putEntry name value entries).map Prod.fst =
      if name ∈ entries.map Prod.fst then entries.map Prod.fst else entries.map Prod.fst ++ [name] := by
  induction entries with
  | nil => simp [putEntry]
  | cons head rest ih =>
    by_cases h : head.1 = name
    · simp [putEntry, h]
    · have h' : ¬ name = head.1 := fun e => h e.symm
      by_cases m : name ∈ rest.map Prod.fst
      · rw [if_pos m] at ih
        simp only [putEntry, h, if_false, List.map_cons, ih]
        rw [if_pos (List.mem_cons_of_mem _ m)]
      · rw [if_neg m] at ih
        simp only [putEntry, h, if_false, List.map_cons, ih]
        rw [if_neg (by simp only [List.mem_cons, not_or]; exact ⟨h', m⟩), List.cons_append]

structure Keyed (α : Type) where
  entries : List (String × α)
  distinct : (entries.map Prod.fst).Nodup

namespace Keyed

instance [Repr α] : Repr (Keyed α) := ⟨fun k n => reprPrec k.entries n⟩

@[ext] theorem ext {a b : Keyed α} (h : a.entries = b.entries) : a = b := by
  cases a; cases b; cases h; rfl

instance [DecidableEq α] : DecidableEq (Keyed α) := fun a b =>
  if h : a.entries = b.entries then isTrue (ext h) else isFalse fun e => h (congrArg entries e)

def empty : Keyed α := ⟨[], List.nodup_nil⟩

instance : Inhabited (Keyed α) := ⟨empty⟩

def names (k : Keyed α) : List String := k.entries.map Prod.fst
def get? (k : Keyed α) (name : String) : Option α := k.entries.lookup name
def contains (k : Keyed α) (name : String) : Bool := (k.get? name).isSome

-- The last value given for a name counts, at the name's first place.
def put (k : Keyed α) (name : String) (value : α) : Keyed α :=
  ⟨putEntry name value k.entries, by
    rw [putEntry_names]
    split
    · exact k.distinct
    · next h => exact List.nodup_append.mpr ⟨k.distinct, by simp, by
        intro a ha b hb e
        rw [List.mem_singleton] at hb
        exact h (by rw [← hb, ← e]; exact ha)⟩⟩

def putAll (k : Keyed α) (entries : List (String × α)) : Keyed α :=
  entries.foldl (fun k (n, v) => k.put n v) k

def erase (k : Keyed α) (name : String) : Keyed α :=
  ⟨k.entries.filter (·.1 != name), k.distinct.sublist (List.filter_sublist.map _)⟩

def ofList (entries : List (String × α)) : Keyed α := empty.putAll entries

end Keyed
end TidyRows
