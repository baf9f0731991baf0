import TidyRows.Proofs.Keyed
import TidyRows.Step.Mapping
namespace TidyRows.ColumnMapping

def targets (c : ColumnMapping) : List String := c.mapping.entries.map Prod.snd

-- A name that is left alone: there is no new one for it, and such fields are not dropped.
def Passes (c : ColumnMapping) (name : String) : Prop :=
  c.mapping.get? name = none ∧ c.dropUnknown.getD false = false

instance (c : ColumnMapping) (name : String) : Decidable (c.Passes name) :=
  inferInstanceAs (Decidable (_ ∧ _))

-- The last of the fields that go under a name.
def lastUnder (c : ColumnMapping) (fields : List (String × Value)) (name : String) : Option (String × Value) :=
  fields.reverse.find? fun f => c.mapping.get? f.1 == some name

def renamed (c : ColumnMapping) (f : String × Value) : Option (String × Value) :=
  match c.mapping.get? f.1 with
  | some target => some (target, f.2)
  | none => if c.dropUnknown.getD false then none else some f

structure Maps (c : ColumnMapping) (row out : Row) : Prop where
  names : ∀ name, name ∈ out.names ↔ name ∈ c.targets ∨ name ∈ row.names ∧ c.Passes name
  -- of several fields that go under a name the last one counts
  last : ∀ name f, c.lastUnder row.entries name = some f → out.get? name = some f.2
  own : ∀ name, c.lastUnder row.entries name = none → name ∈ row.names → c.Passes name →
    out.get? name = row.get? name
  missing : ∀ name ∈ c.targets, c.lastUnder row.entries name = none → ¬ (name ∈ row.names ∧ c.Passes name) →
    out.get? name = some .null
  -- With a new name for one source each, and none that another field keeps, all fields come first and in their order,
  -- and if none is dropped then so do all values.
  lossless : (∀ a b name, c.mapping.get? a = some name → c.mapping.get? b = some name → a = b) →
    (∀ name ∈ c.targets, ¬ (name ∈ row.names ∧ c.Passes name)) →
    row.entries.filterMap c.renamed <+: out.entries ∧
      (c.dropUnknown.getD false = false → row.entries.map Prod.snd <+: out.entries.map Prod.snd)

variable {c : ColumnMapping} {row mapped : Row} {fields : List (String × Value)} {f : String × Value}
  {name target : String}

theorem mem_targets : name ∈ c.targets ↔ ∃ source, c.mapping.get? source = some name := by
  unfold targets
  rw [List.mem_map]
  constructor
  · rintro ⟨⟨source, _⟩, member, rfl⟩
    exact ⟨source, Keyed.get?_eq_some_iff.mpr member⟩
  · rintro ⟨source, found⟩
    exact ⟨_, Keyed.get?_eq_some_iff.mp found, rfl⟩

theorem mapField_mapped (has : c.mapping.get? f.1 = some target) : c.mapField mapped f = mapped.put target f.2 := by
  unfold mapField
  rw [has]

theorem mapField_dropped (none : c.mapping.get? f.1 = none) (drops : c.dropUnknown.getD false = true) :
    c.mapField mapped f = mapped := by
  unfold mapField
  rw [none]
  simp [drops]

theorem mapField_passed (passes : c.Passes f.1) :
    c.mapField mapped f = if mapped.contains f.1 then mapped else mapped.put f.1 f.2 := by
  unfold mapField
  rw [passes.1]
  simp [passes.2]

-- One field: under a new name it counts before what is there, under its own after it.
theorem mapField_get? (c : ColumnMapping) (mapped : Row) (f : String × Value) (name : String) :
    (c.mapField mapped f).get? name =
      (if c.mapping.get? f.1 = some name then some f.2 else none).or
        ((mapped.get? name).or (if f.1 = name ∧ c.Passes name then some f.2 else none)) := by
  cases has : c.mapping.get? f.1 with
  | some target =>
    have busy (same : f.1 = name) : ¬ c.Passes name := fun passes => by simp [← same, Passes, has] at passes
    rw [mapField_mapped has, Keyed.get?_put]
    by_cases here : name = target
    · simp [here]
    · have unequal : target ≠ name := Ne.symm here
      by_cases same : f.1 = name <;> simp [here, unequal, same, busy]
  | none =>
    cases drops : c.dropUnknown.getD false with
    | true =>
      have blocked : ¬ c.Passes name := fun passes => by simp [Passes, drops] at passes
      simp [mapField_dropped has drops, blocked]
    | false =>
      rw [mapField_passed ⟨has, drops⟩]
      by_cases same : f.1 = name
      · subst same
        have passes : c.Passes f.1 := ⟨has, drops⟩
        cases there : mapped.get? f.1 with
        | none => simp [Keyed.contains, there, passes]
        | some value => simp [Keyed.contains, there]
      · have other : name ≠ f.1 := Ne.symm same
        split <;> simp [same, Keyed.get?_put_other _ _ other]

theorem lastUnder_cons : c.lastUnder (f :: fields) name =
    (c.lastUnder fields name).or (if c.mapping.get? f.1 = some name then some f else none) := by
  unfold lastUnder
  rw [List.reverse_cons, List.find?_append]
  by_cases here : c.mapping.get? f.1 = some name <;> simp [here]

-- All fields, by induction over them.
theorem mapFields_get? (c : ColumnMapping) (fields : List (String × Value)) (mapped : Row) (name : String) :
    (fields.foldl c.mapField mapped).get? name =
      ((c.lastUnder fields name).map Prod.snd).or
        ((mapped.get? name).or (if c.Passes name then fields.lookup name else none)) := by
  induction fields generalizing mapped with
  | nil => simp [lastUnder]
  | cons f rest ih =>
    rw [List.foldl_cons, ih, mapField_get?, lastUnder_cons, lookup_cons_if]
    by_cases here : c.mapping.get? f.1 = some name
    · cases c.lastUnder rest name <;> simp [here]
    · by_cases same : f.1 = name
      · subst same
        by_cases passes : c.Passes f.1 <;> simp [here, passes]
      · simp [here, same, Ne.symm same]

theorem addMissing_get? (row mapped : Row) (pair : String × String) (name : String) :
    (addMissing row mapped pair).get? name =
      (mapped.get? name).or (if pair.2 == name && !row.contains pair.1 then some .null else none) := by
  unfold addMissing
  cases row.contains pair.1 with
  | true => simp
  | false =>
    by_cases same : pair.2 = name
    · subst same
      cases there : mapped.get? pair.2 <;> simp [Keyed.contains, there]
    · split <;> simp [same, Keyed.get?_put_other _ _ (Ne.symm same)]

-- Whether a source is missing that would go under the name.
def misses (row : Row) (pairs : List (String × String)) (name : String) : Bool :=
  pairs.any fun pair => pair.2 == name && !row.contains pair.1

theorem addAllMissing_get? (row : Row) (pairs : List (String × String)) (mapped : Row) (name : String) :
    (pairs.foldl (addMissing row) mapped).get? name =
      (mapped.get? name).or (if misses row pairs name then some .null else none) := by
  induction pairs generalizing mapped with
  | nil => simp [misses]
  | cons pair rest ih =>
    rw [List.foldl_cons, ih, addMissing_get?, Option.or_assoc]
    have parts : misses row (pair :: rest) name = ((pair.2 == name && !row.contains pair.1) || misses row rest name) :=
      List.any_cons
    rw [parts]
    cases pair.2 == name && !row.contains pair.1 <;> simp

theorem mapRow_get? (c : ColumnMapping) (row : Row) (name : String) :
    (c.mapRow row).get? name = ((c.lastUnder row.entries name).map Prod.snd).or
      ((if c.Passes name then row.get? name else none).or
        (if misses row c.mapping.entries name then some .null else none)) := by
  unfold mapRow
  rw [addAllMissing_get?, mapFields_get?, Option.or_assoc]
  rfl

theorem lastUnder_some (found : c.lastUnder fields name = some f) :
    f ∈ fields ∧ c.mapping.get? f.1 = some name := by
  have member := List.mem_of_find?_eq_some found
  have goes := List.find?_some found
  exact ⟨List.mem_reverse.mp member, by simpa using goes⟩

theorem lastUnder_none : c.lastUnder fields name = none ↔ ∀ f ∈ fields, c.mapping.get? f.1 ≠ some name := by
  simp [lastUnder]

-- A new name is one that a field of the row goes under or would go under if it were there.
theorem mem_targets_iff (c : ColumnMapping) (row : Row) : name ∈ c.targets ↔
    (∃ f, c.lastUnder row.entries name = some f) ∨ misses row c.mapping.entries name = true := by
  constructor
  · intro member
    obtain ⟨source, goes⟩ := mem_targets.mp member
    cases given : row.get? source with
    | none =>
      right
      exact List.any_eq_true.mpr ⟨_, Keyed.get?_eq_some_iff.mp goes, by simp [Keyed.contains, given]⟩
    | some value =>
      left
      apply Option.ne_none_iff_exists'.mp
      intro nothing
      exact lastUnder_none.mp nothing (source, value) (Keyed.get?_eq_some_iff.mp given) goes
  · rintro (⟨f, found⟩ | missing)
    · exact mem_targets.mpr ⟨f.1, (lastUnder_some found).2⟩
    · obtain ⟨pair, known, here⟩ := List.any_eq_true.mp missing
      have same : pair.2 = name := by simpa using (Bool.and_eq_true_iff.mp here).1
      exact same ▸ List.mem_map_of_mem known

theorem mem_names_iff {row : Row} : name ∈ row.names ↔ row.get? name ≠ none := by
  rw [Ne, Keyed.get?_eq_none_iff, Decidable.not_not]

-- What becomes of the fields when no two of them go under one name.

theorem contains_iff {row : Row} : row.contains name = true ↔ name ∈ row.names := by
  rw [mem_names_iff, Keyed.contains, Option.isSome_iff_ne_none]

theorem put_new {name : String} (absent : name ∉ mapped.names) (value : Value) :
    (mapped.put name value).entries = mapped.entries ++ [(name, value)] := putEntry_new absent value

theorem mapField_new (absent : ∀ g, c.renamed f = some g → g.1 ∉ mapped.names) :
    (c.mapField mapped f).entries = mapped.entries ++ (c.renamed f).toList := by
  unfold renamed at *
  cases has : c.mapping.get? f.1 with
  | some target =>
    rw [has] at absent
    rw [mapField_mapped has, put_new (absent _ rfl)]
    rfl
  | none =>
    cases drops : c.dropUnknown.getD false with
    | true => simp [mapField_dropped has drops]
    | false =>
      have fresh : f.1 ∉ mapped.names := absent f (by simp [has, drops])
      rw [mapField_passed ⟨has, drops⟩, if_neg (mt contains_iff.mp fresh), put_new fresh]
      rfl

theorem mapFields_new (mapped : Row) (fields : List (String × Value))
    (distinct : ((mapped.entries ++ fields.filterMap c.renamed).map Prod.fst).Nodup) :
    (fields.foldl c.mapField mapped).entries = mapped.entries ++ fields.filterMap c.renamed := by
  induction fields generalizing mapped with
  | nil => simp
  | cons f rest ih =>
    have parts : (f :: rest).filterMap c.renamed = (c.renamed f).toList ++ rest.filterMap c.renamed := by
      cases here : c.renamed f <;> simp [here]
    rw [parts, ← List.append_assoc] at distinct ⊢
    have absent (g : String × Value) (goes : c.renamed f = some g) : g.1 ∉ mapped.names := by
      intro known
      rw [goes, List.append_assoc, List.map_append] at distinct
      obtain ⟨_, _, apart⟩ := List.nodup_append.mp distinct
      exact apart _ known g.1 (by simp) rfl
    have here := mapField_new absent
    rw [← here] at distinct ⊢
    exact ih _ distinct

theorem addMissing_more (row mapped : Row) (pair : String × String) :
    mapped.entries <+: (addMissing row mapped pair).entries := by
  unfold addMissing
  split
  · exact List.prefix_refl _
  · rename_i new
    have fresh : pair.2 ∉ mapped.names := by
      intro known
      exact new (by simp [contains_iff.mpr known])
    rw [put_new fresh]
    exact List.prefix_append _ _

theorem addAllMissing_more (row : Row) (pairs : List (String × String)) (mapped : Row) :
    mapped.entries <+: (pairs.foldl (addMissing row) mapped).entries := by
  induction pairs generalizing mapped with
  | nil => exact List.prefix_refl _
  | cons pair rest ih => exact (addMissing_more row mapped pair).trans (ih _)

theorem renamed_name {g : String × Value} (goes : c.renamed f = some g) :
    c.mapping.get? f.1 = some g.1 ∨ c.Passes f.1 ∧ g = f := by
  unfold renamed at goes
  cases has : c.mapping.get? f.1 with
  | some target =>
    rw [has] at goes
    cases goes
    exact .inl rfl
  | none =>
    rw [has] at goes
    dsimp only at goes
    split at goes
    · cases goes
    · rename_i stays
      cases goes
      exact .inr ⟨⟨has, by simpa using stays⟩, rfl⟩

theorem renamed_distinct
    (injective : ∀ a b name, c.mapping.get? a = some name → c.mapping.get? b = some name → a = b)
    (clear : ∀ name ∈ c.targets, ¬ (name ∈ row.names ∧ c.Passes name)) :
    ((row.entries.filterMap c.renamed).map Prod.fst).Nodup := by
  have fields : row.entries.Pairwise fun f g => f ∈ row.entries ∧ g ∈ row.entries ∧ f.1 ≠ g.1 :=
    List.Pairwise.and_mem.mp (List.pairwise_map.mp row.distinct)
  -- a new name that a field of the row keeps
  have taken {f g : String × Value} {name : String} (goes : c.mapping.get? f.1 = some name) (inside : g ∈ row.entries)
      (passes : c.Passes g.1) : name ≠ g.1 := by
    rintro rfl
    exact clear g.1 (mem_targets.mpr ⟨f.1, goes⟩) ⟨List.mem_map_of_mem inside, passes⟩
  apply List.pairwise_map.mpr
  apply List.Pairwise.filterMap _ _ fields
  rintro f g ⟨inside, inside', different⟩ f' goes g' goes'
  rcases renamed_name goes with new | ⟨passes, rfl⟩
  · rcases renamed_name goes' with new' | ⟨passes', rfl⟩
    · intro same
      exact different (injective _ _ _ new (same ▸ new'))
    · exact taken new inside' passes'
  · rcases renamed_name goes' with new' | ⟨passes', rfl⟩
    · exact (taken new' inside passes).symm
    · exact different

theorem renamed_values (stays : c.dropUnknown.getD false = false) (fields : List (String × Value)) :
    (fields.filterMap c.renamed).map Prod.snd = fields.map Prod.snd := by
  have value (f : String × Value) : (c.renamed f).map Prod.snd = some f.2 := by
    unfold renamed
    cases c.mapping.get? f.1 <;> simp [stays]
  rw [List.map_filterMap]
  simp [value]

theorem mapRow_names (c : ColumnMapping) (row : Row) (name : String) :
    name ∈ (c.mapRow row).names ↔ name ∈ c.targets ∨ name ∈ row.names ∧ c.Passes name := by
  rw [mem_names_iff, mem_names_iff, mem_targets_iff c row, mapRow_get?]
  cases c.lastUnder row.entries name with
  | some f => simp
  | none => by_cases passes : c.Passes name <;> cases row.get? name <;> simp [passes]

theorem mapRow_missing (member : name ∈ c.targets) (unused : c.lastUnder row.entries name = none)
    (free : ¬ (name ∈ row.names ∧ c.Passes name)) : (c.mapRow row).get? name = some .null := by
  have missing := ((mem_targets_iff c row).mp member).resolve_left (by simp [unused])
  have absent : (if c.Passes name then row.get? name else none) = none := by
    split
    · rename_i passes
      apply Keyed.get?_eq_none_iff.mpr
      intro known
      exact free ⟨known, passes⟩
    · rfl
  simp [mapRow_get?, unused, absent, missing]

theorem mapRow_prefix (distinct : ((row.entries.filterMap c.renamed).map Prod.fst).Nodup) :
    row.entries.filterMap c.renamed <+: (c.mapRow row).entries := by
  have first := mapFields_new .empty row.entries distinct
  have more := addAllMissing_more row c.mapping.entries (row.entries.foldl c.mapField .empty)
  rwa [first] at more

theorem mapRow_maps (c : ColumnMapping) (row : Row) : Maps c row (c.mapRow row) := by
  refine ⟨mapRow_names c row, ?_, ?_, fun name => mapRow_missing, ?_⟩
  · intro name f found
    simp [mapRow_get?, found]
  · intro name unused known passes
    obtain ⟨value, given⟩ := Option.ne_none_iff_exists'.mp (mem_names_iff.mp known)
    simp [mapRow_get?, unused, passes, given]
  · intro injective clear
    have whole := mapRow_prefix (renamed_distinct injective clear)
    refine ⟨whole, fun stays => ?_⟩
    have values := whole.map Prod.snd
    rwa [renamed_values stays] at values

-- Two names that are swapped, a third one that joins the first, and a source that the row does not have.
example : (mapRow ⟨.ofList [("a", "b"), ("b", "a"), ("c", "a"), ("d", "e")], none⟩
      (.ofList [("c", .text "3"), ("a", .text "1"), ("b", .text "2"), ("f", .text "4")])).entries.map
        (fun f => (f.1, f.2.text?)) =
    [("a", some "2"), ("b", some "1"), ("f", some "4"), ("e", none)] := by
  rfl

end TidyRows.ColumnMapping
