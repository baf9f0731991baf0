import Mathlib.Data.List.Forall2
import TidyRows.Recipe.Decode
namespace TidyRows
open Value

def stepNames : List String := ["map_columns", "format", "validate", "dedupe", "write_back"]

def strategyNames : List String := ["external_upsert", "export"]

-- A name of a choice, alone or as the only field of a record that holds nothing.
inductive Value.Names : Value → String → Prop where
  | alone : Names (.text name) name
  | field : Names (.record [(name, .null)]) name

-- The name of the kind of a step: its type, or the first of its two parts.
inductive Value.Typed : Value → String → Prop where
  | record (has : fields.lookup "type" = some type) (names : type.Names kind) : Typed (.record fields) kind
  | list (names : type.Names kind) : Typed (.list [type, config]) kind

-- The elements of which the steps of a recipe are made.
inductive Value.Steps : Value → List Value → Prop where
  | record (has : fields.lookup "steps" = some (.list steps)) : Steps (.record fields) steps
  | list (id name version : Value) : Steps (.list [id, name, version, .list steps]) steps

def typeText : Value → String
  | .record fields => match fields.lookup "type" with
    | some (.text s) => s
    | _ => ""
  | _ => ""

def strategyText : Value → Option String
  | .record fields => match fields.lookup "config" with
    | some (.record config) => match config.lookup "strategy" with
      | some (.text s) => some s
      | _ => none
    | _ => none
  | _ => none

-- An element that no version of this library runs, and what is told of it.
inductive Value.Refused (element : Value) : Fault → Prop where
  | type (unknown : typeText element ∉ stepNames) : Refused element (.unsupportedStep (typeText element))
  | strategy (writes : typeText element = "write_back") (given : strategyText element = some s)
      (unknown : s ∉ strategyNames) : Refused element (.unsupportedStrategy s)

section
variable {name : String} {kind : StepKind} {element v : Value}

theorem find?_name {all : List α} {label : α → String} (found : all.find? (label · == name) = some a) :
    label a = name :=
  beq_iff_eq.mp (List.find?_some (p := (label · == name)) found)

theorem find?_unknown {all : List α} {label : α → String} :
    all.find? (label · == name) = none ↔ name ∉ all.map label := by
  rw [List.find?_eq_none]
  simp

theorem stepKind_name (found : StepKind.ofName? name = some kind) : kind.name = name := find?_name found

theorem stepKind_unknown : StepKind.ofName? name = none ↔ name ∉ stepNames := find?_unknown

theorem strategy_unknown : WriteStrategy.ofName? name = none ↔ name ∉ strategyNames := find?_unknown

theorem typeText_eq (element : Value) : ((Recipe.fieldOf "type" element).bind asText).getD "" = typeText element := by
  unfold typeText
  cases element with
  | record fields =>
    unfold Recipe.fieldOf
    dsimp only
    cases fields.lookup "type" with
    | none => rfl
    | some type => cases type <;> rfl
  | _ => rfl

theorem strategyText_eq (element : Value) :
    ((Recipe.fieldOf "config" element).bind (Recipe.fieldOf "strategy")).bind asText = strategyText element := by
  unfold strategyText
  cases element with
  | record fields =>
    unfold Recipe.fieldOf
    dsimp only
    cases fields.lookup "config" with
    | none => rfl
    | some config =>
      cases config with
      | record config =>
        rw [Option.bind_some]
        dsimp only
        cases config.lookup "strategy" with
        | none => rfl
        | some strategy => cases strategy <;> rfl
      | _ => rfl
  | _ => rfl

theorem unsupported_iff : Recipe.unsupported element = some fault ↔ element.Refused fault := by
  unfold Recipe.unsupported
  rw [typeText_eq, strategyText_eq]
  dsimp only
  cases found : StepKind.ofName? (typeText element) with
  | none =>
    constructor
    · rintro ⟨⟩
      exact .type (stepKind_unknown.mp found)
    · intro refused
      cases refused with
      | type => rfl
      | strategy writes =>
        rw [writes] at found
        cases found
  | some kind =>
    have known : typeText element ∈ stepNames := by
      by_contra unknown
      rw [stepKind_unknown.mpr unknown] at found
      cases found
    have name := stepKind_name found
    cases kind with
    | writeBack =>
      dsimp only
      cases given : strategyText element with
      | none =>
        refine ⟨nofun, fun refused => ?_⟩
        cases refused with
        | type unknown => exact absurd known unknown
        | strategy _ some => cases given.symm.trans some
      | some s =>
        dsimp only
        simp only [Option.isNone_iff_eq_none, strategy_unknown]
        split
        · rename_i unknown
          constructor
          · rintro ⟨⟩
            exact .strategy name.symm given unknown
          · intro refused
            cases refused with
            | type unknown => exact absurd known unknown
            | strategy _ other => cases given.symm.trans other; rfl
        · rename_i among
          refine ⟨nofun, fun refused => ?_⟩
          cases refused with
          | type unknown => exact absurd known unknown
          | strategy _ other unknown => cases given.symm.trans other; exact absurd unknown among
    | _ =>
      refine ⟨nofun, fun refused => ?_⟩
      cases refused with
      | type unknown => exact absurd known unknown
      | strategy writes => exact absurd (name.trans writes) (by decide)

theorem mapM_each {f : α → Option β} {as : List α} {bs : List β} (mapped : as.mapM f = some bs) :
    as.Forall₂ (fun a b => f a = some b) bs := by
  induction as generalizing bs with
  | nil =>
    cases mapped
    exact .nil
  | cons a rest ih =>
    rw [List.mapM_cons] at mapped
    obtain ⟨b, here, mapped⟩ := Option.bind_eq_some_iff.mp mapped
    obtain ⟨others, later, same⟩ := Option.bind_eq_some_iff.mp mapped
    cases same
    exact .cons here (ih later)

theorem asChoice_names {ofName? : String → Option α} {a : α} (found : v.asChoice ofName? = some a) :
    ∃ name, v.Names name ∧ ofName? name = some a := by
  unfold asChoice at found
  split at found
  · exact ⟨_, .alone, found⟩
  · exact ⟨_, .field, found⟩
  · cases found

theorem ofKind?_kind {loose : Loose} {config : Value} {step : Step}
    (read : Step.ofKind? loose config kind = some step) : step.kind = kind := by
  cases kind <;> obtain ⟨_, _, rfl⟩ := Option.map_eq_some_iff.mp read <;> rfl

theorem step_typed {step : Step} (read : Step.ofValue? element = some step) : element.Typed step.kind.name := by
  unfold Step.ofValue? at read
  split at read
  · obtain ⟨type, has, read⟩ := Option.bind_eq_some_iff.mp read
    obtain ⟨kind, chosen, read⟩ := Option.bind_eq_some_iff.mp read
    obtain ⟨config, _, read⟩ := Option.bind_eq_some_iff.mp read
    obtain ⟨name, names, found⟩ := asChoice_names chosen
    rw [ofKind?_kind read, stepKind_name found]
    exact .record has names
  · obtain ⟨kind, chosen, read⟩ := Option.bind_eq_some_iff.mp read
    obtain ⟨name, names, found⟩ := asChoice_names chosen
    rw [ofKind?_kind read, stepKind_name found]
    exact .list names
  · cases read

theorem fields_steps {id name version : Option Value} {elements : List Value}
    (fields : v.fields? ["id", "name", "version", "steps"] = some [id, name, version, some (.list elements)]) :
    v.Steps elements := by
  cases v with
  | record entries =>
    have parts := Option.some.inj fields
    simp only [List.map_cons, List.map_nil, List.cons.injEq, and_true] at parts
    exact .record parts.2.2.2
  | list vs =>
    -- a list without a fourth part has no steps, and one with more parts is none of a recipe
    match vs with
    | [_, _, _, _] =>
      have parts := Option.some.inj fields
      simp only [List.map_cons, List.map_nil, List.length_cons, List.length_nil, Nat.sub_self, List.replicate_zero,
        List.append_nil, List.cons.injEq, Option.some.injEq, and_true] at parts
      rw [parts.2.2.2]
      exact .list _ _ _
    | [] | [_] | [_, _] | [_, _, _] => simp [Value.fields?] at fields
    | _ :: _ :: _ :: _ :: _ :: _ => simp [Value.fields?] at fields
  | _ => cases fields

theorem fromFields?_steps {r : Recipe} (read : Recipe.fromFields? v = some r) :
    ∃ elements, v.Steps elements ∧
      elements.Forall₂ (fun element step => Step.ofValue? element = some step) r.steps := by
  unfold Recipe.fromFields? at read
  split at read
  · rename_i id name version steps fields
    obtain ⟨_, _, read⟩ := Option.bind_eq_some_iff.mp read
    obtain ⟨_, _, read⟩ := Option.bind_eq_some_iff.mp read
    obtain ⟨_, _, read⟩ := Option.bind_eq_some_iff.mp read
    obtain ⟨listed, found, same⟩ := Option.bind_eq_some_iff.mp read
    cases same
    cases steps with
    | none => cases found
    | some given =>
      cases given with
      | list elements => exact ⟨elements, fields_steps fields, mapM_each found⟩
      | _ => cases found
  · cases read

theorem stepValues_steps {fields : List (String × Value)} {elements : List Value}
    (has : fields.lookup "steps" = some (.list elements)) : Recipe.stepValues (.record fields) = elements := by
  unfold Recipe.stepValues Recipe.fieldOf
  dsimp only
  rw [has]

-- What is looked through beforehand keeps a recipe from being read, and changes nothing otherwise.
theorem ofValue_ok {r : Recipe} (read : Recipe.ofValue v = .ok r) : Recipe.fromFields? v = some r := by
  unfold Recipe.ofValue at read
  split at read
  · cases read
  · split at read
    · rename_i found
      cases read
      exact found
    · cases read

theorem ofValue_refused (found : (Recipe.stepValues v).findSome? Recipe.unsupported = some fault) :
    Recipe.ofValue v = .error fault := by
  unfold Recipe.ofValue
  rw [found]

theorem ofValue_known (none : (Recipe.stepValues v).findSome? Recipe.unsupported = none) :
    (∃ r, Recipe.ofValue v = .ok r) ∨ Recipe.ofValue v = .error .invalidRecipe := by
  unfold Recipe.ofValue
  rw [none]
  dsimp only
  cases Recipe.fromFields? v with
  | some r => exact .inl ⟨r, rfl⟩
  | none => exact .inr rfl

end

structure Recipe.FailsClosed (v : Value) : Prop where
  -- a recipe has one step for each element, in their order, of the kind that the element names
  steps : ∀ r, Recipe.ofValue v = .ok r → ∃ elements, v.Steps elements ∧
    elements.Forall₂ (fun element step => element.Typed step.kind.name) r.steps
  -- the first element that is not known decides
  refused : ∀ fields before element after fault, v = .record fields →
    fields.lookup "steps" = some (.list (before ++ element :: after)) →
    (∀ other ∈ before, ∀ fault, ¬ other.Refused fault) → element.Refused fault → Recipe.ofValue v = .error fault
  otherwise : ∀ fields elements, v = .record fields → fields.lookup "steps" = some (.list elements) →
    (∀ element ∈ elements, ∀ fault, ¬ element.Refused fault) →
    (∃ r, Recipe.ofValue v = .ok r) ∨ Recipe.ofValue v = .error .invalidRecipe

-- No step of a recipe is passed over or taken for another, whatever its data look like.
theorem reading_fails_closed (v : Value) : Recipe.FailsClosed v := by
  have known {element : Value} (never : ∀ fault, ¬ element.Refused fault) : Recipe.unsupported element = none :=
    Option.eq_none_iff_forall_ne_some.mpr fun fault found => never fault (unsupported_iff.mp found)
  refine ⟨fun r read => ?_, ?_, ?_⟩
  · obtain ⟨elements, steps, each⟩ := fromFields?_steps (ofValue_ok read)
    exact ⟨elements, steps, each.imp fun _ _ read => step_typed read⟩
  · rintro fields before element after fault rfl has first refused
    refine ofValue_refused ?_
    rw [stepValues_steps has, List.findSome?_append, List.findSome?_eq_none_iff.mpr fun other member =>
      known (first other member), Option.none_or, List.findSome?_cons, unsupported_iff.mpr refused]
  · rintro fields elements rfl has all
    refine ofValue_known ?_
    rw [stepValues_steps has]
    exact List.findSome?_eq_none_iff.mpr fun element member => known (all element member)

end TidyRows
