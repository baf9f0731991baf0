import Mathlib.Data.List.Forall2
import TidyRows.Proofs.Recipe.Readiness
import TidyRows.Recipe.Target
namespace TidyRows

-- Two targets one after the other: the later one says where to write, and the rest as far as it says anything.
def Target.overriddenBy (earlier later : Target) : Target :=
  ⟨later.boardId, later.columnMapping.or earlier.columnMapping, later.keyColumn.or earlier.keyColumn⟩

def Target.Remaps (t : Target) : Prop := t.columnMapping.isSome ∨ t.keyColumn.isSome

def WriteBack.mappedKey (w : WriteBack) : Option String := w.keyColumn.bind fun key => w.columnMapping.bind (·.get? key)

-- A write to a board, and what it is after it has been aimed at a target.
structure WriteBack.AimedAs (t : Target) (w aimed : WriteBack) : Prop where
  strategy : aimed.strategy = w.strategy
  itemName : aimed.itemNameField = w.itemNameField
  board : aimed.boardId = some t.boardId
  mapping : aimed.columnMapping = t.columnMapping.or w.columnMapping
  key : aimed.keyColumn = t.keyColumn.or w.keyColumn
  -- An id that is known holds only for the mapping and the key that it was known for.
  resolved : t.Remaps → aimed.keyColumnId = aimed.mappedKey
  filled : ¬ t.Remaps → aimed.keyColumnId = w.keyColumnId.or aimed.mappedKey

inductive Step.AimedAs (t : Target) : Step → Step → Prop where
  | upsert (external : w.strategy = .externalUpsert) (aimed : w.AimedAs t w') : AimedAs t (.writeBack w) (.writeBack w')
  | other (other : ∀ w, step.target? = some w → w.strategy ≠ .externalUpsert) : AimedAs t step step

section
variable {w aimed : WriteBack} {t : Target}

theorem aimedAt_export (away : w.strategy ≠ .externalUpsert) (t : Target) : w.aimedAt t = w := by
  unfold WriteBack.aimedAt
  cases strategy : w.strategy with
  | csvExport => rfl
  | externalUpsert => exact absurd strategy away

theorem aimedAt_external (external : w.strategy = .externalUpsert) (t : Target) : w.aimedAt t =
    { w with
      boardId := some t.boardId
      columnMapping := t.columnMapping.or w.columnMapping
      keyColumn := t.keyColumn.or w.keyColumn
      keyColumnId := (if t.columnMapping.isSome || t.keyColumn.isSome then none else w.keyColumnId).or
        (resolveKey (t.keyColumn.or w.keyColumn) (t.columnMapping.or w.columnMapping)) } := by
  rw [WriteBack.aimedAt, external]

theorem aimedAt_strategy (w : WriteBack) (t : Target) : (w.aimedAt t).strategy = w.strategy := by
  by_cases external : w.strategy = .externalUpsert
  · rw [aimedAt_external external]
  · rw [aimedAt_export external]

theorem remaps_iff : t.Remaps ↔ (t.columnMapping.isSome || t.keyColumn.isSome) = true := by
  rw [Bool.or_eq_true]
  rfl

theorem aimedAt_aimedAs (external : w.strategy = .externalUpsert) (t : Target) : w.AimedAs t (w.aimedAt t) := by
  rw [aimedAt_external external]
  refine ⟨rfl, rfl, rfl, rfl, rfl, fun remaps => ?_, fun stays => ?_⟩
  · rw [if_pos (remaps_iff.mp remaps)]
    rfl
  · rw [if_neg (mt remaps_iff.mpr stays)]
    rfl

-- A key that has been looked up is found again where it was, or looked up anew.
theorem aimedAt_aimedAt (w : WriteBack) (t u : Target) : (w.aimedAt t).aimedAt u = w.aimedAt (t.overriddenBy u) := by
  by_cases external : w.strategy = .externalUpsert
  · rw [aimedAt_external external t, aimedAt_external (by exact external) u, aimedAt_external external]
    unfold Target.overriddenBy
    cases mapping : u.columnMapping with
    | some m => simp [Option.or_assoc]
    | none =>
      cases key : u.keyColumn with
      | some k => simp
      | none => simp [Option.or_assoc]
  · rw [aimedAt_export external t, aimedAt_export external u, aimedAt_export external]

theorem overriddenBy_self (t : Target) : t.overriddenBy t = t := by
  simp [Target.overriddenBy]

theorem overriddenBy_complete (earlier : Target) (mapped : t.columnMapping.isSome) (keyed : t.keyColumn.isSome) :
    earlier.overriddenBy t = t := by
  obtain ⟨boardId, columnMapping, keyColumn⟩ := t
  obtain ⟨mapping, rfl⟩ := Option.isSome_iff_exists.mp mapped
  obtain ⟨key, rfl⟩ := Option.isSome_iff_exists.mp keyed
  rfl

theorem aimed_lacks (external : w.strategy = .externalUpsert) (t : Target) : (w.aimedAt t).Lacks ↔
    ¬ (Text.allBlank t.boardId.toList = false ∧ (w.columnMapping.isSome ∨ t.columnMapping.isSome)) := by
  have aimed := aimedAt_aimedAs external t
  have lacking : (w.aimedAt t).Lacks ↔
      Text.allBlank t.boardId.toList = true ∨ t.columnMapping.or w.columnMapping = none := by
    rw [← aimed.mapping]
    constructor
    · rintro ⟨_, blank | unmapped⟩
      · exact .inl (blank _ aimed.board)
      · exact .inr unmapped
    · intro lacks
      refine ⟨aimed.strategy.trans external, lacks.imp_left fun blank boardId placed => ?_⟩
      cases aimed.board.symm.trans placed
      exact blank
  rw [lacking, Option.or_eq_none_iff]
  cases Text.allBlank t.boardId.toList <;> cases w.columnMapping <;> cases t.columnMapping <;> simp

end

section
variable {step : Step} {t : Target}

theorem step_aimedAs (step : Step) (t : Target) : step.AimedAs t (step.aimedAt t) := by
  cases step with
  | writeBack w =>
    by_cases external : w.strategy = .externalUpsert
    · exact .upsert external (aimedAt_aimedAs external t)
    · have same : Step.aimedAt (.writeBack w) t = .writeBack w := congrArg Step.writeBack (aimedAt_export external t)
      rw [same]
      exact .other fun w' found => by cases found; exact external
  | _ => exact .other nofun

theorem step_aimedAt_aimedAt (step : Step) (t u : Target) :
    (step.aimedAt t).aimedAt u = step.aimedAt (t.overriddenBy u) := by
  cases step with
  | writeBack w => exact congrArg Step.writeBack (aimedAt_aimedAt w t u)
  | _ => rfl

theorem aimed_step_lacks : (step.aimedAt t).Lacks ↔ ∃ w, step = .writeBack w ∧ w.strategy = .externalUpsert ∧
    ¬ (Text.allBlank t.boardId.toList = false ∧ (w.columnMapping.isSome ∨ t.columnMapping.isSome)) := by
  cases step with
  | writeBack w =>
    constructor
    · rintro ⟨_, found, lacks⟩
      cases found
      have external : w.strategy = .externalUpsert := (aimedAt_strategy w t).symm.trans lacks.external
      exact ⟨w, rfl, external, (aimed_lacks external t).mp lacks⟩
    · rintro ⟨_, same, external, lacks⟩
      cases same
      exact ⟨_, rfl, (aimed_lacks external t).mpr lacks⟩
  | _ =>
    constructor
    · rintro ⟨_, found, _⟩
      cases found
    · rintro ⟨_, same, _⟩
      cases same

end

theorem recipe_aimedAt_aimedAt (r : Recipe) (t u : Target) :
    (r.aimedAt t).aimedAt u = r.aimedAt (t.overriddenBy u) := by
  simp [Recipe.aimedAt, step_aimedAt_aimedAt]

structure Recipe.Aims (r : Recipe) (t : Target) : Prop where
  -- nothing is changed but where the writes to boards go and what their key is
  named : (r.aimedAt t).id = r.id ∧ (r.aimedAt t).name = r.name ∧ (r.aimedAt t).version = r.version
  steps : List.Forall₂ (Step.AimedAs t) r.steps (r.aimedAt t).steps
  -- once more is nothing more, and what has been said before counts where nothing is said now
  again : (r.aimedAt t).aimedAt t = r.aimedAt t
  after : ∀ earlier : Target, (r.aimedAt earlier).aimedAt t = r.aimedAt (earlier.overriddenBy t)
  fresh : ∀ earlier : Target, t.columnMapping.isSome → t.keyColumn.isSome →
    (r.aimedAt earlier).aimedAt t = r.aimedAt t
  -- the id of the key column is the one of the mapping that the step has now
  resolved : t.Remaps → ∀ w, .writeBack w ∈ (r.aimedAt t).steps → w.strategy = .externalUpsert →
    w.keyColumnId = w.mappedKey
  -- all can be written if there is a board to write to, and a mapping of the step or of the target
  ready : (r.aimedAt t).ready = .ok () ↔ ∀ w, .writeBack w ∈ r.steps → w.strategy = .externalUpsert →
    Text.allBlank t.boardId.toList = false ∧ (w.columnMapping.isSome ∨ t.columnMapping.isSome)

theorem recipe_aims (r : Recipe) (t : Target) : r.Aims t := by
  refine ⟨⟨rfl, rfl, rfl⟩, ?_, ?_, fun earlier => recipe_aimedAt_aimedAt r earlier t, ?_, ?_, ?_⟩
  · refine List.forall₂_map_right_iff.mpr (List.forall₂_same.mpr fun step _ => step_aimedAs step t)
  · rw [recipe_aimedAt_aimedAt, overriddenBy_self]
  · intro earlier mapped keyed
    rw [recipe_aimedAt_aimedAt, overriddenBy_complete earlier mapped keyed]
  · intro remaps w member external
    obtain ⟨step, _, aimed⟩ := List.mem_map.mp member
    have as := step_aimedAs step t
    rw [aimed] at as
    cases as with
    | upsert _ as => exact as.resolved remaps
    | other other => exact absurd external (other w rfl)
  · rw [recipe_ready_iff]
    constructor
    · intro complete w member external
      by_contra lacks
      exact complete _ (List.mem_map_of_mem member) (aimed_step_lacks.mpr ⟨w, rfl, external, lacks⟩)
    · intro fine aimed member lacks
      obtain ⟨step, inside, rfl⟩ := List.mem_map.mp member
      obtain ⟨w, rfl, external, lacking⟩ := aimed_step_lacks.mp lacks
      exact lacking (fine w inside external)

end TidyRows
