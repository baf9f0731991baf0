import TidyRows.Proofs.Value.Structures
import TidyRows.Recipe.Encode
namespace TidyRows
open Value

theorem StepKind.ofName?_name (k : StepKind) : ofName? k.name = some k := by cases k <;> rfl

theorem RuleKind.ofName?_name (k : RuleKind) : ofName? k.name = some k := by cases k <;> rfl

theorem TransformKind.ofName?_name (k : TransformKind) : ofName? k.name = some k := by cases k <;> rfl

theorem Similarity.ofName?_name (a : Similarity) : ofName? a.name = some a := by cases a <;> rfl

theorem WriteStrategy.ofName?_name (s : WriteStrategy) : ofName? s.name = some s := by cases s <;> rfl

namespace Value

theorem asText_text (s : String) : asText (.text s) = some s := rfl

theorem asKeyed_mapping (m : Keyed String) : asKeyed asText (mappingValue m) = some m := by
  unfold asKeyed mappingValue
  rw [asEntries_map asText_text, Option.map_some, Keyed.ofList_entries]

theorem asList_ofStrings (ss : List String) : asList asText (.ofStrings ss) = some ss := asList_map asText_text ss

theorem optional_text (s : Option String) : optional asText (s.map .text) = some s :=
  optional_map asText_text (fun _ => Value.noConfusion) s

theorem asBool_bool (b : Bool) : asBool (.bool b) = some b := rfl

theorem optional_bool (b : Option Bool) : optional asBool (b.map .bool) = some b :=
  optional_map asBool_bool (fun _ => Value.noConfusion) b

theorem asWord_ne_null {w : UInt32} : ofNat w.toNat ≠ .null := by
  obtain ⟨_, _, whole⟩ := ofNat_word w
  rw [whole]
  exact Value.noConfusion

theorem optional_word (w : Option UInt32) : optional asWord (w.map fun n => .ofNat n.toNat) = some w :=
  optional_map asWord_ofNat (fun _ => asWord_ne_null) w

theorem asNumber_real (x : Finite) : asNumber (.real x) = some x := rfl

theorem optional_number (x : Option Finite) : optional asNumber (x.map .real) = some x :=
  optional_map asNumber_real (fun _ => Value.noConfusion) x

theorem optional_mapping (m : Option (Keyed String)) : optional (asKeyed asText) (m.map mappingValue) = some m :=
  optional_map asKeyed_mapping (fun _ => Value.noConfusion) m

end Value

namespace Value

theorem shown_text (s : Option String) : Shown levels (s.map .text) := shown_map (fun _ => .text) s

theorem shown_bool (b : Option Bool) : Shown levels (b.map .bool) := shown_map (fun _ => .bool) b

theorem mapping_readable (m : Keyed String) : Readable (levels + 1) (mappingValue m) := by
  refine .record (by rw [List.map_map]; exact m.distinct) fun f member => ?_
  obtain ⟨⟨name, s⟩, _, rfl⟩ := List.mem_map.mp member
  exact .text

theorem strings_readable (ss : List String) : Readable (levels + 1) (.ofStrings ss) := list_readable (fun _ => .text) ss

theorem word_readable (w : UInt32) : Readable levels (.ofNat w.toNat) := by
  obtain ⟨n, _, whole⟩ := ofNat_word w
  exact whole ▸ .whole

end Value

theorem asChoiceOf_text (loose : Loose) (ofName? : String → Option α) (s : String) :
    asChoiceOf loose ofName? (.text s) = ofName? s := rfl

theorem TransformOptions.ofValue?_toValue (o : TransformOptions) : ofValue? o.toValue = some o := by
  have fields : o.toValue.fields? fieldNames = some _ := fields?_ofPresent (by simp)
  unfold ofValue?
  rw [fields]
  simp only [List.map_cons, List.map_nil, optional_text, optional_word, Option.bind_eq_bind, Option.bind_some]

theorem ColumnMapping.ofValue?_toValue (c : ColumnMapping) : ofValue? c.toValue = some c := by
  have fields : c.toValue.fields? ["mapping", "dropUnknown"] = some _ := fields?_ofPresent (by simp)
  unfold ofValue?
  rw [fields]
  simp only [List.map_cons, List.map_nil, required, asKeyed_mapping, optional_bool, Option.bind_eq_bind, Option.bind_some]

theorem FieldTransform.ofValue?_toValue (loose : Loose) (t : FieldTransform) : ofValue? loose t.toValue = some t := by
  have fields : t.toValue.fields? ["field", "kind", "options"] = some _ := fields?_ofPresent (by simp)
  have options : optional TransformOptions.ofValue? (t.options.map (·.toValue)) = some t.options :=
    optional_map TransformOptions.ofValue?_toValue (fun _ => Value.noConfusion) _
  unfold ofValue?
  rw [fields]
  simp only [List.map_cons, List.map_nil, required, asText_text, asChoiceOf_text, TransformKind.ofName?_name, options,
    Option.bind_eq_bind, Option.bind_some]

theorem FuzzyMatching.ofValue?_toValue (loose : Loose) (f : FuzzyMatching) : ofValue? loose f.toValue = some f := by
  have fields : f.toValue.fields? ["enabled", "threshold", "algorithm"] = some _ := fields?_ofPresent (by simp)
  have algorithm : optional (asChoiceOf loose Similarity.ofName?) (f.algorithm.map fun a => .text a.name) = some f.algorithm :=
    optional_map Similarity.ofName?_name (fun _ => Value.noConfusion) _
  unfold ofValue?
  rw [fields]
  simp only [List.map_cons, List.map_nil, required, asBool_bool, optional_number, algorithm, Option.bind_eq_bind,
    Option.bind_some]

theorem Dedupe.ofValue?_toValue (loose : Loose) (d : Dedupe) : ofValue? loose d.toValue = some d := by
  have fields : d.toValue.fields? ["keys", "fuzzy"] = some _ := fields?_ofPresent (by simp)
  have fuzzy : optional (FuzzyMatching.ofValue? loose) (d.fuzzy.map (·.toValue)) = some d.fuzzy :=
    optional_map (FuzzyMatching.ofValue?_toValue loose) (fun _ => Value.noConfusion) _
  unfold ofValue?
  rw [fields]
  simp only [List.map_cons, List.map_nil, required, asList_ofStrings, fuzzy, Option.bind_eq_bind, Option.bind_some]

theorem WriteBack.ofValue?_toValue (loose : Loose) (w : WriteBack) : ofValue? loose w.toValue = some w := by
  have fields : w.toValue.fields? ["strategy", "boardId", "keyColumn", "keyColumnId", "columnMapping", "itemNameField"] =
      some _ := fields?_ofPresent (by simp)
  unfold ofValue?
  rw [fields]
  simp only [List.map_cons, List.map_nil, required, asChoiceOf_text, WriteStrategy.ofName?_name, optional_text,
    optional_mapping, Option.bind_eq_bind, Option.bind_some]

namespace Rule

theorem names_distinct (r : Rule) : (r.fields.map Prod.fst).Nodup ∧ "type" ∉ r.fields.map Prod.fst := by
  cases r <;> simp [fields]

theorem ofKind?_fields (r : Rule) : ofKind? (ofPresent r.fields) r.kind = some r := by
  have read := fields?_ofPresent (names_distinct r).1
  cases r <;>
  · simp only [fields, List.map_cons, List.map_nil] at read
    simp only [ofKind?, kind, fields, read, Value.required, asText_text, asList_ofStrings, optional_text, optional_bool,
      Option.bind_eq_bind, Option.bind_some]

theorem ofValue?_toValue (loose : Loose) (r : Rule) : ofValue? loose r.toValue = some r := by
  have others : (present r.fields).filter (fun f => f.1 != "type") = present r.fields := by
    refine List.filter_eq_self.mpr fun f member => bne_iff_ne.mpr ?_
    rintro same
    exact (names_distinct r).2 (List.mem_map.mpr ⟨_, mem_present.mp member, same⟩)
  have kind : RuleKind.ofValue? loose (.text r.kind.name) = some r.kind := RuleKind.ofName?_name _
  show (do
    let kind ← RuleKind.ofValue? loose (.text r.kind.name)
    ofKind? (.record ((("type", Value.text r.kind.name) :: present r.fields).filter fun f => f.1 != "type")) kind) = _
  rw [kind, List.filter_cons_of_neg (by simp), others]
  exact ofKind?_fields r

end Rule

namespace Step

theorem ofValue?_toValue (s : Step) : ofValue? s.toValue = some s := by
  have kind : (Value.text s.kind.name).asChoice StepKind.ofName? = some s.kind := StepKind.ofName?_name _
  show (do
    let kind ← (Value.text s.kind.name).asChoice StepKind.ofName?
    ofKind? false s.configValue kind) = _
  rw [kind]
  show ofKind? false s.configValue s.kind = _
  cases s with
  | mapColumns config => exact congrArg (Option.map mapColumns) config.ofValue?_toValue
  | format transforms => exact congrArg (Option.map format) (asList_map (FieldTransform.ofValue?_toValue false) transforms)
  | validate rules => exact congrArg (Option.map validate) (asList_map (Rule.ofValue?_toValue false) rules)
  | dedupe config => exact congrArg (Option.map dedupe) (config.ofValue?_toValue false)
  | writeBack config => exact congrArg (Option.map writeBack) (config.ofValue?_toValue false)

end Step

namespace Recipe

theorem unsupported_toValue (s : Step) : unsupported s.toValue = none := by
  have kind : ((fieldOf "type" s.toValue).bind asText).getD "" = s.kind.name := rfl
  unfold unsupported
  rw [kind]
  dsimp only
  rw [StepKind.ofName?_name]
  cases s with
  | writeBack config =>
    have strategy : ((fieldOf "config" (Step.writeBack config).toValue).bind (fieldOf "strategy")).bind asText =
        some config.strategy.name := rfl
    dsimp only [Step.kind]
    rw [strategy]
    simp only [WriteStrategy.ofName?_name]
    rfl
  | _ => rfl

section
variable (id name : String) (version : Value) (steps : List Step)

theorem stepValues_record :
    stepValues (.record [("id", .text id), ("name", .text name), ("version", version),
      ("steps", .list (steps.map (·.toValue)))]) = steps.map (·.toValue) := rfl

theorem fromFields?_record {word : UInt32} (read : asWord version = some word) :
    fromFields? (.record [("id", .text id), ("name", .text name), ("version", version),
      ("steps", .list (steps.map (·.toValue)))]) = some ⟨id, name, word, steps⟩ := by
  have list := asList_map Step.ofValue?_toValue steps
  have fields : (Value.record [("id", .text id), ("name", .text name), ("version", version),
      ("steps", .list (steps.map (·.toValue)))]).fields? ["id", "name", "version", "steps"] =
      some [some (.text id), some (.text name), some version, some (.list (steps.map (·.toValue)))] := rfl
  unfold fromFields?
  rw [fields]
  simp only [required, asText_text, read, list, Option.bind_eq_bind, Option.bind_some]

end

theorem fromFields?_toValue (r : Recipe) : fromFields? r.toValue = some r :=
  fromFields?_record r.id r.name _ r.steps (asWord_ofNat r.version)

theorem ofValue_toValue (r : Recipe) : ofValue r.toValue = .ok r := by
  have supported : (stepValues r.toValue).findSome? unsupported = none := by
    unfold toValue
    rw [stepValues_record, List.findSome?_eq_none_iff]
    intro v member
    obtain ⟨s, _, rfl⟩ := List.mem_map.mp member
    exact unsupported_toValue s
  unfold ofValue
  rw [supported, fromFields?_toValue]

end Recipe

-- Nothing that is written of a recipe nests deeper than seven levels.

theorem TransformOptions.readable (o : TransformOptions) : Readable (levels + 1) o.toValue := by
  refine ofPresent_readable (by simp) ?_
  simp only [List.forall_mem_cons]
  exact ⟨shown_text _, shown_text _, shown_text _, shown_text _, shown_text _, shown_map word_readable _, shown_text _,
    shown_text _, shown_text _, shown_text _, shown_text _, nofun⟩

theorem FieldTransform.readable (t : FieldTransform) : Readable (levels + 2) t.toValue := by
  refine ofPresent_readable (by simp) ?_
  simp only [List.forall_mem_cons]
  exact ⟨shown_some .text, shown_some .text, shown_map TransformOptions.readable _, nofun⟩

theorem ColumnMapping.readable (c : ColumnMapping) : Readable (levels + 2) c.toValue := by
  refine ofPresent_readable (by simp) ?_
  simp only [List.forall_mem_cons]
  exact ⟨shown_some (mapping_readable _), shown_bool _, nofun⟩

theorem Rule.readable (r : Rule) : Readable (levels + 2) r.toValue := by
  refine ofPresent_readable (List.nodup_cons.mpr (names_distinct r).symm) ?_
  cases r <;> simp only [fields, List.forall_mem_cons]
  · exact ⟨shown_some .text, shown_some .text, shown_text _, nofun⟩
  · exact ⟨shown_some .text, shown_some .text, shown_some .text, shown_text _, nofun⟩
  · exact ⟨shown_some .text, shown_some .text, shown_some (strings_readable _), shown_bool _, shown_text _, nofun⟩
  · exact ⟨shown_some .text, shown_some (strings_readable _), shown_text _, nofun⟩

theorem FuzzyMatching.readable (f : FuzzyMatching) : Readable (levels + 1) f.toValue := by
  refine ofPresent_readable (by simp) ?_
  simp only [List.forall_mem_cons]
  exact ⟨shown_some .bool, shown_map (fun _ => .real) _, shown_map (fun _ => .text) _, nofun⟩

theorem Dedupe.readable (d : Dedupe) : Readable (levels + 2) d.toValue := by
  refine ofPresent_readable (by simp) ?_
  simp only [List.forall_mem_cons]
  exact ⟨shown_some (strings_readable _), shown_map FuzzyMatching.readable _, nofun⟩

theorem WriteBack.readable (w : WriteBack) : Readable (levels + 2) w.toValue := by
  refine ofPresent_readable (by simp) ?_
  simp only [List.forall_mem_cons]
  exact ⟨shown_some .text, shown_text _, shown_text _, shown_text _, shown_map mapping_readable _, shown_text _, nofun⟩

-- A configuration whose only field is a list.
theorem list_config_readable {encode : α → Value} (name : String) (each : ∀ a, Readable levels (encode a)) (items : List α) :
    Readable (levels + 2) (.record [(name, .list (items.map encode))]) := by
  refine .record (List.nodup_singleton _) ?_
  rw [List.forall_mem_singleton]
  exact list_readable each items

theorem Step.config_readable (s : Step) : Readable (levels + 4) s.configValue := by
  cases s with
  | mapColumns config => exact config.readable
  | format transforms => exact list_config_readable _ FieldTransform.readable transforms
  | validate rules => exact list_config_readable _ Rule.readable rules
  | dedupe config => exact config.readable
  | writeBack config => exact config.readable

theorem Step.readable (s : Step) : Readable (levels + 5) s.toValue := by
  refine .record (by simp) ?_
  simp only [List.forall_mem_cons]
  exact ⟨.text, s.config_readable, nofun⟩

namespace Recipe

theorem readable (r : Recipe) : Readable (levels + 7) r.toValue := by
  refine .record (by simp) ?_
  simp only [List.forall_mem_cons]
  exact ⟨.text, .text, word_readable _, list_readable Step.readable _, nofun⟩

theorem ofText_of_read {text : String} {v : Value} (read : Value.ofText? text = some v) : ofText text = ofValue v := by
  unfold ofText
  rw [read]

theorem ofText_toText (r : Recipe) : ofText r.toText = .ok r :=
  (ofText_of_read (Value.ofText?_written r.readable)).trans r.ofValue_toValue

-- Whatever is written of recipes is read back, so a text that is read has a written form of its own that stays.
theorem text_round_trip :
    (∀ r : Recipe, ofText r.toText = .ok r) ∧
    ∀ text r, ofText text = .ok r → ofText r.toText = .ok r ∧ (ofText r.toText).map toText = .ok r.toText := by
  refine ⟨ofText_toText, ?_⟩
  intro _ r _
  rw [ofText_toText]
  exact ⟨rfl, rfl⟩

end Recipe

namespace LooselyWritten

def stepValue : Value :=
  .record [("type", .text "dedupe"), ("config", .record
    [("fuzzy", .record [("algorithm", .null), ("threshold", .real .one), ("enabled", .bool true)]),
      ("keys", .list [.text "e \"mail\""])])]

-- The fields in another order, one that is not known, and an option that is null.
def value : Value :=
  .record [("steps", .list [stepValue]), ("note", .list [.null]), ("version", .ofNat (2 : UInt32).toNat),
    ("name", .text "\n"), ("id", .text "r")]

def step : Step := .dedupe ⟨["e \"mail\""], some ⟨true, some .one, none⟩⟩

def recipe : Recipe := ⟨"r", "\n", 2, [step]⟩

theorem value_readable : value.Readable (levels + 5) := by
  refine .record (by simp) ?_
  simp only [List.forall_mem_cons]
  refine ⟨.list ?_, .list ?_, word_readable _, .text, .text, nofun⟩
  · rw [List.forall_mem_singleton]
    refine .record (by simp) ?_
    simp only [List.forall_mem_cons]
    refine ⟨.text, .record (by simp) ?_, nofun⟩
    simp only [List.forall_mem_cons]
    refine ⟨.record (by simp) ?_, strings_readable ["e \"mail\""], nofun⟩
    simp only [List.forall_mem_cons]
    exact ⟨.null, .real, .bool, nofun⟩
  · rw [List.forall_mem_singleton]
    exact .null

theorem decoded : Recipe.fromFields? value = some recipe := by
  have fields : value.fields? ["id", "name", "version", "steps"] =
      some [some (.text "r"), some (.text "\n"), some (.ofNat (2 : UInt32).toNat), some (.list [stepValue])] := rfl
  have steps : asList Step.ofValue? (.list [stepValue]) = some [step] := rfl
  unfold Recipe.fromFields?
  rw [fields]
  simp only [required, asText_text, asWord_ofNat, steps, Option.bind_eq_bind, Option.bind_some]
  rfl

theorem read : Recipe.ofText value.written = .ok recipe := by
  have supported : (Recipe.stepValues value).findSome? Recipe.unsupported = none := rfl
  rw [Recipe.ofText_of_read (Value.ofText?_written value_readable)]
  unfold Recipe.ofValue
  rw [supported, decoded]

theorem loosely_written_round_trip :
    Recipe.ofText value.written = .ok recipe ∧ Recipe.ofText recipe.toText = .ok recipe ∧
      (Recipe.ofText recipe.toText).map Recipe.toText = .ok recipe.toText :=
  ⟨read, Recipe.text_round_trip.2 _ _ read⟩

end LooselyWritten

end TidyRows
