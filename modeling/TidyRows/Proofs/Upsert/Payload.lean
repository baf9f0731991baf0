import TidyRows.Proofs.Dedupe.Signature
import TidyRows.Proofs.Upsert.KeySafety
import TidyRows.Proofs.Upsert.RunCourse
import TidyRows.Proofs.Upsert.Snapshot
namespace TidyRows

-- The value of a column: that of the last field mapped to it that has one.
structure Fed (mapping : Keyed String) (row : Row) (column : String) (value : Value) : Prop where
  last : ∃ before field after, mapping.entries = before ++ (field, column) :: after ∧ row.get? field = some value ∧
    ∀ later, (later, column) ∈ after → ∀ other, row.get? later = some other → other = .null
  filled : value ≠ .null

structure Payload (mapping : Keyed String) (row : Row) (columns : Columns) : Prop where
  present : ∀ column, (∃ value, columns.get? column = some value) ↔
    ∃ field value, (field, column) ∈ mapping.entries ∧ row.get? field = some value ∧ value ≠ .null
  fed : ∀ column value, columns.get? column = some value ↔ Fed mapping row column value

-- The text of a field is more than blanks.
def Shown (row : Row) (field : String) : Prop := Text.allBlank (cellText (row.get? field)).toList = false

def trimmedCell (row : Row) (field : String) : String := String.ofList (Text.trim (cellText (row.get? field)).toList)

-- The name of a new item for a row: by its name field, else by its key field, else a fixed one.
inductive Named (nameField keyField : Option String) (row : Row) : String → Prop where
  | named (chosen : nameField = some field) (shown : Shown row field) : Named nameField keyField row (trimmedCell row field)
  | keyed (unnamed : ∀ field, nameField = some field → ¬ Shown row field) (chosen : keyField = some field)
      (shown : Shown row field) : Named nameField keyField row (trimmedCell row field)
  | nameless (unnamed : ∀ field, nameField = some field → ¬ Shown row field)
      (unkeyed : ∀ field, keyField = some field → ¬ Shown row field) :
      Named nameField keyField row UpsertPlan.fallbackName

theorem lookup_filterMap (sent : α → Option (String × β)) (entries : List α) (name : String) :
    (entries.filterMap sent).lookup name =
      entries.findSome? fun entry => (sent entry).bind fun s => if name = s.1 then some s.2 else none := by
  induction entries with
  | nil => rfl
  | cons entry rest ih =>
    rw [List.findSome?_cons, ← ih]
    cases here : sent entry with
    | none => rw [List.filterMap_cons_none here]; rfl
    | some s =>
      rw [List.filterMap_cons_some here, lookup_cons_if, Option.bind_some]
      split <;> rfl

-- Of the pairs with a name the last one counts.
theorem lookup_last_sent {sent : α → Option (String × β)} {entries : List α} :
    (entries.filterMap sent).reverse.lookup name = some value ↔ ∃ before entry after,
      entries = before ++ entry :: after ∧ sent entry = some (name, value) ∧
        ∀ later ∈ after, ∀ other, sent later ≠ some (name, other) := by
  have hit (entry : α) (other : β) :
      ((sent entry).bind fun s => if name = s.1 then some s.2 else none) = some other ↔ sent entry = some (name, other) := by
    rw [Option.bind_eq_some_iff]
    constructor
    · rintro ⟨⟨first, second⟩, here, same⟩
      split at same
      · rename_i equal
        cases same
        rw [here, equal]
      · cases same
    · intro here
      exact ⟨_, here, if_pos rfl⟩
  rw [← List.filterMap_reverse, lookup_filterMap, List.findSome?_eq_some_iff]
  constructor
  · rintro ⟨after, entry, before, split, here, others⟩
    refine ⟨before.reverse, entry, after.reverse, ?_, (hit entry value).mp here, ?_⟩
    · rw [← List.reverse_reverse entries, split]
      simp
    · intro later member other same
      have none := others later (List.mem_reverse.mp member)
      rw [(hit later other).mpr same] at none
      cases none
  · rintro ⟨before, entry, after, rfl, here, others⟩
    refine ⟨after.reverse, entry, before.reverse, by simp, (hit entry value).mpr here, ?_⟩
    intro later member
    rw [Option.eq_none_iff_forall_ne_some]
    intro other same
    exact others later (List.mem_reverse.mp member) other ((hit later other).mp same)

section
variable {mapping : Keyed String} {row : Row} {column : String} {value : Value}

-- Whatever sends the mapped fields that have a value, under their columns.
theorem payload_of_sent {sent : String × String → Option (String × Value)}
    (sends : ∀ entry column value, sent entry = some (column, value) ↔
      entry.2 = column ∧ row.get? entry.1 = some value ∧ value ≠ .null) :
    Payload mapping row (.ofList (mapping.entries.filterMap sent)) := by
  have fed (column : String) (value : Value) :
      (Keyed.ofList (mapping.entries.filterMap sent)).get? column = some value ↔ Fed mapping row column value := by
    rw [Keyed.ofList, Keyed.get?_putAll, Keyed.get?_empty, Option.or_none, lookup_last_sent]
    constructor
    · rintro ⟨before, ⟨field, target⟩, after, split, here, others⟩
      obtain ⟨rfl, found, filled⟩ := (sends _ _ _).mp here
      refine ⟨⟨before, field, after, split, found, ?_⟩, filled⟩
      intro later member other there
      by_contra another
      exact others _ member other ((sends _ _ _).mpr ⟨rfl, there, another⟩)
    · rintro ⟨⟨before, field, after, split, found, others⟩, filled⟩
      refine ⟨before, _, after, split, (sends _ _ _).mpr ⟨rfl, found, filled⟩, ?_⟩
      intro later member other here
      obtain ⟨same, there, another⟩ := (sends _ _ _).mp here
      subst same
      exact another (others later.1 member other there)
  refine ⟨?_, fed⟩
  intro column
  constructor
  · rintro ⟨value, there⟩
    obtain ⟨⟨before, field, after, split, found, _⟩, filled⟩ := (fed column value).mp there
    exact ⟨field, value, by simp [split], found, filled⟩
  · rintro ⟨field, value, member, found, filled⟩
    have goes : (column, value) ∈ mapping.entries.filterMap sent :=
      List.mem_filterMap.mpr ⟨_, member, (sends _ _ _).mpr ⟨rfl, found, filled⟩⟩
    have name : column ∈ (Keyed.ofList (mapping.entries.filterMap sent)).names :=
      Keyed.mem_names_putAll (.inr ⟨(column, value), goes, rfl⟩)
    exact Option.ne_none_iff_exists'.mp fun none => Keyed.get?_eq_none_iff.mp none name

theorem shown_iff {field : String} : Shown row field ↔ isBlankCell (row.get? field) = false := by
  have blank : isBlankCell (row.get? field) = true ↔ Text.allBlank (cellText (row.get? field)).toList = true := by
    rw [← keyText_eq_nil_iff, keyText, Unicode.lower_eq_nil_iff, Text.trim_eq_nil_iff]
  rw [Shown, ← Bool.not_eq_true, ← Bool.not_eq_true, blank]

theorem nameIn_eq_some_iff {field name : String} :
    UpsertPlan.nameIn row field = some name ↔ Shown row field ∧ name = trimmedCell row field := by
  rw [UpsertPlan.nameIn, shown_iff]
  split
  · rename_i blank
    simp [blank]
  · rename_i shown
    simp [shown, trimmedCell, eq_comm]

theorem nameIn_eq_none_iff {field : String} : UpsertPlan.nameIn row field = none ↔ ¬ Shown row field := by
  rw [UpsertPlan.nameIn, shown_iff]
  split <;> simp_all

end

namespace UpsertPlan
variable {p : UpsertPlan} {row : Row} {column : String} {value : Value}

theorem columns_payload (p : UpsertPlan) (row : Row) : Payload p.mapping row (p.columns row) := by
  apply payload_of_sent
  intro entry column value
  dsimp only
  cases row.get? entry.1 with
  | none => simp
  | some held => cases held <;> simp +contextual [and_comm, eq_comm]

theorem itemName_named (p : UpsertPlan) (row : Row) : Named p.itemNameField (p.key.map (·.1)) row (p.itemName row) := by
  unfold itemName
  cases first : p.itemNameField.bind (nameIn row) with
  | some name =>
    obtain ⟨field, chosen, here⟩ := Option.bind_eq_some_iff.mp first
    obtain ⟨shown, rfl⟩ := nameIn_eq_some_iff.mp here
    exact .named chosen shown
  | none =>
    have unnamed : ∀ field, p.itemNameField = some field → ¬ Shown row field := by
      intro field chosen
      rw [chosen, Option.bind_some] at first
      exact nameIn_eq_none_iff.mp first
    cases second : (p.key.map (·.1)).bind (nameIn row) with
    | some name =>
      obtain ⟨field, chosen, here⟩ := Option.bind_eq_some_iff.mp second
      obtain ⟨shown, rfl⟩ := nameIn_eq_some_iff.mp here
      exact .keyed unnamed chosen shown
    | none =>
      refine .nameless unnamed ?_
      intro field chosen
      rw [chosen, Option.bind_some] at second
      exact nameIn_eq_none_iff.mp second

end UpsertPlan

-- Of a name nothing is cut off, and something of it can be seen.
theorem Named.visible {nameField keyField : Option String} {row : Row} {name : String}
    (named : Named nameField keyField row name) : name ≠ "" ∧ Text.trim name.toList = name.toList := by
  have cell {field : String} (shown : Shown row field) : trimmedCell row field ≠ "" ∧
      Text.trim (trimmedCell row field).toList = (trimmedCell row field).toList := by
    unfold trimmedCell
    rw [String.toList_ofList, Text.trim_trim]
    refine ⟨?_, rfl⟩
    intro empty
    have none : Text.trim (cellText (row.get? field)).toList = [] := by
      rw [← String.toList_ofList (l := Text.trim _), empty]
      rfl
    rw [Shown, Text.trim_eq_nil_iff.mp none] at shown
    cases shown
  cases named with
  | named _ shown => exact cell shown
  | keyed _ _ shown => exact cell shown
  | nameless => decide

-- What the calls of a log carry for the rows that they are made for, first attempts, later ones and answers alike.
structure Payloads (mapping : Keyed String) (nameField keyField : Option String) (rows : List Row) (log : List Deed) :
    Prop where
  columns : ∀ d ∈ log, ∃ data, rows[d.row]? = some data ∧ Payload mapping data d.write.columns
  same : ∀ d ∈ log, ∀ e ∈ log, d.row = e.row → d.write.columns = e.write.columns
  names : ∀ d ∈ log, ∀ name columns, d.write = .create name columns → name ≠ "" ∧ Text.trim name.toList = name.toList ∧
    ∃ data, rows[d.row]? = some data ∧ Named nameField keyField data name

section
variable {p : UpsertPlan} {rows : List Row} {index : KeyIndex} {log : List Deed}

theorem Lawful.payloads (lawful : Lawful p rows index log) :
    Payloads p.mapping p.itemNameField (p.key.map (·.1)) rows log := by
  have writes : ∀ d ∈ log, ∃ data known, rows[d.row]? = some data ∧ d.write = p.writeOf data known := by
    intro d member
    obtain ⟨before, after, split⟩ := List.append_of_mem member
    obtain ⟨data, found, agrees⟩ := lawful.at split
    exact ⟨data, _, found, agrees⟩
  have columns (data : Row) (known : Option String) : (p.writeOf data known).columns = p.columns data := by
    cases known <;> rfl
  refine ⟨?_, ?_, ?_⟩
  · intro d member
    obtain ⟨data, known, found, agrees⟩ := writes d member
    rw [agrees, columns]
    exact ⟨data, found, p.columns_payload data⟩
  · intro d first e second same
    obtain ⟨data, known, found, agrees⟩ := writes d first
    obtain ⟨other, known', found', agrees'⟩ := writes e second
    rw [same, found'] at found
    cases found
    rw [agrees, agrees', columns, columns]
  · intro d member name columns creates
    obtain ⟨data, known, found, agrees⟩ := writes d member
    rw [creates] at agrees
    cases known with
    | some id => cases agrees
    | none =>
      cases agrees
      have named := p.itemName_named data
      exact ⟨named.visible.1, named.visible.2, data, found, named⟩

end

-- The field of a key column that has a name.
def WriteBack.keyField (w : WriteBack) : Option String := w.keyColumn.filter fun field => !Text.allBlank field.toList

theorem ofTarget_fields {target : WriteBack} {p : UpsertPlan} (planned : UpsertPlan.ofTarget target = .ok p) :
    target.columnMapping = some p.mapping ∧ target.itemNameField = p.itemNameField ∧
      target.keyField = p.key.map (·.1) := by
  have planning := UpsertPlan.ofTarget_planning target
  rw [planned] at planning
  cases planning with
  | planned ready board mapped known =>
    refine ⟨mapped, rfl, ?_⟩
    rw [UpsertPlan.keyOf, ← WriteBack.keyField] at known
    split at known
    · rename_i unnamed
      cases known
      exact unnamed
    · rename_i field named
      split at known
      · cases known
        exact named
      · cases known

-- Whatever is answered and in whatever order; and so in every run that gives a result, by what its board was called with.
theorem run_payloads {target : WriteBack} {p : UpsertPlan} (planned : UpsertPlan.ofTarget target = .ok p)
    (settings : UpsertSettings) (rows : List Row) : ∃ mapping, target.columnMapping = some mapping ∧
    (∀ policy room index log c, Course.Reached p policy room (.start settings rows index) log c →
      Payloads mapping target.itemNameField target.keyField rows log) ∧
    ∀ {σ : Type} (board : Board σ) (stopsAt : StopTime σ) (now : Nat) (state : σ) (r : UpsertResult),
      stopsAt.Lasting board → (Upsert.run board stopsAt settings target rows now state).result = .ok r →
      ∃ index told k due s,
        Upsert.Chronicled board p settings.retryPolicy (max settings.concurrency 1) settings.batchDelay.millisUp
          (.start settings rows index (now + (Upsert.snapshot board settings.itemLimit p now state).duration))
          (Upsert.snapshot board settings.itemLimit p now state).after s told k due ∧
        s.state = (Upsert.run board stopsAt settings target rows now state).state ∧ r.results = k.course.outcomes ∧
        Payloads mapping target.itemNameField target.keyField rows (told.deeds.map (·.2)) := by
  obtain ⟨mapped, named, keyed⟩ := ofTarget_fields planned
  have courses : ∀ policy room index log c, Course.Reached p policy room (.start settings rows index) log c →
      Payloads p.mapping target.itemNameField target.keyField rows log := by
    intro policy room index log c reached
    rw [named, keyed]
    exact (reached_truthful reached (Course.start_valid settings rows index)
      (start_truthful p settings rows index)).2.lawful.payloads
  refine ⟨p.mapping, mapped, courses, ?_⟩
  intro σ board stopsAt now state r lasting ran
  obtain ⟨p', index, told, k, due, s, planned', _, arrived, chronicled, _, after⟩ := Upsert.run_chronicled lasting ran
  cases planned.symm.trans planned'
  exact ⟨index, told, k, due, s, chronicled, after, arrived.results, courses _ _ _ _ _ arrived.reached⟩

-- Two fields for one column, and a board that is busy when it is called for the first time.
namespace SharedColumn

def board : Board (List Write) where
  fetch _ _ _ _ writes := ⟨.ok [⟨"7", "bob"⟩], 0, 0, writes⟩
  write _ _ write writes := ⟨if writes.isEmpty then .error (.status 503 "busy") else .ok "8", 0, 0, writes ++ [write]⟩

def rows : List Row :=
  [.ofList [("email", .text " ann "), ("home", .text "1"), ("work", .null), ("age", .text "9")],
    .ofList [("email", .text "Bob"), ("home", .text "2"), ("work", .text "3")]]

def mapping : Keyed String := .ofList [("email", "mail"), ("home", "phone"), ("work", "phone")]

def target : WriteBack := ⟨.externalUpsert, some "contacts", some "email", none, some mapping, some "title"⟩

def plan : UpsertPlan := ⟨"contacts", mapping, some ("email", "mail"), some "title"⟩

def settings : UpsertSettings := { UpsertSettings.standard with concurrency := 1, jitter := false }

def sentTexts (w : Write) : List (String × String) := w.columns.entries.map fun (column, value) => (column, value.cellText)

theorem shared_column_payloads : UpsertPlan.ofTarget target = .ok plan ∧
    (Upsert.run board unstopped settings target rows 0 []).state.map sentTexts =
      [[("mail", " ann "), ("phone", "1")], [("mail", " ann "), ("phone", "1")], [("mail", "Bob"), ("phone", "3")]] ∧
    ∃ (r : UpsertResult) (told : Chronicle) (k : TimedCourse),
      (Upsert.run board unstopped settings target rows 0 []).result = .ok r ∧
      r.results.map (fun o => (o.action, o.attempts.toNat)) = [(.create, 2), (.update, 1)] ∧
      r.results = k.course.outcomes ∧ Payloads mapping (some "title") (some "email") rows (told.deeds.map (·.2)) := by
  have planned : UpsertPlan.ofTarget target = .ok plan := rfl
  have texts : (Upsert.run board unstopped settings target rows 0 []).state.map sentTexts =
      [[("mail", " ann "), ("phone", "1")], [("mail", " ann "), ("phone", "1")], [("mail", "Bob"), ("phone", "3")]] := by
    decide +kernel
  have counts : (Upsert.run board unstopped settings target rows 0 []).result.toOption.map
      (fun r => r.results.map fun o => (o.action, o.attempts.toNat)) = some [(.create, 2), (.update, 1)] := by
    decide +kernel
  refine ⟨planned, texts, ?_⟩
  cases ran : (Upsert.run board unstopped settings target rows 0 []).result with
  | error fault => rw [ran] at counts; cases counts
  | ok r =>
    rw [ran] at counts
    have lasting : StopTime.Lasting board unstopped := fun _ _ _ _ stops => stops
    obtain ⟨_, mapped, _, runs⟩ := run_payloads planned settings rows
    cases mapped
    obtain ⟨_, told, k, _, _, _, _, results, payloads⟩ := runs board unstopped 0 [] r lasting ran
    exact ⟨r, told, k, rfl, Option.some.inj counts, results, payloads⟩

end SharedColumn
end TidyRows
