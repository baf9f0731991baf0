import Mathlib.Data.List.Forall2
import TidyRows.Proofs.Upsert.IdealBoard
import TidyRows.Proofs.Upsert.KeySafety
import TidyRows.Settings.Basic
namespace TidyRows

theorem find?_congr {items : List α} {holds other : α → Bool} (same : ∀ x ∈ items, holds x = other x) :
    items.find? holds = items.find? other := by
  induction items with
  | nil => rfl
  | cons head rest ih =>
    have later := ih fun x member => same x (List.mem_cons_of_mem _ member)
    rw [List.find?_cons, List.find?_cons, same head (by simp), later]

theorem forall₂_getElem? {R : α → β → Prop} {i : Nat} (all : List.Forall₂ R as bs) (found : as[i]? = some a) :
    ∃ b, bs[i]? = some b ∧ R a b := by
  induction all generalizing i with
  | nil => cases found
  | @cons _ b _ _ head _ ih =>
    cases i with
    | zero => cases found; exact ⟨b, rfl, head⟩
    | succ i => exact ih found

def SheetItem.key (column : String) (item : SheetItem) : Option String :=
  normalizeKey (cellText (item.columns.get? column)).toList

namespace Sheet
variable {column key id : String} {columns : Columns}

def firstWith (s : Sheet) (column key : String) : Option String :=
  (s.items.find? fun item => item.key column == some key).map (·.id)

theorem firstWith_mem {s : Sheet} (found : s.firstWith column key = some id) :
    ∃ item ∈ s.items, item.key column = some key ∧ item.id = id := by
  obtain ⟨item, hit, same⟩ := Option.map_eq_some_iff.mp found
  exact ⟨item, List.mem_of_find?_eq_some hit, by simpa using List.find?_some hit, same⟩

theorem firstWith_ids {s : Sheet} (found : s.firstWith column key = some id) : id ∈ s.ids := by
  obtain ⟨item, member, _, rfl⟩ := firstWith_mem found
  exact List.mem_map_of_mem member

theorem same_item {s : Sheet} {a b : SheetItem} (first : a ∈ s.items) (second : b ∈ s.items) (same : a.id = b.id) :
    a = b := List.inj_on_of_nodup_map s.distinct first second same

theorem firstWith_add (s : Sheet) (id : String) (columns : Columns) (new : id ∉ s.ids) (column key : String) :
    (s.add id columns new).firstWith column key = (s.firstWith column key).or
      (if SheetItem.key column ⟨id, columns⟩ = some key then some id else none) := by
  rw [firstWith, firstWith, add_items, List.find?_append]
  cases s.items.find? fun item => item.key column == some key with
  | some item => rfl
  | none => by_cases shows : SheetItem.key column ⟨id, columns⟩ = some key <;> simp [shows]

theorem firstWith_overwrite {s : Sheet}
    (kept : ∀ item ∈ s.items, (overwritten id columns item).key column = item.key column) (key : String) :
    (s.overwrite id columns).firstWith column key = s.firstWith column key := by
  rw [firstWith, firstWith, overwrite_items, List.find?_map, Option.map_map]
  have ids : (·.id) ∘ overwritten id columns = (·.id) := funext (overwritten_id id columns)
  rw [ids]
  congr 1
  exact find?_congr fun item member => by rw [Function.comp_apply, kept item member]

end Sheet

structure UpsertPlan.SendsKey (p : UpsertPlan) (field column : String) : Prop where
  key : p.key = some (field, column)
  mapped : p.mapping.get? field = some column
  alone : ∀ other, p.mapping.get? other = some column → other = field

section
variable {p : UpsertPlan} {field column id : String}

-- What a row sends to the column of the key is the value of its key field.
theorem sent_key (sends : p.SendsKey field column) (row : Row) : ∃ entries, p.columns row = .ofList entries ∧
    ∀ value, (column, value) ∈ entries ↔ row.get? field = some value ∧ value ≠ .null := by
  refine ⟨_, rfl, fun value => ?_⟩
  rw [List.mem_filterMap]
  constructor
  · rintro ⟨⟨name, target⟩, member, made⟩
    dsimp only at made
    split at made
    · cases made
    · cases made
    · rename_i _ real found
      cases made
      have same := sends.alone name (Keyed.get?_eq_some_iff.mpr member)
      exact ⟨same ▸ found, real⟩
  · rintro ⟨found, real⟩
    refine ⟨(field, column), Keyed.get?_eq_some_iff.mp sends.mapped, ?_⟩
    cases value with
    | null => exact absurd rfl real
    | _ => simp only [found]

theorem columns_get? (sends : p.SendsKey field column) {row : Row} {value : Value} :
    (p.columns row).get? column = some value ↔ row.get? field = some value ∧ value ≠ .null := by
  obtain ⟨entries, columns, sent⟩ := sent_key sends row
  rw [columns, Keyed.ofList, Keyed.get?_putAll, Keyed.get?_empty, Option.or_none]
  constructor
  · exact fun found => (sent value).mp (List.mem_reverse.mp (mem_of_lookup found))
  · intro given
    refine lookup_of_only (List.mem_reverse.mpr ((sent value).mpr given)) fun other member => ?_
    have equal := ((sent other).mp (List.mem_reverse.mp member)).1
    rw [given.1] at equal
    exact (Option.some.inj equal).symm

theorem columns_text (sends : p.SendsKey field column) (row : Row) :
    cellText ((p.columns row).get? column) = cellText (row.get? field) := by
  cases sent : (p.columns row).get? column with
  | some value => rw [((columns_get? sends).mp sent).1]
  | none =>
    cases found : row.get? field with
    | none => rfl
    | some value =>
      have null : value = .null := by
        by_contra real
        rw [(columns_get? sends).mpr ⟨found, real⟩] at sent
        cases sent
      rw [null]; rfl

theorem keyOfRow_eq (sends : p.SendsKey field column) (row : Row) :
    p.keyOfRow row = normalizeKey (cellText (row.get? field)).toList := by
  rw [UpsertPlan.keyOfRow, sends.key]; rfl

theorem created_key (sends : p.SendsKey field column) (row : Row) (id : String) :
    SheetItem.key column ⟨id, p.columns row⟩ = p.keyOfRow row := by
  rw [keyOfRow_eq sends, SheetItem.key, columns_text sends]

theorem updated_key (sends : p.SendsKey field column) (keyed : p.keyOfRow row = some key) (item : SheetItem) :
    (Sheet.overwritten item.id (p.columns row) item).key column = some key := by
  rw [Sheet.overwritten, if_pos rfl, SheetItem.key, Keyed.get?_putAll, Keyed.lookup_reverse]
  cases sent : (p.columns row).get? column with
  | some value =>
    have text := columns_text sends row
    rw [sent] at text
    rw [Option.some_or, text, ← keyOfRow_eq sends, keyed]
  | none =>
    have text := columns_text sends row
    rw [sent] at text
    rw [keyOfRow_eq sends, ← text] at keyed
    have blank : normalizeKey (cellText none).toList = none := by decide
    rw [blank] at keyed
    cases keyed

def sentTo (p : UpsertPlan) (index : KeyIndex) (taken : List (Nat × Row)) (id : String) : List (String × Value) :=
  taken.flatMap fun next =>
    if (p.keyOfRow next.2).bind index.get? = some id then (p.columns next.2).entries else []

theorem sentTo_snoc (p : UpsertPlan) (index : KeyIndex) (taken : List (Nat × Row)) (i : Nat) (row : Row) (id : String) :
    sentTo p index (taken ++ [(i, row)]) id = sentTo p index taken id ++
      if (p.keyOfRow row).bind index.get? = some id then (p.columns row).entries else [] := by
  simp [sentTo]

theorem sentTo_congr {index later : KeyIndex} {taken : List (Nat × Row)}
    (same : ∀ next ∈ taken, (p.keyOfRow next.2).bind later.get? = (p.keyOfRow next.2).bind index.get?) (id : String) :
    sentTo p later taken id = sentTo p index taken id :=
  List.flatMap_congr fun next member => by rw [same next member]

theorem sentTo_nothing {index : KeyIndex} {taken : List (Nat × Row)} (unknown : ∀ key, index.get? key ≠ some id) :
    sentTo p index taken id = [] := by
  refine List.flatMap_eq_nil_iff.mpr fun next _ => if_neg ?_
  intro found
  obtain ⟨key, _, leads⟩ := Option.bind_eq_some_iff.mp found
  exact unknown key leads

-- The row has been written, and its key leads to the item since then.
def Settled (p : UpsertPlan) (index : KeyIndex) (next : Nat × Row) (o : RowOutcome) : Prop :=
  o.row = next.1 ∧ ∃ id, o.answer = .ok id ∧ ∀ key, p.keyOfRow next.2 = some key → index.get? key = some id

theorem Settled.later {index later : KeyIndex} (kept : ∀ key id, index.get? key = some id → later.get? key = some id)
    (settled : Settled p index next o) : Settled p later next o := by
  obtain ⟨row, id, answer, leads⟩ := settled
  exact ⟨row, id, answer, fun key has => kept key id (leads key has)⟩

-- The index tells which item shows a key first, and items hold what the rows of their keys have sent to them.
structure FirstRun (p : UpsertPlan) (column : String) (taken : List (Nat × Row)) (os : List RowOutcome)
    (index : KeyIndex) (sheet : Sheet) : Prop where
  indexed : ∀ key, index.get? key = sheet.firstWith column key
  settled : List.Forall₂ (Settled p index) taken os
  absorbed : ∀ item ∈ sheet.items, ∃ base : Columns, item.columns = base.putAll (sentTo p index taken item.id)

namespace FirstRun
variable {taken : List (Nat × Row)} {os : List RowOutcome} {index : KeyIndex} {sheet : Sheet} {row : Row}

theorem known (first : FirstRun p column taken os index sheet) (member : next ∈ taken)
    (keyed : p.keyOfRow next.2 = some key) : ∃ id, index.get? key = some id := by
  obtain ⟨i, found⟩ := List.mem_iff_getElem?.mp member
  obtain ⟨o, _, _, id, _, leads⟩ := forall₂_getElem? first.settled found
  exact ⟨id, leads key keyed⟩

theorem unknown (first : FirstRun p column taken os index sheet) (new : id ∉ sheet.ids) (key : String) :
    index.get? key ≠ some id := by
  rw [first.indexed]
  exact fun found => new (Sheet.firstWith_ids found)

theorem keyless (sends : p.SendsKey field column) (first : FirstRun p column taken os index sheet)
    (none : p.keyOfRow row = none) (new : id ∉ sheet.ids) :
    FirstRun p column (taken ++ [(i, row)]) (os ++ [⟨i, .create, .ok id, 1⟩]) index
      (sheet.add id (p.columns row) new) := by
  refine ⟨fun key => ?_, ?_, fun item member => ?_⟩
  · rw [Sheet.firstWith_add, created_key sends, none, first.indexed]
    simp
  · refine List.rel_append first.settled (.cons ⟨rfl, id, rfl, ?_⟩ .nil)
    intro key has
    rw [none] at has
    cases has
  · rw [sentTo_snoc, none, Option.bind_none, if_neg (by simp), List.append_nil]
    rcases List.mem_append.mp member with old | added
    · exact first.absorbed item old
    · rw [List.mem_singleton.mp added, sentTo_nothing (first.unknown new)]
      exact ⟨p.columns row, rfl⟩

theorem created (sends : p.SendsKey field column) (first : FirstRun p column taken os index sheet)
    (keyed : p.keyOfRow row = some key) (fresh : index.get? key = none) (new : id ∉ sheet.ids) :
    FirstRun p column (taken ++ [(i, row)]) (os ++ [⟨i, .create, .ok id, 1⟩]) (index.put key id)
      (sheet.add id (p.columns row) new) := by
  have kept : ∀ other id', index.get? other = some id' → (index.put key id).get? other = some id' := by
    intro other id' leads
    rw [Keyed.get?_put_other index id (fun same => by rw [same, fresh] at leads; cases leads), leads]
  have before (target : String) : sentTo p (index.put key id) taken target = sentTo p index taken target := by
    refine sentTo_congr (fun next member => ?_) target
    cases other : p.keyOfRow next.2 with
    | none => rfl
    | some k =>
      obtain ⟨id', leads⟩ := first.known member other
      rw [Option.bind_some, Option.bind_some, kept k id' leads, leads]
  refine ⟨fun other => ?_, ?_, fun item member => ?_⟩
  · rw [Sheet.firstWith_add, created_key sends, keyed, ← first.indexed, Keyed.get?_put]
    by_cases same : other = key
    · simp [same, fresh]
    · simp [same, Ne.symm same]
  · refine List.rel_append (first.settled.imp fun _ _ settled => settled.later kept) (.cons ⟨rfl, id, rfl, ?_⟩ .nil)
    intro other has
    rw [keyed] at has
    cases has
    exact Keyed.get?_put_same index key id
  · rw [sentTo_snoc, before, keyed, Option.bind_some, Keyed.get?_put_same]
    rcases List.mem_append.mp member with old | added
    · have different : id ≠ item.id := fun same => new (same ▸ List.mem_map_of_mem old)
      rw [if_neg (by simpa using different), List.append_nil]
      exact first.absorbed item old
    · rw [List.mem_singleton.mp added, if_pos rfl, sentTo_nothing (first.unknown new), List.nil_append]
      exact ⟨p.columns row, (Keyed.putAll_self _).symm⟩

theorem updated (sends : p.SendsKey field column) (first : FirstRun p column taken os index sheet)
    (keyed : p.keyOfRow row = some key) (leads : index.get? key = some id) :
    FirstRun p column (taken ++ [(i, row)]) (os ++ [⟨i, .update, .ok id, 1⟩]) index
      (sheet.overwrite id (p.columns row)) := by
  refine ⟨fun other => ?_, ?_, fun item member => ?_⟩
  · rw [first.indexed]
    refine (Sheet.firstWith_overwrite (fun item member => ?_) other).symm
    by_cases same : item.id = id
    · obtain ⟨shown, inside, shows, sameId⟩ := Sheet.firstWith_mem (first.indexed key ▸ leads)
      rw [Sheet.same_item member inside (same.trans sameId.symm), shows, ← sameId, updated_key sends keyed]
    · rw [Sheet.overwritten, if_neg same]
  · refine List.rel_append first.settled (.cons ⟨rfl, id, rfl, ?_⟩ .nil)
    intro other has
    rw [keyed] at has
    cases has
    exact leads
  · obtain ⟨old, inside, rfl⟩ := List.mem_map.mp member
    obtain ⟨base, columns⟩ := first.absorbed old inside
    rw [Sheet.overwritten_id, sentTo_snoc, keyed, Option.bind_some, leads]
    refine ⟨base, ?_⟩
    by_cases same : old.id = id
    · rw [Sheet.overwritten, if_pos same, if_pos (by rw [same]), Keyed.putAll_append, ← columns]
    · rw [Sheet.overwritten, if_neg same, if_neg (by simpa using Ne.symm same), List.append_nil, columns]

theorem step (sends : p.SendsKey field column) {ideal : IdealBoard} {s : Progress Sheet} (policy : RetryPolicy)
    (first : FirstRun p column taken os s.index s.state) (i : Nat) (row : Row) :
    FirstRun p column (taken ++ [(i, row)]) (os ++ [(upsertRow ideal.board policy p i row s).1])
      (upsertRow ideal.board policy p i row s).2.index (upsertRow ideal.board policy p i row s).2.state := by
  cases keyed : p.keyOfRow row with
  | none =>
    rw [ideal_creates i (by rw [keyed]; rfl), keyed]
    exact first.keyless sends keyed (ideal.new _)
  | some key =>
    cases leads : s.index.get? key with
    | none =>
      rw [ideal_creates i (by rw [keyed]; exact leads), keyed]
      exact first.created sends keyed leads (ideal.new _)
    | some id =>
      rw [ideal_updates i (by rw [keyed]; exact leads)]
      exact first.updated sends keyed leads

end FirstRun

-- The same rows once more: every key leads where it did, and what is sent comes on top of what was there.
structure SecondRun (p : UpsertPlan) (known : KeyIndex) (before : Sheet) (taken : List (Nat × Row))
    (os : List RowOutcome) (index : KeyIndex) (sheet : Sheet) : Prop where
  indexed : ∀ key, index.get? key = known.get? key
  items : ∃ added, sheet.items = before.items.map (fun item =>
      { item with columns := item.columns.putAll (sentTo p known taken item.id) }) ++ added ∧
    added.length = taken.countP fun next => (p.keyOfRow next.2).isNone
  actions : List.Forall₂ (fun next o => o.row = next.1 ∧ match p.keyOfRow next.2 with
    | none => o.action = .create
    | some key => o.action = .update ∧ ∃ id, known.get? key = some id ∧ o.answer = .ok id) taken os

namespace SecondRun
variable {taken : List (Nat × Row)} {os : List RowOutcome} {known index : KeyIndex} {before sheet : Sheet} {row : Row}

theorem keyless (second : SecondRun p known before taken os index sheet) (none : p.keyOfRow row = none)
    (new : id ∉ sheet.ids) : SecondRun p known before (taken ++ [(i, row)]) (os ++ [⟨i, .create, .ok id, 1⟩]) index
      (sheet.add id (p.columns row) new) := by
  obtain ⟨added, items, length⟩ := second.items
  refine ⟨second.indexed, ⟨added ++ [⟨id, p.columns row⟩], ?_, ?_⟩, ?_⟩
  · simp only [sentTo_snoc, none, Option.bind_none, reduceCtorEq, if_false, List.append_nil]
    rw [Sheet.add_items, ← List.append_assoc, ← items]
  · simp [length, none]
  · exact List.rel_append second.actions (.cons ⟨rfl, by simp [none]⟩ .nil)

theorem updated (second : SecondRun p known before taken os index sheet) (keyed : p.keyOfRow row = some key)
    (leads : known.get? key = some id) (here : id ∈ before.ids) :
    SecondRun p known before (taken ++ [(i, row)]) (os ++ [⟨i, .update, .ok id, 1⟩]) index
      (sheet.overwrite id (p.columns row)) := by
  obtain ⟨added, items, length⟩ := second.items
  refine ⟨second.indexed, ⟨added, ?_, by simp [length, keyed]⟩, ?_⟩
  · have others : added.map (Sheet.overwritten id (p.columns row)) = added := by
      have distinct := sheet.distinct
      rw [items, List.map_append, List.map_map] at distinct
      have apart := (List.nodup_append.mp distinct).2.2
      rw [List.map_congr_left (g := fun item => item), List.map_id']
      intro item member
      refine if_neg fun same => ?_
      exact apart id (by simpa [Sheet.ids] using here) item.id (List.mem_map_of_mem member) same.symm
    rw [Sheet.overwrite_items, items, List.map_append, others, List.map_map]
    congr 1
    refine List.map_congr_left fun item _ => ?_
    rw [Function.comp_apply, sentTo_snoc, keyed, Option.bind_some, leads, Sheet.overwritten]
    by_cases same : item.id = id
    · rw [if_pos same, if_pos (by rw [same]), Keyed.putAll_append]
    · rw [if_neg same, if_neg (by simpa using Ne.symm same), List.append_nil]
  · exact List.rel_append second.actions (.cons ⟨rfl, by simp [keyed, leads]⟩ .nil)

theorem step {ideal : IdealBoard} {s : Progress Sheet} (policy : RetryPolicy)
    (second : SecondRun p known before taken os s.index s.state) (i : Nat)
    (leads : ∀ key, p.keyOfRow row = some key → ∃ id, known.get? key = some id ∧ id ∈ before.ids) :
    SecondRun p known before (taken ++ [(i, row)]) (os ++ [(upsertRow ideal.board policy p i row s).1])
      (upsertRow ideal.board policy p i row s).2.index (upsertRow ideal.board policy p i row s).2.state := by
  cases keyed : p.keyOfRow row with
  | none =>
    rw [ideal_creates i (by rw [keyed]; rfl), keyed]
    exact second.keyless keyed (ideal.new _)
  | some key =>
    obtain ⟨id, found, here⟩ := leads key keyed
    rw [ideal_updates i (by rw [keyed, Option.bind_some, second.indexed, found])]
    exact second.updated keyed found here

end SecondRun

def Sheet.snapshot (sheet : Sheet) (limit : Nat) (column : String) : KeyIndex :=
  .ofItems ((sheet.items.take limit).map fun item => ⟨item.id, cellText (item.columns.get? column)⟩)

-- A snapshot of all items leads every key to the item that shows it first.
theorem snapshot_get? {sheet : Sheet} (fits : sheet.items.length ≤ limit) (column key : String) :
    (sheet.snapshot limit column).get? key = sheet.firstWith column key := by
  rw [Sheet.snapshot, ofItems_get?, List.take_of_length_le fits, List.find?_map, Option.map_map]
  rfl

theorem snapshot_ideal (sends : p.SendsKey field column) (ideal : IdealBoard) (limit now : Nat) (sheet : Sheet) :
    Upsert.snapshot ideal.board limit p now sheet = ⟨.ok (sheet.snapshot limit column), 0, 0, sheet⟩ := by
  rw [Upsert.snapshot, sends.key]
  rfl

section
variable {ideal : IdealBoard} {settings : UpsertSettings} {target : WriteBack} {rows : List Row} {now : Nat}
  {sheet : Sheet}

theorem run_grows (single : settings.concurrency ≤ 1) (counted : rows = [] ∨ settings.retryPolicy.attempts?.isSome)
    (plan : UpsertPlan.ofTarget target = .ok p) (sends : p.SendsKey field column) : sheet.items.length ≤
      (Upsert.run ideal.board unstopped settings target rows now sheet).state.items.length := by
  have snapshot := snapshot_ideal sends ideal settings.itemLimit now sheet
  let Longer (_ : List (Nat × Row)) (_ : List RowOutcome) (_ : KeyIndex) (after : Sheet) : Prop :=
    sheet.items.length ≤ after.items.length
  have step : ∀ taken rest os i row s, numbered rows = taken ++ (i, row) :: rest → Longer taken os s.index s.state →
      Longer (taken ++ [(i, row)]) (os ++ [(upsertRow ideal.board settings.retryPolicy p i row s).1])
        (upsertRow ideal.board settings.retryPolicy p i row s).2.index
        (upsertRow ideal.board settings.retryPolicy p i row s).2.state := by
    intro taken rest os i row s _ longer
    cases known : (p.keyOfRow row).bind s.index.get? with
    | none => rw [ideal_creates i known]; exact Nat.le_trans longer (by simp)
    | some id => rw [ideal_updates i known]; exact Nat.le_trans longer (by simp)
  have shown : (Upsert.snapshot ideal.board settings.itemLimit p now sheet).answer =
      .ok (sheet.snapshot settings.itemLimit column) := by rw [snapshot]
  obtain ⟨_, _, _, longer⟩ := run_preserves Longer single counted plan shown ideal_unbroken step (by rw [snapshot])
  exact longer

theorem first_run (single : settings.concurrency ≤ 1) (counted : rows = [] ∨ settings.retryPolicy.attempts?.isSome)
    (plan : UpsertPlan.ofTarget target = .ok p) (sends : p.SendsKey field column) (fits : sheet.items.length ≤ settings.itemLimit) : ∃ r final,
      (Upsert.run ideal.board unstopped settings target rows now sheet).result = .ok r ∧
      FirstRun p column (numbered rows) r.results final
        (Upsert.run ideal.board unstopped settings target rows now sheet).state := by
  have snapshot := snapshot_ideal sends ideal settings.itemLimit now sheet
  have shown : (Upsert.snapshot ideal.board settings.itemLimit p now sheet).answer =
      .ok (sheet.snapshot settings.itemLimit column) := by rw [snapshot]
  refine run_preserves (FirstRun p column) single counted plan shown ideal_unbroken (fun taken rest os i row s _ first =>
    first.step sends settings.retryPolicy i row) ?_
  rw [snapshot]
  exact ⟨snapshot_get? fits column, .nil, fun item _ => ⟨item.columns, rfl⟩⟩

theorem second_run {before : Sheet} {known : KeyIndex} (single : settings.concurrency ≤ 1)
    (counted : rows = [] ∨ settings.retryPolicy.attempts?.isSome)
    (plan : UpsertPlan.ofTarget target = .ok p) (sends : p.SendsKey field column)
    (fits : before.items.length ≤ settings.itemLimit) (first : FirstRun p column (numbered rows) os known before) :
    ∃ r final, (Upsert.run ideal.board unstopped settings target rows now before).result = .ok r ∧
      SecondRun p known before (numbered rows) r.results final
        (Upsert.run ideal.board unstopped settings target rows now before).state := by
  have snapshot := snapshot_ideal sends ideal settings.itemLimit now before
  have shown : (Upsert.snapshot ideal.board settings.itemLimit p now before).answer =
      .ok (before.snapshot settings.itemLimit column) := by rw [snapshot]
  refine run_preserves (SecondRun p known before) single counted plan shown ideal_unbroken (fun taken rest os i row s split second =>
    second.step settings.retryPolicy i fun key keyed => ?_) ?_
  · have member : (i, row) ∈ numbered rows := by simp [split]
    obtain ⟨id, leads⟩ := first.known member keyed
    exact ⟨id, leads, Sheet.firstWith_ids (first.indexed key ▸ leads)⟩
  · rw [snapshot]
    refine ⟨fun key => ?_, ⟨[], ?_, rfl⟩, .nil⟩
    · exact (snapshot_get? fits column key).trans (first.indexed key).symm
    · simp [sentTo, Keyed.putAll]

end

structure Rerun (p : UpsertPlan) (rows : List Row) (r again : UpsertResult) (once twice : Sheet) : Prop where
  complete : r.results.length = rows.length ∧ again.results.length = rows.length
  -- rows without a key are created again, and every other row updates the item that it has written to before
  entries : ∀ (i : Nat) row, rows[i]? = some row → ∃ o o' : RowOutcome,
    r.results[i]? = some o ∧ again.results[i]? = some o' ∧ o.row = i ∧ o'.row = i ∧ match p.keyOfRow row with
      | none => o'.action = .create
      | some _ => o'.action = .update ∧ ∃ id, o.answer = .ok id ∧ o'.answer = .ok id
  -- the items of the first run stay as they are, and only rows without a key have added items
  items : ∃ added, twice.items = once.items ++ added ∧ added.length = rows.countP fun row => (p.keyOfRow row).isNone

-- Both runs are over with their first row, the policy allowing more attempts than can be counted.
structure Uncounted (settings : UpsertSettings) (sheet : Sheet) (once twice : Upsert.Ended Sheet) : Prop where
  attempts : settings.retryPolicy.attempts? = none
  first : once.result = .error .overflow
  second : twice.result = .error .overflow
  unchanged : once.state = sheet ∧ twice.state = sheet

-- On an ideal board a run can be repeated: it changes no item that was there, whatever the rows and the items.
theorem rerun_changes_nothing (ideal : IdealBoard) (settings : UpsertSettings) (target : WriteBack) (rows : List Row)
    (now later : Nat) (sheet : Sheet) (single : settings.concurrency ≤ 1)
    (plan : UpsertPlan.ofTarget target = .ok p) (sends : p.SendsKey field column)
    (fits : (Upsert.run ideal.board unstopped settings target rows now sheet).state.items.length ≤
      settings.itemLimit) :
    let once := Upsert.run ideal.board unstopped settings target rows now sheet
    let twice := Upsert.run ideal.board unstopped settings target rows later once.state
    (∃ r again, once.result = .ok r ∧ twice.result = .ok again ∧ Rerun p rows r again once.state twice.state) ∨
      Uncounted settings sheet once twice := by
  intro once twice
  by_cases counted : rows = [] ∨ settings.retryPolicy.attempts?.isSome
  case neg =>
    obtain ⟨some, uncounted⟩ := not_or.mp counted
    have uncounted : settings.retryPolicy.attempts? = none := by simpa using uncounted
    have shown (now : Nat) (sheet : Sheet) := congrArg Answered.answer (snapshot_ideal sends ideal settings.itemLimit now sheet)
    have after (now : Nat) (sheet : Sheet) := congrArg Answered.after (snapshot_ideal sends ideal settings.itemLimit now sheet)
    obtain ⟨first, kept⟩ := Upsert.run_overflows settings plan (shown now sheet) uncounted some
    obtain ⟨second, kept'⟩ := Upsert.run_overflows settings plan (shown later once.state) uncounted some
    have unchanged : once.state = sheet := kept.trans (after now sheet)
    exact .inr ⟨uncounted, first, second, unchanged, (kept'.trans (after later once.state)).trans unchanged⟩
  have room : sheet.items.length ≤ settings.itemLimit := Nat.le_trans (run_grows single counted plan sends) fits
  obtain ⟨r, known, ran, first⟩ := first_run single counted plan sends room
  obtain ⟨again, _, ranAgain, second⟩ := second_run single counted plan sends fits first
  refine .inl ⟨r, again, ran, ranAgain, ?_, fun i row found => ?_, ?_⟩
  · have length := Course.numbered_length rows
    exact ⟨first.settled.length_eq.symm.trans length, second.actions.length_eq.symm.trans length⟩
  · have numbered : (numbered rows)[i]? = some (i, row) := by rw [Course.numbered_getElem?, found]; rfl
    obtain ⟨o, here, sameRow, id, answer, leads⟩ := forall₂_getElem? first.settled numbered
    obtain ⟨o', here', sameRow', action⟩ := forall₂_getElem? second.actions numbered
    refine ⟨o, o', here, here', sameRow, sameRow', ?_⟩
    cases keyed : p.keyOfRow row with
    | none => simpa only [keyed] using action
    | some key =>
      simp only [keyed] at action
      obtain ⟨updates, id', leads', answer'⟩ := action
      rw [leads key keyed] at leads'
      cases leads'
      exact ⟨updates, id, answer, answer'⟩
  · obtain ⟨added, items, length⟩ := second.items
    refine ⟨added, ?_, ?_⟩
    · rw [items]
      congr 1
      refine (List.map_congr_left fun item member => ?_).trans (List.map_id' _)
      obtain ⟨base, columns⟩ := first.absorbed item member
      rw [columns, Keyed.putAll_again, ← columns]
    · calc added.length
          _ = ((numbered rows).map (·.2)).countP fun row => (p.keyOfRow row).isNone := by
            rw [length, List.countP_map]; rfl
          _ = rows.countP fun row => (p.keyOfRow row).isNone := by rw [Course.numbered_rows]

-- Rows for an item that is there, for a new one, twice, and for one without a key.
namespace Repeated

-- An id that is longer than all others.
def longer (ids : List String) : String := String.ofList (List.replicate ((ids.map (·.toList.length)).sum + 1) 'x')

theorem longer_new (ids : List String) : longer ids ∉ ids := by
  intro member
  have bound {ids : List String} {id : String} (inside : id ∈ ids) :
      id.toList.length ≤ (ids.map (·.toList.length)).sum := by
    induction ids with
    | nil => cases inside
    | cons first rest ih =>
      rw [List.map_cons, List.sum_cons]
      rcases List.mem_cons.mp inside with rfl | later
      · omega
      · exact Nat.le_trans (ih later) (Nat.le_add_left _ _)
  have short := bound member
  rw [longer, String.toList_ofList, List.length_replicate] at short
  omega

def ideal : IdealBoard := ⟨longer, longer_new, fun _ => 3⟩

def plan : UpsertPlan := ⟨"contacts", .ofList [("email", "mail"), ("phone", "call")], some ("email", "mail"), none⟩

def target : WriteBack :=
  ⟨.externalUpsert, some "contacts", some "email", none, some (.ofList [("email", "mail"), ("phone", "call")]), none⟩

def rows : List Row :=
  [.ofList [("email", .text "bob"), ("phone", .text "12")], .ofList [("email", .text "Ann")],
    .ofList [("phone", .text "34")], .ofList [("email", .text "ann "), ("phone", .text "56")]]

def sheet : Sheet := ⟨[⟨"7", .ofList [("mail", .text "BOB")]⟩], by decide⟩

theorem plan_sends : plan.SendsKey "email" "mail" := by
  have entries : plan.mapping.entries = [("email", "mail"), ("phone", "call")] := by decide
  refine ⟨rfl, by decide, fun other sent => ?_⟩
  have member := Keyed.get?_eq_some_iff.mp sent
  rw [entries] at member
  simpa using member

theorem repeated_changes_nothing :
    let once := Upsert.run ideal.board unstopped .standard target rows 0 sheet
    once.state.items.length = 3 ∧ once.state.items.length ≤ UpsertSettings.standard.itemLimit ∧
      ∃ r again, once.result = .ok r ∧
        (Upsert.run ideal.board unstopped .standard target rows 9 once.state).result = .ok again ∧
        Rerun plan rows r again once.state
          (Upsert.run ideal.board unstopped .standard target rows 9 once.state).state :=
  ⟨by decide +kernel, by decide +kernel, (rerun_changes_nothing ideal .standard target rows 0 9 sheet (by decide) rfl
    plan_sends (by decide +kernel)).resolve_right fun uncounted => absurd uncounted.attempts (by decide)⟩

end Repeated

end
end TidyRows
