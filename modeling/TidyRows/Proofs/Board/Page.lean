import Mathlib.Data.List.Forall2
import TidyRows.Proofs.Board.Verdict
namespace TidyRows
namespace Reply

-- The text of the first column that is shown of an item. There may be none.
inductive KeyText (v : Value) : String → Prop where
  | told (columns : v.field? "column_values" = some (.list (column :: rest))) :
      KeyText v (cellText (column.field? "text"))
  | untold (bare : ∀ column rest, v.field? "column_values" ≠ some (.list (column :: rest))) : KeyText v ""

structure Lists (v : Value) (item : Item) : Prop where
  named : ∃ id, v.field? "id" = some id ∧ Names id item.id
  keyText : KeyText v item.keyText

def Nameless (v : Value) : Prop := ∀ id name, v.field? "id" = some id → ¬ Names id name

-- The first page belongs to a board, and every other one to a cursor.
inductive Place (d : Value) : Option String → Value → Prop where
  | first (found : d.at? ["boards", "0", "items_page"] = some page) : Place d none page
  | next (found : d.field? "next_items_page" = some page) : Place d (some cursor) page

inductive Missing (board : String) : Option String → String → Prop where
  | first : Missing board none ("board " ++ board ++ " not found")
  | next : Missing board (some cursor) "missing next_items_page"

-- What comes back for a page: its items and the cursor of the next one, or a fault and no items.
inductive Shows (board : String) (cursor : Option String) :
    Reply → Except BoardFault (List Item × Option String) → Prop where
  | dropped : Shows board cursor .dropped (.error (.transport true))
  | failed (carries : Carries status headers (content status body) (.error fault)) :
      Shows board cursor (.answer status headers body) (.error fault)
  | missing (carries : Carries status headers (content status body) (.ok d)) (absent : ∀ page, ¬ Place d cursor page)
      (said : Missing board cursor m) : Shows board cursor (.answer status headers body) (.error (.malformed m))
  | bare (carries : Carries status headers (content status body) (.ok d)) (place : Place d cursor page)
      (unlisted : ∀ vs, page.field? "items" ≠ some (.list vs)) :
      Shows board cursor (.answer status headers body) (.error (.malformed "items page without items"))
  | nameless (carries : Carries status headers (content status body) (.ok d)) (place : Place d cursor page)
      (listed : page.field? "items" = some (.list vs)) (bad : ∃ v ∈ vs, Nameless v) :
      Shows board cursor (.answer status headers body) (.error (.malformed "missing item id"))
  | page (carries : Carries status headers (content status body) (.ok d)) (place : Place d cursor page)
      (listed : page.field? "items" = some (.list vs)) (all : List.Forall₂ Lists vs items)
      (link : ∀ c, next = some c ↔ page.field? "cursor" = some (.text c)) :
      Shows board cursor (.answer status headers body) (.ok (items, next))

section
variable {v d page : Value} {vs : List Value} {item : Item} {cursor : Option String} {board m : String}

theorem itemOf_lists (lists : Lists v item) : itemOf v = .ok item := by
  obtain ⟨id, keyText⟩ := item
  obtain ⟨⟨value, found, named⟩, text⟩ := lists
  rw [itemOf, found, idOf_named named]
  cases text with
  | told columns => rw [columns]; rfl
  | untold bare =>
    dsimp only
    split
    case h_1 columns => exact absurd columns (bare _ _)
    case h_2 => rfl

theorem itemOf_nameless (nameless : Nameless v) : itemOf v = .error (.malformed "missing item id") := by
  rw [itemOf, idOf_unnamed nameless]
  rfl

theorem lists_or_nameless (v : Value) : (∃ item, Lists v item) ∨ Nameless v := by
  by_cases named : ∃ id name, v.field? "id" = some id ∧ Names id name
  case neg => exact .inr fun id name found is => named ⟨id, name, found, is⟩
  obtain ⟨id, name, found, is⟩ := named
  by_cases told : ∃ column rest, v.field? "column_values" = some (.list (column :: rest))
  · obtain ⟨column, rest, columns⟩ := told
    exact .inl ⟨⟨name, _⟩, ⟨id, found, is⟩, .told columns⟩
  · exact .inl ⟨⟨name, ""⟩, ⟨id, found, is⟩, .untold fun column rest columns => told ⟨column, rest, columns⟩⟩

theorem items_lists {items : List Item} (all : List.Forall₂ Lists vs items) : vs.mapM itemOf = .ok items := by
  induction all with
  | nil => rfl
  | cons first _ ih => rw [List.mapM_cons, itemOf_lists first, ih]; rfl

theorem items_nameless (bad : ∃ v ∈ vs, Nameless v) : vs.mapM itemOf = .error (.malformed "missing item id") := by
  induction vs with
  | nil => simp at bad
  | cons first rest ih =>
    rw [List.mapM_cons]
    rcases lists_or_nameless first with ⟨item, lists⟩ | nameless
    · have later : ∃ v ∈ rest, Nameless v := by
        obtain ⟨v, member, nameless⟩ := bad
        rcases List.mem_cons.mp member with rfl | later
        · obtain ⟨id, found, named⟩ := lists.named
          exact absurd named (nameless id _ found)
        · exact ⟨v, later, nameless⟩
      rw [itemOf_lists lists, ih later]
      rfl
    · rw [itemOf_nameless nameless]
      rfl

theorem listed_or_nameless (vs : List Value) : (∃ items, List.Forall₂ Lists vs items) ∨ ∃ v ∈ vs, Nameless v := by
  induction vs with
  | nil => exact .inl ⟨[], .nil⟩
  | cons first rest ih =>
    rcases lists_or_nameless first with ⟨item, lists⟩ | nameless
    · rcases ih with ⟨items, all⟩ | ⟨v, member, nameless⟩
      · exact .inl ⟨item :: items, .cons lists all⟩
      · exact .inr ⟨v, List.mem_cons_of_mem _ member, nameless⟩
    · exact .inr ⟨first, List.mem_cons_self, nameless⟩

theorem cursorOf_iff {next : Option String} :
    cursorOf page = next ↔ ∀ c, next = some c ↔ page.field? "cursor" = some (.text c) := by
  have text (c : String) : cursorOf page = some c ↔ page.field? "cursor" = some (.text c) := by
    rw [cursorOf, Option.bind_eq_some_iff]
    constructor
    · rintro ⟨v, found, told⟩
      cases v <;> cases told
      exact found
    · exact fun found => ⟨_, found, rfl⟩
  constructor
  · rintro rfl
    exact text
  · intro same
    exact Option.ext fun c => (text c).trans (same c).symm

theorem pageOf_unlisted (unlisted : ∀ vs, page.field? "items" ≠ some (.list vs)) :
    pageOf page = .error (.malformed "items page without items") := by
  unfold pageOf
  split
  case h_1 listed => exact absurd listed (unlisted _)
  case h_2 => rfl

theorem pageOf_listed (listed : page.field? "items" = some (.list vs)) :
    pageOf page = (vs.mapM itemOf).map (·, cursorOf page) := by rw [pageOf, listed]

theorem at?_field (d : Value) : d.at? ["next_items_page"] = d.field? "next_items_page" := by
  cases d with
  | record fields => cases found : fields.lookup "next_items_page" <;> simp [Value.at?, Value.part?, Value.field?, found]
  | _ => rfl

theorem place_iff : Place d cursor page ↔ d.at? (Remote.pagePath cursor) = some page := by
  cases cursor with
  | none =>
    constructor
    · rintro ⟨found⟩
      exact found
    · exact .first
  | some c =>
    rw [Remote.pagePath, at?_field]
    constructor
    · rintro (_ | found)
      exact found
    · exact .next

theorem pageIn_placed (board : String) (place : Place d cursor page) :
    Remote.pageIn board cursor d = pageOf page := by
  rw [Remote.pageIn, place_iff.mp place]

theorem pageIn_missing (absent : ∀ page, ¬ Place d cursor page) (said : Missing board cursor m) :
    Remote.pageIn board cursor d = .error (.malformed m) := by
  have none : d.at? (Remote.pagePath cursor) = none :=
    Option.eq_none_iff_forall_ne_some.mpr fun page found => absent page (place_iff.mpr found)
  rw [Remote.pageIn, none]
  cases said <;> rfl

end

section
variable {board : String} {cursor : Option String} {reply : Reply} {outcome : Except BoardFault (List Item × Option String)}

theorem Shows.page_eq (shown : Shows board cursor reply outcome) :
    reply.data.bind (Remote.pageIn board cursor) = outcome := by
  cases shown with
  | dropped => rfl
  | failed carries => rw [carries.data_eq]; rfl
  | missing carries absent said => rw [carries.data_eq, Except.bind, pageIn_missing absent said]
  | bare carries place unlisted => rw [carries.data_eq, Except.bind, pageIn_placed board place, pageOf_unlisted unlisted]
  | nameless carries place listed bad =>
    rw [carries.data_eq, Except.bind, pageIn_placed board place, pageOf_listed listed, items_nameless bad]
    rfl
  | page carries place listed all link =>
    rw [carries.data_eq, Except.bind, pageIn_placed board place, pageOf_listed listed, items_lists all,
      cursorOf_iff.mpr link]
    rfl

theorem shows_page (board : String) (cursor : Option String) (reply : Reply) :
    Shows board cursor reply (reply.data.bind (Remote.pageIn board cursor)) := by
  suffices total : ∃ outcome, Shows board cursor reply outcome by
    obtain ⟨outcome, shown⟩ := total
    rwa [shown.page_eq]
  cases reply with
  | dropped => exact ⟨_, .dropped⟩
  | answer status headers body =>
    have carries := carries_data status headers body
    cases read : data (.answer status headers body) with
    | error fault => exact ⟨_, .failed (read ▸ carries)⟩
    | ok d =>
      rw [read] at carries
      by_cases placed : ∃ page, Place d cursor page
      case neg =>
        obtain ⟨m, said⟩ : ∃ m, Missing board cursor m := by cases cursor <;> exact ⟨_, by constructor⟩
        exact ⟨_, .missing carries (fun page place => placed ⟨page, place⟩) said⟩
      obtain ⟨page, place⟩ := placed
      by_cases listed : ∃ vs, page.field? "items" = some (.list vs)
      case neg => exact ⟨_, .bare carries place fun vs is => listed ⟨vs, is⟩⟩
      obtain ⟨vs, listed⟩ := listed
      rcases listed_or_nameless vs with ⟨items, all⟩ | bad
      · exact ⟨_, .page carries place listed all (cursorOf_iff.mp rfl)⟩
      · exact ⟨_, .nameless carries place listed bad⟩

theorem shows_iff : Shows board cursor reply outcome ↔ reply.data.bind (Remote.pageIn board cursor) = outcome := by
  constructor
  · exact Shows.page_eq
  · rintro rfl
    exact shows_page board cursor reply

end
end Reply
end TidyRows
