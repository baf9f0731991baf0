import TidyRows.Proofs.Board.Page
import TidyRows.Proofs.Keyed
namespace TidyRows

def Exchange.observed (exchange : Exchange σ) : Exchange (σ × List (Post × Reply)) := fun post s =>
  let (reply, after) := exchange post s.1
  (reply, (after, s.2 ++ [(post, reply)]))

def Post.parameter? (p : Post) (name : String) : Option Value := p.body.at? ["variables", name]

namespace Remote

structure Turn where
  cursor : Option String
  size : Nat
  reply : Reply

namespace Turn

def post (account : Account) (board column : String) (t : Turn) : Post :=
  ⟨account, (pageQuery board column t.cursor t.size).toValue⟩

def page (board : String) (t : Turn) : Except BoardFault (List Item × Option String) :=
  t.reply.data.bind (pageIn board t.cursor)

def items (board : String) (t : Turn) : List Item :=
  match t.page board with
  | .ok (items, _) => items
  | .error _ => []

end Turn

def received (board : String) (turns : List Turn) : List Item := turns.flatMap (·.items board)

-- Asked from a cursor for as many items as one page may hold while `left` of them are wanted.
structure Turn.Due (t : Turn) (left : Nat) (cursor : Option String) : Prop where
  wanted : 0 < left
  size : t.size = min left maxPage
  cursor : t.cursor = cursor

-- The turns from a cursor on, and what comes of them, while `left` items are wanted.
inductive Paging (board : String) : Nat → Option String → List Turn → Except BoardFault (List Item) → Prop where
  | enough : Paging board 0 cursor [] (.ok [])
  | fails (due : t.Due left cursor) (page : t.page board = .error fault) : Paging board left cursor [t] (.error fault)
  | ends (due : t.Due left cursor) (page : t.page board = .ok (items, next)) (last : items = [] ∨ next = none) :
      Paging board left cursor [t] (.ok items)
  | goes (due : t.Due left cursor) (page : t.page board = .ok (items, some next)) (brought : items ≠ [])
      (later : Paging board (left - items.length) (some next) turns answer) :
      Paging board left cursor (t :: turns) (answer.map (items ++ ·))

section
variable {account : Account} {board column : String} {exchange : Exchange σ} {cursor : Option String} {s : σ}

theorem ask_unable (unable : account.canCall = false) (exchange : Exchange σ) (q : Query) (s : σ) :
    ask account exchange q s = (.error (.transport false), s) := by
  rw [ask, unable]
  rfl

theorem fetch_unable (unable : account.canCall = false) (wanted : 0 < limit) :
    fetch account exchange board column limit s = (.error (.transport false), s) := by
  cases limit with
  | zero => cases wanted
  | succ n =>
    rw [fetch, fetchPages, if_neg (Nat.succ_ne_zero n), ask_unable unable]
    rfl

def turn (account : Account) (exchange : Exchange σ) (board column : String) (left : Nat) (cursor : Option String)
    (s : σ) : Turn :=
  ⟨cursor, min left maxPage, (exchange ⟨account, (pageQuery board column cursor (min left maxPage)).toValue⟩ s).1⟩

def afterTurn (account : Account) (exchange : Exchange σ) (board column : String) (left : Nat) (cursor : Option String)
    (s : σ) : σ :=
  (exchange ⟨account, (pageQuery board column cursor (min left maxPage)).toValue⟩ s).2

theorem ask_turn (able : account.canCall = true) (exchange : Exchange σ) (board column : String) (left : Nat)
    (cursor : Option String) (s : σ) : ask account exchange (pageQuery board column cursor (min left maxPage)) s =
      ((turn account exchange board column left cursor s).reply.data,
        afterTurn account exchange board column left cursor s) := by
  rw [ask, if_pos able]
  rfl

theorem turn_due (wanted : 0 < left) : (turn account exchange board column left cursor s).Due left cursor :=
  ⟨wanted, rfl, rfl⟩

theorem fetchPages_fails (able : account.canCall = true) (wanted : 0 < left)
    (page : (turn account exchange board column left cursor s).page board = .error fault) :
    fetchPages account exchange board column (rounds + 1) left cursor s =
      (.error fault, afterTurn account exchange board column left cursor s) := by
  change (turn account exchange board column left cursor s).reply.data.bind (pageIn board cursor) = _ at page
  simp only [fetchPages, if_neg (Nat.ne_of_gt wanted), ask_turn able, page]

theorem fetchPages_ends (able : account.canCall = true) (wanted : 0 < left)
    (page : (turn account exchange board column left cursor s).page board = .ok (items, next))
    (last : items = [] ∨ next = none) :
    fetchPages account exchange board column (rounds + 1) left cursor s =
      (.ok items, afterTurn account exchange board column left cursor s) := by
  change (turn account exchange board column left cursor s).reply.data.bind (pageIn board cursor) = _ at page
  simp only [fetchPages, if_neg (Nat.ne_of_gt wanted), ask_turn able, page]
  rcases last with rfl | rfl
  · rfl
  · cases items <;> rfl

theorem fetchPages_goes (able : account.canCall = true) (wanted : 0 < left)
    (page : (turn account exchange board column left cursor s).page board = .ok (items, some next))
    (brought : items ≠ []) :
    fetchPages account exchange board column (rounds + 1) left cursor s =
      ((fetchPages account exchange board column rounds (left - items.length) (some next)
          (afterTurn account exchange board column left cursor s)).1.map (items ++ ·),
        (fetchPages account exchange board column rounds (left - items.length) (some next)
          (afterTurn account exchange board column left cursor s)).2) := by
  change (turn account exchange board column left cursor s).reply.data.bind (pageIn board cursor) = _ at page
  simp only [fetchPages, if_neg (Nat.ne_of_gt wanted), ask_turn able, page]

def told (account : Account) (board column : String) (t : Turn) : Post × Reply := (t.post account board column, t.reply)

theorem turn_observed (account : Account) (exchange : Exchange σ) (board column : String) (left : Nat)
    (cursor : Option String) (s : σ) (log : List (Post × Reply)) :
    turn account exchange.observed board column left cursor (s, log) =
      turn account exchange board column left cursor s := rfl

theorem afterTurn_observed (account : Account) (exchange : Exchange σ) (board column : String) (left : Nat)
    (cursor : Option String) (s : σ) (log : List (Post × Reply)) :
    afterTurn account exchange.observed board column left cursor (s, log) =
      (afterTurn account exchange board column left cursor s,
        log ++ [told account board column (turn account exchange board column left cursor s)]) := rfl

-- A fetch takes these turns, and an exchange that keeps a list sees no other requests than theirs.
structure Fetches (account : Account) (exchange : Exchange σ) (board column : String) (rounds left : Nat)
    (cursor : Option String) (s : σ) (turns : List Turn) : Prop where
  paging : Paging board left cursor turns (fetchPages account exchange board column rounds left cursor s).1
  noted : ∀ log, fetchPages account exchange.observed board column rounds left cursor (s, log) =
    ((fetchPages account exchange board column rounds left cursor s).1,
      (fetchPages account exchange board column rounds left cursor s).2, log ++ turns.map (told account board column))

namespace Fetches

theorem enough (account : Account) (exchange : Exchange σ) (board column : String) (rounds : Nat)
    (cursor : Option String) (s : σ) : Fetches account exchange board column rounds 0 cursor s [] := by
  cases rounds with
  | zero => exact ⟨.enough, fun log => by simp [fetchPages]⟩
  | succ rounds => exact ⟨by simpa [fetchPages] using .enough, fun log => by simp [fetchPages]⟩

theorem fails (able : account.canCall = true) (wanted : 0 < left)
    (page : (turn account exchange board column left cursor s).page board = .error fault) :
    Fetches account exchange board column (rounds + 1) left cursor s
      [turn account exchange board column left cursor s] := by
  constructor
  · rw [fetchPages_fails able wanted page]
    exact .fails (turn_due wanted) page
  · intro log
    have seen := turn_observed account exchange board column left cursor s log
    rw [fetchPages_fails able wanted page, fetchPages_fails able wanted (seen ▸ page), afterTurn_observed]
    rfl

theorem ends (able : account.canCall = true) (wanted : 0 < left)
    (page : (turn account exchange board column left cursor s).page board = .ok (items, next))
    (last : items = [] ∨ next = none) :
    Fetches account exchange board column (rounds + 1) left cursor s
      [turn account exchange board column left cursor s] := by
  constructor
  · rw [fetchPages_ends able wanted page last]
    exact .ends (turn_due wanted) page last
  · intro log
    have seen := turn_observed account exchange board column left cursor s log
    rw [fetchPages_ends able wanted page last, fetchPages_ends able wanted (seen ▸ page) last, afterTurn_observed]
    rfl

theorem goes (able : account.canCall = true) (wanted : 0 < left)
    (page : (turn account exchange board column left cursor s).page board = .ok (items, some next))
    (brought : items ≠ [])
    (later : Fetches account exchange board column rounds (left - items.length) (some next)
      (afterTurn account exchange board column left cursor s) turns) :
    Fetches account exchange board column (rounds + 1) left cursor s
      (turn account exchange board column left cursor s :: turns) := by
  constructor
  · rw [fetchPages_goes able wanted page brought]
    exact .goes (turn_due wanted) page brought later.paging
  · intro log
    have seen := turn_observed account exchange board column left cursor s log
    rw [fetchPages_goes able wanted page brought, fetchPages_goes able wanted (seen ▸ page) brought,
      afterTurn_observed, later.noted]
    simp

end Fetches

-- One round for each item that is wanted is enough, as a page that is followed by another has one at least.
theorem fetchPages_fetches (able : account.canCall = true) (exchange : Exchange σ) (board column : String)
    (cursor : Option String) (s : σ) (enough : left ≤ rounds) :
    ∃ turns, Fetches account exchange board column rounds left cursor s turns := by
  induction rounds generalizing left cursor s with
  | zero =>
    cases Nat.le_zero.mp enough
    exact ⟨[], .enough ..⟩
  | succ rounds ih =>
    rcases Nat.eq_zero_or_pos left with none | wanted
    · subst none
      exact ⟨[], .enough ..⟩
    · cases page : (turn account exchange board column left cursor s).page board with
      | error fault => exact ⟨_, .fails able wanted page⟩
      | ok found =>
        obtain ⟨items, next⟩ := found
        by_cases last : items = [] ∨ next = none
        · exact ⟨_, .ends able wanted page last⟩
        · obtain ⟨brought, more⟩ := not_or.mp last
          obtain ⟨next, rfl⟩ := Option.ne_none_iff_exists'.mp more
          have one := List.length_pos_iff.mpr brought
          obtain ⟨turns, later⟩ := ih (some next) (afterTurn account exchange board column left cursor s)
            (by omega : left - items.length ≤ rounds)
          exact ⟨_, later.goes able wanted page brought⟩

@[simp] theorem received_nil (board : String) : received board [] = [] := rfl

theorem received_cons {t : Turn} (page : t.page board = .ok (found, next)) (turns : List Turn) :
    received board (t :: turns) = found ++ received board turns := by
  have here : t.items board = found := by rw [Turn.items, page]
  rw [received, List.flatMap_cons, here]
  rfl

namespace Paging
variable {left : Nat} {turns : List Turn} {answer : Except BoardFault (List Item)} {t u : Turn}

theorem few (paging : Paging board left cursor turns answer) : turns.length ≤ left := by
  induction paging with
  | enough => exact Nat.zero_le 0
  | fails due page => exact due.wanted
  | ends due page last => exact due.wanted
  | goes due page brought later ih =>
    have one := List.length_pos_iff.mpr brought
    have wanted := due.wanted
    simp only [List.length_cons]
    omega

theorem idle (paging : Paging board left cursor turns answer) (none : turns = []) : left = 0 ∧ answer = .ok [] := by
  cases paging with
  | enough => exact ⟨rfl, rfl⟩
  | _ => cases none

theorem starts (paging : Paging board left cursor turns answer) (first : turns.head? = some t) : t.cursor = cursor := by
  cases paging with
  | enough => cases first
  | fails due page => cases first; exact due.cursor
  | ends due page last => cases first; exact due.cursor
  | goes due page brought later => cases first; exact due.cursor

-- Items are asked for only while some are wanted, and never more than that.
theorem sizes (paging : Paging board left cursor turns answer) (k : Nat) (here : turns[k]? = some t) :
    (received board (turns.take k)).length < left ∧
      t.size = min (left - (received board (turns.take k)).length) maxPage := by
  induction paging generalizing k with
  | enough => cases here
  | fails due page =>
    cases k with
    | zero => cases here; exact ⟨due.wanted, due.size⟩
    | succ k => cases here
  | ends due page last =>
    cases k with
    | zero => cases here; exact ⟨due.wanted, due.size⟩
    | succ k => cases here
  | goes due page brought later ih =>
    cases k with
    | zero => cases here; exact ⟨due.wanted, due.size⟩
    | succ k =>
      obtain ⟨less, size⟩ := ih k here
      rw [List.take_succ_cons, received_cons page, List.length_append, Nat.sub_add_eq]
      exact ⟨by omega, size⟩

theorem linked (paging : Paging board left cursor turns answer) (k : Nat) (here : turns[k]? = some t)
    (next : turns[k + 1]? = some u) :
    ∃ items cursor, t.page board = .ok (items, some cursor) ∧ items ≠ [] ∧ u.cursor = some cursor := by
  induction paging generalizing k with
  | enough => cases here
  | fails due page => cases next
  | ends due page last => cases next
  | goes due page brought later ih =>
    cases k with
    | zero =>
      cases here
      rw [List.getElem?_cons_succ, ← List.head?_eq_getElem?] at next
      exact ⟨_, _, page, brought, later.starts next⟩
    | succ k => exact ih k here next

theorem stops (paging : Paging board left cursor turns answer) (last : turns.getLast? = some t) :
    (∃ fault, t.page board = .error fault) ∨ (∃ next, t.page board = .ok ([], next)) ∨
      (∃ items, t.page board = .ok (items, none)) ∨ left ≤ (received board turns).length := by
  induction paging with
  | enough => cases last
  | fails due page => cases last; exact .inl ⟨_, page⟩
  | ends due page ended =>
    cases last
    rcases ended with rfl | rfl
    · exact .inr (.inl ⟨_, page⟩)
    · exact .inr (.inr (.inl ⟨_, page⟩))
  | @goes found left _ rest _ _ _ due page brought later ih =>
    rw [received_cons page, List.length_append]
    cases rest with
    | nil =>
      have none := later.idle rfl
      exact .inr (.inr (.inr (by omega)))
    | cons next rest =>
      rcases ih (by simpa using last) with fails | empty | ends | enough
      · exact .inl fails
      · exact .inr (.inl empty)
      · exact .inr (.inr (.inl ends))
      · exact .inr (.inr (.inr (by omega)))

theorem whole (paging : Paging board left cursor turns answer) (fine : ∀ t ∈ turns, ∃ page, t.page board = .ok page) :
    answer = .ok (received board turns) := by
  induction paging with
  | enough => rfl
  | fails due page =>
    obtain ⟨_, ok⟩ := fine _ List.mem_cons_self
    cases page.symm.trans ok
  | ends due page last => simp [received_cons page]
  | goes due page brought later ih =>
    have rest := ih fun t member => fine t (List.mem_cons_of_mem _ member)
    rw [rest, received_cons page]
    rfl

theorem failed (paging : Paging board left cursor turns answer) (member : t ∈ turns)
    (fails : t.page board = .error fault) : answer = .error fault := by
  induction paging with
  | enough => cases member
  | fails due page =>
    cases List.mem_singleton.mp member
    cases page.symm.trans fails
    rfl
  | ends due page last =>
    cases List.mem_singleton.mp member
    cases page.symm.trans fails
  | goes due page brought later ih =>
    rcases List.mem_cons.mp member with rfl | member
    · cases page.symm.trans fails
    · rw [ih member]
      rfl

end Paging

theorem query_parameter (account : Account) (q : Query) (name : String) :
    Post.parameter? ⟨account, q.toValue⟩ name = (q.parameters.map fun p => (p.name, p.value)).lookup name := by
  simp [Post.parameter?, Query.toValue, Query.values, Value.at?, Value.part?, lookup_cons_if]

theorem pageQuery_parameters (account : Account) (board column : String) (t : Turn) :
    (t.post account board column).parameter? "limit" = some (.ofNat t.size) ∧
      (t.post account board column).parameter? "cursor" = t.cursor.map .text := by
  rw [Turn.post, query_parameter, query_parameter]
  cases t.cursor with
  | none => simp [pageQuery, Query.firstPage, Query.limitParameter, Query.columnParameter, lookup_cons_if]
  | some c => simp [pageQuery, Query.nextPage, Query.limitParameter, Query.columnParameter, lookup_cons_if]

def Turn.Shows (board : String) (t : Turn) (outcome : Except BoardFault (List Item × Option String)) : Prop :=
  Reply.Shows board t.cursor t.reply outcome

theorem Turn.shows_iff {t : Turn} {outcome : Except BoardFault (List Item × Option String)} :
    t.Shows board outcome ↔ t.page board = outcome := Reply.shows_iff

-- The items that a turn adds. A fault adds none.
inductive Turn.Brings (board : String) (t : Turn) : List Item → Prop where
  | page (shown : t.Shows board (.ok (found, next))) : Brings board t found
  | fault (shown : t.Shows board (.error fault)) : Brings board t []

theorem Turn.brings_items (board : String) (t : Turn) : t.Brings board (t.items board) := by
  unfold Turn.items
  cases page : t.page board with
  | error fault => exact .fault (shows_iff.mpr page)
  | ok found => exact .page (shows_iff.mpr page)

-- How the turns of a fetch follow each other, what they bring, and what comes of them.
structure Paged (account : Account) (board column : String) (limit : Nat) (turns : List Turn) (pages : List (List Item))
    (answer : Except BoardFault (List Item)) : Prop where
  few : turns.length ≤ limit
  asks : ∀ t ∈ turns, (t.post account board column).parameter? "limit" = some (.ofNat t.size) ∧
    (t.post account board column).parameter? "cursor" = t.cursor.map .text
  brought : List.Forall₂ (Turn.Brings board) turns pages
  sizes : ∀ k t, turns[k]? = some t → 1 ≤ t.size ∧ t.size ≤ 500 ∧ (pages.take k).flatten.length + t.size ≤ limit
  full : ∀ k t, turns[k]? = some t → t.size = min (limit - (pages.take k).flatten.length) 500
  starts : ∀ t, turns.head? = some t → t.cursor = none
  linked : ∀ k t u, turns[k]? = some t → turns[k + 1]? = some u →
    ∃ items cursor, t.Shows board (.ok (items, some cursor)) ∧ items ≠ [] ∧ u.cursor = some cursor
  stops : ∀ t, turns.getLast? = some t → (∃ fault, t.Shows board (.error fault)) ∨
    (∃ next, t.Shows board (.ok ([], next))) ∨ (∃ items, t.Shows board (.ok (items, none))) ∨
    limit ≤ pages.flatten.length
  idle : turns = [] → limit = 0 ∧ answer = .ok [] ∨ account.canCall = false ∧ answer = .error (.transport false)
  whole : turns ≠ [] → (∀ t ∈ turns, ∃ page, t.Shows board (.ok page)) → answer = .ok (pages.flatten.take limit)
  failed : ∀ t ∈ turns, ∀ fault, t.Shows board (.error fault) → answer = .error fault

theorem received_pages (board : String) (turns : List Turn) (k : Nat) :
    received board (turns.take k) = ((turns.map (·.items board)).take k).flatten := by
  rw [received, List.flatMap_def, List.map_take]

theorem Paging.paged (account : Account) (column : String) {turns : List Turn} {answer : Except BoardFault (List Item)}
    (paging : Paging board limit none turns answer) :
    Paged account board column limit turns (turns.map (·.items board)) (answer.map (·.take limit)) where
  few := paging.few
  asks := fun t _ => pageQuery_parameters account board column t
  brought := List.forall₂_map_right_iff.mpr (List.forall₂_same.mpr fun t _ => t.brings_items board)
  sizes := by
    intro k t here
    obtain ⟨less, size⟩ := paging.sizes k here
    rw [received_pages] at less size
    have most : maxPage = 500 := rfl
    omega
  full := fun k t here => received_pages board turns k ▸ (paging.sizes k here).2
  starts := fun t first => paging.starts first
  linked := by
    intro k t u here next
    obtain ⟨items, cursor, page, rest⟩ := paging.linked k here next
    exact ⟨items, cursor, Turn.shows_iff.mpr page, rest⟩
  stops := by
    intro t last
    simp only [Turn.shows_iff]
    exact paging.stops last
  idle := by
    intro none
    obtain ⟨rfl, rfl⟩ := paging.idle none
    exact .inl ⟨rfl, rfl⟩
  whole := by
    intro _ fine
    simp only [Turn.shows_iff] at fine
    rw [paging.whole fine]
    rfl
  failed := by
    intro t member fault fails
    rw [paging.failed member (Turn.shows_iff.mp fails)]
    rfl

theorem Paged.unable (unable : account.canCall = false) (limit : Nat) :
    Paged account board column limit [] [] (.error (.transport false)) where
  few := Nat.zero_le limit
  asks := nofun
  brought := .nil
  sizes := nofun
  full := nofun
  starts := nofun
  linked := nofun
  stops := nofun
  idle := fun _ => .inr ⟨unable, rfl⟩
  whole := fun some => absurd rfl some
  failed := nofun

-- A fetch asks for one page after another, whatever the other side answers and remembers.
theorem fetch_paged (account : Account) (exchange : Exchange σ) (board column : String) (limit : Nat) (s : σ) :
    ∃ turns pages,
      fetch account exchange.observed board column limit (s, []) =
        ((fetch account exchange board column limit s).1, (fetch account exchange board column limit s).2,
          turns.map (told account board column)) ∧
      Paged account board column limit turns pages (fetch account exchange board column limit s).1 := by
  cases able : account.canCall with
  | true =>
    obtain ⟨turns, fetches⟩ := fetchPages_fetches able exchange board column none s (Nat.le_refl limit)
    refine ⟨turns, _, ?_, fetches.paging.paged account column⟩
    simp only [fetch, fetches.noted, List.nil_append]
  | false =>
    rcases Nat.eq_zero_or_pos limit with rfl | wanted
    · exact ⟨[], [], rfl, Paging.paged account column .enough⟩
    · refine ⟨[], [], ?_, ?_⟩
      · rw [fetch_unable able wanted, fetch_unable able wanted]
        rfl
      · rw [fetch_unable able wanted]
        exact Paged.unable able limit

end

end Remote
end TidyRows
