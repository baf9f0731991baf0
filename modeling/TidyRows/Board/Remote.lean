import TidyRows.Board.Query
import TidyRows.Board.Reply
import TidyRows.Board.Url
namespace TidyRows

structure Account where
  url : Url
  token : String
  apiVersion : Option String

structure Post where
  account : Account
  body : Value

abbrev Exchange (σ : Type) := Post → σ → Reply × σ

namespace Account

def isHeaderText (s : String) : Bool := s.toList.all fun c => c = '\t' || (32 ≤ c.toNat && c.toNat ≠ 127)

def canCall (a : Account) : Bool := a.url.isWeb && isHeaderText a.token && a.apiVersion.all isHeaderText

end Account

namespace Remote

def ask (account : Account) (exchange : Exchange σ) (q : Query) (s : σ) : Except BoardFault Value × σ :=
  if account.canCall then
    let (reply, s) := exchange ⟨account, q.toValue⟩ s
    (reply.data, s)
  else (.error (.transport false), s)

def maxPage : Nat := 500

def pagePath (cursor : Option String) : List String :=
  match cursor with
  | none => ["boards", "0", "items_page"]
  | some _ => ["next_items_page"]

def missingPage (board : String) (cursor : Option String) : BoardFault :=
  match cursor with
  | none => .malformed ("board " ++ board ++ " not found")
  | some _ => .malformed "missing next_items_page"

def pageQuery (board column : String) (cursor : Option String) (size : Nat) : Query :=
  match cursor with
  | none => .firstPage board column size
  | some cursor => .nextPage cursor column size

def pageIn (board : String) (cursor : Option String) (data : Value) :
    Except BoardFault (List Item × Option String) :=
  match data.at? (pagePath cursor) with
  | some page => Reply.pageOf page
  | none => .error (missingPage board cursor)

-- At most `left` more items, from the page at a cursor on. An empty page or one without a cursor is the last one. As
-- every other page brings an item, there are never more than `rounds` pages if that is `left` at the start.
def fetchPages (account : Account) (exchange : Exchange σ) (board column : String) :
    (rounds left : Nat) → (cursor : Option String) → σ → Except BoardFault (List Item) × σ
  | 0, _, _, s => (.ok [], s)
  | rounds + 1, left, cursor, s =>
    if left = 0 then (.ok [], s)
    else
      let (data, s) := ask account exchange (pageQuery board column cursor (min left maxPage)) s
      match data.bind (pageIn board cursor) with
      | .error fault => (.error fault, s)
      | .ok ([], _) => (.ok [], s)
      | .ok (items, none) => (.ok items, s)
      | .ok (items, some next) =>
        let (rest, s) := fetchPages account exchange board column rounds (left - items.length) (some next) s
        (rest.map (items ++ ·), s)

def fetch (account : Account) (exchange : Exchange σ) (board column : String) (limit : Nat) (s : σ) :
    Except BoardFault (List Item) × σ :=
  let (items, s) := fetchPages account exchange board column limit limit none s
  (items.map (·.take limit), s)

def idPath : Write → List String
  | .create _ _ => ["create_item", "id"]
  | .update _ _ => ["change_multiple_column_values", "id"]

def write (account : Account) (exchange : Exchange σ) (board : String) (w : Write) (s : σ) :
    Except BoardFault String × σ :=
  let (data, s) := ask account exchange (.ofWrite board w) s
  (data.bind fun d => Reply.idOf (d.at? (idPath w)), s)

-- The board as others see it. The time that answers take is not known beforehand, so none is counted.
def board (account : Account) (exchange : Exchange σ) (clock : σ → Nat) : Board σ where
  fetch := fun _ board column limit s =>
    let (answer, s) := fetch account exchange board column limit s
    ⟨answer, 0, clock s, s⟩
  write := fun _ board w s =>
    let (answer, s) := write account exchange board w s
    ⟨answer, 0, clock s, s⟩

end Remote
end TidyRows
