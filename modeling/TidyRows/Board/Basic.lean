import TidyRows.Retry
import TidyRows.Value.Basic
namespace TidyRows

structure Item where
  id : String
  keyText : String
  deriving DecidableEq, Repr

abbrev Columns := Keyed Value

inductive Write where
  | create (name : String) (columns : Columns)
  | update (id : String) (columns : Columns)

def Write.columns : Write → Columns
  | create _ columns => columns
  | update _ columns => columns

structure Board (σ : Type) where
  -- The first items, up to a limit, with the text of one column
  fetch : (now : Nat) → (board column : String) → (limit : Nat) → σ → Answered (List Item) σ
  write : (now : Nat) → (board : String) → Write → σ → Answered String σ

end TidyRows
