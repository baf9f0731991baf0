import TidyRows.Value.Written
namespace TidyRows
namespace Pretty

def lineStart (level : Nat) : List Char := '\n' :: List.replicate (2 * level) ' '

-- Parts on lines of their own between two brackets, which stand together when there are none.
def block (level : Nat) (opening closing : Char) (parts : List (List Char)) : List Char :=
  match parts with
  | [] => [opening, closing]
  | parts =>
    opening :: Written.separated (parts.map fun p => lineStart (level + 1) ++ p) ++ lineStart level ++ [closing]

mutual
def chars (level : Nat) : Value → List Char
  | .list vs => block level '[' ']' (items (level + 1) vs)
  | .record fields => block level (Char.ofNat 0x7B) (Char.ofNat 0x7D) (members (level + 1) fields)
  | v => Written.chars v

def items (level : Nat) : List Value → List (List Char)
  | [] => []
  | v :: rest => chars level v :: items level rest

def members (level : Nat) : List (String × Value) → List (List Char)
  | [] => []
  | (name, v) :: rest => (Written.quoted name.toList ++ ':' :: ' ' :: chars level v) :: members level rest
end

end Pretty

def Value.pretty (v : Value) : String := String.ofList (Pretty.chars 0 v)

end TidyRows
