import TidyRows.Value.Read
namespace TidyRows

structure Body where
  bytes : ByteArray

namespace Body

def ofText (s : String) : Body := ⟨s.toUTF8⟩

instance : Coe String Body := ⟨ofText⟩

def text? (b : Body) : Option String := String.fromUTF8? b.bytes

def value? (b : Body) : Option Value := b.text?.bind Value.ofText?

def goesOn (byte : UInt8) : Bool := 0x80 ≤ byte && byte ≤ 0xBF

def begins (first second : UInt8) : Bool :=
  if first = 0xE0 then 0xA0 ≤ second && second ≤ 0xBF
  else if first = 0xED then 0x80 ≤ second && second ≤ 0x9F
  else if first = 0xF0 then 0x90 ≤ second && second ≤ 0xBF
  else if first = 0xF4 then 0x80 ≤ second && second ≤ 0x8F
  else 0xE1 ≤ first && first ≤ 0xF3 && goesOn second

-- How many bytes from a place on where no letter stands are shown as one: those that a letter could begin with.
def brokenAt (bytes : ByteArray) (i : Nat) : Nat :=
  match bytes[i]?, bytes[i + 1]? with
  | some first, some second =>
    if begins first second then if 0xF0 ≤ first && bytes[i + 2]?.any goesOn then 3 else 2 else 1
  | _, _ => 1

theorem brokenAt_pos (bytes : ByteArray) (i : Nat) : 0 < brokenAt bytes i := by
  unfold brokenAt
  repeat' split
  all_goals decide

def lettersFrom (bytes : ByteArray) (i : Nat) : List Char :=
  if i < bytes.size then
    match bytes.utf8DecodeChar? i with
    | some c =>
      have := c.utf8Size_pos
      c :: lettersFrom bytes (i + c.utf8Size)
    | none =>
      have := brokenAt_pos bytes i
      '\uFFFD' :: lettersFrom bytes (i + brokenAt bytes i)
  else []
termination_by bytes.size - i

def shown (b : Body) : String := String.ofList (lettersFrom b.bytes 0)

end Body
end TidyRows
