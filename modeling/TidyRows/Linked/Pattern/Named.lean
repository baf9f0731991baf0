import TidyRows.Linked.Pattern.Basic
import TidyRows.Unicode.Category
import TidyRows.Unicode.Property
import TidyRows.Unicode.Script
namespace TidyRows.CharSet
open Unicode

-- The loose form of a name, without a leading `is`. The short name `isc` keeps it, so that it does not become that of
-- another category.
def plainName (cs : List Char) : List Char :=
  match cs with
  | i :: s :: rest =>
    if i.toLower == 'i' && s.toLower == 's' then
      (if looseName rest == ['c'] then ['i', 's', 'c'] else looseName rest)
    else looseName cs
  | cs => looseName cs

-- Short names that mean a category although a property has them too.
def categoryFirst : List (List Char) := ["cf".toList, "sc".toList, "lc".toList]

def named? (name : List Char) : Option CharSet :=
  let name := plainName name
  let property := if categoryFirst.contains name then none else propertyRuns? name
  ((property.or (categoryRuns? name)).or (scriptRuns? name)).map ofRuns

def valued? (property value : List Char) : Option CharSet :=
  let property := String.ofList (plainName property)
  if property == "gc" || property == "generalcategory" then (categoryRuns? (plainName value)).map ofRuns
  else if property == "sc" || property == "script" then (scriptRuns? (plainName value)).map ofRuns
  else none

def divided (name : List Char) : Option (List Char × List Char) :=
  match Text.splitFirst '!' name with
  | some (property, '=' :: value) => some (property, value)
  | _ => (Text.splitFirst ':' name).or (Text.splitFirst '=' name)

def query? (name : List Char) : Option CharSet :=
  match divided name with
  | some (property, value) => valued? property value
  | none => named? name

def asciiNamed? (name : List Char) : Option CharSet :=
  let digits := range '0' '9'
  let capitals := range 'A' 'Z'
  let smalls := range 'a' 'z'
  let letters := capitals.union smalls
  match String.ofList name with
  | "alnum" => some (digits.union letters)
  | "alpha" => some letters
  | "ascii" => some (range (Char.ofNat 0) (Char.ofNat 0x7F))
  | "blank" => some ((single '\t').union (single ' '))
  | "cntrl" => some ((range (Char.ofNat 0) (Char.ofNat 0x1F)).union (single (Char.ofNat 0x7F)))
  | "digit" => some digits
  | "graph" => some (range '!' '~')
  | "lower" => some smalls
  | "print" => some (range ' ' '~')
  | "punct" =>
    some ((range '!' '/').union ((range ':' '@').union
      ((range '[' (Char.ofNat 0x60)).union (range (Char.ofNat 0x7B) '~'))))
  | "space" => some ((range '\t' '\r').union (single ' '))
  | "upper" => some capitals
  | "word" => some ((digits.union letters).union (single '_'))
  | "xdigit" => some (digits.union ((range 'A' 'F').union (range 'a' 'f')))
  | _ => none

def lettered? (unicode : Bool) (c : Char) : Option CharSet :=
  match c, unicode with
  | 'd', true => some ⟨isDecimalDigit, 70⟩
  | 's', true => some ⟨isBlank, 10⟩
  | 'w', true => some ⟨isWordChar, 770⟩
  | 'd', false => asciiNamed? "digit".toList
  | 's', false => asciiNamed? "space".toList
  | 'w', false => asciiNamed? "word".toList
  | _, _ => none

end TidyRows.CharSet
