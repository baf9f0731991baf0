import TidyRows.Number.Notation
namespace TidyRows.Calendar

inductive Pad where
  | zero
  | blank
  | nothing
  deriving DecidableEq, Repr

inductive NumberField where
  | year | century | yearOfCentury
  | isoYear | isoYearOfCentury
  | quarter | month | day
  | weekFromSunday | weekFromMonday | isoWeek
  | daysFromSunday | dayFromMonday
  | ordinal
  | hour | hour12 | minute | second | nanosecond
  | timestamp
  deriving DecidableEq, Repr

inductive TextField where
  | shortMonth | longMonth
  | shortWeekday | longWeekday
  | lowerHalf | upperHalf
  -- A point and as many digits as the fraction of the second needs
  | fraction
  | fractionPlaces (places : Nat)
  | fractionDigits (places : Nat)
  | zoneName
  | offset
  | looseOffset
  | timestampText
  deriving DecidableEq, Repr

inductive Item where
  | literal (text : List Char)
  | blanks (text : List Char)
  | number (field : NumberField) (pad : Pad)
  | text (field : TextField)
  | unknown
  deriving DecidableEq, Repr

namespace Item

def zeros (f : NumberField) : Item := .number f .zero
def spaced (f : NumberField) : Item := .number f .blank
def bare (f : NumberField) : Item := .number f .nothing
def mark (c : Char) : Item := .literal [c]
def gap : Item := .blanks [' ']

def isoDate : List Item := [zeros .year, mark '-', zeros .month, mark '-', zeros .day]
def slashedDate : List Item := [zeros .month, mark '/', zeros .day, mark '/', zeros .yearOfCentury]
def shortTime : List Item := [zeros .hour, mark ':', zeros .minute]
def fullTime : List Item := shortTime ++ [mark ':', zeros .second]

def ofLetter? (c : Char) : Option (List Item) :=
  match c with
  | 'A' => some [.text .longWeekday]
  | 'a' => some [.text .shortWeekday]
  | 'B' => some [.text .longMonth]
  | 'b' => some [.text .shortMonth]
  | 'h' => some [.text .shortMonth]
  | 'C' => some [zeros .century]
  | 'D' => some slashedDate
  | 'x' => some slashedDate
  | 'F' => some isoDate
  | 'G' => some [zeros .isoYear]
  | 'g' => some [zeros .isoYearOfCentury]
  | 'H' => some [zeros .hour]
  | 'I' => some [zeros .hour12]
  | 'M' => some [zeros .minute]
  | 'P' => some [.text .lowerHalf]
  | 'p' => some [.text .upperHalf]
  | 'R' => some shortTime
  | 'S' => some [zeros .second]
  | 'T' => some fullTime
  | 'X' => some fullTime
  | 'U' => some [zeros .weekFromSunday]
  | 'V' => some [zeros .isoWeek]
  | 'W' => some [zeros .weekFromMonday]
  | 'Y' => some [zeros .year]
  | 'Z' => some [.text .zoneName]
  | 'c' => some ([.text .shortWeekday, gap, .text .shortMonth, gap, spaced .day, gap] ++ fullTime ++
      [gap, zeros .year])
  | 'd' => some [zeros .day]
  | 'e' => some [spaced .day]
  | 'f' => some [zeros .nanosecond]
  | 'j' => some [zeros .ordinal]
  | 'k' => some [spaced .hour]
  | 'l' => some [spaced .hour12]
  | 'm' => some [zeros .month]
  | 'n' => some [.blanks ['\n']]
  | 'q' => some [bare .quarter]
  | 'r' => some ([zeros .hour12, mark ':', zeros .minute, mark ':', zeros .second, gap, .text .upperHalf])
  | 's' => some [bare .timestamp]
  | 't' => some [.blanks ['\t']]
  | 'u' => some [bare .dayFromMonday]
  | 'v' => some [spaced .day, mark '-', .text .shortMonth, mark '-', zeros .year]
  | 'w' => some [bare .daysFromSunday]
  | 'y' => some [zeros .yearOfCentury]
  | 'z' => some [.text .offset]
  | '+' => some [.text .timestampText]
  | '%' => some [mark '%']
  | _ => none

def specification? : List Char → Option (List Item × List Char)
  | ':' :: 'z' :: rest => some ([.text .offset], rest)
  | ':' :: ':' :: 'z' :: rest => some ([.text .offset], rest)
  | ':' :: ':' :: ':' :: 'z' :: rest => some ([.text .offset], rest)
  | '.' :: 'f' :: rest => some ([.text .fraction], rest)
  | '.' :: '3' :: 'f' :: rest => some ([.text (.fractionPlaces 3)], rest)
  | '.' :: '6' :: 'f' :: rest => some ([.text (.fractionPlaces 6)], rest)
  | '.' :: '9' :: 'f' :: rest => some ([.text (.fractionPlaces 9)], rest)
  | '3' :: 'f' :: rest => some ([.text (.fractionDigits 3)], rest)
  | '6' :: 'f' :: rest => some ([.text (.fractionDigits 6)], rest)
  | '9' :: 'f' :: rest => some ([.text (.fractionDigits 9)], rest)
  | c :: rest => (ofLetter? c).map (·, rest)
  | [] => none

-- Only a single number can be padded another way.
def withPad (pad : Pad) : List Item → List Item
  | [.number f _] => [.number f pad]
  | _ => [.unknown]

def afterPercent (cs : List Char) : List Item × List Char :=
  let padded (pad : Pad) (rest : List Char) := match specification? rest with
    | some (items, rest) => (withPad pad items, rest)
    | none => ([.unknown], [])
  match cs with
  | '-' :: rest => padded .nothing rest
  | '0' :: rest => padded .zero rest
  | '_' :: rest => padded .blank rest
  | '#' :: 'z' :: rest => ([.text .looseOffset], rest)
  | rest => (specification? rest).getD ([.unknown], [])

def readFrom (isBlank : Char → Bool) : Nat → List Char → List Item
  | 0, _ => []
  | _, [] => []
  | fuel + 1, c :: rest =>
    if c = '%' then
      let (items, rest) := afterPercent rest
      items ++ readFrom isBlank fuel rest
    else if isBlank c then
      .blanks (c :: rest.takeWhile isBlank) :: readFrom isBlank fuel (rest.dropWhile isBlank)
    else
      let plain (c : Char) := !isBlank c && c != '%'
      .literal (c :: rest.takeWhile plain) :: readFrom isBlank fuel (rest.dropWhile plain)

end Item

inductive Segment where
  | quoted (text : List Char)
  | run (c : Char) (count : Nat)
  deriving DecidableEq, Repr

namespace Segment

def apostrophe : Char := Char.ofNat 39

theorem length_dropWhile_le (p : Char → Bool) (cs : List Char) : (cs.dropWhile p).length ≤ cs.length :=
  (List.dropWhile_sublist p).length_le

def ofPattern : List Char → List Segment
  | [] => []
  | c :: rest =>
    if c = apostrophe then
      .quoted (rest.takeWhile (· != apostrophe)) :: ofPattern ((rest.dropWhile (· != apostrophe)).drop 1)
    else .run c ((rest.takeWhile (· == c)).length + 1) :: ofPattern (rest.dropWhile (· == c))
termination_by cs => cs.length
decreasing_by
  · have := length_dropWhile_le (· != apostrophe) rest
    simp only [List.length_drop, List.length_cons]; omega
  · have := length_dropWhile_le (· == c) rest
    simp only [List.length_cons]; omega

def token? (c : Char) (count : Nat) : Option String :=
  match c with
  | 'y' => some (if count = 2 then "%y" else "%Y")
  | 'M' => some (if count = 1 then "%-m" else if count = 2 then "%m" else if count = 3 then "%b" else "%B")
  | 'd' => some (if count = 1 then "%-d" else "%d")
  | 'H' => some (if count = 1 then "%-H" else "%H")
  | 'h' => some (if count = 1 then "%-I" else "%I")
  | 'm' => some (if count = 1 then "%-M" else "%M")
  | 's' => some "%S"
  | 'a' => some "%p"
  | 'E' => some (if count ≤ 3 then "%a" else "%A")
  | _ => none

def text : Segment → List Char
  | .quoted t => t
  | .run c n => match token? c n with
    | some t => t.toList
    | none => List.replicate n c

end Segment

-- The percent pattern of a letter pattern. One with a percent sign is taken to be one already.
def percentPattern (cs : List Char) : List Char :=
  if cs.contains '%' then cs else (Segment.ofPattern cs).flatMap Segment.text

end TidyRows.Calendar
