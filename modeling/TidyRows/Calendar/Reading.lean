import TidyRows.Text.Words
import TidyRows.Calendar.Parts
import TidyRows.Calendar.Written
namespace TidyRows.Calendar
open Unicode (isBlank)

def digits? (least most : Nat) (cs : List Char) : Option (Int × List Char) :=
  let ds := (cs.take most).takeWhile isDigit
  let n := digitsValue 0 ds
  if least ≤ ds.length ∧ n < 0x8000000000000000 then some (n, cs.drop ds.length) else none

def allDigits? (least : Nat) (cs : List Char) : Option (Int × List Char) := digits? least cs.length cs

-- A sign takes the limit on the number of digits away.
def signed? (most : Nat) (cs : List Char) : Option (Int × List Char) :=
  match cs with
  | '-' :: rest => (allDigits? 1 rest).map fun (n, rest) => (-n, rest)
  | '+' :: rest => allDigits? 1 rest
  | rest => digits? 1 most rest

def char? (c : Char) : List Char → Option (List Char)
  | d :: rest => if c = d then some rest else none
  | [] => none

def shortName? (names : List String) (cs : List Char) : Option (Nat × List Char) :=
  let start := (cs.take 3).map lowerAscii
  let place := names.findIdx fun n => (n.toList.take 3).map lowerAscii == start
  if place < names.length then some (place, cs.drop 3) else none

def longName? (names : List String) (cs : List Char) : Option (Nat × List Char) :=
  (shortName? names cs).map fun (place, rest) =>
    let ending := ((names[place]?.getD "").toList.drop 3).map lowerAscii
    if (rest.take ending.length).map lowerAscii = ending then (place, rest.drop ending.length) else (place, rest)

-- One to nine digits of a fraction, and any more that do not count.
def fraction? (cs : List Char) : Option (Int × List Char) :=
  (digits? 1 9 cs).map fun (n, rest) =>
    (n * Nat.pow 10 (9 - (cs.length - rest.length)), rest.dropWhile isDigit)

def fractionOf? (places : Nat) (cs : List Char) : Option (Int × List Char) :=
  (digits? places places cs).map fun (n, rest) => (n * Nat.pow 10 (9 - places), rest)

def half? (cs : List Char) : Option (Int × List Char) :=
  match cs.map lowerAscii with
  | 'a' :: 'm' :: _ => some (0, cs.drop 2)
  | 'p' :: 'm' :: _ => some (1, cs.drop 2)
  | _ => none

structure OffsetForm where
  zulu : Bool
  looseMinutes : Bool
  longMinus : Bool
  between : List Char → Option (List Char)

def colonsOrBlanks (cs : List Char) : Option (List Char) :=
  some (cs.dropWhile fun c => c = ':' || isBlank c)

def longMinus : Char := Char.ofNat 0x2212

def offsetSign? (form : OffsetForm) : List Char → Option (Bool × List Char)
  | c :: rest =>
    if c = '+' then some (false, rest)
    else if c = '-' ∨ (c = longMinus ∧ form.longMinus) then some (true, rest)
    else none
  | [] => none

def offsetMinutes? (form : OffsetForm) (cs : List Char) : Option (Int × List Char) :=
  match cs with
  | a :: b :: rest =>
    if '0' ≤ a ∧ a ≤ '5' ∧ isDigit b then some ((10 * digitValue a + digitValue b : Nat), rest) else none
  | [] => if form.looseMinutes then some (0, []) else none
  | _ => none

def offset? (form : OffsetForm) (cs : List Char) : Option (Int × List Char) :=
  if form.zulu && (cs.head? = some 'Z' || cs.head? = some 'z') then some (0, cs.drop 1)
  else do
    let (west, rest) ← offsetSign? form cs
    let (hours, rest) ← digits? 2 2 rest
    let rest ← form.between rest
    let (minutes, rest) ← offsetMinutes? form rest
    let seconds := hours * 3600 + minutes * 60
    some (if west then -seconds else seconds, rest)

def plainOffset : OffsetForm := ⟨false, false, true, colonsOrBlanks⟩
def looseOffset : OffsetForm := ⟨true, true, true, colonsOrBlanks⟩
def zuluOffset : OffsetForm := ⟨true, false, true, colonsOrBlanks⟩
def colonOffset : OffsetForm := ⟨true, false, true, char? ':'⟩
def mailOffset : OffsetForm := ⟨false, false, false, some⟩

structure Reader where
  parts : Parts
  rest : List Char

namespace Reader

def start (cs : List Char) : Reader := ⟨.empty, cs⟩

def set (r : Reader) (put : Parts → Int → Option Parts) (read : Option (Int × List Char)) :
    Option Reader := do
  let (n, rest) ← read
  let parts ← put r.parts n
  some ⟨parts, rest⟩

def skip (r : Reader) (c : Char) : Option Reader := (char? c r.rest).map ({ r with rest := · })

def number? (r : Reader) (field : NumberField) : Option Reader :=
  let cs := r.rest.dropWhile isBlank
  let put (low high : Int) (get : Parts → Option Int) (store : Parts → Option Int → Parts)
      (p : Parts) (n : Int) :=
    (Parts.agree low high (get p) n).map (store p)
  match field with
  | .year => r.set Parts.setYear (signed? 4 cs)
  | .century => r.set (put 0 99 (·.century) fun p v => { p with century := v }) (digits? 1 2 cs)
  | .yearOfCentury => r.set (put 0 99 (·.yearOfCentury) fun p v => { p with yearOfCentury := v }) (digits? 1 2 cs)
  | .isoYear => r.set (put (-0x80000000) Parts.maxInt32 (·.isoYear) fun p v => { p with isoYear := v }) (signed? 4 cs)
  | .isoYearOfCentury =>
    r.set (put 0 99 (·.isoYearOfCentury) fun p v => { p with isoYearOfCentury := v }) (digits? 1 2 cs)
  | .quarter => r.set (put 1 4 (·.quarter) fun p v => { p with quarter := v }) (digits? 1 1 cs)
  | .month => r.set Parts.setMonth (digits? 1 2 cs)
  | .day => r.set Parts.setDay (digits? 1 2 cs)
  | .weekFromSunday =>
    r.set (put 0 53 (·.weekFromSunday) fun p v => { p with weekFromSunday := v }) (digits? 1 2 cs)
  | .weekFromMonday =>
    r.set (put 0 53 (·.weekFromMonday) fun p v => { p with weekFromMonday := v }) (digits? 1 2 cs)
  | .isoWeek => r.set (put 1 53 (·.isoWeek) fun p v => { p with isoWeek := v }) (digits? 1 2 cs)
  | .daysFromSunday => r.set (fun p n => if n ≤ 6 then p.setWeekday ((n + 6) % 7) else none) (digits? 1 1 cs)
  | .dayFromMonday => r.set (fun p n => p.setWeekday (n - 1)) (digits? 1 1 cs)
  | .ordinal => r.set Parts.setOrdinal (digits? 1 3 cs)
  | .hour => r.set Parts.setHour (digits? 1 2 cs)
  | .hour12 => r.set (fun p n => if 1 ≤ n ∧ n ≤ 12 then p.setHourOfHalf (n % 12) else none) (digits? 1 2 cs)
  | .minute => r.set Parts.setMinute (digits? 1 2 cs)
  | .second => r.set Parts.setSecond (digits? 1 2 cs)
  | .nanosecond => r.set Parts.setNanosecond (digits? 1 9 cs)
  | .timestamp => r.set (put 0 0x8000000000000000 (·.timestamp) fun p v => { p with timestamp := v }) (allDigits? 1 cs)

def setName (r : Reader) (put : Parts → Int → Option Parts) (least : Int)
    (read : Option (Nat × List Char)) : Option Reader :=
  r.set put (read.map fun (n, rest) => ((n : Int) + least, rest))

def afterPoint (r : Reader) (read : List Char → Option (Int × List Char)) : Option Reader :=
  match r.rest with
  | '.' :: rest => r.set Parts.setNanosecond (read rest)
  | _ => some r

def looseTimestamp? (r : Reader) : Option Reader := do
  let r ← r.number? .year
  let r ← r.skip '-'
  let r ← r.number? .month
  let r ← r.skip '-'
  let r ← r.number? .day
  let r ← (r.skip 'T').or ((r.skip 't').or (r.skip ' '))
  let r ← r.number? .hour
  let r ← r.skip ':'
  let r ← r.number? .minute
  let r ← r.skip ':'
  let r ← r.number? .second
  let r ← r.afterPoint fraction?
  let cs := r.rest.dropWhile isBlank
  if (cs.take 3).map lowerAscii = ['u', 't', 'c'] then r.set Parts.setOffset (some (0, cs.drop 3))
  else r.set Parts.setOffset (offset? zuluOffset cs)

def text? (r : Reader) : TextField → Option Reader
  | .shortMonth => r.setName Parts.setMonth 1 (shortName? Date.monthNames r.rest)
  | .longMonth => r.setName Parts.setMonth 1 (longName? Date.monthNames r.rest)
  | .shortWeekday => r.setName Parts.setWeekday 0 (shortName? Date.weekdayNames r.rest)
  | .longWeekday => r.setName Parts.setWeekday 0 (longName? Date.weekdayNames r.rest)
  | .lowerHalf => r.set Parts.setHalf (half? r.rest)
  | .upperHalf => r.set Parts.setHalf (half? r.rest)
  | .fraction => r.afterPoint fraction?
  | .fractionPlaces n => r.afterPoint (fractionOf? n)
  | .fractionDigits n => r.set Parts.setNanosecond (fractionOf? n r.rest)
  | .zoneName => some { r with rest := r.rest.dropWhile fun c => !isBlank c }
  | .offset => r.set Parts.setOffset (offset? plainOffset (r.rest.dropWhile isBlank))
  | .looseOffset => r.set Parts.setOffset (offset? looseOffset (r.rest.dropWhile isBlank))
  | .timestampText => r.looseTimestamp?

def item? (r : Reader) : Item → Option Reader
  | .literal t => if Text.startsWith r.rest t then some { r with rest := r.rest.drop t.length } else none
  | .blanks _ => some { r with rest := r.rest.dropWhile isBlank }
  | .number f _ => r.number? f
  | .text f => r.text? f
  | .unknown => none

def gap? (r : Reader) : Option Reader :=
  match r.rest with
  | c :: rest => if isBlank c then some { r with rest := rest.dropWhile isBlank } else none
  | [] => none

def trimmed (r : Reader) : Reader := { r with rest := r.rest.dropWhile isBlank }

def finished? (r : Reader) : Option Parts := if r.rest.isEmpty then some r.parts else none

-- `YYYY-MM-DDThh:mm:ss[.fraction]offset`, digit by digit.
def timestamp? (r : Reader) : Option Reader := do
  let r ← r.set Parts.setYear (digits? 4 4 r.rest)
  let r ← r.skip '-'
  let r ← r.set Parts.setMonth (digits? 2 2 r.rest)
  let r ← r.skip '-'
  let r ← r.set Parts.setDay (digits? 2 2 r.rest)
  let r ← (r.skip 'T').or ((r.skip 't').or (r.skip ' '))
  let r ← r.set Parts.setHour (digits? 2 2 r.rest)
  let r ← r.skip ':'
  let r ← r.set Parts.setMinute (digits? 2 2 r.rest)
  let r ← r.skip ':'
  let r ← r.set Parts.setSecond (digits? 2 2 r.rest)
  let r ← r.afterPoint fraction?
  r.set (fun p n => if n.natAbs < 86400 then p.setOffset n else none) (offset? colonOffset r.rest)

def mailZones : List (String × Int) := [("gmt", 0), ("ut", 0), ("z", 0), ("edt", -4), ("est", -5), ("cdt", -5),
  ("cst", -6), ("mdt", -6), ("mst", -7), ("pdt", -7), ("pst", -8)]

def mailOffset? (cs : List Char) : Option (Int × List Char) :=
  let isLetter (c : Char) := 'a' ≤ lowerAscii c && lowerAscii c ≤ 'z'
  let name := (cs.takeWhile isLetter).map lowerAscii
  let rest := cs.dropWhile isLetter
  if name.isEmpty then offset? mailOffset cs
  else match mailZones.lookup (String.ofList name) with
    | some hours => some (hours * 3600, rest)
    | none => if name.length = 1 && name != ['j'] then some (0, rest) else none

-- A year of two digits is one of 1950 to 2049, one of three is counted from 1900.
def mailYear? (cs : List Char) : Option (Int × List Char) :=
  (allDigits? 2 cs).map fun (n, rest) =>
    match cs.length - rest.length with
    | 2 => (if n < 50 then n + 2000 else n + 1900, rest)
    | 3 => (n + 1900, rest)
    | _ => (n, rest)

-- The rest after a comment in parentheses, where comments nest and a backslash takes the meaning of the next character
-- away.
def afterComment? (depth : Nat) (escaped : Bool) : List Char → Option (List Char)
  | [] => none
  | c :: rest =>
    if escaped then afterComment? depth false rest
    else if c = '(' then afterComment? (depth + 1) false rest
    else if depth = 0 then none
    else if c = ')' then if depth = 1 then some rest else afterComment? (depth - 1) false rest
    else afterComment? depth (c = '\\') rest

def dropComments : Nat → List Char → List Char
  | 0, cs => cs
  | fuel + 1, cs => match afterComment? 0 false (cs.dropWhile isBlank) with
    | some rest => dropComments fuel rest
    | none => cs

-- `[weekday,] day month year hh:mm[:ss] zone`, as in mail.
def mailDate? (r : Reader) : Option Reader := do
  let r := r.trimmed
  let r ← match shortName? Date.weekdayNames r.rest with
    | some (n, rest) => do
      let rest ← char? ',' rest
      r.set Parts.setWeekday (some (n, rest))
    | none => some r
  let r := r.trimmed
  let r ← r.set Parts.setDay (digits? 1 2 r.rest)
  let r ← r.gap?
  let r ← r.setName Parts.setMonth 1 (shortName? Date.monthNames r.rest)
  let r ← r.gap?
  let r ← r.set Parts.setYear (mailYear? r.rest)
  let r ← r.gap?
  let r ← r.set Parts.setHour (digits? 2 2 r.rest)
  let r ← r.trimmed.skip ':'
  let r := r.trimmed
  let r ← r.set Parts.setMinute (digits? 2 2 r.rest)
  let r ← match r.trimmed.skip ':' with
    | some s => s.set Parts.setSecond (digits? 2 2 s.rest)
    | none => some r
  let r ← r.gap?
  let r ← r.set Parts.setOffset (mailOffset? r.rest)
  some { r with rest := dropComments r.rest.length r.rest }

end Reader

def partsBy? (pattern text : List Char) : Option Parts := do
  let r ← (itemsOf pattern).foldlM Reader.item? (Reader.start text)
  r.finished?

def partsOfTimestamp? (text : List Char) : Option Parts := do
  let r ← (Reader.start text).timestamp?
  r.finished?

def partsOfMail? (text : List Char) : Option Parts := do
  let r ← (Reader.start text).mailDate?
  r.finished?

end TidyRows.Calendar
