import TidyRows.Unicode.Letter
import TidyRows.Number.Literal
import TidyRows.Calendar.Moment
import TidyRows.Calendar.Pattern
namespace TidyRows.Calendar

def itemsOf (cs : List Char) : List Item := Item.readFrom Unicode.isBlank cs.length cs

namespace Item

-- Two digits. The tens of a larger number go on after the digits in the order of characters.
def twoDigits (pad : Pad) (n : Nat) : List Char :=
  let ones := digitChar (n % 10)
  match n / 10, pad with
  | 0, .nothing => [ones]
  | 0, .blank => [' ', ones]
  | tens, _ => [Char.ofNat ('0'.toNat + tens), ones]

def fill (pad : Pad) (width : Nat) (sign digits : List Char) : List Char :=
  match pad with
  | .nothing => sign ++ digits
  | .zero => sign ++ List.replicate (width - sign.length - digits.length) '0' ++ digits
  | .blank => List.replicate (width - sign.length - digits.length) ' ' ++ sign ++ digits

def minusSign (n : Int) : List Char := if n < 0 then ['-'] else []

-- Four digits, and a sign when the year has more of them or is negative.
def yearText (pad : Pad) (y : Int) : List Char :=
  if 0 ≤ y ∧ y ≤ 9999 then fill pad 4 [] (natText y.natAbs)
  else fill pad 5 [if y < 0 then '-' else '+'] (natText y.natAbs)

-- A century is written from its lowest eight bits.
def centuryText (pad : Pad) (y : Int) : List Char := twoDigits pad ((y / 100) % 256).toNat

def numberText (pad : Pad) (m : Moment) : NumberField → List Char
  | .year => yearText pad m.date.year
  | .century => centuryText pad m.date.year
  | .yearOfCentury => twoDigits pad (m.date.year % 100).toNat
  | .isoYear => yearText pad m.date.isoWeek.1
  | .isoYearOfCentury => twoDigits pad (m.date.isoWeek.1 % 100).toNat
  | .quarter => [digitChar m.date.quarter]
  | .month => twoDigits pad m.date.month
  | .day => twoDigits pad m.date.day
  | .weekFromSunday => twoDigits pad (m.date.weekFrom 6)
  | .weekFromMonday => twoDigits pad (m.date.weekFrom 0)
  | .isoWeek => twoDigits pad m.date.isoWeek.2
  | .daysFromSunday => [digitChar ((m.date.weekday + 1) % 7)]
  | .dayFromMonday => [digitChar (m.date.weekday + 1)]
  | .ordinal => fill pad 3 [] (natText m.date.ordinal)
  | .hour => twoDigits pad m.clock.hour
  | .hour12 => twoDigits pad m.clock.hour12
  | .minute => twoDigits pad m.clock.minute
  | .second => twoDigits pad m.clock.second
  | .nanosecond => fill pad 9 [] (natText m.clock.nanosecond)
  | .timestamp => fill pad 9 (minusSign m.timestamp) (natText m.timestamp.natAbs)

def nameOf (names : List String) (n : Nat) : List Char := (names[n]?.getD "").toList

def fractionDigitsText (places n : Nat) : List Char := paddedText places (n / Nat.pow 10 (9 - places))

def fractionText (n : Nat) : List Char :=
  if n = 0 then []
  else if n % 1000000 = 0 then '.' :: fractionDigitsText 3 n
  else if n % 1000 = 0 then '.' :: fractionDigitsText 6 n
  else '.' :: fractionDigitsText 9 n

def fieldText? (m : Moment) : TextField → Option (List Char)
  | .shortMonth => some ((nameOf Date.monthNames (m.date.month - 1)).take 3)
  | .longMonth => some (nameOf Date.monthNames (m.date.month - 1))
  | .shortWeekday => some ((nameOf Date.weekdayNames m.date.weekday).take 3)
  | .longWeekday => some (nameOf Date.weekdayNames m.date.weekday)
  | .lowerHalf => some (if m.clock.afternoon then ['p', 'm'] else ['a', 'm'])
  | .upperHalf => some (if m.clock.afternoon then ['P', 'M'] else ['A', 'M'])
  | .fraction => some (fractionText m.clock.nanosecond)
  | .fractionPlaces n => some ('.' :: fractionDigitsText n m.clock.nanosecond)
  | .fractionDigits n => some (fractionDigitsText n m.clock.nanosecond)
  | .zoneName => none
  | .offset => none
  | .looseOffset => none
  | .timestampText => none

def write? (m : Moment) : Item → Option (List Char)
  | .literal t => some t
  | .blanks t => some t
  | .number f pad => some (numberText pad m f)
  | .text f => fieldText? m f
  | .unknown => none

end Item

def write? (m : Moment) (pattern : List Char) : Option (List Char) :=
  ((itemsOf pattern).mapM (Item.write? m)).map List.flatten

def universalText (m : Moment) : List Char :=
  let two := Item.twoDigits .zero
  Item.yearText .zero m.date.year ++ '-' :: two m.date.month ++ '-' :: two m.date.day ++ 'T' :: two m.clock.hour
    ++ ':' :: two m.clock.minute ++ ':' :: two m.clock.second ++ ['Z']

end TidyRows.Calendar
