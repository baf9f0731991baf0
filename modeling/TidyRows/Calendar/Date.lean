namespace TidyRows

structure Date where
  year : Int
  month : Nat
  day : Nat
  deriving DecidableEq, Repr

namespace Date

def minYear : Int := -262143
def maxYear : Int := 262142

def isLeap (y : Int) : Bool := y % 4 == 0 && (y % 100 != 0 || y % 400 == 0)

def monthLengths (y : Int) : List Nat := [31, if isLeap y then 29 else 28, 31, 30, 31, 30, 31, 31, 30, 31, 30, 31]

def monthLength (y : Int) (m : Nat) : Nat := ((monthLengths y)[m - 1]?).getD 0
def yearLength (y : Int) : Nat := if isLeap y then 366 else 365

def ofParts? (y : Int) (m d : Nat) : Option Date :=
  if minYear ≤ y ∧ y ≤ maxYear ∧ 1 ≤ m ∧ m ≤ 12 ∧ 1 ≤ d ∧ d ≤ monthLength y m then some ⟨y, m, d⟩ else none

def daysBefore (y : Int) (m : Nat) : Nat := ((monthLengths y).take (m - 1)).foldl (· + ·) 0

def ordinal (d : Date) : Nat := daysBefore d.year d.month + d.day

def splitOrdinal : List Nat → Nat → Nat → Nat × Nat
  | [], m, n => (m, n)
  | l :: rest, m, n => if n ≤ l then (m, n) else splitOrdinal rest (m + 1) (n - l)

def ofOrdinal? (y : Int) (n : Nat) : Option Date :=
  if minYear ≤ y ∧ y ≤ maxYear ∧ 1 ≤ n ∧ n ≤ yearLength y then
    let (m, d) := splitOrdinal (monthLengths y) 1 n
    some ⟨y, m, d⟩
  else none

def daysBeforeYear (y : Int) : Int :=
  let p := y - 1
  365 * p + p / 4 - p / 100 + p / 400

def epoch : Int := 719162

def dayNumber (d : Date) : Int := daysBeforeYear d.year + d.ordinal - 1 - epoch

-- The year that holds a day of the count from year one. The mean length of a year leaves the guess at most one off.
def yearOf (n : Int) : Int :=
  let guess := n * 400 / 146097 + 1
  if n < daysBeforeYear guess then guess - 1
  else if daysBeforeYear (guess + 1) ≤ n then guess + 1
  else guess

def ofDayNumber? (n : Int) : Option Date :=
  let n := n + epoch
  let y := yearOf n
  ofOrdinal? y (n - daysBeforeYear y + 1).toNat

-- Monday is zero.
def weekday (d : Date) : Nat := ((d.dayNumber + 3) % 7).toNat

def daysSince (day start : Nat) : Nat := (day + 7 - start) % 7

-- The week of the year when weeks start on the given day and the first full one is week one.
def weekFrom (start : Nat) (d : Date) : Nat := (d.ordinal + 6 - daysSince d.weekday start) / 7

-- How many weeks a year has when its first week is the one with the first Thursday.
def isoWeeks (y : Int) : Nat :=
  let first := (⟨y, 1, 1⟩ : Date).weekday
  if first = 3 ∨ (first = 2 ∧ isLeap y) then 53 else 52

def isoWeek (d : Date) : Int × Nat :=
  let n := (d.ordinal + 9 - d.weekday) / 7
  if n = 0 then (d.year - 1, isoWeeks (d.year - 1))
  else if isoWeeks d.year < n then (d.year + 1, 1)
  else (d.year, n)

def ofIsoWeek? (y : Int) (week day : Nat) : Option Date :=
  if 1 ≤ week ∧ week ≤ isoWeeks y ∧ minYear ≤ y ∧ y ≤ maxYear then
    let fourth : Date := ⟨y, 1, 4⟩
    ofDayNumber? (fourth.dayNumber - fourth.weekday + 7 * (week - 1) + day)
  else none

def ofWeek? (y : Int) (week day start : Nat) : Option Date :=
  if week ≤ 53 ∧ minYear ≤ y ∧ y ≤ maxYear then
    let first : Date := ⟨y, 1, 1⟩
    let ordinal : Int := 1 + daysSince start first.weekday + ((week : Int) - 1) * 7 + daysSince day start
    if 0 < ordinal then ofOrdinal? y ordinal.toNat else none
  else none

def quarter (d : Date) : Nat := (d.month - 1) / 3 + 1

def monthNames : List String := ["January", "February", "March", "April", "May", "June", "July", "August",
  "September", "October", "November", "December"]

def weekdayNames : List String :=
  ["Monday", "Tuesday", "Wednesday", "Thursday", "Friday", "Saturday", "Sunday"]

end Date
end TidyRows
