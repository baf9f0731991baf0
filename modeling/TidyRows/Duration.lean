import TidyRows.Number.Literal
import TidyRows.Number.Notation
import TidyRows.Unicode.Letter
namespace TidyRows

def wordLimit : Nat := 0x10000000000000000

def nanosPerSecond : Nat := 1000000000
def nanosPerMilli : Nat := 1000000

structure Duration where
  nanos : Nat
  small : nanos < wordLimit * nanosPerSecond
  deriving DecidableEq

namespace Duration

instance : Repr Duration := ⟨fun d n => reprPrec d.nanos n⟩

def ofNanos? (n : Nat) : Option Duration := if h : n < wordLimit * nanosPerSecond then some ⟨n, h⟩ else none

def zero : Duration := ⟨0, by decide⟩

def ofMillis (n : Nat) (h : n < wordLimit) : Duration :=
  ⟨n * nanosPerMilli, by unfold wordLimit nanosPerMilli nanosPerSecond at *; omega⟩

def ofMillis? (n : Nat) : Option Duration := if h : n < wordLimit then some (ofMillis n h) else none

def seconds (d : Duration) : Nat := d.nanos / nanosPerSecond

def millis (d : Duration) : Nat := d.nanos / nanosPerMilli

-- The first whole millisecond that is not before the end of the time.
def millisUp (d : Duration) : Nat := (d.nanos + nanosPerMilli - 1) / nanosPerMilli

structure Amount where
  seconds : Nat
  nanos : Nat

-- A unit: its names, and what it and a fraction of it amount to. Fractions are counted in the smaller of the two
-- measures where the unit is less than an hour.
structure TimeUnit where
  names : List String
  whole : Amount
  fraction : Option Amount

def bySeconds (names : List String) (n : Nat) : TimeUnit := ⟨names, ⟨n, 0⟩, some ⟨n, 0⟩⟩

def yearSeconds : Nat := 31557600
def monthSeconds : Nat := 2630016
def daySeconds : Nat := 86400

def units : List TimeUnit := [
  ⟨["nanos", "nsec", "ns"], ⟨0, 1⟩, none⟩,
  ⟨["usec", "us", "µs"], ⟨0, 1000⟩, some ⟨0, 1000⟩⟩,
  ⟨["millis", "msec", "ms"], ⟨0, 1000000⟩, some ⟨0, 1000000⟩⟩,
  ⟨["seconds", "second", "secs", "sec", "s"], ⟨1, 0⟩, some ⟨0, 1000000000⟩⟩,
  ⟨["minutes", "minute", "min", "mins", "m"], ⟨60, 0⟩, some ⟨0, 60000000000⟩⟩,
  bySeconds ["hours", "hour", "hr", "hrs", "h"] 3600,
  bySeconds ["days", "day", "d"] daySeconds,
  bySeconds ["weeks", "week", "wk", "wks", "w"] (7 * daySeconds),
  bySeconds ["months", "month", "M"] monthSeconds,
  bySeconds ["years", "year", "yr", "yrs", "y"] yearSeconds]

def unitOfName? (name : List Char) : Option TimeUnit := units.find? fun u => u.names.any fun n => n.toList == name

def word? (n : Nat) : Option Nat := if n < wordLimit then some n else none

def isUnitLetter (c : Char) : Bool := c.isAlpha || c == 'µ'

structure Term where
  whole : List Char
  fraction : Option (List Char)
  name : List Char

-- Adds `n` times an amount, divided by `d`. Every number on the way has to fit a word, and the division has to be
-- exact.
def addAmount? (n d : Nat) (a : Amount) (sum : Nat) : Option Nat := do
  let seconds ← word? (n * a.seconds)
  let nanos ← word? (n * a.nanos)
  if seconds % d != 0 || nanos % d != 0 then none
  let _ ← word? (sum % nanosPerSecond + nanos / d)
  let sum := sum + seconds / d * nanosPerSecond + nanos / d
  if sum / nanosPerSecond < wordLimit then some sum else none

def maxFractionDigits : Nat := 19

def addTerm? (t : Term) (sum : Nat) : Option Nat := do
  let u ← unitOfName? t.name
  let n ← word? (digitsValue 0 t.whole)
  let sum ← addAmount? n 1 u.whole sum
  match t.fraction with
  | none => some sum
  | some ds =>
    if ds.isEmpty || maxFractionDigits < ds.length then none
    addAmount? (digitsValue 0 ds) (Nat.pow 10 ds.length) (← u.fraction) sum

inductive Place where
  | between
  | whole (t : Term)
  | fraction (t : Term)
  | name (t : Term)

-- Blanks may stand between the digits of a number, but not inside the name of a unit.
def readTerms (done : List Term) : Place → List Char → Option (List Term)
  | .between, [] => some done.reverse
  | .name t, [] => some (t :: done).reverse
  | _, [] => none
  | .between, c :: rest =>
    if isDigit c then readTerms done (.whole ⟨[c], none, []⟩) rest
    else if Unicode.isBlank c then readTerms done .between rest
    else none
  | .whole t, c :: rest =>
    if isDigit c then readTerms done (.whole { t with whole := t.whole ++ [c] }) rest
    else if Unicode.isBlank c then readTerms done (.whole t) rest
    else if isUnitLetter c then readTerms done (.name { t with name := [c] }) rest
    else if c == '.' then readTerms done (.fraction { t with fraction := some [] }) rest
    else none
  | .fraction t, c :: rest =>
    if isDigit c then readTerms done (.fraction { t with fraction := some (t.fraction.getD [] ++ [c]) }) rest
    else if Unicode.isBlank c then readTerms done (.fraction t) rest
    else if isUnitLetter c then readTerms done (.name { t with name := [c] }) rest
    else none
  | .name t, c :: rest =>
    if isDigit c then readTerms (t :: done) (.whole ⟨[c], none, []⟩) rest
    else if Unicode.isBlank c then readTerms (t :: done) .between rest
    else if isUnitLetter c then readTerms done (.name { t with name := t.name ++ [c] }) rest
    else none

def ofText? (cs : List Char) : Option Duration := do
  if cs == ['0'] then return zero
  let terms ← readTerms [] .between cs
  if terms.isEmpty then none
  ofNanos? (← terms.foldlM (fun sum t => addTerm? t sum) 0)

def countText (n : Nat) (name : String) : Option String :=
  if n = 0 then none else some (String.ofList (natText n) ++ name)

def pluralText (n : Nat) (name : String) : Option String := countText n (if 1 < n then name ++ "s" else name)

-- Years of 365.25 days, months of 30.44 days, and so on down to nanoseconds. Units with none are left out.
def text (d : Duration) : String :=
  let months := d.seconds % yearSeconds
  let days := months % monthSeconds
  let inDay := days % daySeconds
  let parts := [pluralText (d.seconds / yearSeconds) "year", pluralText (months / monthSeconds) "month",
    pluralText (days / daySeconds) "day", countText (inDay / 3600) "h", countText (inDay % 3600 / 60) "m",
    countText (inDay % 60) "s", countText (d.nanos % nanosPerSecond / 1000000) "ms",
    countText (d.nanos % 1000000 / 1000) "us", countText (d.nanos % 1000) "ns"]
  match parts.filterMap id with
  | [] => "0s"
  | parts => " ".intercalate parts

end Duration
end TidyRows
