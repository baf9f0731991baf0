import TidyRows.Calendar.Moment
namespace TidyRows.Calendar

inductive Lack where
  | insufficient
  | impossible
  deriving DecidableEq, Repr

structure Parts where
  year : Option Int
  century : Option Int
  yearOfCentury : Option Int
  isoYear : Option Int
  isoYearOfCentury : Option Int
  quarter : Option Int
  month : Option Int
  day : Option Int
  weekFromSunday : Option Int
  weekFromMonday : Option Int
  isoWeek : Option Int
  -- Monday is zero
  weekday : Option Int
  ordinal : Option Int
  -- Zero before noon and one after
  half : Option Int
  hourOfHalf : Option Int
  minute : Option Int
  second : Option Int
  nanosecond : Option Int
  timestamp : Option Int
  -- Seconds east of universal time
  offset : Option Int
  deriving DecidableEq, Repr

namespace Parts

def empty : Parts :=
  ⟨none, none, none, none, none, none, none, none, none, none, none, none, none, none, none, none, none, none,
    none, none⟩

def agree (low high : Int) (known : Option Int) (n : Int) : Option (Option Int) :=
  if low ≤ n ∧ n ≤ high ∧ (known = none ∨ known = some n) then some (some n) else none

def maxInt32 : Int := 0x7fffffff

def setYear (p : Parts) (n : Int) : Option Parts :=
  (agree (-0x80000000) maxInt32 p.year n).map fun v => { p with year := v }
def setMonth (p : Parts) (n : Int) : Option Parts := (agree 1 12 p.month n).map fun v => { p with month := v }
def setDay (p : Parts) (n : Int) : Option Parts := (agree 1 31 p.day n).map fun v => { p with day := v }
def setWeekday (p : Parts) (n : Int) : Option Parts :=
  (agree 0 6 p.weekday n).map fun v => { p with weekday := v }
def setOrdinal (p : Parts) (n : Int) : Option Parts :=
  (agree 1 366 p.ordinal n).map fun v => { p with ordinal := v }
def setHalf (p : Parts) (n : Int) : Option Parts := (agree 0 1 p.half n).map fun v => { p with half := v }
def setHourOfHalf (p : Parts) (n : Int) : Option Parts :=
  (agree 0 11 p.hourOfHalf n).map fun v => { p with hourOfHalf := v }
def setHour (p : Parts) (n : Int) : Option Parts :=
  if 0 ≤ n ∧ n ≤ 23 then (p.setHalf (n / 12)).bind (·.setHourOfHalf (n % 12)) else none
def setMinute (p : Parts) (n : Int) : Option Parts := (agree 0 59 p.minute n).map fun v => { p with minute := v }
def setSecond (p : Parts) (n : Int) : Option Parts := (agree 0 60 p.second n).map fun v => { p with second := v }
def setNanosecond (p : Parts) (n : Int) : Option Parts :=
  (agree 0 999999999 p.nanosecond n).map fun v => { p with nanosecond := v }
def setOffset (p : Parts) (n : Int) : Option Parts :=
  (agree (-0x80000000) maxInt32 p.offset n).map fun v => { p with offset := v }

-- The year from its full form, or from its century and its last two digits, which agree with it. Without a century the
-- years go from 1970 to 2069.
def fullYear (year century last : Option Int) : Except Lack (Option Int) :=
  match year, century, last with
  | y, none, none => .ok y
  | some y, c, r =>
    if 0 ≤ y ∧ c.getD (y / 100) = y / 100 ∧ r.getD (y % 100) = y % 100 then .ok (some y)
    else .error .impossible
  | none, some c, some r => .ok (some (c * 100 + r))
  | none, none, some r => .ok (some (if r < 70 then 2000 + r else 1900 + r))
  | none, some _, none => .error .insufficient

def agrees (known : Option Int) (n : Int) : Bool := known.getD n == n

-- A part of a year that only years from zero on have.
def agreesFrom (y : Int) (known : Option Int) (n : Int) : Bool :=
  if 0 ≤ y then agrees known n else known.isNone

def agreesYmd (p : Parts) (d : Date) : Bool :=
  agrees p.year d.year && agreesFrom d.year p.century (d.year / 100)
    && agreesFrom d.year p.yearOfCentury (d.year % 100) && agrees p.month d.month && agrees p.day d.day

def agreesWeek (p : Parts) (d : Date) : Bool :=
  let (y, w) := d.isoWeek
  agrees p.isoYear y && agreesFrom y p.isoYearOfCentury (y % 100) && agrees p.isoWeek w
    && agrees p.weekday d.weekday

def agreesOrdinal (p : Parts) (d : Date) : Bool :=
  agrees p.ordinal d.ordinal && agrees p.weekFromSunday (d.weekFrom 6) && agrees p.weekFromMonday (d.weekFrom 0)

def possible (o : Option α) : Except Lack α :=
  match o with
  | some a => .ok a
  | none => .error .impossible

def candidate (p : Parts) (year isoYear : Option Int) : Except Lack Date :=
  match year, p.month, p.day with
  | some y, some m, some d => possible (Date.ofParts? y m.toNat d.toNat)
  | _, _, _ => match year, p.ordinal with
    | some y, some n => possible (Date.ofOrdinal? y n.toNat)
    | _, _ => match year, p.weekFromSunday, p.weekday with
      | some y, some w, some d => possible (Date.ofWeek? y w.toNat d.toNat 6)
      | _, _, _ => match year, p.weekFromMonday, p.weekday with
        | some y, some w, some d => possible (Date.ofWeek? y w.toNat d.toNat 0)
        | _, _, _ => match isoYear, p.isoWeek, p.weekday with
          | some y, some w, some d => possible (Date.ofIsoWeek? y w.toNat d.toNat)
          | _, _, _ => .error .insufficient

def date (p : Parts) : Except Lack Date := do
  let year ← fullYear p.year p.century p.yearOfCentury
  let isoYear ← fullYear p.isoYear none p.isoYearOfCentury
  let d ← candidate p year isoYear
  if p.agreesYmd d && p.agreesWeek d && p.agreesOrdinal d && agrees p.quarter d.quarter then .ok d
  else .error .impossible

def clock (p : Parts) : Except Lack Clock :=
  match p.half, p.hourOfHalf, p.minute with
  | some half, some hour, some minute =>
    if p.nanosecond.isSome && p.second.isNone then .error .insufficient
    else .ok ⟨(12 * half + hour).toNat, minute.toNat, (p.second.getD 0).toNat, (p.nanosecond.getD 0).toNat⟩
  | _, _, _ => .error .insufficient

-- Of a timestamp and a leap second, the timestamp may be that of the next second.
def agreesTimestamp (p : Parts) (m : Moment) (offset : Int) : Bool :=
  match p.timestamp with
  | none => true
  | some n => n == m.timestamp - offset || (m.clock.second == 60 && n == m.timestamp - offset + 1)

def fromTimestamp (p : Parts) (n : Int) : Option Moment := do
  let told ← Moment.ofTimestamp? n
  let (p, told) ← if p.second = some 60 then
      match told.clock.second with
      | 59 => some (p, told)
      | 0 => (Moment.ofTimestamp? (n - 1)).map (p, ·)
      | _ => none
    else (p.setSecond told.clock.second).map (·, told)
  let p ← p.setYear told.date.year
  let p ← p.setOrdinal told.date.ordinal
  let p ← p.setHour told.clock.hour
  let p ← p.setMinute told.clock.minute
  match p.date, p.clock with
  | .ok d, .ok c => some ⟨d, c⟩
  | _, _ => none

def momentAt (p : Parts) (offset : Int) : Option Moment :=
  match p.date, p.clock, p.timestamp with
  | .ok d, .ok c, _ => if p.agreesTimestamp ⟨d, c⟩ offset then some ⟨d, c⟩ else none
  | .error .impossible, _, _ => none
  | _, .error .impossible, _ => none
  | _, _, some n => p.fromTimestamp (n + offset)
  | _, _, none => none

def moment (p : Parts) : Option Moment := p.momentAt 0

def date? (p : Parts) : Option Date :=
  match p.date with
  | .ok d => some d
  | .error _ => none

def maxOffset : Int := 86400

-- The moment and its offset. A timestamp without offset is one of universal time.
def withOffset (p : Parts) : Option (Moment × Int) := do
  let offset ← p.offset.or (p.timestamp.map fun _ => 0)
  let m ← p.momentAt offset
  if -maxOffset < offset ∧ offset < maxOffset then some (m, offset) else none

def universal (p : Parts) : Option Moment := do
  let (m, offset) ← p.withOffset
  m.shift? (-offset)

end Parts
end TidyRows.Calendar
