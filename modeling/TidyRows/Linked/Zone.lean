import TidyRows.Libraries
namespace TidyRows

inductive SummerRule where
  -- Second Sunday of March to first Sunday of November, at two by the local clock
  | northAmerica
  -- Last Sunday of March to last Sunday of October, at one in universal time
  | europe
  -- First Sunday of October to first Sunday of April, at two by the standard clock
  | australia
  -- Last Sunday of September to first Sunday of April, at two by the standard clock
  | newZealand
  deriving DecidableEq, Repr

structure Zone where
  -- Minutes east of universal time
  standard : Int
  summer : Option SummerRule
  deriving DecidableEq, Repr

namespace Zone

def hour : Int := 3600

def sundayFrom (y : Int) (m d : Nat) : Int :=
  let day : Date := ⟨y, m, d⟩
  86400 * (day.dayNumber + (6 - day.weekday : Nat))

def standardSeconds (z : Zone) : Int := 60 * z.standard

def changes (rule : SummerRule) (standard : Int) (y : Int) : Int × Int :=
  match rule with
  | .northAmerica => (sundayFrom y 3 8 + 2 * hour - standard, sundayFrom y 11 1 + hour - standard)
  | .europe => (sundayFrom y 3 25 + hour, sundayFrom y 10 25 + hour)
  | .australia => (sundayFrom y 10 1 + 2 * hour - standard, sundayFrom y 4 1 + 2 * hour - standard)
  | .newZealand => (sundayFrom y 9 24 + 2 * hour - standard, sundayFrom y 4 1 + 2 * hour - standard)

-- In the south the end of summer comes first in the year.
def isSummer (rule : SummerRule) (standard instant : Int) : Bool :=
  let (start, stop) := changes rule standard (Date.yearOf ((instant + standard) / 86400 + Date.epoch))
  if start < stop then start ≤ instant && instant < stop else instant < stop || start ≤ instant

def offsetAt (z : Zone) (instant : Int) : Int :=
  match z.summer with
  | some rule =>
    if isSummer rule z.standardSeconds instant then z.standardSeconds + hour else z.standardSeconds
  | none => z.standardSeconds

def offsets (z : Zone) (m : Moment) : Offsets :=
  match [z.standardSeconds + hour, z.standardSeconds].filter fun o => z.offsetAt (m.timestamp - o) == o with
  | [] => .skipped
  | [o] => .once o
  | earlier :: later :: _ => .twice earlier later

def fixed (minutes : Int) : Zone := ⟨minutes, none⟩

def known : List (String × Zone) := [
  ("UTC", fixed 0), ("Etc/UTC", fixed 0), ("GMT", fixed 0), ("Etc/GMT", fixed 0), ("Zulu", fixed 0),
  ("America/New_York", ⟨-300, some .northAmerica⟩), ("America/Toronto", ⟨-300, some .northAmerica⟩),
  ("America/Chicago", ⟨-360, some .northAmerica⟩), ("America/Denver", ⟨-420, some .northAmerica⟩),
  ("America/Phoenix", fixed (-420)), ("America/Los_Angeles", ⟨-480, some .northAmerica⟩),
  ("America/Vancouver", ⟨-480, some .northAmerica⟩), ("America/Bogota", fixed (-300)),
  ("America/Lima", fixed (-300)), ("America/Sao_Paulo", fixed (-180)),
  ("America/Argentina/Buenos_Aires", fixed (-180)),
  ("Europe/London", ⟨0, some .europe⟩), ("Europe/Lisbon", ⟨0, some .europe⟩), ("Europe/Dublin", ⟨0, some .europe⟩),
  ("Europe/Paris", ⟨60, some .europe⟩), ("Europe/Berlin", ⟨60, some .europe⟩), ("Europe/Madrid", ⟨60, some .europe⟩),
  ("Europe/Rome", ⟨60, some .europe⟩), ("Europe/Amsterdam", ⟨60, some .europe⟩),
  ("Europe/Brussels", ⟨60, some .europe⟩), ("Europe/Vienna", ⟨60, some .europe⟩),
  ("Europe/Zurich", ⟨60, some .europe⟩), ("Europe/Stockholm", ⟨60, some .europe⟩),
  ("Europe/Oslo", ⟨60, some .europe⟩), ("Europe/Copenhagen", ⟨60, some .europe⟩),
  ("Europe/Warsaw", ⟨60, some .europe⟩), ("Europe/Prague", ⟨60, some .europe⟩),
  ("Europe/Athens", ⟨120, some .europe⟩), ("Europe/Helsinki", ⟨120, some .europe⟩),
  ("Europe/Istanbul", fixed 180), ("Europe/Moscow", fixed 180),
  ("Africa/Johannesburg", fixed 120), ("Africa/Lagos", fixed 60), ("Africa/Nairobi", fixed 180),
  ("Asia/Dubai", fixed 240), ("Asia/Karachi", fixed 300), ("Asia/Kolkata", fixed 330),
  ("Asia/Bangkok", fixed 420), ("Asia/Jakarta", fixed 420), ("Asia/Shanghai", fixed 480),
  ("Asia/Singapore", fixed 480), ("Asia/Hong_Kong", fixed 480), ("Asia/Taipei", fixed 480),
  ("Asia/Manila", fixed 480), ("Asia/Seoul", fixed 540), ("Asia/Tokyo", fixed 540),
  ("Australia/Sydney", ⟨600, some .australia⟩), ("Australia/Melbourne", ⟨600, some .australia⟩),
  ("Australia/Brisbane", fixed 600), ("Australia/Adelaide", ⟨570, some .australia⟩),
  ("Australia/Perth", fixed 480), ("Pacific/Auckland", ⟨720, some .newZealand⟩)]

-- The zones named by a number of hours count them west of universal time.
def numbered : List (String × Zone) :=
  (List.range 13).map (fun (n : Nat) => (s!"Etc/GMT+{n}", fixed (-60 * (n : Int))))
    ++ (List.range 15).map fun (n : Nat) => (s!"Etc/GMT-{n}", fixed (60 * (n : Int)))

def ofName? (name : String) : Option Zone := (known.lookup name).or (numbered.lookup name)

end Zone
end TidyRows
