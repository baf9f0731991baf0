import TidyRows.Calendar.Date
namespace TidyRows

structure Clock where
  hour : Nat
  minute : Nat
  second : Nat
  nanosecond : Nat
  deriving DecidableEq, Repr

structure Moment where
  date : Date
  clock : Clock
  deriving DecidableEq, Repr

namespace Clock

def midnight : Clock := ⟨0, 0, 0, 0⟩

-- Seconds since midnight. A leap second counts as the one before it.
def seconds (c : Clock) : Nat := 3600 * c.hour + 60 * c.minute + min c.second 59

def ofSeconds (n : Nat) : Clock := ⟨n / 3600, n / 60 % 60, n % 60, 0⟩

def hour12 (c : Clock) : Nat := if c.hour % 12 = 0 then 12 else c.hour % 12

def afternoon (c : Clock) : Bool := 12 ≤ c.hour

end Clock

namespace Moment

def ofDate (d : Date) : Moment := ⟨d, .midnight⟩

def timestamp (m : Moment) : Int := 86400 * m.date.dayNumber + m.clock.seconds

def ofTimestamp? (n : Int) : Option Moment :=
  (Date.ofDayNumber? (n / 86400)).map (⟨·, Clock.ofSeconds (n % 86400).toNat⟩)

-- A leap second is moved as the one before it, and stays one second later than that.
def shift? (m : Moment) (seconds : Int) : Option Moment :=
  (ofTimestamp? (m.timestamp + seconds)).map fun moved =>
    let second := if m.clock.second = 60 then moved.clock.second + 1 else moved.clock.second
    { moved with clock := { moved.clock with second, nanosecond := m.clock.nanosecond } }

end Moment
end TidyRows
