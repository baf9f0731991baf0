import TidyRows.Calendar.Moment
namespace TidyRows

-- How many seconds east of universal time the clocks of a zone are when they show a moment. They may skip it, or show it
-- twice.
inductive Offsets where
  | skipped
  | once (seconds : Int)
  | twice (earlier later : Int)

namespace Offsets

-- The universal time of a moment that the clocks show. It is the first of two if there are two.
def universal? (m : Moment) : Offsets → Option Moment
  | skipped => none
  | once seconds => m.shift? (-seconds)
  | twice earlier later => do
    let first ← m.shift? (-earlier)
    let _ ← m.shift? (-later)
    return first

end Offsets

-- What is known elsewhere: the zones of the world by name, and what texts a pattern occurs in, or why it is none.
class Libraries where
  zone? : String → Option (Moment → Offsets)
  compile : String → Except String (List Char → Bool)

namespace Bare

-- Neither zones nor patterns. A run that asks for none goes the same way with any libraries.
scoped instance libraries : Libraries where
  zone? _ := none
  compile _ := .error "no patterns"

end Bare
end TidyRows
