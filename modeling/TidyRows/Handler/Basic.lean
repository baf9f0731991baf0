import TidyRows.Fault
namespace TidyRows

structure WriteCall where
  rows : List Row
  target : WriteBack

abbrev Handler (σ : Type) := WriteCall → σ → Except Fault Unit × σ

namespace Handler

def refuse : Handler σ := fun call s => (.error (.unsupportedStrategy call.target.strategy.name), s)

def onFirst (h : Handler σ) : Handler (σ × τ) := fun call s =>
  let (r, first) := h call s.1
  (r, (first, s.2))

def onSecond (h : Handler τ) : Handler (σ × τ) := fun call s =>
  let (r, second) := h call s.2
  (r, (s.1, second))

end Handler
end TidyRows
