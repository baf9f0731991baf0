import TidyRows.Handler.Basic
namespace TidyRows

structure Recorder where
  calls : List WriteCall
  -- The number of the call that fails, counted from one
  failOn : Option Nat
  message : String

namespace Recorder

def write : Handler Recorder := fun call r =>
  let after := { r with calls := r.calls ++ [call] }
  if r.failOn = some after.calls.length then (.error (.writeBack r.message), after) else (.ok (), after)

end Recorder

end TidyRows
