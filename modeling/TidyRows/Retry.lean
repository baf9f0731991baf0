import TidyRows.Duration
import TidyRows.Fault
namespace TidyRows

structure RetryPolicy where
  -- Calls after the first one
  maxRetries : UInt32
  initialDelay : Duration
  maxDelay : Duration
  multiplier : Double
  jitter : Bool

namespace RetryPolicy

def standard : RetryPolicy := ⟨3, .ofMillis 200 (by decide), .ofMillis 5000 (by decide), .ofNat 2, true⟩

def once : RetryPolicy := { standard with maxRetries := 0 }

def fixed (maxRetries : UInt32) (wait : Duration) : RetryPolicy := ⟨maxRetries, wait, wait, .one, false⟩

def jitterPercent : UInt64 := 25

-- A power with an exponent of 32 bits: those from the middle up stand for negative ones.
def powWord (base : Double) (n : UInt32) : Double :=
  if n.toNat < 0x80000000 then base.pow n.toNat else .one / base.pow (0x100000000 - n.toNat)

-- The wait before a retry, in milliseconds, without jitter. The first retry has number one.
def plainDelay (p : RetryPolicy) (retry : UInt32) : UInt64 :=
  let exponent := if retry == 0 then 0 else retry - 1
  let grown := Double.ofNat p.initialDelay.millis * powWord p.multiplier exponent
  .ofNat ((grown.minNumber (Double.ofNat p.maxDelay.millis)).toNatClamped 0xffffffffffffffff)

def checkedAdd (a b : UInt64) : Option UInt64 := if a.toNat + b.toNat < UInt64.size then some (a + b) else none

def checkedMul (a b : UInt64) : Option UInt64 := if a.toNat * b.toNat < UInt64.size then some (a * b) else none

def jitterUpTo (most : UInt64) (clock : Nat) : UInt64 := if most == 0 then 0 else .ofNat (clock % (most.toNat + 1))

def withJitter (plain : UInt64) (clock : Nat) : Option UInt64 :=
  (checkedMul plain jitterPercent).bind fun percents => checkedAdd plain (jitterUpTo (percents / 100) clock)

def delay? (p : RetryPolicy) (retry : UInt32) (clock : Nat) : Option UInt64 :=
  if p.jitter then withJitter (p.plainDelay retry) clock else some (p.plainDelay retry)

-- The percents overflow before the sum does, whatever the clock shows.
def overflows (p : RetryPolicy) (retry : UInt32) : Bool := p.jitter && (checkedMul (p.plainDelay retry) jitterPercent).isNone

def millisPerSecond : Nat := 1000

-- Asked for only where the wait does not overflow.
def wait (p : RetryPolicy) (fault : BoardFault) (attempt : UInt32) (clock : Nat) : Nat :=
  let own := ((p.delay? attempt clock).getD 0).toNat
  match fault with
  | .rateLimited seconds => max own (seconds * millisPerSecond)
  | _ => own

-- How many calls may be made. Where one more than the retries is beyond a word, the sum overflows.
def attempts? (p : RetryPolicy) : Option UInt32 :=
  if p.maxRetries = 0xffffffff then none else some (p.maxRetries + 1)

def leaves (p : RetryPolicy) (attempt : UInt32) : Bool := p.attempts?.any (attempt < ·)

def again (p : RetryPolicy) (fault : BoardFault) (attempt : UInt32) : Bool :=
  fault.retryable && p.leaves attempt && !p.overflows attempt

-- Another attempt is due, and there is no wait before it.
def breaks (p : RetryPolicy) (attempt : UInt32) : Except BoardFault α → Bool
  | .ok _ => false
  | .error fault => fault.retryable && p.leaves attempt && p.overflows attempt

def next? (p : RetryPolicy) (fault : BoardFault) (attempt : UInt32) (clock : Nat) : Option Nat :=
  if p.again fault attempt then some (p.wait fault attempt clock) else none

end RetryPolicy

structure Answered (α σ : Type) where
  answer : Except BoardFault α
  duration : Nat
  -- The nanoseconds that the system's clock shows when it has answered
  clock : Nat
  after : σ

structure Attempted (α σ : Type) where
  answer : Except BoardFault α
  attempts : UInt32
  now : Nat
  after : σ

namespace RetryPolicy

def runFrom (p : RetryPolicy) (operation : Nat → σ → Answered α σ) :
    (left : Nat) → (attempt : UInt32) → (now : Nat) → σ → Attempted α σ
  | left, attempt, now, state =>
    let a := operation now state
    let now := now + a.duration
    match a.answer with
    | .ok v => ⟨.ok v, attempt, now, a.after⟩
    | .error fault =>
      match left, p.next? fault attempt a.clock with
      | left + 1, some wait => runFrom p operation left (attempt + 1) (now + wait) a.after
      | _, _ => ⟨.error fault, attempt, now, a.after⟩

def tries (p : RetryPolicy) (operation : Nat → σ → Answered α σ) (now : Nat) (state : σ) : Attempted α σ :=
  p.runFrom operation p.maxRetries.toNat 1 now state

-- The attempts are counted before the first call. The program does not outlive an overflow.
def run (p : RetryPolicy) (operation : Nat → σ → Answered α σ) (now : Nat) (state : σ) : Option (Attempted α σ) :=
  if p.attempts?.isNone then none
  else
    let a := p.tries operation now state
    if p.breaks a.attempts a.answer then none else some a

end RetryPolicy
end TidyRows
