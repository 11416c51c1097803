/-!
# Retry policies

How often a transaction that ended in a conflict is run again, and how long to wait before that:
the wait doubles from one run to the next up to a ceiling. Waits are 64-bit numbers of milliseconds,
and a wait that does not fit counts as the largest that does.
-/

namespace QuadTxn

/-- How to react to a conflict. -/
structure RetryPolicy where
  /-- how often a transaction is run again -/
  maxRetries : UInt64
  /-- the wait before the first repetition, in milliseconds -/
  baseDelay : UInt64
  /-- the longest wait, in milliseconds -/
  maxDelay : UInt64
  deriving DecidableEq, Repr

namespace RetryPolicy

/-- The largest 64-bit number. -/
def ceiling : UInt64 := UInt64.ofNat (UInt64.size - 1)

/-- Three repetitions, after 10 milliseconds doubling up to 100. -/
def standard : RetryPolicy := ⟨3, 10, 100⟩

instance : Inhabited RetryPolicy := ⟨standard⟩

/-- No repetition. -/
def never : RetryPolicy := { standard with maxRetries := 0 }

/-- A number as an exponent, which has 32 bits, if it fits. -/
def exponent? (n : UInt64) : Option UInt32 :=
  if n.toNat < UInt32.size then some n.toUInt32 else none

/-- Two to the given power, if that is a 64-bit number. -/
def power? (e : UInt32) : Option UInt64 :=
  if e < 64 then some (1 <<< e.toUInt64) else none

/-- The product, if that is a 64-bit number. -/
def product? (a b : UInt64) : Option UInt64 :=
  if a.toNat * b.toNat < UInt64.size then some (a * b) else none

/-- The wait before the repetition with the given number, in milliseconds; the first has number
zero. -/
def backoff (p : RetryPolicy) (attempt : UInt64) : UInt64 :=
  let factor := ((exponent? attempt).bind power?).getD ceiling
  let delay := (product? p.baseDelay factor).getD ceiling
  if delay ≤ p.maxDelay then delay else p.maxDelay

end RetryPolicy

end QuadTxn
