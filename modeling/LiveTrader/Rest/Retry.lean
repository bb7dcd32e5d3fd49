import LiveTrader.Fault
import LiveTrader.Time.Span

/-!
  LiveTrader.Rest.Retry

  Repeating private calls.  Only throttling and network failures are worth another
  attempt; before it the caller waits, twice as long after each failure.
-/

namespace LiveTrader

/-- How often a call is attempted, and how long to wait after the first failure. -/
structure RetryPolicy where
  maxAttempts : Nat
  baseDelay : Span
  deriving DecidableEq

namespace RetryPolicy

/-- A policy with at least one attempt. -/
def of (maxAttempts : Nat) (baseDelay : Span) : RetryPolicy :=
  ⟨Nat.max maxAttempts 1, baseDelay⟩

/-- A policy whose delay is a number of seconds.  What is not a positive finite number
    stands for no delay; a number of seconds that 64 bits do not hold gives no
    policy. -/
def ofFloatSeconds? (maxAttempts : Nat) (seconds : Binary64) : Option RetryPolicy :=
  let seconds := if seconds.isFinite && 0 < seconds.rank then seconds else .zero
  (Span.ofFloatSeconds? seconds).map (of maxAttempts)

/-- One attempt. -/
def singleShot : RetryPolicy := of 1 .zero

/-- The policy unless another is configured. -/
def standard : RetryPolicy := of 3 .zero

/-- The wait after the failure of the attempt with this index. -/
def delayAfter (p : RetryPolicy) (index : Nat) : Span :=
  p.baseDelay.saturatingMul (if index < 32 then pow2 index else pow2 32 - 1)

variable {m : Type → Type} [Monad m] {α : Type}

/-- Makes up to `left` further attempts, the next one with index `index`. -/
def attempts (p : RetryPolicy) (sleep : Span → m Unit)
    (call : Nat → m (Except Fault α)) (index : Nat) :
    (left : Nat) → m (Except Fault α)
  | 0 => pure (.error .retryExhausted)
  | left + 1 => do
    match ← call index with
    | .ok value => pure (.ok value)
    | .error fault =>
      if !fault.category.isTransient then pure (.error fault)
      else if left = 0 then pure (.error .retryExhausted)
      else do
        let delay := p.delayAfter index
        if delay.nanos ≠ 0 then sleep delay
        p.attempts sleep call (index + 1) left

/-- Calls until there is a success or a failure that will not pass, or no attempt is
    left. -/
def run (p : RetryPolicy) (sleep : Span → m Unit)
    (call : Nat → m (Except Fault α)) : m (Except Fault α) :=
  p.attempts sleep call 0 p.maxAttempts

end RetryPolicy

end LiveTrader
