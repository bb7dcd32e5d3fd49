import LiveTrader.Rest.Retry

/-!
  LiveTrader.Rest.Scripted

  Calls for dry runs of the retry policy: their outcomes come from a script, and time passes
  only in waits.
-/

namespace LiveTrader

/-- Scripted calls. -/
structure ScriptedCalls (α : Type) where
  /-- The outcome of the attempt with each index; the last one is repeated. -/
  outcomes : List (Except Fault α)
  /-- The indexes of the attempts, last first. -/
  attempts : List Nat
  /-- Milliseconds that have passed. -/
  elapsed : Nat

namespace ScriptedCalls

variable {α : Type}

/-- The outcome of an attempt; none is left without a script. -/
def outcome (s : ScriptedCalls α) (index : Nat) : Except Fault α :=
  (s.outcomes[index]?.or s.outcomes.getLast?).getD (.error .retryExhausted)

/-- Makes an attempt. -/
def call (index : Nat) : StateM (ScriptedCalls α) (Except Fault α) := fun s =>
  (s.outcome index, { s with attempts := index :: s.attempts })

/-- Lets time pass. -/
def sleep (time : Span) : StateM (ScriptedCalls α) Unit :=
  modify fun s => { s with elapsed := s.elapsed + time.waitMillis }

/-- Runs a policy over a script. -/
def run (policy : RetryPolicy) (outcomes : List (Except Fault α)) :
    Except Fault α × ScriptedCalls α :=
  policy.run sleep call ⟨outcomes, [], 0⟩

end ScriptedCalls

end LiveTrader
