import Mathlib.Algebra.Group.Nat.Defs
import Mathlib.Data.Nat.Basic
import Mathlib.Order.Monotone.Defs
import LiveTrader.Proofs.Trace
import LiveTrader.Rest.Retry

/-!
  LiveTrader.Proofs.Retry

  What a retry policy makes of a call.  `Course` lists what can happen from one attempt on,
  whatever an attempt does; `attempts_ends` says that nothing else happens.  For calls that are
  traced themselves the course is told by their outcomes: the calls are made one after the other
  up to the first that settles the matter, with a wait between any two.
-/

namespace LiveTrader

open Tracing (Ends Erases)

variable {ε σ α : Type}

/-! ## Outcomes -/

/-- An outcome that ends the attempts: a success, or a failure that is neither throttling nor
    one of the network. -/
def Settles : Except Fault α → Prop
  | .ok _ => True
  | .error f => f.category ≠ .rateLimit ∧ f.category ≠ .network

/-- Only failures of the network and of rate limits pass by themselves. -/
theorem FaultClass.isTransient_eq_true_iff {c : FaultClass} :
    c.isTransient = true ↔ c = .rateLimit ∨ c = .network := by
  simp [isTransient]

/-- A failure settles the matter unless it passes by itself. -/
theorem settles_error_iff {f : Fault} :
    Settles (.error f : Except Fault α) ↔ f.category.isTransient = false := by
  rw [← Bool.not_eq_true, FaultClass.isTransient_eq_true_iff, not_or]
  exact Iff.rfl

theorem Fault.retryExhausted_eq :
    retryExhausted = ⟨.exchange, true, some "EXCHANGE_ERROR", "private_retry_exhausted"⟩ := by
  decide +kernel

namespace RetryPolicy

variable (p : RetryPolicy)

/-! ## Delays -/

/-- The wait doubles with the index while the factor has 32 bits, and is cut to the longest. -/
theorem nanos_delayAfter (index : Nat) :
    (p.delayAfter index).nanos =
      min (p.baseDelay.nanos * min (2 ^ index) (2 ^ 32 - 1)) Span.max.nanos := by
  have hfactor : (if index < 32 then 2 ^ index else 2 ^ 32 - 1) =
      min (2 ^ index) (2 ^ 32 - 1) := by
    split
    case isTrue h =>
      have hle : 2 ^ index ≤ 2 ^ 31 := Nat.pow_le_pow_right (by decide) (by omega)
      exact (Nat.min_eq_left (by omega)).symm
    case isFalse h =>
      have hle : 2 ^ 32 ≤ 2 ^ index := Nat.pow_le_pow_right (by decide) (by omega)
      exact (Nat.min_eq_right (by omega)).symm
  rw [← hfactor]
  rfl

/-- Pauses do not get shorter. -/
theorem monotone_nanos_delayAfter : Monotone fun index => (p.delayAfter index).nanos := by
  intro i j hij
  have hpow : 2 ^ i ≤ 2 ^ j := Nat.pow_le_pow_right (by decide) hij
  have hfactor : min (2 ^ i) (2 ^ 32 - 1) ≤ min (2 ^ j) (2 ^ 32 - 1) := by omega
  have hproduct := Nat.mul_le_mul_left p.baseDelay.nanos hfactor
  dsimp only
  rw [nanos_delayAfter, nanos_delayAfter]
  omega

/-! ## Courses -/

/-- What is done after a failed attempt if `left` more may be made. -/
def pause (wait : Span → List ε) (index left : Nat) : List ε :=
  if left = 0 ∨ (p.delayAfter index).nanos = 0 then [] else wait (p.delayAfter index)

variable {p} in
@[simp] theorem pause_zero {wait : Span → List ε} {index : Nat} : p.pause wait index 0 = [] :=
  if_pos (.inl rfl)

variable {p} in
theorem pause_of_eq_zero {wait : Span → List ε} {index left : Nat}
    (h : (p.delayAfter index).nanos = 0) : p.pause wait index left = [] :=
  if_pos (.inr h)

variable {p} in
/-- Between two attempts there is a pause unless it is of no length. -/
theorem pause_of_ne_zero {wait : Span → List ε} {index left : Nat} (hleft : left ≠ 0)
    (h : (p.delayAfter index).nanos ≠ 0) :
    p.pause wait index left = wait (p.delayAfter index) :=
  if_neg (not_or.mpr ⟨hleft, h⟩)

variable {p} in
theorem pause_congr {wait : Span → List ε} {index left left' : Nat} (h : left = 0 ↔ left' = 0) :
    p.pause wait index left = p.pause wait index left' := by
  simp only [pause, h]

/-- The courses of the attempts from one index on if `left` of them may be made.  `Attempt` says
    what the attempt with an index does and comes to, `wait` what a wait does. -/
inductive Course (Attempt : Nat → List ε → Except Fault α → Prop) (wait : Span → List ε) :
    (index left : Nat) → List ε → Except Fault α → Prop
  | spent (index : Nat) : Course Attempt wait index 0 [] (.error .retryExhausted)
  | settled {index left : Nat} {events : List ε} {outcome : Except Fault α}
      (h : Attempt index events outcome) (hs : Settles outcome) :
      Course Attempt wait index (left + 1) events outcome
  | again {index left : Nat} {events rest : List ε} {outcome result : Except Fault α}
      (h : Attempt index events outcome) (hs : ¬ Settles outcome)
      (hrest : Course Attempt wait (index + 1) left rest result) :
      Course Attempt wait index (left + 1) (events ++ (p.pause wait index left ++ rest)) result

section Rule

variable {sleep : Span → Tracing ε σ Unit} {call : Nat → Tracing ε σ (Except Fault α)}
  {Attempt : Nat → List ε → Except Fault α → Prop} {wait : Span → List ε}

/-- **Attempts take one of the courses.**  `Before` and `After` hold of the state before and
    after the attempt with an index. -/
theorem attempts_ends (Before After : Nat → σ → Prop)
    (hcall : ∀ i s, Before i s →
      Ends (call i) s fun events outcome s' => Attempt i events outcome ∧ After i s')
    (hsleep : ∀ i s, After i s → (p.delayAfter i).nanos ≠ 0 →
      Ends (sleep (p.delayAfter i)) s fun events _ s' =>
        events = wait (p.delayAfter i) ∧ Before (i + 1) s')
    (hskip : ∀ i s, After i s → (p.delayAfter i).nanos = 0 → Before (i + 1) s)
    (index left : Nat) (s : σ) (hs : Before index s) :
    Ends (p.attempts sleep call index left) s
      fun events result _ => p.Course Attempt wait index left events result := by
  induction left generalizing index s with
  | zero => exact .pure (.spent index)
  | succ left ih =>
    unfold attempts
    refine .bind ((hcall index s hs).mono fun events outcome s₁ hattempt => ?_)
    obtain ⟨hattempt, hafter⟩ := hattempt
    cases outcome with
    | ok value => exact .pure (by simpa using .settled hattempt trivial)
    | error fault =>
      dsimp only
      split
      case isTrue ht =>
        have hset : Settles (.error fault : Except Fault α) :=
          settles_error_iff.mpr (by simpa using ht)
        exact .pure (by simpa using .settled hattempt hset)
      case isFalse ht =>
        have hset : ¬ Settles (.error fault : Except Fault α) := by
          rw [settles_error_iff]
          simpa using ht
        split
        case isTrue hleft =>
          -- no attempt is left, so nothing is waited for
          subst hleft
          have hcourse : p.Course Attempt wait index 1 (events ++ (p.pause wait index 0 ++ []))
              (.error .retryExhausted) := .again hattempt hset (.spent (index + 1))
          exact .pure (by simpa using hcourse)
        case isFalse hleft =>
          split
          case isTrue hzero =>
            refine .bind ((hsleep index s₁ hafter hzero).mono fun waited _ s₂ hslept => ?_)
            obtain ⟨rfl, hbefore⟩ := hslept
            refine (ih (index + 1) s₂ hbefore).mono fun rest result s₃ hrest => ?_
            have hcourse := Course.again hattempt hset hrest
            rwa [pause_of_ne_zero hleft hzero] at hcourse
          case isFalse hzero =>
            have hzero : (p.delayAfter index).nanos = 0 := not_not.mp hzero
            have hbefore := hskip index s₁ hafter hzero
            refine (ih (index + 1) s₁ hbefore).mono fun rest result s₂ hrest => ?_
            have hcourse := Course.again hattempt hset hrest
            rwa [pause_of_eq_zero hzero, List.nil_append] at hcourse

/-- Watching attempts does not change them. -/
theorem attempts_erases {plainSleep : Span → StateM σ Unit}
    {plainCall : Nat → StateM σ (Except Fault α)} (hsleep : ∀ d, Erases (sleep d) (plainSleep d))
    (hcall : ∀ i, Erases (call i) (plainCall i)) (index left : Nat) :
    Erases (p.attempts sleep call index left) (p.attempts plainSleep plainCall index left) := by
  induction left generalizing index with
  | zero => exact .pure _
  | succ left ih =>
    unfold attempts
    refine .bind (hcall index) fun outcome => ?_
    cases outcome with
    | ok value => exact .pure _
    | error fault =>
      exact .ite (.pure _) (.ite (.pure _) (.ite (.bind (hsleep _) fun _ => ih _) (ih _)))

end Rule

/-! ## Traced calls -/

end RetryPolicy

/-- One thing that happens while a call is repeated. -/
inductive RetryEvent (α : Type)
  | call (index : Nat) (outcome : Except Fault α)
  | sleep (time : Span)

namespace RetryPolicy

variable (p : RetryPolicy) (sleep : Span → StateM σ Unit) (call : Nat → StateM σ (Except Fault α))

/-- Runs a policy over traced calls and waits. -/
def runTraced : Tracing (RetryEvent α) σ (Except Fault α) :=
  p.run (fun time => Tracing.call (sleep time) fun _ => [.sleep time])
    (fun index => Tracing.call (call index) fun outcome => [.call index outcome])

/-- The state before the attempt with an index, if all before it were made with the waits
    between them. -/
def stateAt (s : σ) : Nat → σ
  | 0 => s
  | index + 1 =>
    let after := ((call index).run (stateAt s index)).2
    if (p.delayAfter index).nanos = 0 then after else ((sleep (p.delayAfter index)).run after).2

/-- The sequence of outcomes that the calls have one after the other. -/
def outcomeAt (s : σ) (index : Nat) : Except Fault α :=
  ((call index).run (p.stateAt sleep call s index)).1

/-- The first `count` calls of a sequence from an index on, and the waits between them. -/
def schedule (outcomes : Nat → Except Fault α) (index count : Nat) : List (RetryEvent α) :=
  (List.range' index count).flatMap fun i =>
    .call i (outcomes i) ::
      if i + 1 < index + count ∧ (p.delayAfter i).nanos ≠ 0 then [.sleep (p.delayAfter i)] else []

variable {p}

/-- A schedule begins with a call and goes on after a pause. -/
theorem schedule_succ (outcomes : Nat → Except Fault α) (index count : Nat) :
    p.schedule outcomes index (count + 1) =
      .call index (outcomes index) ::
        (p.pause (fun time => [.sleep time]) index count ++
          p.schedule outcomes (index + 1) count) := by
  have hend : index + 1 + count = index + (count + 1) := by omega
  have hnext : index + 1 < index + (count + 1) ↔ count ≠ 0 := by omega
  unfold schedule pause
  rw [List.range'_succ, List.flatMap_cons, hend, List.cons_append]
  by_cases hcount : count = 0
  · rw [if_neg (fun h => hnext.mp h.1 hcount), if_pos (.inl hcount)]
  · by_cases hzero : (p.delayAfter index).nanos = 0
    · rw [if_neg (fun h => h.2 hzero), if_pos (.inr hzero)]
    · rw [if_pos ⟨hnext.mpr hcount, hzero⟩, if_neg (not_or.mpr ⟨hcount, hzero⟩)]

/-- Traced attempts of calls with these outcomes go by the schedule, up to the first that settles
    the matter or to the last. -/
theorem Course.schedule_eq {outcomes : Nat → Except Fault α} {index left : Nat}
    {events : List (RetryEvent α)} {result : Except Fault α}
    (h : p.Course (fun i attempt outcome => attempt = [.call i (outcomes i)] ∧ outcome = outcomes i)
      (fun time => [.sleep time]) index left events result) :
    (∃ k < left, Settles (outcomes (index + k)) ∧ (∀ i < k, ¬ Settles (outcomes (index + i))) ∧
      events = p.schedule outcomes index (k + 1) ∧ result = outcomes (index + k)) ∨
    (∀ i < left, ¬ Settles (outcomes (index + i))) ∧
      events = p.schedule outcomes index left ∧ result = .error .retryExhausted := by
  -- on the course: this attempt settles the matter, or the rest is the schedule from the next
  induction h with
  | spent index => exact .inr ⟨fun i hi => absurd hi (Nat.not_lt_zero i), rfl, rfl⟩
  | @settled index left events outcome h hs =>
    obtain ⟨rfl, rfl⟩ := h
    refine .inl ⟨0, Nat.succ_pos left, hs, fun i hi => absurd hi (Nat.not_lt_zero i), ?_, rfl⟩
    rw [schedule_succ, pause_zero]
    rfl
  | @again index left events rest outcome result h hs hrest ih =>
    obtain ⟨rfl, rfl⟩ := h
    have hstep : ∀ i, index + (i + 1) = index + 1 + i := fun i => by omega
    -- the attempt made here has not settled the matter either, so one more is unsettled
    have hfirst : ∀ n, (∀ i < n, ¬ Settles (outcomes (index + 1 + i))) →
        ∀ i < n + 1, ¬ Settles (outcomes (index + i)) := by
      intro n hn i hi
      cases i with
      | zero => exact hs
      | succ i =>
        rw [hstep]
        exact hn i (by omega)
    rcases ih with ⟨k, hk, hset, hunset, rfl, rfl⟩ | ⟨hunset, rfl, rfl⟩
    · refine .inl ⟨k + 1, by omega, ?_, hfirst k hunset, ?_, ?_⟩
      · rw [hstep]
        exact hset
      · have hleft : left = 0 ↔ k + 1 = 0 := by omega
        rw [schedule_succ outcomes index (k + 1), pause_congr hleft]
        rfl
      · rw [hstep k]
    · refine .inr ⟨hfirst left hunset, ?_, rfl⟩
      rw [schedule_succ]
      rfl

variable (p)

/-- A run takes a course through the outcomes of its calls. -/
theorem runTraced_ends (s : σ) :
    Ends (p.runTraced sleep call) s fun events result _ =>
      p.Course (fun i attempt outcome => attempt = [.call i (p.outcomeAt sleep call s i)] ∧
          outcome = p.outcomeAt sleep call s i)
        (fun time => [.sleep time]) 0 p.maxAttempts events result := by
  have hstep : ∀ i, p.stateAt sleep call s (i + 1) =
      if (p.delayAfter i).nanos = 0 then ((call i).run (p.stateAt sleep call s i)).2
      else ((sleep (p.delayAfter i)).run ((call i).run (p.stateAt sleep call s i)).2).2 :=
    fun _ => rfl
  refine p.attempts_ends (fun i s' => s' = p.stateAt sleep call s i)
    (fun i s' => s' = ((call i).run (p.stateAt sleep call s i)).2) ?_ ?_ ?_ 0 p.maxAttempts s rfl
  · rintro i _ rfl
    exact .call ⟨⟨rfl, rfl⟩, rfl⟩
  · rintro i _ rfl hzero
    refine .call ⟨rfl, ?_⟩
    rw [hstep, if_neg hzero]
  · rintro i _ rfl hzero
    rw [hstep, if_pos hzero]

theorem runTraced_erases : Erases (p.runTraced sleep call) (p.run sleep call) :=
  p.attempts_erases (fun _ => .call _ _) (fun _ => .call _ _) 0 p.maxAttempts

/-- What was done and what came of it is what a sequence of outcomes asks for. -/
structure Obeyed (outcomes : Nat → Except Fault α) (trace : List (RetryEvent α))
    (result : Except Fault α) : Prop where
  /-- The first outcome that settles the matter is the last and is the result. -/
  settled : ∀ k < p.maxAttempts, Settles (outcomes k) → (∀ i < k, ¬ Settles (outcomes i)) →
    trace = p.schedule outcomes 0 (k + 1) ∧ result = outcomes k
  /-- If there is none in time all attempts are made. -/
  exhausted : (∀ i < p.maxAttempts, ¬ Settles (outcomes i)) →
    trace = p.schedule outcomes 0 p.maxAttempts ∧
      result = .error ⟨.exchange, true, some "EXCHANGE_ERROR", "private_retry_exhausted"⟩

/-- **A policy makes the calls that their outcomes ask for**, in every world and from every
    state: none is left out, repeated or made after the one that settles the matter, and the
    waits between them never get shorter, nor longer than the longest span. -/
theorem run_obeys (s : σ) :
    let run := (p.runTraced sleep call).run ⟨s, []⟩
    (run.1, run.2.state) = (p.run sleep call).run s ∧
      p.Obeyed (p.outcomeAt sleep call s) run.2.trace run.1 ∧
      (∀ i, (p.delayAfter i).nanos =
        min (p.baseDelay.nanos * min (2 ^ i) (2 ^ 32 - 1)) Span.max.nanos) ∧
      Monotone fun i => (p.delayAfter i).nanos := by
  refine ⟨p.runTraced_erases sleep call _, ?_, p.nanos_delayAfter, p.monotone_nanos_delayAfter⟩
  have hcourse := (p.runTraced_ends sleep call s).run.schedule_eq
  rw [Fault.retryExhausted_eq] at hcourse
  simp only [Nat.zero_add] at hcourse
  refine ⟨fun k hk hset hunset => ?_, fun hunset => ?_⟩
  · rcases hcourse with ⟨j, hj, hset', hunset', htrace, hresult⟩ | ⟨hunset', -⟩
    · -- both are the first outcome that settles the matter
      have hle : k ≤ j := not_lt.mp fun h => hunset j h hset'
      have hge : j ≤ k := not_lt.mp fun h => hunset' k h hset
      obtain rfl := Nat.le_antisymm hle hge
      exact ⟨htrace, hresult⟩
    · exact absurd hset (hunset' k hk)
  · rcases hcourse with ⟨j, hj, hset', -⟩ | ⟨-, htrace, hresult⟩
    · exact absurd hset' (hunset j hj)
    · exact ⟨htrace, hresult⟩

end RetryPolicy

end LiveTrader
