import LiveTrader.Proofs.LoopTrace

/-!
  LiveTrader.Proofs.Supervision

  What the supervising loop does in every environment.  `TurnCourse` lists the courses of a
  turn; `Going` is what a turn finds and leaves while the loop goes on, and `Supervised` says
  what a whole trace shows.
-/

namespace LiveTrader

open Tracing (Ends Erases)

namespace Supervisor

variable {σ : Type} (e : LoopEnvironment σ) (settings : SupervisorConfig)

/-! ## Courses of a turn -/

/-- The health after a cycle with this outcome. -/
def healthAfter : Except RunError MonitorStatus → MonitorStatus
  | .ok status => status
  | .error _ => .reconnecting

/-- The state after a cycle with this outcome. -/
def LoopState.afterCycle (s : LoopState) : Except RunError MonitorStatus → LoopState
  | .ok status => s.beginCycle.withStatus status
  | .error _ => s.beginCycle.failCycle

/-- What is reported after a cycle with this outcome. -/
def LoopState.progressAfter (s : LoopState) : Except RunError MonitorStatus → Progress
  | .ok status => ⟨ProgressStatus.running, none, status, s.failures, none⟩
  | .error _ =>
    ⟨ProgressStatus.degraded, some "reconnecting_after_error", .reconnecting, s.failures + 1, none⟩

/-- What is done about a cycle. -/
def LoopState.cycleEvents (s : LoopState) (outcome : Except RunError MonitorStatus)
    (asked asked' : Bool) : List LoopEvent :=
  [.publish s.beginCycle.metrics, .cycle s.failures outcome asked,
    .publish (s.afterCycle outcome).metrics, .report (s.progressAfter outcome) asked']

/-- The state after a failed cycle that was one too many. -/
def LoopState.afterGivingUp (s : LoopState) (cause : RunError) : LoopState :=
  (s.afterCycle (.error cause)).withStatus .degraded

/-- What is done about a failed cycle that was one too many. -/
def LoopState.giveUpEvents (s : LoopState) (cause : RunError) (asked : Bool) : List LoopEvent :=
  [.publish (s.afterGivingUp cause).metrics,
    .report ⟨ProgressStatus.failed, some cause.message, .degraded, s.failures + 1, none⟩ asked]

/-- The courses of a turn: whether the loop was asked to stop before it, what is done, what
    follows, and whether the loop was asked to stop by then. -/
inductive TurnCourse (s : LoopState) : Bool → List LoopEvent → Turn → Bool → Prop
  | stopped : TurnCourse s true [] (.last .stopped s) true
  | paused (outcome : Except RunError MonitorStatus) (time : Span) (a₁ a₂ passed a₃ : Bool)
      (ho : (∃ status, outcome = .ok status) ∨
        (s.afterCycle outcome).failures ≤ settings.maxReconnectRetries)
      (hp : passed = true ∨ (a₁ || a₂ || a₃) = true) :
      TurnCourse s false (s.cycleEvents outcome a₁ a₂ ++ [.wait time passed a₃])
        (if passed then .next (s.afterCycle outcome)
          else .last .stopped (s.afterCycle outcome))
        (a₁ || a₂ || a₃)
  | gaveUp (cause : RunError) (a₁ a₂ a₃ : Bool)
      (ho : settings.maxReconnectRetries < (s.afterCycle (.error cause)).failures) :
      TurnCourse s false
        (s.cycleEvents (.error cause) a₁ a₂ ++ s.giveUpEvents cause a₃)
        (.last .gaveUp (s.afterGivingUp cause)) (a₁ || a₂ || a₃)

section Calls

variable {w : LoopWorld σ}

/-- An action of the surroundings may ask for a stop, and changes nothing else. -/
theorem notice_ends {α : Type} {act : StateM σ (α × Bool)} {events : α × Bool → List LoopEvent}
    {Q : List LoopEvent → α × Bool → LoopWorld σ → Prop}
    (h : ∀ a asked inner, Q (events (a, asked)) (a, asked) ⟨w.isStopped || asked, inner⟩) :
    Ends (Tracing.call (LoopWorld.notice act) events) w Q :=
  .call (h _ _ _)

/-- A wait is cut short by a request only. -/
theorem wait_ends {act : StateM σ (Bool × Bool)} {events : Bool × Bool → List LoopEvent}
    {Q : List LoopEvent → Bool × Bool → LoopWorld σ → Prop}
    (h : ∀ passed asked inner, (passed = true ∨ (w.isStopped || asked) = true) →
      Q (events (passed, asked)) (passed, asked) ⟨w.isStopped || asked, inner⟩) :
    Ends (Tracing.call (LoopWorld.wait act) events) w Q := by
  refine .call (h _ _ _ ?_)
  cases hs : w.isStopped || (act w.inner).1.2 with
  | true => exact .inr rfl
  | false => exact .inl rfl

/-- To announce is to publish the metrics and to write one report of them. -/
theorem announce_ends {Q : List LoopEvent → Unit → LoopWorld σ → Prop} {s : LoopState}
    {status : String} {lastError : Option String} {validation : Option Json}
    (h : ∀ asked inner, Q [.publish s.metrics,
      .report ⟨status, lastError, s.metrics.status, s.failures, validation⟩ asked] ()
      ⟨w.isStopped || asked, inner⟩) :
    Ends (announce e.traced s status lastError validation) w Q := by
  unfold announce
  rw [LoopEnvironment.surroundings_publish, LoopEnvironment.surroundings_progress]
  refine .bind (.call (.bind (.bind (notice_ends fun r asked inner => ?_))))
  exact .pure (.pure (h asked inner))

/-- After a pause the loop goes on, unless a stop was asked for before its time was up. -/
theorem pause_ends {Q : List LoopEvent → Turn → LoopWorld σ → Prop} {s : LoopState} {time : Span}
    (h : ∀ passed asked inner, (passed = true ∨ (w.isStopped || asked) = true) →
      Q [.wait time passed asked] (if passed then .next s else .last .stopped s)
        ⟨w.isStopped || asked, inner⟩) :
    Ends (pause e.traced time s) w Q := by
  unfold pause
  rw [LoopEnvironment.surroundings_wait]
  refine .bind (.bind (wait_ends fun passed asked inner hp => .pure ?_))
  cases passed with
  | true => exact .pure (h true asked inner hp)
  | false => exact .pure (h false asked inner hp)

/-- A cycle ends in an outcome, and a stop may have been asked for meanwhile. -/
theorem cycle_ends {Q : List LoopEvent → Except CycleFailure MonitorStatus → LoopWorld σ → Prop}
    {failures : Nat} (h : ∀ outcome asked inner,
      Q [.cycle failures outcome asked] (outcome.mapError CycleFailure.error)
        ⟨w.isStopped || asked, inner⟩) :
    Ends (e.traced.runCycle failures) w Q := by
  rw [LoopEnvironment.surroundings_runCycle]
  exact .bind (notice_ends fun outcome asked inner => .pure (h outcome asked inner))

end Calls

/-- What happens after a cycle that failed. -/
theorem recover_ends (s : LoopState) (a₁ : Bool) (cause : RunError) (w : LoopWorld σ)
    (hw : w.isStopped = a₁) :
    Ends (recover e.traced settings cause s.beginCycle) w fun events turn w' =>
      TurnCourse settings s false
        ([.publish s.beginCycle.metrics, .cycle s.failures (.error cause) a₁] ++ events) turn
        w'.isStopped := by
  unfold recover
  dsimp only
  refine .bind (announce_ends e fun a₂ w₁ => ?_)
  split
  case isTrue hmax =>
    refine .bind (announce_ends e fun a₃ w₂ => .pure ?_)
    rw [hw]
    exact .gaveUp cause a₁ a₂ a₃ hmax
  case isFalse hmax =>
    refine pause_ends e fun passed a₃ w₂ hp => ?_
    rw [hw] at hp ⊢
    have hmax := Nat.le_of_not_lt hmax
    exact .paused (.error cause) settings.reconnectWait a₁ a₂ passed a₃ (.inr hmax) hp

/-- **A turn takes one of the courses.** -/
theorem turn_ends (s : LoopState) (w : LoopWorld σ) :
    Ends (turn e.traced settings s) w fun events turn w' =>
      TurnCourse settings s w.isStopped events turn w'.isStopped := by
  unfold turn
  rw [LoopEnvironment.surroundings_isStopped]
  refine .bind (.call ?_)
  obtain ⟨isStopped, inner⟩ := w
  cases isStopped with
  -- a turn that finds the stop signal set runs no cycle
  | true => exact .pure .stopped
  | false =>
    have hask : StateT.run LoopWorld.askIsStopped (⟨false, inner⟩ : LoopWorld σ) =
        (false, ⟨false, inner⟩) := rfl
    rw [hask, if_neg Bool.false_ne_true]
    dsimp only
    rw [LoopEnvironment.surroundings_publish]
    refine .bind (.call (.bind (cycle_ends e fun outcome a₁ w₁ => ?_)))
    cases outcome with
    | ok status =>
      refine .bind (announce_ends e fun a₂ w₂ => ?_)
      refine pause_ends e fun passed a₃ w₃ hp => ?_
      exact .paused (.ok status) settings.interval a₁ a₂ passed a₃ (.inl ⟨status, rfl⟩) hp
    | error cause =>
      exact (recover_ends e settings s a₁ cause _ rfl).mono fun events turn w' h => h

/-! ## What a trace shows -/

/-- How many cycles were started. -/
def started (events : List LoopEvent) : Nat := events.countP LoopEvent.isCycle

/-- How many cycles have failed. -/
def failed (events : List LoopEvent) : Nat := events.countP LoopEvent.isFailure

/-- The metrics that were shown last. -/
def shown? (events : List LoopEvent) : Option Metrics :=
  (events.filterMap LoopEvent.published?).getLast?

/-- What was reported last. -/
def lastReport? (events : List LoopEvent) : Option Progress :=
  (events.filterMap LoopEvent.reported?).getLast?

/-- The metrics and the last report tell the same health, and both the number of cycles. -/
def InStep (events : List LoopEvent) : Prop :=
  ∃ metrics p, shown? events = some metrics ∧ lastReport? events = some p ∧
    metrics.status = p.monitorStatus ∧ metrics.loops = started events ∧
    metrics.failures = failed events ∧ p.reconnectCount = failed events

/-- A cycle that the loop may start, and that is shown and reported once it is over. -/
structure StartsWell (askedBefore : Bool) (before : List LoopEvent) (failures : Nat)
    (outcome : Except RunError MonitorStatus) (after : List LoopEvent) : Prop where
  not_asked : askedBefore = false ∧ ∀ e ∈ before, e.asks = false
  failures_eq : failures = failed before
  within_budget : failed before ≤ settings.maxReconnectRetries
  shown : ∃ metrics, shown? before = some metrics ∧ metrics.loops = started before + 1 ∧
    metrics.failures = failed before
  completes : ∃ metrics p asked rest, after = .publish metrics :: .report p asked :: rest ∧
    metrics.status = healthAfter outcome ∧ p.monitorStatus = healthAfter outcome

/-- What has to hold when something is done, with what was done before and is done after. -/
def Fits (askedBefore : Bool) (before : List LoopEvent) (e : LoopEvent)
    (after : List LoopEvent) : Prop :=
  match e with
  | .cycle failures outcome _ => StartsWell settings askedBefore before failures outcome after
  | .report p _ => p.reconnectCount = failed before
  | .wait .. => InStep before
  | .publish _ | .stop => True

/-- All that is done fits. -/
def AllFit (askedBefore : Bool) (events : List LoopEvent) : Prop :=
  ∀ before e after, events = before ++ e :: after → Fits settings askedBefore before e after

variable {settings} {askedBefore : Bool}

theorem Fits.append {before after : List LoopEvent} {e : LoopEvent}
    (h : Fits settings askedBefore before e after) (more : List LoopEvent) :
    Fits settings askedBefore before e (after ++ more) := by
  cases e with
  | cycle failures outcome asked =>
    obtain ⟨ha, hf, hb, hs, metrics, p, asked', rest, rfl, hhealth⟩ := h
    exact ⟨ha, hf, hb, hs, metrics, p, asked', rest ++ more, rfl, hhealth⟩
  | report p asked => exact h
  | wait time passed asked => exact h
  | publish metrics => trivial
  | stop => trivial

/-- What is done after these events fits, one after the other. -/
def FitFrom (settings : SupervisorConfig) (askedBefore : Bool) :
    List LoopEvent → List LoopEvent → Prop
  | _, [] => True
  | before, e :: after => Fits settings askedBefore before e after ∧
    FitFrom settings askedBefore (before ++ [e]) after

/-- Each event of a run fits among those before it and behind it. -/
theorem FitFrom.fits {past before after : List LoopEvent} {e : LoopEvent}
    (h : FitFrom settings askedBefore past (before ++ e :: after)) :
    Fits settings askedBefore (past ++ before) e after := by
  induction before generalizing past with
  | nil =>
    rw [List.append_nil]
    exact h.1
  | cons e' before ih => simpa using ih h.2

theorem AllFit.nil : AllFit settings askedBefore [] := by
  intro before e after h
  simp at h

theorem AllFit.append {xs ys : List LoopEvent} (hx : AllFit settings askedBefore xs)
    (hy : FitFrom settings askedBefore xs ys) : AllFit settings askedBefore (xs ++ ys) := by
  intro before e after h
  rcases List.append_eq_append_iff.mp h with ⟨mid, rfl, rfl⟩ | ⟨mid, rfl, hafter⟩
  · exact hy.fits
  · cases mid with
    | nil =>
      -- the split lies between the two parts
      have hys : ys = [] ++ e :: after := hafter.symm
      rw [hys] at hy
      simpa using hy.fits
    | cons e' mid =>
      obtain ⟨rfl, rfl⟩ := List.cons.inj hafter
      exact (hx before e mid rfl).append ys

/-! ## Counts -/

@[simp] theorem started_append (xs ys : List LoopEvent) :
    started (xs ++ ys) = started xs + started ys := List.countP_append

@[simp] theorem failed_append (xs ys : List LoopEvent) :
    failed (xs ++ ys) = failed xs + failed ys := List.countP_append

/-- What is shown last is what counts. -/
theorem shown?_append (xs ys : List LoopEvent) :
    shown? (xs ++ ys) = (shown? ys).or (shown? xs) := by
  rw [shown?, List.filterMap_append, List.getLast?_append]
  rfl

theorem lastReport?_append (xs ys : List LoopEvent) :
    lastReport? (xs ++ ys) = (lastReport? ys).or (lastReport? xs) := by
  rw [lastReport?, List.filterMap_append, List.getLast?_append]
  rfl

/-- The state counts what was done. -/
structure LoopState.Counts (s : LoopState) (events : List LoopEvent) : Prop where
  failures : s.failures = failed events
  metrics_failures : s.metrics.failures = failed events
  loops : s.metrics.loops = started events

variable {s : LoopState} {past : List LoopEvent} {isStopped : Bool}

theorem LoopState.Counts.withStatus (h : s.Counts past) (status : MonitorStatus) :
    (s.withStatus status).Counts past := ⟨h.failures, h.metrics_failures, h.loops⟩

/-- A cycle is counted once, and as a failure if it fails. -/
theorem LoopState.Counts.cycle (h : s.Counts past) (outcome : Except RunError MonitorStatus)
    (a₁ a₂ : Bool) : (s.afterCycle outcome).Counts (past ++ s.cycleEvents outcome a₁ a₂) := by
  obtain ⟨hf, hm, hl⟩ := h
  -- a cycle counts as started either way, and as failed only in the second case
  cases outcome with
  | ok status =>
    refine ⟨?_, ?_, ?_⟩
    · rw [failed_append]
      exact hf
    · rw [failed_append]
      exact hm
    · rw [started_append, ← hl]
      rfl
  | error cause =>
    refine ⟨?_, ?_, ?_⟩
    · rw [failed_append, ← hf]
      rfl
    · rw [failed_append, ← hm]
      rfl
    · rw [started_append, ← hl]
      rfl

/-- A report after the metrics of a state that counts what was done. -/
theorem LoopState.Counts.inStep (h : s.Counts past) {p : Progress} (asked : Bool)
    (hstatus : p.monitorStatus = s.metrics.status) (hcount : p.reconnectCount = s.failures) :
    InStep (past ++ [.publish s.metrics, .report p asked]) := by
  refine ⟨s.metrics, p, ?_, ?_, hstatus.symm, ?_, ?_, ?_⟩
  · rw [shown?_append]
    rfl
  · rw [lastReport?_append]
    rfl
  · rw [started_append]
    exact h.loops
  · rw [failed_append]
    exact h.metrics_failures
  · rw [failed_append, hcount]
    exact h.failures

/-- A stop does not bring metrics and reports out of step. -/
theorem InStep.concat_stop {events : List LoopEvent} (h : InStep events) :
    InStep (events ++ [.stop]) := by
  obtain ⟨metrics, p, hshown, hreport, hstatus, hloops, hfailures, hcount⟩ := h
  refine ⟨metrics, p, ?_, ?_, hstatus, ?_, ?_, ?_⟩
  · rw [shown?_append, hshown]
    rfl
  · rw [lastReport?_append, hreport]
    rfl
  · rw [started_append]
    exact hloops
  · rw [failed_append]
    exact hfailures
  · rw [failed_append]
    exact hcount

/-! ## What a turn keeps -/

/-- The loop goes on in this state after these events. -/
structure Going (settings : SupervisorConfig) (askedBefore : Bool) (events : List LoopEvent)
    (s : LoopState) (isStopped : Bool) : Prop where
  fit : AllFit settings askedBefore events
  counts : s.Counts events
  within_budget : failed events ≤ settings.maxReconnectRetries
  isStopped_eq : isStopped = (askedBefore || events.any LoopEvent.asks)

/-- The loop is about to end in this state after these events. -/
structure Ending.Reached (settings : SupervisorConfig) (askedBefore : Bool) (ending : Ending)
    (events : List LoopEvent) (s : LoopState) : Prop where
  fit : AllFit settings askedBefore events
  counts : s.Counts events
  reason : ending = .stopped ∧ failed events ≤ settings.maxReconnectRetries ∨
    ending = .gaveUp ∧ failed events = settings.maxReconnectRetries + 1

/-- A cycle may be started, and is shown and reported. -/
theorem Going.cycle_fits (h : Going settings askedBefore past s false)
    (outcome : Except RunError MonitorStatus) (a₁ a₂ : Bool) :
    AllFit settings askedBefore (past ++ s.cycleEvents outcome a₁ a₂) := by
  have hasked : askedBefore = false ∧ ∀ e ∈ past, e.asks = false := by
    simpa using h.isStopped_eq.symm
  have hfailed : failed [.publish s.beginCycle.metrics] = 0 := rfl
  have hstarted : started [.publish s.beginCycle.metrics] = 0 := rfl
  -- the metrics that count the cycle are shown before it starts
  have hstarts : StartsWell settings askedBefore (past ++ [.publish s.beginCycle.metrics])
      s.failures outcome
      [.publish (s.afterCycle outcome).metrics, .report (s.progressAfter outcome) a₂] := by
    refine ⟨⟨hasked.1, ?_⟩, ?_, ?_, ?_, ?_⟩
    · intro e he
      rcases List.mem_append.mp he with he | he
      · exact hasked.2 e he
      · rw [List.mem_singleton.mp he]
        rfl
    · rw [failed_append, hfailed]
      exact h.counts.failures
    · rw [failed_append, hfailed]
      exact h.within_budget
    · refine ⟨s.beginCycle.metrics, ?_, ?_, ?_⟩
      · rw [shown?_append]
        rfl
      · rw [started_append, hstarted]
        exact congrArg (· + 1) h.counts.loops
      · rw [failed_append, hfailed]
        exact h.counts.metrics_failures
    · refine ⟨_, _, a₂, [], rfl, ?_, ?_⟩
      · cases outcome <;> rfl
      · cases outcome <;> rfl
  have hreport : (s.progressAfter outcome).reconnectCount = failed (past ++
      [.publish s.beginCycle.metrics] ++ [.cycle s.failures outcome a₁] ++
      [.publish (s.afterCycle outcome).metrics]) := by
    rw [failed_append, failed_append, failed_append, ← h.counts.failures]
    cases outcome <;> rfl
  exact h.fit.append ⟨trivial, hstarts, trivial, hreport, trivial⟩

/-- After a cycle the metrics and the report are in step. -/
theorem Going.cycle_inStep (h : Going settings askedBefore past s false)
    (outcome : Except RunError MonitorStatus) (a₁ a₂ : Bool) :
    InStep (past ++ s.cycleEvents outcome a₁ a₂) := by
  have hcounts : (s.afterCycle outcome).Counts
      (past ++ [.publish s.beginCycle.metrics, .cycle s.failures outcome a₁]) := by
    obtain ⟨hf, hm, hl⟩ := h.counts.cycle outcome a₁ a₂
    refine ⟨?_, ?_, ?_⟩
    · rw [hf, failed_append, failed_append]
      cases outcome <;> rfl
    · rw [hm, failed_append, failed_append]
      cases outcome <;> rfl
    · rw [hl, started_append, started_append]
      rfl
  have hstep := hcounts.inStep (p := s.progressAfter outcome) a₂
    (by cases outcome <;> rfl) (by cases outcome <;> rfl)
  rwa [List.append_assoc] at hstep

/-- Events that neither begin a cycle nor fail are not counted. -/
theorem LoopState.Counts.append_quiet (h : s.Counts past) {events : List LoopEvent}
    (hf : failed events = 0) (hs : started events = 0) : s.Counts (past ++ events) := by
  obtain ⟨hfailures, hmetrics, hloops⟩ := h
  refine ⟨?_, ?_, ?_⟩
  · rw [failed_append, hf]
    exact hfailures
  · rw [failed_append, hf]
    exact hmetrics
  · rw [started_append, hs]
    exact hloops

theorem any_asks_cycleEvents (s : LoopState) (outcome : Except RunError MonitorStatus)
    (a₁ a₂ : Bool) : (s.cycleEvents outcome a₁ a₂).any LoopEvent.asks = (a₁ || a₂) := by
  simp [LoopState.cycleEvents, LoopEvent.asks]

/-- **A turn keeps what the loop goes on with**, or reaches an end. -/
theorem TurnCourse.keeps {events : List LoopEvent} {turn : Turn} {isStopped' : Bool}
    (hc : TurnCourse settings s isStopped events turn isStopped')
    (h : Going settings askedBefore past s isStopped) :
    match turn with
    | .next s' => Going settings askedBefore (past ++ events) s' isStopped' ∧ started events = 1
    | .last ending s' => ending.Reached settings askedBefore (past ++ events) s' := by
  cases hc with
  | stopped =>
    rw [List.append_nil]
    exact ⟨h.fit, h.counts, .inl ⟨rfl, h.within_budget⟩⟩
  | paused outcome time a₁ a₂ passed a₃ ho hp =>
    have hfit : AllFit settings askedBefore
        (past ++ s.cycleEvents outcome a₁ a₂ ++ [.wait time passed a₃]) :=
      (h.cycle_fits outcome a₁ a₂).append ⟨h.cycle_inStep outcome a₁ a₂, trivial⟩
    have hcounts : (s.afterCycle outcome).Counts
        (past ++ s.cycleEvents outcome a₁ a₂ ++ [.wait time passed a₃]) :=
      (h.counts.cycle outcome a₁ a₂).append_quiet rfl rfl
    rw [List.append_assoc] at hfit hcounts
    have hbudget : failed (past ++ (s.cycleEvents outcome a₁ a₂ ++ [.wait time passed a₃])) ≤
        settings.maxReconnectRetries := by
      rw [← hcounts.failures]
      -- a success adds no failure, and a failure is waited for within the budget only
      rcases ho with ⟨status, rfl⟩ | ho
      · have hle : s.failures ≤ settings.maxReconnectRetries := by
          rw [h.counts.failures]
          exact h.within_budget
        exact hle
      · exact ho
    cases passed with
    | false => exact ⟨hfit, hcounts, .inl ⟨rfl, hbudget⟩⟩
    | true =>
      refine ⟨⟨hfit, hcounts, hbudget, ?_⟩, rfl⟩
      rw [List.any_append, List.any_append, any_asks_cycleEvents, ← Bool.or_assoc,
        ← h.isStopped_eq]
      simp [LoopEvent.asks]
  | gaveUp cause a₁ a₂ a₃ ho =>
    have hcycle := h.counts.cycle (.error cause) a₁ a₂
    have hgave : (s.afterGivingUp cause).Counts
        (past ++ s.cycleEvents (.error cause) a₁ a₂ ++ s.giveUpEvents cause a₃) :=
      (hcycle.withStatus .degraded).append_quiet rfl rfl
    have hfit : AllFit settings askedBefore
        (past ++ s.cycleEvents (.error cause) a₁ a₂ ++ s.giveUpEvents cause a₃) := by
      refine (h.cycle_fits (.error cause) a₁ a₂).append ⟨trivial, ?_, trivial⟩
      rw [Fits, failed_append]
      exact hcycle.failures
    rw [List.append_assoc] at hgave hfit
    refine ⟨hfit, hgave, .inr ⟨rfl, ?_⟩⟩
    -- the failure is the first above the budget, as the loop was within it before
    have hover : settings.maxReconnectRetries < s.failures + 1 := ho
    have hbudget : s.failures ≤ settings.maxReconnectRetries := by
      rw [h.counts.failures]
      exact h.within_budget
    have hfailed : s.failures + 1 = _ := hgave.failures
    rw [← hfailed]
    omega

/-! ## The whole loop -/

/-- A loop that has done this in at most so many turns, with this outcome if it has ended. -/
structure Supervised (settings : SupervisorConfig) (validation : Option Json)
    (askedBefore : Bool) (turns : Nat) (events : List LoopEvent)
    (outcome : Option LoopOutcome) : Prop where
  fit : AllFit settings askedBefore events
  failed_le : failed events ≤ settings.maxReconnectRetries + 1
  /-- The loop has given up once one failure more than allowed was seen, and not before. -/
  gaveUp_iff : (∃ o, outcome = some o ∧ o.ending.exitCode = 1) ↔
    failed events = settings.maxReconnectRetries + 1
  /-- A loop that has not ended has started a cycle in each turn. -/
  goes_on : outcome = none → started events = turns
  ended_in_step : ∀ o, outcome = some o →
    InStep events ∧ shown? events = some o.state.metrics ∧ o.state.failures = failed events
  last_report : ∀ o, outcome = some o → ∃ p, lastReport? events = some p ∧
    p.monitorStatus = .degraded ∧ p.validation = validation ∧
    (o.ending.exitCode = 1 ∧ p.status = ProgressStatus.failed ∧
        p.lastError = some "runtime_exception" ∨
      o.ending.exitCode = 0 ∧ p.status = ProgressStatus.degraded ∧
        p.lastError = some "shutdown_signal")

namespace Ending.Reached

variable {ending : Ending}

/-- The last words are those that belong to the exit code. -/
theorem words (h : ending.Reached settings askedBefore past s) :
    ∃ status reason, ending.words? = some (status, reason) ∧
      (ending.exitCode = 1 ∧ status = ProgressStatus.failed ∧ reason = "runtime_exception" ∨
        ending.exitCode = 0 ∧ status = ProgressStatus.degraded ∧ reason = "shutdown_signal") := by
  rcases h.reason with ⟨rfl, -⟩ | ⟨rfl, -⟩
  · exact ⟨_, _, rfl, .inr ⟨rfl, rfl, rfl⟩⟩
  · exact ⟨_, _, rfl, .inl ⟨rfl, rfl, rfl⟩⟩

/-- The process fails if and only if one failure too many has been counted. -/
theorem exitCode_eq_one_iff (h : ending.Reached settings askedBefore past s) :
    ending.exitCode = 1 ↔ failed past = settings.maxReconnectRetries + 1 := by
  rcases h.reason with ⟨rfl, hbudget⟩ | ⟨rfl, hbudget⟩
  · exact iff_of_false (by decide) (by omega)
  · exact iff_of_true rfl hbudget

/-- No more failures are counted than one too many. -/
theorem failed_le (h : ending.Reached settings askedBefore past s) :
    failed past ≤ settings.maxReconnectRetries + 1 := by
  rcases h.reason with ⟨-, hbudget⟩ | ⟨-, hbudget⟩
  · omega
  · omega

/-- The last report and the last metrics complete the trace. -/
theorem supervised (h : ending.Reached settings askedBefore past s) (validation : Option Json)
    (turns : Nat) {status reason : String} (hwords : ending.words? = some (status, reason))
    (asked : Bool) :
    Supervised settings validation askedBefore turns
      (past ++ [.publish (s.withStatus .degraded).metrics,
        .report ⟨status, some reason, .degraded, s.failures, validation⟩ asked, .stop])
      (some ⟨ending, s.withStatus .degraded⟩) := by
  obtain ⟨status', reason', hwords', hlast⟩ := h.words
  obtain ⟨rfl, rfl⟩ : status = status' ∧ reason = reason' := by
    simpa using hwords.symm.trans hwords'
  let p : Progress := ⟨status, some reason, .degraded, s.failures, validation⟩
  -- the last three events run no cycle, so the failures are those of the past
  have hfailed : failed (past ++ [.publish (s.withStatus .degraded).metrics, .report p asked,
      .stop]) = failed past := failed_append _ _
  have hstep := ((h.counts.withStatus .degraded).inStep (p := p) asked rfl rfl).concat_stop
  rw [List.append_assoc] at hstep
  have hreport : p.reconnectCount =
      failed (past ++ [.publish (s.withStatus .degraded).metrics]) := by
    rw [failed_append]
    exact h.counts.failures
  refine ⟨h.fit.append ⟨trivial, hreport, trivial, trivial⟩, ?_, ?_, (fun ho => by cases ho),
    ?_, ?_⟩
  · rw [hfailed]
    exact h.failed_le
  · rw [hfailed, ← h.exitCode_eq_one_iff]
    constructor
    · rintro ⟨o, ho, hcode⟩
      cases ho
      exact hcode
    · intro hcode
      exact ⟨_, rfl, hcode⟩
  · intro o ho
    cases ho
    refine ⟨hstep, ?_, ?_⟩
    · rw [shown?_append]
      rfl
    · rw [hfailed]
      exact h.counts.failures
  · intro o ho
    cases ho
    refine ⟨p, ?_, rfl, rfl, ?_⟩
    · rw [lastReport?_append]
      rfl
    · rcases hlast with ⟨hcode, hstatus, hreason⟩ | ⟨hcode, hstatus, hreason⟩
      · exact .inl ⟨hcode, hstatus, congrArg some hreason⟩
      · exact .inr ⟨hcode, hstatus, congrArg some hreason⟩

end Ending.Reached

variable {e}

/-- The end of a run is announced, and the run is supervised to the end. -/
theorem finish_ends (validation : Option Json) (ending : Ending) (w : LoopWorld σ) (turns : Nat)
    (h : ending.Reached settings askedBefore past s) :
    Ends (finish e.traced validation ending s) w fun events o _ =>
      Supervised settings validation askedBefore turns (past ++ events) (some o) := by
  obtain ⟨status, reason, hwords, -⟩ := h.words
  unfold finish
  rw [hwords]
  refine .bind (announce_ends e fun asked inner => ?_)
  rw [LoopEnvironment.surroundings_stop]
  exact .bind (.call (.pure (h.supervised validation turns hwords asked)))

/-- What the loop does from a state that it goes on in. -/
theorem turnsFrom_ends (validation : Option Json) (turns : Nat) (w : LoopWorld σ)
    (h : Going settings askedBefore past s w.isStopped) :
    Ends (turnsFrom e.traced settings validation turns s) w fun events outcome _ =>
      Supervised settings validation askedBefore (started past + turns) (past ++ events)
        outcome := by
  -- on the turns; `Going` is kept by each turn that the loop goes on after
  induction turns generalizing past s w with
  | zero =>
    refine .pure ?_
    rw [List.append_nil]
    -- the run is cut off here, and has no outcome to speak of
    have hbudget := h.within_budget
    refine ⟨h.fit, by omega, ?_, fun _ => rfl, ?_, ?_⟩
    · refine iff_of_false ?_ (by omega)
      rintro ⟨o, ho, -⟩
      cases ho
    · intro o ho
      cases ho
    · intro o ho
      cases ho
  | succ turns ih =>
    unfold turnsFrom
    refine .bind ((turn_ends e settings s w).mono ?_)
    intro events turn w' hc
    have hkeeps := hc.keeps h
    cases turn with
    | next s' =>
      refine (ih w' hkeeps.1).mono fun events' outcome w'' hs => ?_
      rw [started_append, hkeeps.2, List.append_assoc, Nat.add_assoc, Nat.add_comm 1] at hs
      exact hs
    | last ending s' =>
      refine .map ((finish_ends validation ending w' (started past + (turns + 1)) hkeeps).mono ?_)
      intro events' o w'' hs
      rwa [List.append_assoc] at hs

/-! ## Without the trace -/

variable (e)

theorem announce_erases (s : LoopState) (status : String) (lastError : Option String)
    (validation : Option Json) :
    Erases (announce e.traced s status lastError validation)
      (announce e.plain s status lastError validation) :=
  .bind (.call _ _) fun _ => .bind (.bind (.call _ _) fun _ => .pure _) fun _ => .pure _

theorem pause_erases (time : Span) (s : LoopState) :
    Erases (pause e.traced time s) (pause e.plain time s) :=
  .bind (.bind (.call _ _) fun _ => .pure _) fun _ => .ite (.pure _) (.pure _)

theorem recover_erases (settings : SupervisorConfig) (cause : RunError) (s : LoopState) :
    Erases (recover e.traced settings cause s) (recover e.plain settings cause s) := by
  unfold recover
  refine .bind (announce_erases _ _ _ _ _) fun _ => .ite ?_ (pause_erases _ _ _)
  exact .bind (announce_erases _ _ _ _ _) fun _ => .pure _

theorem turn_erases (settings : SupervisorConfig) (s : LoopState) :
    Erases (turn e.traced settings s) (turn e.plain settings s) := by
  unfold turn
  refine .bind (.call _ _) fun isStopped => .ite (.pure _) ?_
  refine .bind (.call _ _) fun _ => .bind (.bind (.call _ _) fun _ => .pure _) fun outcome => ?_
  rcases outcome with (cause | _) | status
  · exact recover_erases e settings cause _
  · exact .pure _
  · exact .bind (announce_erases _ _ _ _ _) fun _ => pause_erases _ _ _

theorem finish_erases (validation : Option Json) (ending : Ending) (s : LoopState) :
    Erases (finish e.traced validation ending s) (finish e.plain validation ending s) := by
  unfold finish
  cases ending.words? with
  | none => exact .pure _
  | some words =>
    exact .bind (announce_erases _ _ _ _ _) fun _ => .bind (.call _ _) fun _ => .pure _

/-- A traced loop does what the loop does. -/
theorem turnsFrom_erases (settings : SupervisorConfig) (validation : Option Json) (turns : Nat)
    (s : LoopState) :
    Erases (turnsFrom e.traced settings validation turns s)
      (turnsFrom e.plain settings validation turns s) := by
  induction turns generalizing s with
  | zero => exact .pure _
  | succ turns ih =>
    unfold turnsFrom
    refine .bind (turn_erases e settings s) fun turn => ?_
    cases turn with
    | next s' => exact ih s'
    | last ending s' => exact .map some (finish_erases e validation ending s')

/-- **The loop counts, reports and ends as it should**: in every environment, however its
    cycles end and whenever it asks the loop to stop, and for every number of turns. -/
theorem run_supervised (settings : SupervisorConfig) (validation : Option Json) (turns : Nat)
    (w : LoopWorld σ) :
    let run := (Supervisor.run e.traced settings validation turns).run ⟨w, []⟩
    (run.1, run.2.state) = (Supervisor.run e.plain settings validation turns).run w ∧
      Supervised settings validation w.isStopped turns run.2.trace run.1 := by
  have hgoing : Going settings w.isStopped [] .start w.isStopped :=
    ⟨.nil, ⟨rfl, rfl, rfl⟩, Nat.zero_le _, (Bool.or_false _).symm⟩
  have hends := (turnsFrom_ends (e := e) validation turns w hgoing).run
  have hzero : started [] + turns = turns := Nat.zero_add turns
  rw [hzero] at hends
  exact ⟨turnsFrom_erases e settings validation turns .start ⟨w, []⟩, hends⟩

end Supervisor

end LiveTrader
