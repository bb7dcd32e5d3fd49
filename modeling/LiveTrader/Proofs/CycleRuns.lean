import LiveTrader.Proofs.CycleCourses

/-!
  LiveTrader.Proofs.CycleRuns

  Successive cycles with one journal, and what is known of each of them.  Every statement
  about all runs goes through `CycleRun.of_steps`, or through `CycleRun.of_induction`: it has to
  hold of no cycles, and of one more cycle, whatever the course of that one.
-/

namespace LiveTrader

variable {σ : Type}

/-! ## Single cycles -/

/-- A cycle: what it was called with, the journal before and after it, its calls and its
    result. -/
structure CycleRecord where
  reconnectCount : Nat
  before : Journal
  events : List CycleEvent
  result : Except CycleFailure CycleReport
  after : Journal

/-- The cycle has taken one of the courses. -/
def CycleRecord.IsCourse (config : Config) (c : CycleRecord) : Prop :=
  CycleCourse config c.reconnectCount c.before c.events c.result c.after

/-- The cycle ends with this outcome: it looks at the streams and reports, or fails at once. -/
def CycleRecord.Closes (config : Config) (c : CycleRecord) (runId : String) (inputs : CycleInputs)
    (calls : List CycleEvent) : Except CycleFailure OrderOutcome → Prop
  | .ok order => ∃ seen : Arrival OrderEvent × Arrival AccountEvent,
    c.events = Cycle.openingEvents config runId inputs c.reconnectCount ++ calls ++
        [.streams config.execution.streamProbeTimeout seen] ∧
      c.result = .ok (Cycle.reportOf config runId inputs c.reconnectCount order
        [seen.1.probe, seen.2.probe])
  | .error cause =>
    c.events = Cycle.openingEvents config runId inputs c.reconnectCount ++ calls ∧
      c.result = .error cause

/-- The cycle has got inputs, and has dealt with an order by these calls and with this
    outcome. -/
structure CycleRecord.Deals (config : Config) (c : CycleRecord) (runId : String)
    (inputs : CycleInputs) (calls : List CycleEvent)
    (outcome : Except CycleFailure OrderOutcome) : Prop where
  course : OrderCourse config runId inputs (evaluateRisk config.risk inputs.snapshot) c.before
    calls outcome c.after
  closes : c.Closes config runId inputs calls outcome

namespace CycleRecord

variable {config : Config} {c : CycleRecord} {runId : String} {inputs : CycleInputs}
  {calls : List CycleEvent} {outcome : Except CycleFailure OrderOutcome}

/-- Without inputs a cycle calls nothing else; with them it deals with an order. -/
theorem IsCourse.deals_or (h : c.IsCourse config) :
    (∃ runId progress cause, c.events = [.runId runId, .progress progress, .inputs (.error cause)] ∧
      c.result = .error (.error cause) ∧ c.after = c.before) ∨
    ∃ runId inputs calls outcome, c.Deals config runId inputs calls outcome := by
  obtain ⟨k, before, events, result, after⟩ := c
  have h : CycleCourse config k before events result after := h
  cases h with
  | noInputs runId cause => exact .inl ⟨runId, _, cause, rfl, rfl, rfl⟩
  | failed runId inputs calls cause after ho =>
    exact .inr ⟨runId, inputs, calls, .error cause, ho, rfl, rfl⟩
  | done runId inputs calls order after seen ho =>
    exact .inr ⟨runId, inputs, calls, .ok order, ho, seen, rfl, rfl⟩

theorem Deals.events_eq (h : c.Deals config runId inputs calls outcome) :
    ∃ closing, (closing = [] ∨
        ∃ seen, closing = [.streams config.execution.streamProbeTimeout seen]) ∧
      c.events = Cycle.openingEvents config runId inputs c.reconnectCount ++ calls ++ closing := by
  have hcloses := h.closes
  cases outcome with
  | ok order =>
    obtain ⟨seen, he, -⟩ := hcloses
    exact ⟨_, .inr ⟨seen, rfl⟩, he⟩
  | error cause => exact ⟨[], .inl rfl, hcloses.1.trans (List.append_nil _).symm⟩

theorem Deals.result_eq (h : c.Deals config runId inputs calls outcome) (order : OrderOutcome)
    (ho : outcome = .ok order) : ∃ probes,
      c.result = .ok (Cycle.reportOf config runId inputs c.reconnectCount order probes) := by
  subst ho
  obtain ⟨seen, -, hr⟩ := h.closes
  exact ⟨_, hr⟩

/-- What is selected of a cycle's calls, where only those about the order are. -/
theorem Deals.filterMap_events {β : Type} {f : CycleEvent → Option β}
    (h : c.Deals config runId inputs calls outcome) (hrunId : ∀ id, f (.runId id) = none)
    (hprogress : ∀ p, f (.progress p) = none) (hinputs : ∀ r, f (.inputs r) = none)
    (hstreams : ∀ t r, f (.streams t r) = none) :
    c.events.filterMap f = calls.filterMap f := by
  obtain ⟨closing, hc, he⟩ := h.events_eq
  have hopening : (Cycle.openingEvents config runId inputs c.reconnectCount).filterMap f = [] := by
    simp [Cycle.openingEvents, hrunId, hprogress, hinputs]
  have hclosing : closing.filterMap f = [] := by
    rcases hc with rfl | ⟨seen, rfl⟩
    · rfl
    · simp [hstreams]
  rw [he, List.filterMap_append, List.filterMap_append, hopening, hclosing, List.append_nil,
    List.nil_append]

theorem Deals.filterMap_balances? (h : c.Deals config runId inputs calls outcome) :
    c.events.filterMap CycleEvent.balances? = calls.filterMap CycleEvent.balances? :=
  h.filterMap_events (fun _ => rfl) (fun _ => rfl) (fun _ => rfl) (fun _ _ => rfl)

theorem Deals.filterMap_orderId? (h : c.Deals config runId inputs calls outcome) :
    c.events.filterMap CycleEvent.orderId? = calls.filterMap CycleEvent.orderId? :=
  h.filterMap_events (fun _ => rfl) (fun _ => rfl) (fun _ => rfl) (fun _ _ => rfl)

theorem Deals.filterMap_recorded? (h : c.Deals config runId inputs calls outcome) :
    c.events.filterMap CycleEvent.recorded? = calls.filterMap CycleEvent.recorded? :=
  h.filterMap_events (fun _ => rfl) (fun _ => rfl) (fun _ => rfl) (fun _ _ => rfl)

theorem Deals.filterMap_placed? (h : c.Deals config runId inputs calls outcome) :
    c.events.filterMap CycleEvent.placed? = calls.filterMap CycleEvent.placed? :=
  h.filterMap_events (fun _ => rfl) (fun _ => rfl) (fun _ => rfl) (fun _ _ => rfl)

end CycleRecord

/-- The calls of a cycle from this state. -/
def Cycle.callsOf (s : Surroundings (StateM σ)) (config : Config) (reconnectCount : Nat)
    (st : CycleState σ) : List CycleEvent :=
  ((Cycle.run s.watched Journal.watched config reconnectCount).run.run ⟨st, []⟩).2.trace

/-- A watched cycle does what one with a journal does. -/
theorem Cycle.run_watched_erases (s : Surroundings (StateM σ)) (config : Config)
    (reconnectCount : Nat) :
    Tracing.Erases (Cycle.run s.watched Journal.watched config reconnectCount).run
      (Cycle.runWithJournal s config reconnectCount) :=
  run_erases (s.lift CycleState.onWorld) config (Journal.access.lift CycleState.onJournal)
    reconnectCount

/-- **A cycle takes one of the courses** and makes the calls of that. -/
theorem runWithJournal_isCourse (s : Surroundings (StateM σ)) (config : Config)
    (reconnectCount : Nat) (st : CycleState σ) :
    CycleCourse config reconnectCount st.journal (Cycle.callsOf s config reconnectCount st)
      ((Cycle.runWithJournal s config reconnectCount).run st).1
      ((Cycle.runWithJournal s config reconnectCount).run st).2.journal := by
  have hcourse := (run_ends s config reconnectCount st).run
  rw [← Cycle.run_watched_erases s config reconnectCount ⟨st, []⟩]
  exact hcourse

/-! ## Runs -/

/-- Cycles that have run one after the other, and the state that they have left. -/
structure CycleRun (σ : Type) where
  cycles : List CycleRecord
  state : CycleState σ

namespace CycleRun

/-- Runs another cycle. -/
def extend (s : Surroundings (StateM σ)) (config : Config) (run : CycleRun σ)
    (reconnectCount : Nat) : CycleRun σ :=
  let (result, state) := (Cycle.runWithJournal s config reconnectCount).run run.state
  { cycles := run.cycles ++ [{
      reconnectCount := reconnectCount
      before := run.state.journal
      events := Cycle.callsOf s config reconnectCount run.state
      result := result
      after := state.journal }]
    state := state }

/-- The next cycle from a state. -/
def nextCycle (s : Surroundings (StateM σ)) (config : Config) (st : CycleState σ)
    (reconnectCount : Nat) : CycleRecord where
  reconnectCount := reconnectCount
  before := st.journal
  events := Cycle.callsOf s config reconnectCount st
  result := ((Cycle.runWithJournal s config reconnectCount).run st).1
  after := ((Cycle.runWithJournal s config reconnectCount).run st).2.journal

theorem cycles_extend (s : Surroundings (StateM σ)) (config : Config) (run : CycleRun σ)
    (reconnectCount : Nat) : (run.extend s config reconnectCount).cycles =
      run.cycles ++ [nextCycle s config run.state reconnectCount] :=
  rfl

/-- A cycle for each of these counts, with an empty journal before the first of them. -/
def of (s : Surroundings (StateM σ)) (config : Config) (world : σ)
    (reconnectCounts : List Nat) : CycleRun σ :=
  reconnectCounts.foldl (extend s config) ⟨[], .start world⟩

/-- The calls of all cycles, in order. -/
def events (run : CycleRun σ) : List CycleEvent := run.cycles.flatMap CycleRecord.events

/-- What holds before the first cycle, and is kept by each, holds of every run. -/
theorem of_steps (s : Surroundings (StateM σ)) (config : Config) (world : σ)
    {P : CycleRun σ → Prop} (start : P ⟨[], .start world⟩)
    (step : ∀ run reconnectCount, P run → P (extend s config run reconnectCount))
    (reconnectCounts : List Nat) : P (of s config world reconnectCounts) := by
  unfold of
  -- the start is generalized, so that the cycles are taken from the front
  generalize (⟨[], .start world⟩ : CycleRun σ) = run at start ⊢
  induction reconnectCounts generalizing run with
  | nil => exact start
  | cons k ks ih =>
    rw [List.foldl_cons]
    exact ih _ (step run k start)

/-- Where nothing of the world matters, a step is a cycle that has taken one of the courses. -/
theorem of_induction (s : Surroundings (StateM σ)) (config : Config) (world : σ)
    {P : CycleRun σ → Prop} (start : P ⟨[], .start world⟩)
    (step : ∀ cycles c w w', c.IsCourse config → P ⟨cycles, ⟨c.before, w⟩⟩ →
      P ⟨cycles ++ [c], ⟨c.after, w'⟩⟩)
    (reconnectCounts : List Nat) : P (of s config world reconnectCounts) :=
  of_steps s config world start
    (fun run k h => step run.cycles _ _ _ (runWithJournal_isCourse s config k run.state) h)
    reconnectCounts

/-- Every cycle of a run has taken one of the courses. -/
theorem isCourse_of_mem (s : Surroundings (StateM σ)) (config : Config) (world : σ)
    (reconnectCounts : List Nat) :
    ∀ c ∈ (of s config world reconnectCounts).cycles, c.IsCourse config := by
  refine of_induction s config world (P := fun run => ∀ c ∈ run.cycles, c.IsCourse config)
    (fun c hc => absurd hc List.not_mem_nil) ?_ reconnectCounts
  intro cycles c w w' hcourse ih c' hc'
  rcases List.mem_append.mp hc' with h | h
  · exact ih c' h
  · rw [List.mem_singleton.mp h]
    exact hcourse

/-- What holds of a cycle without inputs, and of one that deals with an order, holds of every
    cycle of a run. -/
theorem forall_cycles (s : Surroundings (StateM σ)) (config : Config) (world : σ)
    {P : CycleRecord → Prop}
    (noInputs : ∀ c runId progress cause,
      c.events = [.runId runId, .progress progress, .inputs (.error cause)] →
      c.result = .error (.error cause) → c.after = c.before → P c)
    (deals : ∀ c runId inputs calls outcome, c.Deals config runId inputs calls outcome → P c)
    (reconnectCounts : List Nat) : ∀ c ∈ (of s config world reconnectCounts).cycles, P c := by
  intro c hc
  have hcourse := isCourse_of_mem s config world reconnectCounts c hc
  rcases hcourse.deals_or with ⟨runId, progress, cause, he, hr, hj⟩ | ⟨runId, inputs, calls, o, h⟩
  · exact noInputs c runId progress cause he hr hj
  · exact deals c runId inputs calls o h

end CycleRun

end LiveTrader
