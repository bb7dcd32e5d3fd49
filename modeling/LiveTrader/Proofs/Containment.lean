import LiveTrader.Proofs.OrderGate

/-!
  LiveTrader.Proofs.Containment

  Which failures leave a cycle.  Past its inputs a cycle takes three steps that can fail: the
  journal may refuse the id, the size may be no quantity, and the attempt may be unknown when it
  is completed.  None of them fails once the gates before it are passed, so that a cycle fails for
  want of inputs, or where the sizer itself has no result.
-/

namespace LiveTrader

variable {config : Config} {inputs : CycleInputs} {guard : GuardResult} {runId : String}
  {j j' : Journal} {calls events : List CycleEvent} {c : CycleRecord}
  {outcome : Except CycleFailure OrderOutcome}

/-! ## Sizes -/

/-- How far an order comes with the sizer, given the replies among these calls. -/
inductive Sized (config : Config) (inputs : CycleInputs) (guard : GuardResult)
    (events : List CycleEvent) : Except CycleFailure OrderOutcome → Prop
  | stopped (reason : Skip)
      (hg : Cycle.gate config.execution guard inputs.decision = .error reason) :
      Sized config inputs guard events (.ok (.skipped reason))
  | unsized (side : OrderSide)
      (ha : Admitted config inputs guard side (events.filterMap CycleEvent.balances?) none) :
      Sized config inputs guard events (.error .sizeOverflow)
  | sized (side : OrderSide) (sizing : OrderSizing) (order : OrderOutcome)
      (ha : Admitted config inputs guard side (events.filterMap CycleEvent.balances?)
        (some sizing)) (ho : order.sizing? = some sizing) :
      Sized config inputs guard events (.ok order)

/-- An order comes as far with the sizer as its course shows. -/
theorem OrderCourse.sized (h : OrderCourse config runId inputs guard j events outcome j') :
    Sized config inputs guard events outcome := by
  cases h with
  | stopped hg => exact .stopped .risk hg
  | skipped reason hr hg => exact .stopped reason hg
  | overflow side replies ha =>
    refine .unsized side ?_
    rw [Cycle.filterMap_balances?_askEvents]
    exact ha
  | tooSmall side replies sizing ha =>
    refine .sized side sizing _ ?_ rfl
    rw [Cycle.filterMap_balances?_askEvents]
    exact ha
  | duplicate side replies sizing id ha =>
    refine .sized side sizing _ ?_ rfl
    rw [Cycle.filterMap_balances?_append rfl]
    exact ha
  | followed side replies sizing id placed calls l j₁ j₂ ha hq hj₁ ht =>
    refine .sized side sizing _ ?_ rfl
    rw [ht.filterMap_balances?_followed _ rfl rfl]
    exact ha

/-- The gates have let an order through to the sizer, which has no result for it. -/
def Unsized (config : Config) (inputs : CycleInputs) (guard : GuardResult)
    (events : List CycleEvent) : Prop :=
  ∃ side, Admitted config inputs guard side (events.filterMap CycleEvent.balances?) none

/-- **Dealing with an order fails where the sizer has no result, and nowhere else.** -/
theorem Sized.eq_error_iff (h : Sized config inputs guard events outcome)
    {cause : CycleFailure} :
    outcome = .error cause ↔ Unsized config inputs guard events ∧ cause = .sizeOverflow := by
  -- two of the three courses give an order's outcome, so the sizer cannot have failed in them
  have hok : ∀ order, ¬ Unsized config inputs guard events →
      ((.ok order : Except CycleFailure OrderOutcome) = .error cause ↔
        Unsized config inputs guard events ∧ cause = .sizeOverflow) := by
    intro order hnot
    constructor
    · intro h
      cases h
    · exact fun h => absurd h.1 hnot
  cases h with
  | stopped reason hg =>
    refine hok _ ?_
    rintro ⟨side, ha⟩
    have hside := ha.gate
    rw [hg] at hside
    cases hside
  | unsized side ha =>
    constructor
    · intro h
      cases h
      exact ⟨⟨side, ha⟩, rfl⟩
    · rintro ⟨-, rfl⟩
      rfl
  | sized side sizing order ha =>
    refine hok _ ?_
    rintro ⟨side', ha'⟩
    cases ha.unique ha'

/-! ## Cycles -/

/-- A cycle that fails for want of inputs, and otherwise only where the sizer has no result. -/
structure CycleRecord.Contained (config : Config) (c : CycleRecord) : Prop where
  /-- An error that leaves the cycle is the one that the inputs came with. -/
  error_iff : ∀ cause, c.result = .error (.error cause) ↔ .inputs (.error cause) ∈ c.events
  overflow_iff : c.result = .error .sizeOverflow ↔ ∃ inputs, .inputs (.ok inputs) ∈ c.events ∧
    Unsized config inputs (evaluateRisk config.risk inputs.snapshot) c.events
  /-- With inputs, and a size if the sizer is asked for one, there is a report. -/
  reports : ∀ inputs, .inputs (.ok inputs) ∈ c.events →
    ¬ Unsized config inputs (evaluateRisk config.risk inputs.snapshot) c.events →
    ∃ report, c.result = .ok report
  /-- Without inputs nothing is asked of the exchange, noted, or entered in the journal. -/
  idle : ∀ cause, .inputs (.error cause) ∈ c.events →
    c.events.filterMap CycleEvent.operation? = [] ∧
    (∀ eventType payload, .audit eventType payload ∉ c.events) ∧
    (∀ id reply, .record id reply ∉ c.events) ∧
    (∀ id status reply, .complete id status reply ∉ c.events) ∧ c.after = c.before

namespace CycleRecord

theorem contained_of_noInputs {progress : Progress} {cause : RunError}
    (he : c.events = [.runId runId, .progress progress, .inputs (.error cause)])
    (hr : c.result = .error (.error cause)) (hj : c.after = c.before) : c.Contained config where
  error_iff cause' := by simp [he, hr, eq_comm]
  overflow_iff := by simp [he, hr]
  reports inputs hi _ := by simp [he] at hi
  idle cause' _ := by simp [he, hj, CycleEvent.operation?]

theorem Deals.result_eq_error_iff (h : c.Deals config runId inputs calls outcome)
    {cause : CycleFailure} : c.result = .error cause ↔ outcome = .error cause := by
  have hcloses := h.closes
  cases outcome with
  | ok order =>
    obtain ⟨seen, -, hr⟩ := hcloses
    simp [hr]
  | error cause' => rw [hcloses.2, Except.error.injEq, Except.error.injEq]

/-- A failure of a cycle stays within it, wherever it comes from. -/
theorem Deals.contained (h : c.Deals config runId inputs calls outcome) : c.Contained config := by
  have hunsized : Unsized config inputs (evaluateRisk config.risk inputs.snapshot) c.events ↔
      Unsized config inputs (evaluateRisk config.risk inputs.snapshot) calls := by
    rw [Unsized, h.filterMap_balances?, Unsized]
  refine ⟨?_, ?_, ?_, ?_⟩
  · intro cause
    simp [h.result_eq_error_iff, h.course.sized.eq_error_iff, h.inputs_mem_iff]
  · simp [h.result_eq_error_iff, h.course.sized.eq_error_iff, h.inputs_mem_iff, hunsized]
  · intro inputs' hi hsized
    obtain rfl : inputs' = inputs := Except.ok.inj (h.inputs_mem_iff.mp hi)
    cases hr : c.result with
    | ok report => exact ⟨report, rfl⟩
    | error cause =>
      have hfailed := h.course.sized.eq_error_iff.mp (h.result_eq_error_iff.mp hr)
      exact absurd (hunsized.mpr hfailed.1) hsized
  · intro cause hi
    cases h.inputs_mem_iff.mp hi

end CycleRecord

/-- Every cycle of the run fails only as told. -/
def CycleRun.IsContained {σ : Type} (config : Config) (run : CycleRun σ) : Prop :=
  ∀ c ∈ run.cycles, c.Contained config

/-- **A cycle fails with the error of its inputs and without a trace of it elsewhere, or where the
    sizer has no result, and otherwise reports**: in every run of cycles, for every configuration
    and every world. -/
theorem run_isContained {σ : Type} (s : Surroundings (StateM σ)) (config : Config) (world : σ)
    (reconnectCounts : List Nat) :
    (CycleRun.of s config world reconnectCounts).IsContained config := by
  refine CycleRun.forall_cycles s config world ?_ ?_ reconnectCounts
  · exact fun c runId progress cause he hr hj => CycleRecord.contained_of_noInputs he hr hj
  · exact fun c runId inputs calls outcome h => h.contained

end LiveTrader
