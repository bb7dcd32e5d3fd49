import LiveTrader.Proofs.CycleRuns
import LiveTrader.Proofs.Lockstep

/-!
  LiveTrader.Proofs.Telemetry

  Telemetry does not reach into trading.  The surroundings of a cycle fall in two: what it
  trades with (the exchange, the inputs, the ids of orders), and what it only tells (the
  audit log, the progress, the ids of cycles).  Each part has a state of its own, so that a
  sink may answer anything at any time.

  A cycle is run beside one that tells nothing: they stay in lockstep, call by call, but for
  the events that are told and the id of the cycle.  Two runs with different telemetry are
  then compared through the silent one.
-/

namespace LiveTrader

variable {σ τ υ α : Type}

/-! ## Two kinds of surroundings -/

/-- What a cycle trades with. -/
structure Trading (σ : Type) where
  exchange : Exchange (StateM σ)
  inputs : StateM σ (Except RunError CycleInputs)
  freshOrderId : Symbol → StateM σ ClientOrderId

/-- What a cycle tells, and under which id.  The sinks may fail, in any pattern. -/
structure Telemetry (τ : Type) where
  freshRunId : StateM τ String
  audit : String → Json → StateM τ (Except RunError Unit)
  progress : Progress → StateM τ (Except RunError Unit)

/-- Acts on what is traded with. -/
def onTrading (act : StateM σ α) : StateM (σ × τ) α := fun w =>
  let (a, s) := act w.1
  (a, (s, w.2))

/-- Acts on what is told to. -/
def onTelemetry (act : StateM τ α) : StateM (σ × τ) α := fun w =>
  let (a, t) := act w.2
  (a, (w.1, t))

/-- Surroundings of both kinds. -/
def Trading.toldTo (trading : Trading σ) (telemetry : Telemetry τ) :
    Surroundings (StateM (σ × τ)) where
  exchange := trading.exchange.lift onTrading
  inputs := onTrading trading.inputs
  freshRunId := onTelemetry telemetry.freshRunId
  freshOrderId symbol := onTrading (trading.freshOrderId symbol)
  audit eventType payload := onTelemetry (telemetry.audit eventType payload)
  progress p := onTelemetry (telemetry.progress p)

/-- A call of the exchange or the journal, or one that reads inputs or makes the id of an
    order. -/
@[simp] def CycleEvent.isTrading : CycleEvent → Bool
  | runId _ | progress _ | audit .. => false
  | _ => true

/-- A report under no id. -/
def CycleReport.unnamed (r : CycleReport) : CycleReport := { r with runId := "" }

/-- A cycle without what it has told. -/
def CycleRecord.untold (c : CycleRecord) : CycleRecord :=
  { c with
    events := c.events.filter CycleEvent.isTrading
    result := c.result.map CycleReport.unnamed }

/-! ## Cycles that tell nothing -/

/-- Surroundings where nothing is told, and what is traded is traced. -/
def Trading.silent (trading : Trading σ) : Surroundings (Tracing CycleEvent (CycleState σ)) where
  exchange := (trading.exchange.lift CycleState.onWorld).traced
  inputs := Tracing.call (CycleState.onWorld trading.inputs) fun r => [.inputs r]
  freshRunId := pure ""
  freshOrderId symbol := Tracing.call (CycleState.onWorld (trading.freshOrderId symbol))
    fun id => [.orderId symbol id]
  audit _ _ := pure (.ok ())
  progress _ := pure (.ok ())

/-- The traced states of a cycle and of one that tells nothing: the same has been traded. -/
structure Beside (a : Traced CycleEvent (CycleState (σ × τ)))
    (b : Traced CycleEvent (CycleState σ)) : Prop where
  journal : a.state.journal = b.state.journal
  world : a.state.world.1 = b.state.world
  trace : a.trace.filter CycleEvent.isTrading = b.trace

namespace Beside

variable {events : α → List CycleEvent}

theorem onTrading (act : StateM σ α) (htrading : ∀ a, ∀ e ∈ events a, e.isTrading) :
    Lockstep (Beside (τ := τ)) (Tracing.call (CycleState.onWorld (onTrading act)) events)
      (Tracing.call (CycleState.onWorld act) events) := by
  rintro ⟨⟨j, w, t⟩, trace⟩ ⟨⟨_, _⟩, _⟩ ⟨rfl, rfl, rfl⟩
  refine ⟨rfl, rfl, rfl, ?_⟩
  -- every event of the call is kept
  have hevents := List.filter_eq_self.mpr (htrading (act.run w).1)
  exact (List.filter_append ..).trans (congrArg _ hevents)

theorem onJournal (act : StateM Journal α) (htrading : ∀ a, ∀ e ∈ events a, e.isTrading) :
    Lockstep (Beside (σ := σ) (τ := τ)) (Tracing.call (CycleState.onJournal act) events)
      (Tracing.call (CycleState.onJournal act) events) := by
  rintro ⟨⟨j, w, t⟩, trace⟩ ⟨⟨_, _⟩, _⟩ ⟨rfl, rfl, rfl⟩
  refine ⟨rfl, rfl, rfl, ?_⟩
  have hevents := List.filter_eq_self.mpr (htrading (act.run j).1)
  exact (List.filter_append ..).trans (congrArg _ hevents)

/-- What is told leaves what is traded as it is, whatever comes of it. -/
theorem onTelemetry (act : StateM τ α) (htold : ∀ a, ∀ e ∈ events a, ¬ e.isTrading) (a : α) :
    Abreast (Beside (σ := σ)) (Tracing.call (CycleState.onWorld (onTelemetry act)) events)
      (pure a) := by
  rintro ⟨⟨j, w, t⟩, trace⟩ ⟨⟨_, _⟩, _⟩ ⟨rfl, rfl, rfl⟩
  refine ⟨rfl, rfl, ?_⟩
  have hevents := List.filter_eq_nil_iff.mpr (htold (act.run t).1)
  exact (List.filter_append ..).trans ((congrArg _ hevents).trans (List.append_nil _))

theorem exchange (e : Exchange (StateM σ)) :
    ((e.lift LiveTrader.onTrading).lift CycleState.onWorld).traced.Alike (Beside (τ := τ))
      (e.lift CycleState.onWorld).traced where
  place order := onTrading (e.place order) (by simp)
  fetch orderId := onTrading (e.fetch orderId) (by simp)
  cancel orderId := onTrading (e.cancel orderId) (by simp)
  balances accountType := onTrading (e.balances accountType) (by simp)
  firstEvents timeout := onTrading (e.firstEvents timeout) (by simp)

theorem journalAccess :
    Journal.watched.Alike (Beside (σ := σ) (τ := τ)) Journal.watched where
  record id := onJournal (Journal.access.record id) (by simp)
  complete id status := onJournal (Journal.access.complete id status) (by simp)

end Beside

/-! ## A cycle beside a silent one -/

section Cycles

variable (trading : Trading σ) (telemetry : Telemetry τ) (config : Config)

/-- Where an order is handled, the id of the cycle is told only. -/
theorem Trading.handleOrder_silent (journal : JournalAccess (Tracing CycleEvent (CycleState σ)))
    (runId : String) (inputs : CycleInputs) (guard : GuardResult) :
    Cycle.handleOrder trading.silent journal config runId inputs guard =
      Cycle.handleOrder trading.silent journal config "" inputs guard := by
  -- the id is in the payloads of notes only, and those go nowhere
  have hnote : ∀ eventType payload, trading.silent.note eventType payload = pure () :=
    fun _ _ => rfl
  unfold Cycle.handleOrder Cycle.sizeAndSend Cycle.sendOnce Cycle.sendOrder
  simp only [hnote]

/-- The operations of surroundings are beside the silent ones, the ids of cycles aside. -/
theorem Trading.toldTo_alike :
    ({(trading.toldTo telemetry).watched with freshRunId := pure ""} :
      Surroundings (Tracing CycleEvent (CycleState (σ × τ)))).Alike Beside trading.silent where
  exchange := Beside.exchange trading.exchange
  inputs := Beside.onTrading trading.inputs (by simp)
  freshRunId := .pure ""
  freshOrderId symbol := Beside.onTrading (trading.freshOrderId symbol) (by simp)
  audit eventType payload :=
    Beside.onTelemetry (telemetry.audit eventType payload) (by simp) (.ok ())
  progress p := Beside.onTelemetry (telemetry.progress p) (by simp) (.ok ())

theorem Trading.handleOrder_lockstep (runId : String) (inputs : CycleInputs)
    (guard : GuardResult) :
    Lockstep Beside
      (Cycle.handleOrder (trading.toldTo telemetry).watched Journal.watched config runId inputs
        guard).run
      (Cycle.handleOrder trading.silent Journal.watched config "" inputs guard).run := by
  rw [← trading.handleOrder_silent config Journal.watched runId]
  exact (trading.toldTo_alike telemetry).handleOrder config runId Beside.journalAccess inputs guard

/-- **A cycle is in lockstep with a silent one**, up to its id. -/
theorem Trading.run_lockstep (reconnectCount : Nat) :
    Lockstep Beside
      (Except.map CycleReport.unnamed <$>
        (Cycle.run (trading.toldTo telemetry).watched Journal.watched config reconnectCount).run)
      (Except.map CycleReport.unnamed <$>
        (Cycle.run trading.silent Journal.watched config reconnectCount).run) := by
  have halike := trading.toldTo_alike telemetry
  have hrunId : Abreast Beside (trading.toldTo telemetry).watched.freshRunId
      trading.silent.freshRunId :=
    Beside.onTelemetry telemetry.freshRunId (by simp) ""
  rw [← ExceptT.run_map, ← ExceptT.run_map]
  unfold Cycle.run
  simp only [map_bind]
  -- the ids may differ: what follows is in lockstep whichever they are
  refine hrunId.bindLift fun runId _ => ?_
  refine .bindExcept (.lift (halike.emit _)) fun _ => ?_
  refine .bindExcept (.lift halike.inputs) fun reply => ?_
  cases reply with
  | error cause => exact .pure _
  | ok inputs =>
    simp only [map_bind]
    refine .bindExcept (.lift (halike.emit _)) fun _ => ?_
    refine .bindExcept (trading.handleOrder_lockstep telemetry config runId inputs _)
      fun order => ?_
    exact .bindExcept (.lift (halike.exchange.probeStreams _)) fun probes => .pure _

/-- What a cycle trades, where it ends, and its report up to the id, are as without telemetry. -/
theorem Trading.runWithJournal_silent (reconnectCount : Nat) (st : CycleState (σ × τ)) :
    let told := (Cycle.runWithJournal (trading.toldTo telemetry) config reconnectCount).run st
    let calls := Cycle.callsOf (trading.toldTo telemetry) config reconnectCount st
    let silent := (Cycle.run trading.silent Journal.watched config reconnectCount).run.run
      ⟨⟨st.journal, st.world.1⟩, []⟩
    told.1.map CycleReport.unnamed = silent.1.map CycleReport.unnamed ∧
      Beside ⟨told.2, calls⟩ silent.2 := by
  intro told calls silent
  have hstart : Beside (⟨st, []⟩ : Traced CycleEvent _) ⟨⟨st.journal, st.world.1⟩, []⟩ :=
    ⟨rfl, rfl, rfl⟩
  obtain ⟨hresult, hbeside⟩ :=
    trading.run_lockstep telemetry config reconnectCount _ _ hstart
  have htold : told = _ :=
    (Cycle.run_watched_erases (trading.toldTo telemetry) config reconnectCount ⟨st, []⟩).symm
  rw [htold]
  exact ⟨hresult, hbeside⟩

end Cycles

/-! ## Runs -/

namespace CycleRun

/-- Two runs whose cycles have traded the same, one by one, and have left the same to trade
    with. -/
structure TradesAs (run : CycleRun (σ × τ)) (run' : CycleRun (σ × υ)) : Prop where
  cycles : run.cycles.map CycleRecord.untold = run'.cycles.map CycleRecord.untold
  journal : run.state.journal = run'.state.journal
  world : run.state.world.1 = run'.state.world.1

variable {run : CycleRun (σ × τ)} {run' : CycleRun (σ × υ)}

/-- From the same journal and the same to trade with, the next cycles trade the same. -/
theorem TradesAs.extend (h : TradesAs run run') (trading : Trading σ) (telemetry : Telemetry τ)
    (telemetry' : Telemetry υ) (config : Config) (reconnectCount : Nat) :
    TradesAs (run.extend (trading.toldTo telemetry) config reconnectCount)
      (run'.extend (trading.toldTo telemetry') config reconnectCount) := by
  obtain ⟨hresult, hbeside⟩ :=
    trading.runWithJournal_silent telemetry config reconnectCount run.state
  obtain ⟨hresult', hbeside'⟩ :=
    trading.runWithJournal_silent telemetry' config reconnectCount run'.state
  -- one silent cycle is beside both
  rw [← h.journal, ← h.world] at hresult' hbeside'
  have hreports := hresult.trans hresult'.symm
  have hevents := hbeside.trace.trans hbeside'.trace.symm
  have hjournal := hbeside.journal.trans hbeside'.journal.symm
  have hcycle : (nextCycle (trading.toldTo telemetry) config run.state reconnectCount).untold =
      (nextCycle (trading.toldTo telemetry') config run'.state reconnectCount).untold := by
    unfold nextCycle CycleRecord.untold
    simp only [CycleRecord.mk.injEq, true_and]
    exact ⟨h.journal, hevents, hreports, hjournal⟩
  refine ⟨?_, hjournal, hbeside.world.trans hbeside'.world.symm⟩
  rw [cycles_extend, cycles_extend, List.map_append, List.map_append, h.cycles, List.map_singleton,
    List.map_singleton, hcycle]

/-- **Telemetry never changes trading.**  Whatever the sinks answer, and whichever ids the cycles
    get: the calls of the exchange and of the journal, with their arguments, the replies
    and the order, the reports up to their ids, and what is left in the end are the same. -/
theorem tradesAs (trading : Trading σ) (telemetry : Telemetry τ) (telemetry' : Telemetry υ)
    (config : Config) (journal : Journal) (world : σ) (sinks : τ) (sinks' : υ)
    (reconnectCounts : List Nat) :
    TradesAs
      (reconnectCounts.foldl (extend (trading.toldTo telemetry) config)
        ⟨[], ⟨journal, (world, sinks)⟩⟩)
      (reconnectCounts.foldl (extend (trading.toldTo telemetry') config)
        ⟨[], ⟨journal, (world, sinks')⟩⟩) := by
  induction reconnectCounts using List.reverseRecOn with
  | nil => exact ⟨rfl, rfl, rfl⟩
  | append_singleton counts count ih =>
    rw [List.foldl_concat, List.foldl_concat]
    exact ih.extend trading telemetry telemetry' config count

end CycleRun

end LiveTrader
