import LiveTrader.Proofs.CycleRuns
import LiveTrader.Proofs.Guard

/-!
  LiveTrader.Proofs.OrderGate

  When a cycle sends an order, and which one.
-/

namespace LiveTrader

variable {config : Config} {inputs : CycleInputs} {guard : GuardResult} {runId : String}
  {j j' : Journal} {events : List CycleEvent} {replies : List (Except Fault (List Balance))}
  {side : OrderSide} {sizing : OrderSizing}

/-! ## Gates -/

/-- The gate opens if the guard, both switches and the decision agree. -/
theorem Cycle.gate_eq_ok_iff {execution : ExecutionConfig} {decision : Decision} :
    gate execution guard decision = .ok side ↔
      guard.isSuccess = true ∧ execution.executeOrders = true ∧
        execution.liveHttpEnabled = true ∧ decision.action.orderSide? = some side ∧
        decision.confidence.lt execution.minConfidence = false := by
  unfold gate
  cases guard.isSuccess <;> cases execution.executeOrders <;> cases execution.liveHttpEnabled <;>
    simp
  cases decision.action.orderSide? with
  | none => simp
  | some side' => cases decision.confidence.lt execution.minConfidence <;> simp

/-- What stands behind each reason of the gates, which are tried one after the other. -/
inductive Cycle.Blocked (execution : ExecutionConfig) (guard : GuardResult)
    (decision : Decision) : Skip → Prop
  | risk (hs : guard.isSuccess = false) : Blocked execution guard decision .risk
  | ordersOff (hs : guard.isSuccess = true) (ho : execution.executeOrders = false) :
      Blocked execution guard decision .ordersOff
  | networkOff (hs : guard.isSuccess = true) (ho : execution.executeOrders = true)
      (hn : execution.liveHttpEnabled = false) : Blocked execution guard decision .networkOff
  | hold (hs : guard.isSuccess = true) (ho : execution.executeOrders = true)
      (hn : execution.liveHttpEnabled = true) (ha : decision.action.orderSide? = none) :
      Blocked execution guard decision .hold
  | lowConfidence (side : OrderSide) (hs : guard.isSuccess = true)
      (ho : execution.executeOrders = true) (hn : execution.liveHttpEnabled = true)
      (ha : decision.action.orderSide? = some side)
      (hc : decision.confidence.lt execution.minConfidence = true) :
      Blocked execution guard decision .lowConfidence

theorem Cycle.blocked_of_gate {execution : ExecutionConfig} {decision : Decision} {reason : Skip}
    (hg : gate execution guard decision = .error reason) :
    Blocked execution guard decision reason := by
  unfold gate at hg
  -- gate by gate in the program's order, each one that holds leaving the next to decide
  cases hs : guard.isSuccess with
  | false =>
    obtain rfl : .risk = reason := by simpa [hs] using hg
    exact .risk hs
  | true =>
    cases ho : execution.executeOrders with
    | false =>
      obtain rfl : .ordersOff = reason := by simpa [hs, ho] using hg
      exact .ordersOff hs ho
    | true =>
      cases hn : execution.liveHttpEnabled with
      | false =>
        obtain rfl : .networkOff = reason := by simpa [hs, ho, hn] using hg
        exact .networkOff hs ho hn
      | true =>
        cases ha : decision.action.orderSide? with
        | none =>
          obtain rfl : .hold = reason := by simpa [hs, ho, hn, ha] using hg
          exact .hold hs ho hn ha
        | some side =>
          cases hc : decision.confidence.lt execution.minConfidence with
          | false => simp [hs, ho, hn, ha, hc] at hg
          | true =>
            obtain rfl : .lowConfidence = reason := by simpa [hs, ho, hn, ha, hc] using hg
            exact .lowConfidence side hs ho hn ha hc

/-- The inputs of a cycle ask for an order of this side and size, given what the exchange has
    told of the balances. -/
structure Wanted (config : Config) (inputs : CycleInputs)
    (replies : List (Except Fault (List Balance))) (side : OrderSide) (sizing : OrderSizing) :
    Prop where
  within_limits : ∀ m, ¬ config.risk.limit m < inputs.snapshot.current m
  orders_on : config.execution.executeOrders = true
  network_on : config.execution.liveHttpEnabled = true
  side_eq : inputs.decision.action = .buy ∧ side = .buy ∨
    inputs.decision.action = .sell ∧ side = .sell
  confident : inputs.decision.confidence.lt config.execution.minConfidence = false
  sized : ∃ balance, Resolved config inputs replies balance ∧
    sizeOrder? balance inputs.close inputs.atr config.sizing = some sizing
  positive : sizing.finalQty.isPositive = true

theorem Resolved.operations {balance : Decimal} (h : Resolved config inputs replies balance) :
    ((Cycle.askEvents config replies).filterMap CycleEvent.operation?).Sublist [.balances] := by
  cases h with
  | given => exact List.nil_sublist _
  | asked reply => exact List.Sublist.refl _

theorem Tracked.operations {autoCancel : Bool} {placed : OrderState} {calls : List CycleEvent}
    {l : Lifecycle} (h : Tracked autoCancel placed calls l) :
    (calls.filterMap CycleEvent.operation?).Sublist [.fetch, .cancel] := by
  cases h <;> simp [CycleEvent.operation?]

namespace OrderCourse

variable {outcome : Except CycleFailure OrderOutcome}

/-- An order takes no more calls than these, in this order. -/
theorem operations (h : OrderCourse config runId inputs guard j events outcome j') :
    (events.filterMap CycleEvent.operation?).Sublist [.balances, .place, .fetch, .cancel] := by
  cases h with
  | stopped | skipped => exact List.nil_sublist _
  | overflow side replies ha | tooSmall side replies sizing ha =>
    obtain ⟨balance, hb, -⟩ := ha.size
    exact hb.operations.trans (by simp)
  | duplicate side replies sizing id ha =>
    obtain ⟨balance, hb, -⟩ := ha.size
    rw [List.filterMap_append]
    exact hb.operations.append (List.nil_sublist _)
  | followed side replies sizing id placed calls l j₁ j₂ ha hq hj₁ ht =>
    obtain ⟨balance, hb, -⟩ := ha.size
    rw [Cycle.filterMap_sendEvents (fun _ _ => rfl), List.filterMap_append]
    show (_ ++ [] ++ [ExchangeOperation.place] ++ _ ++ []).Sublist _
    simpa using hb.operations.append (ht.operations.cons_cons ExchangeOperation.place)

/-- An order is dealt with by no further inputs. -/
theorem filterMap_inputs? (h : OrderCourse config runId inputs guard j events outcome j') :
    events.filterMap CycleEvent.inputs? = [] := by
  cases h with
  | stopped | skipped => rfl
  | overflow | tooSmall => exact Cycle.filterMap_askEvents fun _ _ => rfl
  | duplicate =>
    rw [List.filterMap_append, Cycle.filterMap_askEvents fun _ _ => rfl]
    rfl
  | followed _ _ _ _ _ _ _ _ _ _ _ _ ht =>
    rw [ht.filterMap_followed (fun _ _ => rfl) (fun _ _ => rfl) (fun _ _ => rfl),
      Cycle.filterMap_askEvents fun _ _ => rfl]
    rfl

/-! ## How far an order goes -/

/-- An order goes as far as it is wanted and its id is new. -/
inductive Gated (config : Config) (runId : String) (inputs : CycleInputs) (j : Journal)
    (events : List CycleEvent) (outcome : Except CycleFailure OrderOutcome) : Prop
  | unwanted
      (hw : ∀ side sizing,
        ¬ Wanted config inputs (events.filterMap CycleEvent.balances?) side sizing)
      (hid : events.filterMap CycleEvent.orderId? = [])
      (hplaced : events.filterMap CycleEvent.placed? = [])
  | refused (side : OrderSide) (sizing : OrderSizing) (id : ClientOrderId)
      (hw : Wanted config inputs (events.filterMap CycleEvent.balances?) side sizing)
      (hids : events.filterMap CycleEvent.orderId? = [id]) (hj : id ∈ j.ids)
      (hplaced : events.filterMap CycleEvent.placed? = [])
  | sent (side : OrderSide) (sizing : OrderSizing) (id : ClientOrderId) (order : Order)
      (placed : OrderState) (l : Lifecycle)
      (horder : order = Cycle.orderOf config.exchange side ⟨sizing.finalQty⟩ id)
      (hw : Wanted config inputs (events.filterMap CycleEvent.balances?) side sizing)
      (hids : events.filterMap CycleEvent.orderId? = [id]) (hj : id ∉ j.ids)
      (ho : outcome = .ok (.followed sizing id l))
      (hplaced : events.filterMap CycleEvent.placed? = [(order, placed)])
      (hsend : [.record id (.ok ()),
        .audit AuditEvent.orderAttempt (Cycle.attemptPayload runId order sizing),
        .place order placed] <:+: events)

namespace Gated

variable {order : Order} {reply : OrderState}

/-- An order is sent if it is wanted and the journal takes its id. -/
theorem exists_place_iff (h : Gated config runId inputs j events outcome) :
    (∃ order reply, .place order reply ∈ events) ↔
      (∃ side sizing, Wanted config inputs (events.filterMap CycleEvent.balances?) side sizing) ∧
      ∃ id, (∃ symbol, .orderId symbol id ∈ events) ∧ ∃ j', j.record id = .ok j' := by
  simp only [← CycleEvent.mem_filterMap_orderId?, ← CycleEvent.mem_filterMap_placed?]
  cases h with
  | unwanted hw hid hp => simp [hp, hw]
  | refused side sizing id hw hid hj hp =>
    have hrefuse : ∀ j', j.record id ≠ .ok j' := fun j' hok =>
      (Journal.record_eq_ok_iff.mp hok).1 hj
    simp [hp, hid, hrefuse]
  | sent side sizing id order placed l horder hw hid hj ho hp =>
    have haccept := Journal.record_eq_ok_iff.mpr ⟨hj, rfl⟩
    rw [hp, hid]
    exact iff_of_true ⟨order, placed, List.mem_singleton_self _⟩
      ⟨⟨side, sizing, hw⟩, id, List.mem_singleton_self id, _, haccept⟩

end Gated

end OrderCourse

/-! ## The gate -/

variable {c : CycleRecord} {calls : List CycleEvent} {outcome : Except CycleFailure OrderOutcome}

namespace CycleRecord.Deals

theorem filterMap_inputs? (h : c.Deals config runId inputs calls outcome) :
    c.events.filterMap CycleEvent.inputs? = [.ok inputs] := by
  obtain ⟨closing, hc, he⟩ := h.events_eq
  rw [he, List.filterMap_append, List.filterMap_append, h.course.filterMap_inputs?]
  rcases hc with rfl | ⟨seen, rfl⟩ <;> rfl

/-- The inputs that a cycle has dealt with are the only ones it has read. -/
theorem inputs_mem_iff (h : c.Deals config runId inputs calls outcome)
    {reply : Except RunError CycleInputs} : .inputs reply ∈ c.events ↔ reply = .ok inputs := by
  rw [← CycleEvent.mem_filterMap_inputs?, h.filterMap_inputs?, List.mem_singleton]

theorem operations (h : c.Deals config runId inputs calls outcome) :
    ∃ closing, closing.Sublist [ExchangeOperation.streams] ∧
      c.events.filterMap CycleEvent.operation? =
        calls.filterMap CycleEvent.operation? ++ closing := by
  obtain ⟨closing, hc, he⟩ := h.events_eq
  refine ⟨closing.filterMap CycleEvent.operation?, ?_, ?_⟩
  · rcases hc with rfl | ⟨seen, rfl⟩
    · exact List.nil_sublist _
    · exact List.Sublist.refl _
  · rw [he, List.filterMap_append, List.filterMap_append]
    rfl

end CycleRecord.Deals

end LiveTrader
