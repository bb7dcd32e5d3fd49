import LiveTrader.Cycle.Scripted
import LiveTrader.Exchange.Scripted
import LiveTrader.Proofs.OrderGate
import LiveTrader.Proofs.Payloads

/-!
  LiveTrader.Proofs.AuditTrail

  What the audit log tells of a run of cycles, if its sink keeps everything.  The trail grows by
  the notes of each cycle and by nothing else (`runWithJournal_trail`).  The notes of a cycle are
  those of its course: a stop of the guard, or an attempt with what the exchange has answered to
  each of its calls, or nothing (`CycleRecord.Audited`).
-/

namespace LiveTrader

variable {σ : Type}

/-! ## Masked payloads -/

namespace Audit

/-- What stands under a key is masked, or has its own secrets masked. -/
theorem lookup_redactMembers (members : List (String × Json)) (key : String) :
    (redactMembers members).lookup key =
      (members.lookup key).map fun v => if isSecretKey key then .str mask else redact v := by
  induction members with
  | nil => simp [redactMembers]
  | cons member rest ih =>
    obtain ⟨k, v⟩ := member
    rw [redactMembers, Json.lookup_member, Json.lookup_member, ih]
    by_cases h : key = k
    · rw [if_pos h, if_pos h, h, Option.map_some]
    · rw [if_neg h, if_neg h]

theorem redact_str (text : String) : redact (.str text) = .str text := by
  simp [redact]

/-- A member whose key tells of no secret stays, with its own secrets masked. -/
theorem get?_redact (v : Json) {key : String} (hkey : isSecretKey key = false) :
    (redact v).get? key = (v.get? key).map redact := by
  cases v with
  | obj members =>
    rw [redact, Json.get?, Json.get?, lookup_redactMembers]
    simp [hkey]
  | _ => simp [redact, Json.get?]

end Audit

namespace Cycle

variable (runId : String) (id : ClientOrderId) (members : List (String × Json))

/-- Every note names the run that it belongs to. -/
theorem get?_withIds_runId : (withIds runId id members).get? "run_id" = some (.str runId) := by
  simp [withIds, List.lookup_cons]

/-- Every note about an order names its id. -/
theorem get?_withIds_clientOrderId :
    (withIds runId id members).get? "client_order_id" = some (.str id.text) := by
  simp [withIds]

theorem get?_withIds_state :
    (withIds runId id members).get? "state" = members.reverse.lookup "state" := by
  simp [withIds, List.lookup_cons]

end Cycle

/-! ## Notes -/

/-- What a sink keeps of a note: its secrets are masked. -/
def CycleEvent.audited? : CycleEvent → Option (String × Json)
  | audit eventType payload => some (eventType, Audit.redact payload)
  | _ => none

/-- The answer to a call about an order, with the type of event that tells of it. -/
def CycleEvent.answer? : CycleEvent → Option (String × OrderState)
  | place _ s => some (AuditEvent.orderResult, s)
  | fetch _ s => some (AuditEvent.orderFetchResult, s)
  | cancel _ s => some (AuditEvent.orderCancelResult, s)
  | _ => none

/-- The audited event for an answer. -/
def resultNote (runId : String) (id : ClientOrderId) (answer : String × OrderState) :
    String × Json :=
  (answer.1, Audit.redact (Cycle.statePayload runId id answer.2))

/-- The audited event for a step of a lifecycle. -/
def stepNote (runId : String) (id : ClientOrderId) (step : LifecycleStep) : String × Json :=
  ((Cycle.stepEvent runId id step).1, Audit.redact (Cycle.stepEvent runId id step).2)

/-- The types of the events about the result of a call. -/
def resultTypes : List String :=
  [AuditEvent.orderResult, AuditEvent.orderFetchResult, AuditEvent.orderCancelResult]

/-- The state that an audited event tells of, if it is one about the result of a call. -/
def told? (event : String × Json) : Option (String × Json) :=
  if event.1 ∈ resultTypes then (event.2.get? "state").map fun state => (event.1, state)
  else none

/-- An audited event names the cycle and the order. -/
structure Names (runId : String) (id : ClientOrderId) (event : String × Json) : Prop where
  runId_eq : event.2.get? "run_id" = some (.str runId)
  clientOrderId_eq : event.2.get? "client_order_id" = some (.str id.text)

section Notes

variable {runId : String} {id : ClientOrderId}

/-- Masking does not hide the ids of a note. -/
theorem names_withIds (eventType : String) (members : List (String × Json)) :
    Names runId id (eventType, Audit.redact (Cycle.withIds runId id members)) where
  runId_eq := by
    rw [Audit.get?_redact _ (by decide), Cycle.get?_withIds_runId, Option.map_some,
      Audit.redact_str]
  clientOrderId_eq := by
    rw [Audit.get?_redact _ (by decide), Cycle.get?_withIds_clientOrderId, Option.map_some,
      Audit.redact_str]

theorem names_stepNote (step : LifecycleStep) : Names runId id (stepNote runId id step) := by
  cases step <;> exact names_withIds _ _

/-- The state of a call is told by its event. -/
theorem told?_resultNote {e : CycleEvent} {answer : String × OrderState}
    (he : e.answer? = some answer) :
    told? (resultNote runId id answer) = some (answer.1, Audit.redact answer.2.toJson) := by
  have htype : answer.1 ∈ resultTypes := by
    cases e <;> simp only [CycleEvent.answer?, reduceCtorEq, Option.some.injEq] at he <;>
      simp [← he, resultTypes]
  have hstate : (Audit.redact (Cycle.statePayload runId id answer.2)).get? "state" =
      some (Audit.redact answer.2.toJson) := by
    rw [Audit.get?_redact _ (by decide), Cycle.statePayload, Cycle.get?_withIds_state]
    rfl
  rw [told?, resultNote, if_pos htype, hstate, Option.map_some]

theorem told?_of_not_mem {eventType : String} (h : eventType ∉ resultTypes) (payload : Json) :
    told? (eventType, payload) = none :=
  if_neg h

/-- A cancel that was not made has no state to tell. -/
theorem told?_cancelSkipped (orderId : String) :
    told? (stepNote runId id (.cancelSkipped orderId)) = none := by
  have hstate : (stepNote runId id (.cancelSkipped orderId)).2.get? "state" = none := by
    rw [stepNote, Audit.get?_redact _ (by decide), Cycle.stepEvent, Cycle.get?_withIds_state]
    simp [List.lookup_cons]
  rw [told?, hstate, Option.map_none, ite_self]

end Notes

/-! ## Lifecycles -/

/-- An order that was read as active is not cancelled, since that is switched off. -/
def SkipsCancel (autoCancel : Bool) (events : List CycleEvent) : Prop :=
  autoCancel = false ∧ ∃ orderId f, .fetch orderId f ∈ events ∧ f.status = OrderStatus.active

/-- What was read of an order is among the answers. -/
theorem CycleEvent.exists_fetch_iff {events : List CycleEvent} {f : OrderState} :
    (∃ orderId, .fetch orderId f ∈ events) ↔
      (AuditEvent.orderFetchResult, f) ∈ events.filterMap answer? := by
  rw [List.mem_filterMap]
  constructor
  · rintro ⟨orderId, hmem⟩
    exact ⟨_, hmem, rfl⟩
  · rintro ⟨e, he, h⟩
    cases e <;> simp [answer?, AuditEvent.orderResult, AuditEvent.orderFetchResult,
      AuditEvent.orderCancelResult] at h
    case fetch orderId r =>
      subst h
      exact ⟨orderId, he⟩

/-- Without an answer no order was sent. -/
theorem CycleEvent.placed_of_answers {events : List CycleEvent}
    (h : events.filterMap answer? = []) : events.filterMap placed? = [] := by
  rw [List.filterMap_eq_nil_iff] at h ⊢
  intro e he
  cases e with
  | place order reply => cases h _ he
  | _ => rfl

/-- Whether a cancel is skipped is told by what was read of the order. -/
theorem skipsCancel_iff {autoCancel : Bool} {events : List CycleEvent} :
    SkipsCancel autoCancel events ↔ autoCancel = false ∧
      ∃ f, (AuditEvent.orderFetchResult, f) ∈ events.filterMap CycleEvent.answer? ∧
        f.status = OrderStatus.active := by
  simp only [SkipsCancel, ← CycleEvent.exists_fetch_iff]
  refine and_congr_right fun _ => ⟨?_, ?_⟩
  · rintro ⟨orderId, f, hmem, hf⟩
    exact ⟨f, ⟨orderId, hmem⟩, hf⟩
  · rintro ⟨f, ⟨orderId, hmem⟩, hf⟩
    exact ⟨orderId, f, hmem, hf⟩

namespace Tracked

variable {autoCancel : Bool} {placed : OrderState} {calls : List CycleEvent} {l : Lifecycle}

/-- A cancellation is noted as left out if and only if it was. -/
theorem exists_skip_iff_skipsCancel (h : Tracked autoCancel placed calls l) :
    (∃ orderId, LifecycleStep.cancelSkipped orderId ∈ l.steps) ↔ SkipsCancel autoCancel calls := by
  rw [h.exists_skip_iff]
  refine and_congr_right fun _ => ⟨fun ⟨f, hmem, hf⟩ => ⟨placed.orderId, f, hmem, hf⟩, ?_⟩
  rintro ⟨orderId, f, hmem, hf⟩
  -- no other order is read
  rcases h.mem_calls _ hmem with ⟨r, hr⟩ | ⟨r, hr⟩
  · obtain ⟨rfl, rfl⟩ := CycleEvent.fetch.inj hr
    exact ⟨f, hmem, hf⟩
  · cases hr

/-- The notes on a lifecycle tell of its calls, and after them of a cancel that was skipped. -/
theorem map_stepNote (h : Tracked autoCancel placed calls l) (runId : String)
    (id : ClientOrderId) :
    ∃ skips, l.steps.map (stepNote runId id) =
        (calls.filterMap CycleEvent.answer?).map (resultNote runId id) ++ skips ∧
      (skips = [] ∧ ¬ SkipsCancel autoCancel calls ∨
        skips = [stepNote runId id (.cancelSkipped placed.orderId)] ∧
          SkipsCancel autoCancel calls) := by
  have hcalls : (calls.filterMap stepOf?).map (stepNote runId id) =
      (calls.filterMap CycleEvent.answer?).map (resultNote runId id) := by
    rw [List.map_filterMap, List.map_filterMap]
    refine List.filterMap_congr fun e he => ?_
    rcases h.mem_calls e he with ⟨r, rfl⟩ | ⟨r, rfl⟩ <;> rfl
  have hskip := h.exists_skip_iff_skipsCancel
  obtain ⟨notes, hsteps, rfl | rfl⟩ := h.steps_eq
  · refine ⟨[], ?_, .inl ⟨rfl, ?_⟩⟩
    · rw [hsteps, List.append_nil, List.append_nil, hcalls]
    · rw [← hskip]
      rintro ⟨orderId, hmem⟩
      -- a step that is made of a call is none that was skipped
      rw [hsteps, List.append_nil, List.mem_filterMap] at hmem
      obtain ⟨e, -, he⟩ := hmem
      cases e <;> simp [stepOf?] at he
  · refine ⟨_, ?_, .inr ⟨rfl, hskip.mp ⟨placed.orderId, ?_⟩⟩⟩
    · rw [hsteps, List.map_append, hcalls, List.map_singleton]
    · rw [hsteps]
      exact List.mem_append_right _ (List.mem_singleton_self _)

end Tracked

/-! ## Orders -/

/-- What dealing with an order leaves in the trail: a stop of the guard, nothing, or an attempt
    after calls that leave nothing. -/
inductive Noted (config : Config) (runId : String) (guard : GuardResult) :
    List CycleEvent → Prop
  | stopped (hg : guard.isSuccess = false) :
      Noted config runId guard [.audit AuditEvent.riskStop (Cycle.riskPayload runId guard)]
  | quiet (calls : List CycleEvent) (hg : guard.isSuccess = true)
      (haudited : calls.filterMap CycleEvent.audited? = [])
      (hanswers : calls.filterMap CycleEvent.answer? = []) : Noted config runId guard calls
  | attempted (before : List CycleEvent) (order : Order) (sizing : OrderSizing)
      (placed : OrderState) (follow : List CycleEvent) (l : Lifecycle)
      (hg : guard.isSuccess = true) (haudited : before.filterMap CycleEvent.audited? = [])
      (hanswers : before.filterMap CycleEvent.answer? = [])
      (ht : Tracked config.execution.autoCancel placed follow l) :
      Noted config runId guard
        (before ++ [.record order.clientOrderId (.ok ())] ++
          Cycle.sendEvents runId order sizing placed follow l ++
          [.complete order.clientOrderId l.finalStatus (.ok ())])

section Orders

variable {config : Config} {inputs : CycleInputs} {guard : GuardResult} {runId : String}
  {j j' : Journal} {calls : List CycleEvent} {outcome : Except CycleFailure OrderOutcome}

/-- Whatever comes of an order, its notes are those of its course. -/
theorem OrderCourse.noted (h : OrderCourse config runId inputs guard j calls outcome j') :
    Noted config runId guard calls := by
  cases h with
  | stopped hg =>
    cases Cycle.blocked_of_gate hg with
    | risk hs => exact .stopped hs
  | skipped reason hr hg =>
    -- of the gates only the guard's writes a note, and `hr` rules it out
    cases Cycle.blocked_of_gate hg with
    | risk => exact absurd rfl hr
    | ordersOff hs | networkOff hs | hold hs | lowConfidence _ hs => exact .quiet [] hs rfl rfl
  | overflow side replies ha | tooSmall side replies sizing ha =>
    -- up to here a cycle has asked for a balance at most, and asking is not noted
    exact .quiet _ (Cycle.gate_eq_ok_iff.mp ha.gate).1 (Cycle.filterMap_askEvents fun _ _ => rfl)
      (Cycle.filterMap_askEvents fun _ _ => rfl)
  | duplicate side replies sizing id ha =>
    refine .quiet _ (Cycle.gate_eq_ok_iff.mp ha.gate).1 ?_ ?_
    · rw [List.filterMap_append, Cycle.filterMap_askEvents fun _ _ => rfl]
      rfl
    · rw [List.filterMap_append, Cycle.filterMap_askEvents fun _ _ => rfl]
      rfl
  | followed side replies sizing id placed follow l j₁ j₂ ha hq hj₁ ht =>
    -- what comes before the order is what was asked, and the id that was drawn
    have hnoted : Noted config runId guard _ :=
      .attempted (Cycle.askEvents config replies ++ [.orderId config.exchange.symbol id])
        (Cycle.orderOf config.exchange side ⟨sizing.finalQty⟩ id) sizing placed follow l
        (Cycle.gate_eq_ok_iff.mp ha.gate).1
        (by rw [List.filterMap_append, Cycle.filterMap_askEvents fun _ _ => rfl]; rfl)
        (by rw [List.filterMap_append, Cycle.filterMap_askEvents fun _ _ => rfl]; rfl) ht
    simpa [Cycle.orderOf, Order.market] using hnoted

/-- The notes on an order that is sent and followed. -/
theorem Tracked.audited_sendEvents {autoCancel : Bool} {placed : OrderState}
    {follow : List CycleEvent} {l : Lifecycle} (h : Tracked autoCancel placed follow l)
    (order : Order) (sizing : OrderSizing) :
    (Cycle.sendEvents runId order sizing placed follow l).filterMap CycleEvent.audited? =
      (AuditEvent.orderAttempt, Audit.redact (Cycle.attemptPayload runId order sizing)) ::
        resultNote runId order.clientOrderId (AuditEvent.orderResult, placed) ::
          l.steps.map (stepNote runId order.clientOrderId) := by
  have hsteps : (l.steps.map fun step =>
      CycleEvent.audit (Cycle.stepEvent runId order.clientOrderId step).1
        (Cycle.stepEvent runId order.clientOrderId step).2).filterMap CycleEvent.audited? =
      l.steps.map (stepNote runId order.clientOrderId) := by
    rw [List.filterMap_map]
    show l.steps.filterMap (some ∘ stepNote runId order.clientOrderId) = _
    rw [List.filterMap_eq_map]
  have hfollow : follow.filterMap CycleEvent.audited? = [] :=
    h.filterMap_calls (fun _ _ => rfl) (fun _ _ => rfl)
  have hresult : (.audit AuditEvent.orderResult
      (Cycle.statePayload runId order.clientOrderId placed) :: follow).filterMap
        CycleEvent.audited? =
      [resultNote runId order.clientOrderId (AuditEvent.orderResult, placed)] := by
    simp only [List.filterMap_cons, CycleEvent.audited?, hfollow, resultNote]
  rw [Cycle.sendEvents, Cycle.followEvents, List.filterMap_append, List.filterMap_append, hsteps,
    hresult]
  simp only [List.filterMap_cons, CycleEvent.audited?, List.filterMap_nil, List.cons_append,
    List.nil_append]

end Orders

/-! ## Cycles -/

/-- What is audited of a cycle. -/
def CycleRecord.audited (c : CycleRecord) : List (String × Json) :=
  c.events.filterMap CycleEvent.audited?

/-- What is audited of a cycle that has sent this order and got this answer. -/
structure CycleRecord.AuditsAttempt (config : Config) (c : CycleRecord) (order : Order)
    (placed : OrderState) (runId : String) (sizing : OrderSizing) : Prop where
  /-- The id is that with which the cycle has begun. -/
  runId_eq : c.events.head? = some (.runId runId)
  /-- The attempt is noted once the journal has taken the id and before the order is sent, and
      what came of it before the order is read or cancelled. -/
  write_ahead : ∃ before after, c.events = before ++
      [.record order.clientOrderId (.ok ()),
        .audit AuditEvent.orderAttempt (Cycle.attemptPayload runId order sizing),
        .place order placed,
        .audit AuditEvent.orderResult (Cycle.statePayload runId order.clientOrderId placed)] ++
      after ∧
    before.filterMap CycleEvent.answer? = [] ∧ before.filterMap CycleEvent.audited? = []
  /-- After the attempt stands one result for each call, in the order of the calls, and after
      those the cancel that was skipped, if one was. -/
  audited_eq : ∃ skips, c.audited =
      (AuditEvent.orderAttempt, Audit.redact (Cycle.attemptPayload runId order sizing)) ::
        (c.events.filterMap CycleEvent.answer?).map (resultNote runId order.clientOrderId) ++
        skips ∧
    (skips = [] ∧ ¬ SkipsCancel config.execution.autoCancel c.events ∨
      skips = [stepNote runId order.clientOrderId (.cancelSkipped placed.orderId)] ∧
        SkipsCancel config.execution.autoCancel c.events)
  names : ∀ event ∈ c.audited, Names runId order.clientOrderId event

/-- A cycle whose audited events tell of what it did, and of nothing else. -/
structure CycleRecord.Audited (config : Config) (c : CycleRecord) : Prop where
  /-- Of a guard that has fired there is one event. -/
  stopped : ∀ inputs, .inputs (.ok inputs) ∈ c.events →
    (evaluateRisk config.risk inputs.snapshot).isSuccess = false →
    ∃ runId, c.events.head? = some (.runId runId) ∧ c.audited = [(AuditEvent.riskStop,
      Audit.redact (Cycle.riskPayload runId (evaluateRisk config.risk inputs.snapshot)))]
  /-- Of an order that something else has stopped there is none. -/
  silent : (∀ inputs, .inputs (.ok inputs) ∈ c.events →
      (evaluateRisk config.risk inputs.snapshot).isSuccess = true) →
    (∀ order placed, .place order placed ∉ c.events) → c.audited = []
  attempted : ∀ order placed, .place order placed ∈ c.events →
    ∃ runId sizing, c.AuditsAttempt config order placed runId sizing
  /-- The results that are told are the answers of the exchange, one for each call. -/
  results : c.audited.filterMap told? = (c.events.filterMap CycleEvent.answer?).map
    fun answer => (answer.1, Audit.redact answer.2.toJson)

namespace CycleRecord

variable {config : Config} {c : CycleRecord} {runId : String} {inputs : CycleInputs}
  {calls : List CycleEvent} {outcome : Except CycleFailure OrderOutcome}

/-! ### What a cycle adds to the calls for an order -/

/-- A cycle writes no other notes than those about its order. -/
theorem Deals.audited_eq (h : c.Deals config runId inputs calls outcome) :
    c.audited = calls.filterMap CycleEvent.audited? :=
  h.filterMap_events (fun _ => rfl) (fun _ => rfl) (fun _ => rfl) (fun _ _ => rfl)

/-- A cycle has no other answers than those about its order. -/
theorem Deals.answers_eq (h : c.Deals config runId inputs calls outcome) :
    c.events.filterMap CycleEvent.answer? = calls.filterMap CycleEvent.answer? :=
  h.filterMap_events (fun _ => rfl) (fun _ => rfl) (fun _ => rfl) (fun _ _ => rfl)

/-- A cycle begins with its id. -/
theorem Deals.head?_events (h : c.Deals config runId inputs calls outcome) :
    c.events.head? = some (.runId runId) := by
  obtain ⟨closing, -, he⟩ := h.events_eq
  rw [he]
  rfl

/-- An order that was sent is among the answers. -/
theorem answers_ne_nil {order : Order} {placed : OrderState}
    (hmem : .place order placed ∈ c.events) : c.events.filterMap CycleEvent.answer? ≠ [] := by
  have hanswer : (AuditEvent.orderResult, placed) ∈ c.events.filterMap CycleEvent.answer? :=
    List.mem_filterMap.mpr ⟨_, hmem, rfl⟩
  exact List.ne_nil_of_mem hanswer

/-! ### Attempts -/

section Attempts

variable {before follow : List CycleEvent} {order : Order} {sizing : OrderSizing}
  {placed : OrderState} {l : Lifecycle}

theorem Deals.auditsAttempt (haudited : before.filterMap CycleEvent.audited? = [])
    (hanswers : before.filterMap CycleEvent.answer? = [])
    (ht : Tracked config.execution.autoCancel placed follow l)
    (h : c.Deals config runId inputs (before ++ [.record order.clientOrderId (.ok ())] ++
      Cycle.sendEvents runId order sizing placed follow l ++
      [.complete order.clientOrderId l.finalStatus (.ok ())]) outcome) :
    c.AuditsAttempt config order placed runId sizing := by
  have hnotes : c.audited =
      (AuditEvent.orderAttempt, Audit.redact (Cycle.attemptPayload runId order sizing)) ::
        resultNote runId order.clientOrderId (AuditEvent.orderResult, placed) ::
          l.steps.map (stepNote runId order.clientOrderId) := by
    rw [h.audited_eq, List.filterMap_append, List.filterMap_append, List.filterMap_append, haudited,
      ht.audited_sendEvents order sizing]
    exact List.append_nil _
  have hcalls : c.events.filterMap CycleEvent.answer? =
      (AuditEvent.orderResult, placed) :: follow.filterMap CycleEvent.answer? := by
    rw [h.answers_eq, Cycle.filterMap_sendEvents (fun _ _ => rfl), List.filterMap_append, hanswers]
    exact List.append_nil _
  -- the answer to the order itself is not one to a read
  have hskips : SkipsCancel config.execution.autoCancel c.events ↔
      SkipsCancel config.execution.autoCancel follow := by
    rw [skipsCancel_iff, skipsCancel_iff, hcalls]
    simp [AuditEvent.orderFetchResult, AuditEvent.orderResult]
  refine ⟨h.head?_events, ?_, ?_, ?_⟩
  · obtain ⟨closing, -, he⟩ := h.events_eq
    refine ⟨Cycle.openingEvents config runId inputs c.reconnectCount ++ before,
      follow ++ (l.steps.map fun step =>
          .audit (Cycle.stepEvent runId order.clientOrderId step).1
            (Cycle.stepEvent runId order.clientOrderId step).2) ++
        [.complete order.clientOrderId l.finalStatus (.ok ())] ++ closing, ?_, ?_, ?_⟩
    · simp [he, Cycle.sendEvents, Cycle.followEvents]
    · rw [List.filterMap_append, hanswers]
      rfl
    · rw [List.filterMap_append, haudited]
      rfl
  · obtain ⟨skips, hsteps, hs⟩ := ht.map_stepNote runId order.clientOrderId
    refine ⟨skips, ?_, ?_⟩
    · rw [hnotes, hsteps, hcalls]
      rfl
    · rw [hskips]
      exact hs
  · intro event hevent
    rw [hnotes, List.mem_cons, List.mem_cons, List.mem_map] at hevent
    rcases hevent with rfl | rfl | ⟨step, -, rfl⟩
    · exact names_withIds _ _
    · exact names_withIds _ _
    · exact names_stepNote step

/-- The results that are told of an attempt are the answers. -/
theorem AuditsAttempt.results (h : c.AuditsAttempt config order placed runId sizing) :
    c.audited.filterMap told? = (c.events.filterMap CycleEvent.answer?).map
      fun answer => (answer.1, Audit.redact answer.2.toJson) := by
  obtain ⟨skips, haudited, hskips⟩ := h.audited_eq
  have hattempt : told? (AuditEvent.orderAttempt,
      Audit.redact (Cycle.attemptPayload runId order sizing)) = none :=
    told?_of_not_mem (by decide) _
  have hskipped : skips.filterMap told? = [] := by
    -- a cancellation that was left out tells of no answer of the exchange
    rcases hskips with ⟨rfl, -⟩ | ⟨rfl, -⟩
    · rfl
    · rw [List.filterMap_cons_none (told?_cancelSkipped _), List.filterMap_nil]
  have htold : ((c.events.filterMap CycleEvent.answer?).map
      (resultNote runId order.clientOrderId)).filterMap told? =
      (c.events.filterMap CycleEvent.answer?).map
        fun answer => (answer.1, Audit.redact answer.2.toJson) := by
    rw [List.filterMap_map, ← List.filterMap_eq_map]
    refine List.filterMap_congr fun answer hanswer => ?_
    obtain ⟨e, -, he⟩ := List.mem_filterMap.mp hanswer
    exact told?_resultNote he
  rw [haudited, List.filterMap_append, List.filterMap_cons_none hattempt, htold, hskipped,
    List.append_nil]

end Attempts

/-! ### Every cycle -/

/-- A cycle is audited, whatever comes of its order. -/
theorem Deals.isAudited (h : c.Deals config runId inputs calls outcome) : c.Audited config := by
  have hinputs : ∀ inputs', .inputs (.ok inputs') ∈ c.events → inputs' = inputs :=
    fun inputs' hmem => Except.ok.inj (h.inputs_mem_iff.mp hmem)
  cases h.course.noted with
  | stopped hg =>
    -- nothing was placed: the notes are the one of the guard, and there are no answers beside them
    have hnone : c.events.filterMap CycleEvent.answer? = [] := h.answers_eq
    refine ⟨?_, ?_, ?_, ?_⟩
    · intro inputs' hi _
      rw [hinputs inputs' hi]
      exact ⟨runId, h.head?_events, h.audited_eq⟩
    · intro hsuccess _
      rw [hsuccess inputs (h.inputs_mem_iff.mpr rfl)] at hg
      cases hg
    · intro order placed hmem
      exact absurd hnone (answers_ne_nil hmem)
    · rw [hnone, h.audited_eq]
      exact List.filterMap_cons_none (told?_of_not_mem (by decide) _)
  | quiet _ hg haudited hanswers =>
    -- nothing was placed and the guard was content: there are neither notes nor answers
    have hnone : c.events.filterMap CycleEvent.answer? = [] := h.answers_eq.trans hanswers
    refine ⟨?_, ?_, ?_, ?_⟩
    · intro inputs' hi hfired
      rw [hinputs inputs' hi, hg] at hfired
      cases hfired
    · exact fun _ _ => h.audited_eq.trans haudited
    · intro order placed hmem
      exact absurd hnone (answers_ne_nil hmem)
    · rw [hnone, h.audited_eq, haudited]
      rfl
  | attempted before order sizing placed follow l hg haudited hanswers ht =>
    -- an order was placed, and only one, so the attempt that is noted is of that order
    have hattempt := h.auditsAttempt haudited hanswers ht
    have hplaced : c.events.filterMap CycleEvent.placed? = [(order, placed)] := by
      rw [h.filterMap_placed?, Cycle.filterMap_sendEvents (fun _ _ => rfl), List.filterMap_append,
        CycleEvent.placed_of_answers hanswers, ht.filterMap_calls (fun _ _ => rfl) (fun _ _ => rfl)]
      rfl
    refine ⟨?_, ?_, ?_, hattempt.results⟩
    · intro inputs' hi hfired
      rw [hinputs inputs' hi, hg] at hfired
      cases hfired
    · intro _ hnone
      refine absurd ?_ (hnone order placed)
      rw [← CycleEvent.mem_filterMap_placed?, hplaced]
      exact List.mem_singleton_self _
    · intro order' placed' hmem
      rw [← CycleEvent.mem_filterMap_placed?, hplaced, List.mem_singleton] at hmem
      obtain ⟨rfl, rfl⟩ := Prod.mk.inj hmem
      exact ⟨runId, sizing, hattempt⟩

end CycleRecord

/-! ## Sinks -/

/-- A part of the world that is the trail of its audit sink: what is noted is added to it, its
    secrets masked, and nothing else changes it. -/
structure Surroundings.KeepsTrail (s : Surroundings (StateM σ))
    (trail : σ → List (String × Json)) : Prop where
  exchange : s.exchange.Keeps trail
  balances : ∀ accountType w, trail ((s.exchange.balances accountType).run w).2 = trail w
  firstEvents : ∀ timeout w, trail ((s.exchange.firstEvents timeout).run w).2 = trail w
  inputs : ∀ w, trail (s.inputs.run w).2 = trail w
  freshRunId : ∀ w, trail (s.freshRunId.run w).2 = trail w
  freshOrderId : ∀ symbol w, trail ((s.freshOrderId symbol).run w).2 = trail w
  audit : ∀ eventType payload w, trail ((s.audit eventType payload).run w).2 =
    trail w ++ [(eventType, Audit.redact payload)]
  progress : ∀ p w, trail ((s.progress p).run w).2 = trail w

/-- A traced cycle beside the same one untraced, whose trail has grown by what the trace tells. -/
def TrailGrown (trail : σ → List (String × Json)) (kept : List (String × Json))
    (t : Traced CycleEvent (CycleState σ)) (st : CycleState σ) : Prop :=
  t.state = st ∧ trail st.world = kept ++ t.trace.filterMap CycleEvent.audited?

section Sinks

variable {s : Surroundings (StateM σ)} {trail : σ → List (String × Json)}

/-- A call makes the trail longer by what it writes, if its action does. -/
theorem trailGrown_call {kept : List (String × Json)} {α : Type} {act : StateM (CycleState σ) α}
    {events : α → List CycleEvent}
    (h : ∀ st, trail (act.run st).2.world =
      trail st.world ++ (events (act.run st).1).filterMap CycleEvent.audited?) :
    Lockstep (TrailGrown trail kept) (Tracing.call act events) act := by
  rintro t _ ⟨rfl, hkept⟩
  refine ⟨rfl, rfl, ?_⟩
  show trail (act.run t.state).2.world =
    kept ++ (t.trace ++ events (act.run t.state).1).filterMap CycleEvent.audited?
  rw [h, hkept, List.filterMap_append, List.append_assoc]

/-- A call that is no note, and leaves the trail alone. -/
theorem trailGrown_quiet {kept : List (String × Json)} {α : Type} {act : StateM (CycleState σ) α}
    {events : α → List CycleEvent}
    (h : ∀ st, trail (act.run st).2.world = trail st.world)
    (hevents : ∀ a, (events a).filterMap CycleEvent.audited? = []) :
    Lockstep (TrailGrown trail kept) (Tracing.call act events) act := by
  refine trailGrown_call fun st => ?_
  rw [h, hevents, List.append_nil]

theorem Surroundings.KeepsTrail.alike (h : s.KeepsTrail trail) (kept : List (String × Json)) :
    s.watched.Alike (TrailGrown trail kept) (s.lift CycleState.onWorld) where
  exchange := {
    place order := trailGrown_quiet (fun st => h.exchange.place order st.world) fun _ => rfl
    fetch orderId := trailGrown_quiet (fun st => h.exchange.fetch orderId st.world) fun _ => rfl
    cancel orderId := trailGrown_quiet (fun st => h.exchange.cancel orderId st.world) fun _ => rfl
    balances ty := trailGrown_quiet (fun st => h.balances ty st.world) fun _ => rfl
    firstEvents time := trailGrown_quiet (fun st => h.firstEvents time st.world) fun _ => rfl }
  inputs := trailGrown_quiet (fun st => h.inputs st.world) fun _ => rfl
  freshRunId := trailGrown_quiet (fun st => h.freshRunId st.world) fun _ => rfl
  freshOrderId symbol := trailGrown_quiet (fun st => h.freshOrderId symbol st.world) fun _ => rfl
  audit ty payload := (trailGrown_call fun st => h.audit ty payload st.world).abreast
  progress p := (trailGrown_quiet (fun st => h.progress p st.world) fun _ => rfl).abreast

/-- The journal has nothing to do with the trail. -/
theorem journal_alike (trail : σ → List (String × Json)) (kept : List (String × Json)) :
    Journal.watched.Alike (TrailGrown trail kept) (Journal.access.lift CycleState.onJournal) where
  record _ := trailGrown_quiet (fun _ => rfl) fun _ => rfl
  complete _ _ := trailGrown_quiet (fun _ => rfl) fun _ => rfl

/-- **A cycle adds its notes to the trail** and nothing else. -/
theorem runWithJournal_trail (h : s.KeepsTrail trail) (config : Config) (reconnectCount : Nat)
    (st : CycleState σ) :
    trail ((Cycle.runWithJournal s config reconnectCount).run st).2.world =
      trail st.world ++
        (Cycle.callsOf s config reconnectCount st).filterMap CycleEvent.audited? := by
  -- the traced cycle starts with no trace, beside the trail as it is
  have hlockstep := (h.alike (trail st.world)).run config (journal_alike trail _) reconnectCount
  obtain ⟨-, -, hgrown⟩ := hlockstep ⟨st, []⟩ st ⟨rfl, (List.append_nil _).symm⟩
  exact hgrown

end Sinks

/-! ## Runs -/

/-- The trail that a run has left tells of each of its cycles, one after the other. -/
structure CycleRun.IsAudited (config : Config) (trail : σ → List (String × Json)) (world : σ)
    (run : CycleRun σ) : Prop where
  cycles : ∀ c ∈ run.cycles, c.Audited config
  trail_eq : trail run.state.world = trail world ++ run.cycles.flatMap CycleRecord.audited
  /-- It has one result for each order that was sent, read or cancelled, in this order. -/
  results : (run.cycles.flatMap CycleRecord.audited).filterMap told? =
    (run.events.filterMap CycleEvent.answer?).map
      fun answer => (answer.1, Audit.redact answer.2.toJson)

/-- Without inputs nothing is noted. -/
theorem CycleRecord.isAudited_of_noInputs {config : Config} {c : CycleRecord} {runId : String}
    {progress : Progress} {cause : RunError}
    (he : c.events = [.runId runId, .progress progress, .inputs (.error cause)]) :
    c.Audited config where
  stopped inputs hi _ := by simp [he] at hi
  silent _ _ := by rw [CycleRecord.audited, he]; rfl
  attempted order placed hmem := by simp [he] at hmem
  results := by rw [CycleRecord.audited, he]; rfl

/-- **The audit trail tells what was done**: of every order that is sent what is asked and what
    the exchange answers to each call, of a guard that has fired that it did, and nothing else;
    for every configuration, and every world with a sink that keeps what it is given. -/
theorem run_isAudited (s : Surroundings (StateM σ)) (config : Config) (world : σ)
    (trail : σ → List (String × Json)) (h : s.KeepsTrail trail) (reconnectCounts : List Nat) :
    (CycleRun.of s config world reconnectCounts).IsAudited config trail world := by
  have hcycles : ∀ c ∈ (CycleRun.of s config world reconnectCounts).cycles, c.Audited config := by
    refine CycleRun.forall_cycles s config world ?_ ?_ reconnectCounts
    · exact fun c runId progress cause he _ _ => CycleRecord.isAudited_of_noInputs he
    · exact fun c runId inputs calls outcome h => h.isAudited
  refine ⟨hcycles, ?_, ?_⟩
  -- the trail grows with each cycle, whatever its course
  · refine CycleRun.of_steps s config world
      (P := fun run => trail run.state.world =
        trail world ++ run.cycles.flatMap CycleRecord.audited)
      (List.append_nil _).symm ?_ reconnectCounts
    intro run reconnectCount ih
    show trail ((Cycle.runWithJournal s config reconnectCount).run run.state).2.world =
      trail world ++ (run.cycles ++ [_]).flatMap CycleRecord.audited
    rw [runWithJournal_trail h, ih, List.append_assoc, List.flatMap_append, List.flatMap_singleton]
    rfl
  -- the results are those of the cycles, which are now any list of audited ones
  · rw [CycleRun.events]
    generalize (CycleRun.of s config world reconnectCounts).cycles = cycles at hcycles
    induction cycles with
    | nil => rfl
    | cons c cycles ih =>
      have hrest := ih fun c' hc' => hcycles c' (List.mem_cons_of_mem _ hc')
      rw [List.flatMap_cons, List.flatMap_cons, List.filterMap_append, List.filterMap_append,
        List.map_append, (hcycles c List.mem_cons_self).results, hrest]

namespace ScriptedSurroundings

/-- What was noted in a dry run, in order. -/
def trail (w : ScriptedSurroundings σ) : List (String × Json) := w.events.reverse

/-- The scripted surroundings keep what is written to them. -/
theorem operations_keepsTrail (exchange : Exchange (StateM σ)) :
    (operations exchange).KeepsTrail trail where
  exchange := ⟨fun _ _ => rfl, fun _ _ => rfl, fun _ _ => rfl⟩
  balances _ _ := rfl
  firstEvents _ _ := rfl
  inputs _ := rfl
  freshRunId _ := rfl
  freshOrderId symbol w := by
    show trail (freshOrderId symbol w).2 = _
    unfold freshOrderId
    split <;> rfl
  audit _ _ _ := List.reverse_cons
  progress _ _ := rfl

/-- A dry run whose strategy wants to buy, each time under the same id. -/
def buying : ScriptedSurroundings ScriptedExchange :=
  { ScriptedSurroundings.of (.of .spot (.small 10000 0)) with
    inputs := .ok {
      snapshot := .flat
      decision := ⟨.buy, .one, []⟩
      close := .small 100 0
      atr := .small 1 0
      balanceOverride := none }
    runId := "run"
    orderIds := [⟨"live-1"⟩] }

/-- Of two cycles that want to buy the second is a duplicate and leaves nothing. -/
theorem buying_isAudited :
    (operations ScriptedExchange.operations).KeepsTrail trail ∧
      (CycleRun.of (operations ScriptedExchange.operations) .dryRun buying [0, 0]).IsAudited
        .dryRun trail buying ∧
      (CycleRun.of (operations ScriptedExchange.operations) .dryRun buying
          [0, 0]).state.world.trail.map Prod.fst =
        ["order_attempt", "order_result", "order_fetch_result", "order_cancel_result"] :=
  ⟨operations_keepsTrail _,
    run_isAudited _ _ _ _ (operations_keepsTrail ScriptedExchange.operations) [0, 0],
    by decide +kernel⟩

end ScriptedSurroundings

end LiveTrader
