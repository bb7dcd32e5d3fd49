import LiveTrader.Proofs.Journal
import LiveTrader.Proofs.Lifecycle

/-!
  LiveTrader.Proofs.CycleCourses

  What a cycle does, for every world.  `OrderCourse` lists the ways to deal with an order and
  `CycleCourse` those of the whole cycle, each with its calls, its result and the journal
  that it leaves; `run_ends` says that there is no other.  Later modules read their statements
  off the courses and look at no program.
-/

namespace LiveTrader

open Tracing (Ends Erases)

variable {σ : Type}

/-! ## Watched surroundings -/

/-- Surroundings beside a journal, traced. -/
abbrev Surroundings.watched (s : Surroundings (StateM σ)) :
    Surroundings (Tracing CycleEvent (CycleState σ)) :=
  (s.lift CycleState.onWorld).traced

/-- The journal beside the world, traced. -/
abbrev Journal.watched : JournalAccess (Tracing CycleEvent (CycleState σ)) :=
  (Journal.access.lift CycleState.onJournal).traced

variable (s : Surroundings (StateM σ)) (config : Config) (runId : String)

section Calls

variable {α : Type} {st : CycleState σ}

/-- Whatever the world does, it answers and leaves the journal alone. -/
theorem onWorld_ends {act : StateM σ α} {events : α → List CycleEvent}
    {Q : List CycleEvent → α → CycleState σ → Prop}
    (h : ∀ a world, Q (events a) a ⟨st.journal, world⟩) :
    Ends (Tracing.call (CycleState.onWorld act) events) st Q :=
  .call (h _ _)

theorem note_ends {Q : List CycleEvent → Unit → CycleState σ → Prop}
    {eventType : String} {payload : Json}
    (h : ∀ world, Q [.audit eventType payload] () ⟨st.journal, world⟩) :
    Ends (s.watched.note eventType payload) st Q := by
  unfold Surroundings.note
  rw [Surroundings.traced_audit]
  exact .bind (onWorld_ends fun _ world => .pure (h world))

theorem emit_ends {Q : List CycleEvent → Unit → CycleState σ → Prop} {p : Progress}
    (h : ∀ world, Q [.progress p] () ⟨st.journal, world⟩) :
    Ends (s.watched.emit p) st Q := by
  unfold Surroundings.emit
  rw [Surroundings.traced_progress]
  exact .bind (onWorld_ends fun _ world => .pure (h world))

theorem notes_ends (event : α → String × Json) (xs : List α) (st : CycleState σ) :
    Ends (xs.forM fun x => s.watched.note (event x).1 (event x).2) st
      fun events _ st' =>
        events = xs.map (fun x => .audit (event x).1 (event x).2) ∧
          st'.journal = st.journal := by
  induction xs generalizing st with
  | nil => exact .pure ⟨rfl, rfl⟩
  | cons x xs ih =>
    refine .bind (note_ends s fun world => ?_)
    refine (ih ⟨st.journal, world⟩).mono ?_
    rintro events _ st' ⟨rfl, hj⟩
    exact ⟨rfl, hj⟩

/-- An id is refused if it is remembered, and the journal stays as it is; else it is entered. -/
theorem record_ends {Q : List CycleEvent → Except JournalError Unit → CycleState σ → Prop}
    {id : ClientOrderId}
    (hdup : id ∈ st.journal.ids →
      Q [.record id (.error (.alreadySubmitted id.text))] (.error (.alreadySubmitted id.text)) st)
    (hok : ∀ j, st.journal.record id = .ok j → Q [.record id (.ok ())] (.ok ()) ⟨j, st.world⟩) :
    Ends (Journal.watched.record id) st Q := by
  rw [JournalAccess.traced_record]
  apply Ends.call
  cases hj : st.journal.record id with
  | error e =>
    obtain ⟨hmem, rfl⟩ := Journal.record_eq_error_iff.mp hj
    have hrun : ((Journal.access.lift CycleState.onJournal).record id).run st =
        (.error (.alreadySubmitted id.text), st) := by
      -- the lifted operation runs on the journal alone, which is what the courses speak of
      show CycleState.onJournal (Journal.apply fun j => j.record id) st = _
      simp only [CycleState.onJournal, Journal.apply, hj]
    rw [hrun]
    exact hdup hmem
  | ok j =>
    have hrun : ((Journal.access.lift CycleState.onJournal).record id).run st =
        (.ok (), ⟨j, st.world⟩) := by
      show CycleState.onJournal (Journal.apply fun j => j.record id) st = _
      simp only [CycleState.onJournal, Journal.apply, hj]
    rw [hrun]
    exact hok j hj

/-- An id that was entered can be completed. -/
theorem complete_ends {Q : List CycleEvent → Except JournalError Unit → CycleState σ → Prop}
    {id : ClientOrderId} {finalStatus : String} {j : Journal}
    (hj : st.journal.complete id finalStatus = .ok j)
    (h : Q [.complete id finalStatus (.ok ())] (.ok ()) ⟨j, st.world⟩) :
    Ends (Journal.watched.complete id finalStatus) st Q := by
  rw [JournalAccess.traced_complete]
  apply Ends.call
  have hrun : ((Journal.access.lift CycleState.onJournal).complete id finalStatus).run st =
      (.ok (), ⟨j, st.world⟩) := by
    show CycleState.onJournal (Journal.apply fun j => j.complete id finalStatus) st = _
    simp only [CycleState.onJournal, Journal.apply, hj]
  rw [hrun]
  exact h

end Calls

/-! ## Balances -/

/-- The balance that an order is sized with, given what the exchange was asked for it. -/
inductive Resolved (inputs : CycleInputs) :
    List (Except Fault (List Balance)) → Decimal → Prop
  | given (balance : Decimal) (h : inputs.balanceOverride = some balance) :
      Resolved inputs [] balance
  | asked (reply : Except Fault (List Balance)) (h : inputs.balanceOverride = none) :
      Resolved inputs [reply]
        ((Cycle.availableOf? config.exchange.symbol.quoteAsset (reply.toOption.getD [])).getD
          config.execution.defaultAvailableBalance)

/-- The calls with which the exchange was asked for balances. -/
def Cycle.askEvents (replies : List (Except Fault (List Balance))) : List CycleEvent :=
  replies.map (CycleEvent.balances config.exchange.productType.name)

theorem resolveBalance_ends (inputs : CycleInputs) (st : CycleState σ) :
    Ends (Cycle.resolveBalance s.watched.exchange config inputs) st
      fun events balance st' => ∃ replies, Resolved config inputs replies balance ∧
        events = Cycle.askEvents config replies ∧ st'.journal = st.journal := by
  unfold Cycle.resolveBalance
  cases h : inputs.balanceOverride with
  | some balance => exact .pure ⟨[], .given balance h, rfl, rfl⟩
  | none =>
    rw [Surroundings.traced_exchange, Exchange.traced_balances]
    refine .bind (onWorld_ends fun reply world => ?_)
    exact .pure ⟨[reply], .asked reply h, rfl, rfl⟩

/-! ## Orders -/

namespace Cycle

/-- The calls after an order was sent. -/
def followEvents (id : ClientOrderId) (placed : OrderState) (calls : List CycleEvent)
    (l : Lifecycle) : List CycleEvent :=
  .audit AuditEvent.orderResult (statePayload runId id placed) :: calls ++
    l.steps.map fun step => .audit (stepEvent runId id step).1 (stepEvent runId id step).2

/-- The calls for an order that is sent and followed. -/
def sendEvents (order : Order) (sizing : OrderSizing) (placed : OrderState)
    (calls : List CycleEvent) (l : Lifecycle) : List CycleEvent :=
  [.audit AuditEvent.orderAttempt (attemptPayload runId order sizing), .place order placed] ++
    followEvents runId order.clientOrderId placed calls l

end Cycle

theorem sendOrder_ends (autoCancel : Bool) (order : Order) (sizing : OrderSizing)
    (st : CycleState σ) :
    Ends (Cycle.sendOrder s.watched autoCancel runId order sizing) st
      fun events l st' => ∃ placed calls, Tracked autoCancel placed calls l ∧
        events = Cycle.sendEvents runId order sizing placed calls l ∧
        st'.journal = st.journal := by
  unfold Cycle.sendOrder
  refine .bind (note_ends s fun w₁ => ?_)
  rw [Surroundings.traced_exchange, Exchange.traced_place]
  refine .bind (onWorld_ends fun placed w₂ => ?_)
  refine .bind (note_ends s fun w₃ => ?_)
  refine .bind ((track_ends (Exchange.keeps_journal s.exchange) _ _ _).mono ?_)
  rintro calls l st₁ ⟨ht, hj⟩
  refine .bind ((notes_ends s (Cycle.stepEvent runId order.clientOrderId) l.steps st₁).mono ?_)
  rintro events _ st₂ ⟨rfl, hj'⟩
  refine .pure ⟨placed, calls, ht, ?_, hj'.trans hj⟩
  simp [Cycle.sendEvents, Cycle.followEvents]

/-- The gates let an order of this side be sized, which has this result. -/
structure Admitted (inputs : CycleInputs) (guard : GuardResult) (side : OrderSide)
    (replies : List (Except Fault (List Balance))) (size? : Option OrderSizing) : Prop where
  gate : Cycle.gate config.execution guard inputs.decision = .ok side
  size : ∃ balance, Resolved config inputs replies balance ∧
    sizeOrder? balance inputs.close inputs.atr config.sizing = size?

/-- The courses of dealing with an order: the calls, the result and the journal they leave. -/
inductive OrderCourse (inputs : CycleInputs) (guard : GuardResult) (j : Journal) :
    List CycleEvent → Except CycleFailure OrderOutcome → Journal → Prop
  | stopped (hg : Cycle.gate config.execution guard inputs.decision = .error .risk) :
      OrderCourse inputs guard j [.audit AuditEvent.riskStop (Cycle.riskPayload runId guard)]
        (.ok (.skipped .risk)) j
  | skipped (reason : Skip) (hr : reason ≠ .risk)
      (hg : Cycle.gate config.execution guard inputs.decision = .error reason) :
      OrderCourse inputs guard j [] (.ok (.skipped reason)) j
  | overflow (side : OrderSide) (replies : List (Except Fault (List Balance)))
      (ha : Admitted config inputs guard side replies none) :
      OrderCourse inputs guard j (Cycle.askEvents config replies) (.error .sizeOverflow) j
  | tooSmall (side : OrderSide) (replies : List (Except Fault (List Balance)))
      (sizing : OrderSizing) (ha : Admitted config inputs guard side replies (some sizing))
      (hq : sizing.finalQty.isPositive = false) :
      OrderCourse inputs guard j (Cycle.askEvents config replies) (.ok (.tooSmall sizing)) j
  | duplicate (side : OrderSide) (replies : List (Except Fault (List Balance)))
      (sizing : OrderSizing) (id : ClientOrderId)
      (ha : Admitted config inputs guard side replies (some sizing))
      (hq : sizing.finalQty.isPositive = true) (hj : id ∈ j.ids) :
      OrderCourse inputs guard j
        (Cycle.askEvents config replies ++ [.orderId config.exchange.symbol id,
          .record id (.error (.alreadySubmitted id.text))])
        (.ok (.duplicate sizing id)) j
  | followed (side : OrderSide) (replies : List (Except Fault (List Balance)))
      (sizing : OrderSizing) (id : ClientOrderId) (placed : OrderState)
      (calls : List CycleEvent) (l : Lifecycle) (j₁ j₂ : Journal)
      (ha : Admitted config inputs guard side replies (some sizing))
      (hq : sizing.finalQty.isPositive = true) (hj₁ : j.record id = .ok j₁)
      (ht : Tracked config.execution.autoCancel placed calls l)
      (hj₂ : j₁.complete id l.finalStatus = .ok j₂) :
      OrderCourse inputs guard j
        (Cycle.askEvents config replies ++
          [.orderId config.exchange.symbol id, .record id (.ok ())] ++
          Cycle.sendEvents runId (Cycle.orderOf config.exchange side ⟨sizing.finalQty⟩ id) sizing
            placed calls l ++
          [.complete id l.finalStatus (.ok ())])
        (.ok (.followed sizing id l)) j₂

theorem sendOnce_ends (inputs : CycleInputs) (guard : GuardResult) (side : OrderSide)
    (replies : List (Except Fault (List Balance))) (sizing : OrderSizing) (st : CycleState σ)
    (ha : Admitted config inputs guard side replies (some sizing))
    (hq : sizing.finalQty.isPositive = true) :
    Ends (Cycle.sendOnce s.watched Journal.watched config runId side sizing).run st
      fun events r st' => OrderCourse config runId inputs guard st.journal
        (Cycle.askEvents config replies ++ events) r st'.journal := by
  unfold Cycle.sendOnce
  rw [Surroundings.traced_freshOrderId]
  refine .bindExcept (.lift (onWorld_ends fun id w₁ => ?_))
  refine .bindExcept (.lift (record_ends (fun hdup => ?_) (fun j₁ hj₁ => ?_)))
  · exact .pureExcept (.duplicate side replies sizing id ha hq hdup)
  · have hqty : Quantity.of sizing.finalQty = .ok ⟨sizing.finalQty⟩ := by
      simp only [Quantity.of, hq, ↓reduceIte]
    dsimp only
    rw [hqty]
    refine .bindExcept (.pureExcept ?_)
    refine .bindExcept (.lift ((sendOrder_ends s runId _ _ _ _).mono ?_))
    rintro events l st₁ ⟨placed, calls, ht, rfl, hj⟩
    have hj : st₁.journal = j₁ := hj
    -- nothing but the journal's own operations changes it, so the entry is still there
    obtain ⟨j₂, hj₂⟩ := Journal.exists_complete_of_record l.finalStatus hj₁
    refine .bindExcept (.lift (complete_ends (by rw [hj]; exact hj₂) ?_))
    refine .bindExcept (.pureExcept (.pureExcept ?_))
    have hc : OrderCourse config runId inputs guard st.journal _ _ j₂ :=
      .followed side replies sizing id placed calls l j₁ j₂ ha hq hj₁ ht hj₂
    simpa only [List.append_assoc, List.append_nil, List.nil_append, List.cons_append] using hc

theorem sizeAndSend_ends (inputs : CycleInputs) (guard : GuardResult) (side : OrderSide)
    (st : CycleState σ) (hg : Cycle.gate config.execution guard inputs.decision = .ok side) :
    Ends (Cycle.sizeAndSend s.watched Journal.watched config runId inputs side).run st
      fun events r st' =>
        OrderCourse config runId inputs guard st.journal events r st'.journal := by
  unfold Cycle.sizeAndSend
  refine .bindExcept (.lift ((resolveBalance_ends s config inputs st).mono ?_))
  rintro events balance st₁ ⟨replies, hb, rfl, hj⟩
  dsimp only
  rw [← hj]
  cases hs : sizeOrder? balance inputs.close inputs.atr config.sizing with
  | none =>
    refine .throwExcept ?_
    rw [List.append_nil]
    exact .overflow side replies ⟨hg, balance, hb, hs⟩
  | some sizing =>
    have ha : Admitted config inputs guard side replies (some sizing) := ⟨hg, balance, hb, hs⟩
    dsimp only
    split
    case isTrue hq => exact sendOnce_ends s config runId inputs guard side replies sizing st₁ ha hq
    case isFalse hq =>
      refine .pureExcept ?_
      rw [List.append_nil]
      exact .tooSmall side replies sizing ha (by simpa using hq)

/-- **An order is dealt with in one of the courses.** -/
theorem handleOrder_ends (inputs : CycleInputs) (guard : GuardResult) (st : CycleState σ) :
    Ends (Cycle.handleOrder s.watched Journal.watched config runId inputs guard).run st
      fun events r st' =>
        OrderCourse config runId inputs guard st.journal events r st'.journal := by
  unfold Cycle.handleOrder
  cases hg : Cycle.gate config.execution guard inputs.decision with
  | ok side => exact sizeAndSend_ends s config runId inputs guard side st hg
  | error reason =>
    dsimp only
    by_cases hr : reason = .risk
    · subst hr
      rw [if_pos rfl]
      refine .bindExcept (.lift (note_ends s fun world => ?_))
      exact .pureExcept (.stopped hg)
    · rw [if_neg hr]
      exact .bindExcept (.pureExcept (.pureExcept (.skipped reason hr hg)))

/-! ## Cycles -/

namespace Cycle

/-- The calls before an order is dealt with. -/
def openingEvents (inputs : CycleInputs) (reconnectCount : Nat) : List CycleEvent :=
  [.runId runId, .progress (.of ProgressStatus.running none .active reconnectCount),
    .inputs (.ok inputs),
    .progress (guardProgress (evaluateRisk config.risk inputs.snapshot) reconnectCount)]

/-- What is reported of a cycle that has dealt with an order and seen this of the streams. -/
def reportOf (inputs : CycleInputs) (reconnectCount : Nat) (order : OrderOutcome)
    (probes : List Probe) : CycleReport :=
  let guard := evaluateRisk config.risk inputs.snapshot
  let health := deriveStatus probes guard.status
  { runId := runId
    execution := config.execution
    decision := inputs.decision
    guard := guard
    order := order
    monitorStatus := health.1
    streamReason := health.2
    reconnectCount := reconnectCount }

end Cycle

/-- The courses of a cycle: the calls, the result and the journal they leave. -/
inductive CycleCourse (reconnectCount : Nat) (j : Journal) :
    List CycleEvent → Except CycleFailure CycleReport → Journal → Prop
  | noInputs (runId : String) (cause : RunError) :
      CycleCourse reconnectCount j
        [.runId runId, .progress (.of ProgressStatus.running none .active reconnectCount),
          .inputs (.error cause)]
        (.error (.error cause)) j
  | failed (runId : String) (inputs : CycleInputs) (events : List CycleEvent)
      (cause : CycleFailure) (j' : Journal)
      (ho : OrderCourse config runId inputs (evaluateRisk config.risk inputs.snapshot) j events
        (.error cause) j') :
      CycleCourse reconnectCount j
        (Cycle.openingEvents config runId inputs reconnectCount ++ events) (.error cause) j'
  | done (runId : String) (inputs : CycleInputs) (events : List CycleEvent)
      (order : OrderOutcome) (j' : Journal) (seen : Arrival OrderEvent × Arrival AccountEvent)
      (ho : OrderCourse config runId inputs (evaluateRisk config.risk inputs.snapshot) j events
        (.ok order) j') :
      CycleCourse reconnectCount j
        (Cycle.openingEvents config runId inputs reconnectCount ++ events ++
          [.streams config.execution.streamProbeTimeout seen])
        (.ok (Cycle.reportOf config runId inputs reconnectCount order
          [seen.1.probe, seen.2.probe])) j'

/-- **A cycle takes one of the courses**, whatever the world and the journal. -/
theorem run_ends (reconnectCount : Nat) (st : CycleState σ) :
    Ends (Cycle.run s.watched Journal.watched config reconnectCount).run st
      fun events r st' =>
        CycleCourse config reconnectCount st.journal events r st'.journal := by
  unfold Cycle.run
  rw [Surroundings.traced_freshRunId]
  refine .bindExcept (.lift (onWorld_ends fun runId w₁ => ?_))
  refine .bindExcept (.lift (emit_ends s fun w₂ => ?_))
  rw [Surroundings.traced_inputs]
  refine .bindExcept (.lift (onWorld_ends fun reply w₃ => ?_))
  cases reply with
  -- without inputs the cycle ends before its order, and the journal is as it was
  | error cause => exact .throwExcept (.noInputs runId cause)
  | ok inputs =>
    refine .bindExcept (.lift (emit_ends s fun w₄ => ?_))
    refine .bindExcept ((handleOrder_ends s config runId inputs _ _).mono ?_)
    intro events r st₁ ho
    cases r with
    | error cause => exact .failed runId inputs events cause st₁.journal ho
    | ok order =>
      unfold probeStreams
      rw [Surroundings.traced_exchange, Exchange.traced_firstEvents]
      refine .bindExcept (.lift (.bind (onWorld_ends fun seen w₅ => .pure ?_)))
      exact .pureExcept (.done runId inputs events order st₁.journal seen ho)

/-- A traced cycle does what the cycle does. -/
theorem run_erases (journal : JournalAccess (StateM σ)) (reconnectCount : Nat) :
    Erases (Cycle.run s.traced journal.traced config reconnectCount).run
      (Cycle.run s journal config reconnectCount).run :=
  (s.traced_alike.run config journal.traced_alike reconnectCount).erases

section Selection

variable {config : Config} {inputs : CycleInputs} {runId : String} {sizing : OrderSizing}
  {replies : List (Except Fault (List Balance))}

/-! ## What the replies determine -/

/-- The replies determine the balance. -/
theorem Resolved.unique {b b' : Decimal} (h : Resolved config inputs replies b)
    (h' : Resolved config inputs replies b') : b = b' := by
  cases h with
  | given _ h =>
    cases h' with
    | given _ h' => exact Option.some.inj (h.symm.trans h')
  | asked reply h =>
    cases h' with
    | asked => rfl

theorem Admitted.unique {guard : GuardResult} {side side' : OrderSide}
    {size? size?' : Option OrderSizing} (h : Admitted config inputs guard side replies size?)
    (h' : Admitted config inputs guard side' replies size?') : size? = size?' := by
  obtain ⟨b, hb, hs⟩ := h.size
  obtain ⟨b', hb', hs'⟩ := h'.size
  rw [hb.unique hb'] at hs
  exact hs.symm.trans hs'

/-! ## Selected calls -/

namespace Cycle

/-- What is selected of the calls after an order was sent, where notes are not. -/
theorem filterMap_followEvents {β : Type} {f : CycleEvent → Option β}
    (hf : ∀ ty pl, f (.audit ty pl) = none) (id : ClientOrderId) (placed : OrderState)
    (calls : List CycleEvent) (l : Lifecycle) :
    (followEvents runId id placed calls l).filterMap f = calls.filterMap f := by
  have hsteps : (l.steps.map fun step => CycleEvent.audit (stepEvent runId id step).1
      (stepEvent runId id step).2).filterMap f = [] := by
    rw [List.filterMap_map, List.filterMap_eq_nil_iff]
    intro step _
    exact hf _ _
  rw [followEvents, List.filterMap_append, List.filterMap_cons_none (hf _ _), hsteps,
    List.append_nil]

/-- What is selected of calls among which an order is sent, where notes are not. -/
theorem filterMap_sendEvents {β : Type} {f : CycleEvent → Option β}
    (hf : ∀ ty pl, f (.audit ty pl) = none) (before : List CycleEvent) (order : Order)
    (placed : OrderState) (calls : List CycleEvent) (l : Lifecycle) (after : List CycleEvent) :
    (before ++ sendEvents runId order sizing placed calls l ++ after).filterMap f =
      before.filterMap f ++ [CycleEvent.place order placed].filterMap f ++ calls.filterMap f ++
        after.filterMap f := by
  rw [List.filterMap_append, List.filterMap_append, sendEvents, List.filterMap_append,
    filterMap_followEvents hf, List.filterMap_cons_none (hf _ _), List.append_assoc,
    List.append_assoc, List.append_assoc, List.append_assoc]

/-- Asking for balances is nothing else. -/
theorem filterMap_askEvents {β : Type} {f : CycleEvent → Option β}
    (hf : ∀ ty r, f (.balances ty r) = none) :
    (askEvents config replies).filterMap f = [] := by
  rw [askEvents, List.filterMap_map, List.filterMap_eq_nil_iff]
  intro r _
  exact hf _ _

theorem filterMap_balances?_askEvents :
    (askEvents config replies).filterMap CycleEvent.balances? = replies := by
  rw [askEvents, List.filterMap_map]
  exact List.filterMap_some

theorem filterMap_balances?_append {rest : List CycleEvent}
    (h : rest.filterMap CycleEvent.balances? = []) :
    (askEvents config replies ++ rest).filterMap CycleEvent.balances? = replies := by
  rw [List.filterMap_append, filterMap_balances?_askEvents, h, List.append_nil]

end Cycle

/-- Following an order is reading and cancelling it. -/
theorem Tracked.filterMap_calls {β : Type} {f : CycleEvent → Option β} {autoCancel : Bool}
    {placed : OrderState} {calls : List CycleEvent} {l : Lifecycle}
    (h : Tracked autoCancel placed calls l) (hfetch : ∀ id r, f (.fetch id r) = none)
    (hcancel : ∀ id r, f (.cancel id r) = none) : calls.filterMap f = [] := by
  rw [List.filterMap_eq_nil_iff]
  intro e he
  rcases h.mem_calls e he with ⟨r, rfl⟩ | ⟨r, rfl⟩
  · exact hfetch _ _
  · exact hcancel _ _

/-- What is selected of the calls about an order that is sent, where notes, reading and
    cancelling are not. -/
theorem Tracked.filterMap_followed {β : Type} {f : CycleEvent → Option β} {autoCancel : Bool}
    {placed : OrderState} {calls : List CycleEvent} {l : Lifecycle}
    (h : Tracked autoCancel placed calls l) (haudit : ∀ ty pl, f (.audit ty pl) = none)
    (hfetch : ∀ id r, f (.fetch id r) = none) (hcancel : ∀ id r, f (.cancel id r) = none)
    (entry : List CycleEvent) (order : Order) (last : List CycleEvent) :
    (Cycle.askEvents config replies ++ entry ++
        Cycle.sendEvents runId order sizing placed calls l ++ last).filterMap f =
      (Cycle.askEvents config replies).filterMap f ++
        (entry ++ .place order placed :: last).filterMap f := by
  rw [Cycle.filterMap_sendEvents haudit, h.filterMap_calls hfetch hcancel, List.append_nil,
    List.filterMap_append, List.append_assoc, List.append_assoc, ← List.filterMap_append,
    ← List.filterMap_append, List.singleton_append]

/-- Once an order is sent, no balances are asked for. -/
theorem Tracked.filterMap_balances?_followed {autoCancel : Bool} {placed : OrderState}
    {calls entry last : List CycleEvent} {l : Lifecycle} (h : Tracked autoCancel placed calls l)
    (order : Order) (hentry : entry.filterMap CycleEvent.balances? = [])
    (hlast : last.filterMap CycleEvent.balances? = []) :
    (Cycle.askEvents config replies ++ entry ++
        Cycle.sendEvents runId order sizing placed calls l ++ last).filterMap
      CycleEvent.balances? = replies := by
  rw [h.filterMap_followed (fun _ _ => rfl) (fun _ _ => rfl) (fun _ _ => rfl),
    Cycle.filterMap_balances?_askEvents, List.filterMap_append, hentry,
    List.filterMap_cons_none rfl, hlast]
  exact List.append_nil _

end Selection

end LiveTrader
