import LiveTrader.Proofs.CycleRuns

/-!
  LiveTrader.Proofs.Submission

  How often an order is sent under one id.  Every order of a run belongs to an entry of its
  id in the journal, made just before in the same cycle; and an id is entered again only
  after the journal has forgotten it, which takes as many other entries as it has room for.
-/

namespace LiveTrader

/-! ## Orders and entries -/

namespace CycleEvent

/-- The id of the order that was sent. -/
def submitted? (e : CycleEvent) : Option ClientOrderId :=
  e.placed?.map fun sent => sent.1.clientOrderId

/-- The events as far as orders and entries go: each order was sent under the id that was
    entered last, and no entry is for two orders. -/
structure Submitting (events : List CycleEvent) : Prop where
  balanced : events.filterMap recorded? = events.filterMap submitted?
  paired : ∀ before order reply after, events = before ++ .place order reply :: after →
    before.filterMap recorded? = before.filterMap submitted? ++ [order.clientOrderId]

namespace Submitting

theorem nil : Submitting [] where
  balanced := rfl
  paired before order reply after h := by simp at h

/-- Without orders and entries there is nothing to say. -/
theorem of_quiet {events : List CycleEvent} (hr : events.filterMap recorded? = [])
    (hp : events.filterMap placed? = []) : Submitting events where
  balanced := by
    have hs : events.filterMap submitted? = [] := by
      rw [List.filterMap_eq_nil_iff] at hp ⊢
      intro e he
      rw [submitted?, hp e he, Option.map_none]
    rw [hr, hs]
  paired before order reply after h := by
    have hmem : (order, reply) ∈ events.filterMap placed? := by
      rw [mem_filterMap_placed?, h]
      exact List.mem_append_right _ List.mem_cons_self
    rw [hp] at hmem
    cases hmem

/-- An entry, a note and the order under the id of the entry. -/
theorem entry (runId : String) (order : Order) (sizing : OrderSizing) (reply : OrderState) :
    Submitting [.record order.clientOrderId (.ok ()),
      .audit AuditEvent.orderAttempt (Cycle.attemptPayload runId order sizing),
      .place order reply] where
  balanced := rfl
  paired before order' reply' after h := by
    rcases before with _ | ⟨e₁, _ | ⟨e₂, _ | ⟨e₃, before⟩⟩⟩
    · simp at h
    · simp at h
    · obtain ⟨rfl, rfl, h⟩ : _ = e₁ ∧ _ = e₂ ∧ _ := by simpa using h
      obtain ⟨⟨rfl, -⟩, -⟩ := h
      rfl
    · simp at h

/-- Each order keeps its entry where events follow each other. -/
theorem append {xs ys : List CycleEvent} (hx : Submitting xs) (hy : Submitting ys) :
    Submitting (xs ++ ys) where
  balanced := by rw [List.filterMap_append, List.filterMap_append, hx.balanced, hy.balanced]
  paired before order reply after h := by
    rcases List.append_eq_append_iff.mp h with ⟨mid, rfl, hys⟩ | ⟨mid, rfl, hafter⟩
    · rw [List.filterMap_append, List.filterMap_append, hx.balanced,
        hy.paired mid order reply after hys, List.append_assoc]
    · cases mid with
      | nil =>
        -- the order would be the first event, with no entry before it
        have hfirst := hy.paired [] order reply after hafter.symm
        simp at hfirst
      | cons e mid =>
        obtain ⟨rfl, -⟩ := List.cons.inj hafter
        exact hx.paired before order reply mid rfl

/-- Between two orders under one id there are entries of as many other ids as there are between
    two entries. -/
theorem apart {events : List CycleEvent} {n : Nat} (h : Submitting events)
    (hspaced : Journal.Spaced n (events.filterMap recorded?)) {before mid after : List CycleEvent}
    {o₁ o₂ : Order} {r₁ r₂ : OrderState}
    (hevents : events = before ++ .place o₁ r₁ :: mid ++ .place o₂ r₂ :: after)
    (hid : o₁.clientOrderId = o₂.clientOrderId) :
    n ≤ ((mid.filterMap recorded?).filter fun id => id ≠ o₁.clientOrderId).length := by
  -- the entry of the second order is the last one between the orders
  have h₁ := h.paired before o₁ r₁ (mid ++ .place o₂ r₂ :: after) (by simp [hevents])
  have h₂ := h.paired (before ++ .place o₁ r₁ :: mid) o₂ r₂ after hevents
  have hmid : mid.filterMap recorded? = mid.filterMap submitted? ++ [o₂.clientOrderId] := by
    rw [List.filterMap_append, List.filterMap_append, h₁] at h₂
    have h₂ : before.filterMap submitted? ++ [o₁.clientOrderId] ++ mid.filterMap recorded? =
        before.filterMap submitted? ++ (o₁.clientOrderId :: mid.filterMap submitted?) ++
          [o₂.clientOrderId] := h₂
    simpa using h₂
  have hall : events.filterMap recorded? = before.filterMap submitted? ++
      o₁.clientOrderId :: mid.filterMap submitted? ++ o₁.clientOrderId ::
        after.filterMap recorded? := by
    rw [hevents, List.filterMap_append, List.filterMap_append, h₁]
    show before.filterMap submitted? ++ [o₁.clientOrderId] ++ mid.filterMap recorded? ++
      after.filterMap recorded? = _
    rw [hmid, hid]
    simp
  have hn := hspaced _ _ _ _ hall
  rw [hmid, List.filter_append, List.length_append]
  omega

end Submitting

end CycleEvent

/-! ## Cycles -/

/-- What a cycle has to do with the journal: nothing, or it makes one entry, sends an order
    under its id, and completes it with the status that it reports. -/
inductive CycleRecord.Attempted (c : CycleRecord) : Prop
  | none (hrecorded : c.events.filterMap CycleEvent.recorded? = [])
      (hsubmitting : CycleEvent.Submitting c.events) (hj : c.after = c.before)
  | one (id : ClientOrderId) (report : CycleReport) (j : Journal)
      (hrecorded : c.events.filterMap CycleEvent.recorded? = [id])
      (hsubmitting : CycleEvent.Submitting c.events)
      (hresult : c.result = .ok report) (hid : report.order.clientOrderId? = some id)
      (hj : c.before.record id = .ok j) (hj' : j.complete id report.order.status = .ok c.after)

theorem CycleRecord.Attempted.submitting {c : CycleRecord} (h : c.Attempted) :
    CycleEvent.Submitting c.events := by
  cases h with
  | none _ hsub => exact hsub
  | one _ _ _ _ hsub => exact hsub

namespace CycleRecord

variable {config : Config} {c : CycleRecord} {runId : String} {inputs : CycleInputs}
  {calls : List CycleEvent} {outcome : Except CycleFailure OrderOutcome}

/-- Without entries and orders among the calls for an order there are none in the cycle. -/
theorem Deals.attempted_of_quiet (h : c.Deals config runId inputs calls outcome)
    (hr : calls.filterMap CycleEvent.recorded? = [])
    (hp : calls.filterMap CycleEvent.placed? = []) (hj : c.after = c.before) : c.Attempted := by
  have hrecorded := h.filterMap_recorded?
  have hplaced := h.filterMap_placed?
  exact .none (hrecorded.trans hr) (.of_quiet (hrecorded.trans hr) (hplaced.trans hp)) hj

theorem submitting_before (config : Config) (runId : String) (inputs : CycleInputs)
    (reconnectCount : Nat) (replies : List (Except Fault (List Balance))) (id : ClientOrderId) :
    CycleEvent.Submitting (Cycle.openingEvents config runId inputs reconnectCount ++
      Cycle.askEvents config replies ++ [.orderId config.exchange.symbol id]) := by
  refine .of_quiet ?_ ?_
  · rw [List.filterMap_append, List.filterMap_append, Cycle.filterMap_askEvents fun _ _ => rfl]
    rfl
  · rw [List.filterMap_append, List.filterMap_append, Cycle.filterMap_askEvents fun _ _ => rfl]
    rfl

theorem submitting_after (runId : String) (id : ClientOrderId) {autoCancel : Bool}
    {placed : OrderState} {l : Lifecycle} (ht : Tracked autoCancel placed calls l) {timeout : Span}
    {closing : List CycleEvent} (hc : closing = [] ∨ ∃ seen, closing = [.streams timeout seen]) :
    CycleEvent.Submitting (Cycle.followEvents runId id placed calls l ++
      [.complete id l.finalStatus (.ok ())] ++ closing) := by
  refine .of_quiet ?_ ?_
  · rw [List.filterMap_append, List.filterMap_append,
      Cycle.filterMap_followEvents fun _ _ => rfl,
      ht.filterMap_calls (fun _ _ => rfl) (fun _ _ => rfl)]
    rcases hc with rfl | ⟨seen, rfl⟩ <;> rfl
  · rw [List.filterMap_append, List.filterMap_append,
      Cycle.filterMap_followEvents fun _ _ => rfl,
      ht.filterMap_calls (fun _ _ => rfl) (fun _ _ => rfl)]
    rcases hc with rfl | ⟨seen, rfl⟩ <;> rfl

/-- Whatever comes of it, a cycle attempts at most one order. -/
theorem Deals.attempted (h : c.Deals config runId inputs calls outcome) : c.Attempted := by
  have hcourse := h.course
  generalize hbefore : c.before = j at hcourse
  generalize hafter : c.after = j' at hcourse
  cases hcourse with
  -- courses that end before the journal is asked record nothing and send nothing
  | stopped | skipped => exact h.attempted_of_quiet rfl rfl (hafter.trans hbefore.symm)
  | overflow | tooSmall =>
    exact h.attempted_of_quiet (Cycle.filterMap_askEvents fun _ _ => rfl)
      (Cycle.filterMap_askEvents fun _ _ => rfl) (hafter.trans hbefore.symm)
  | duplicate =>
    refine h.attempted_of_quiet ?_ ?_ (hafter.trans hbefore.symm)
    · rw [List.filterMap_append, Cycle.filterMap_askEvents fun _ _ => rfl]
      rfl
    · rw [List.filterMap_append, Cycle.filterMap_askEvents fun _ _ => rfl]
      rfl
  | followed side replies sizing id placed calls l j₁ j₂ ha hq hj₁ ht hj₂ =>
    subst hbefore hafter
    obtain ⟨probes, hresult⟩ := h.result_eq _ rfl
    have hrecorded := h.filterMap_recorded?
    rw [ht.filterMap_followed (fun _ _ => rfl) (fun _ _ => rfl) (fun _ _ => rfl),
      Cycle.filterMap_askEvents fun _ _ => rfl] at hrecorded
    -- the entry in the journal stands between what was asked and the one call that places the order
    refine .one id _ j₁ hrecorded ?_ hresult rfl hj₁ hj₂
    obtain ⟨closing, hc, he⟩ := h.events_eq
    have hsent := ((submitting_before config runId inputs c.reconnectCount replies id).append
      (.entry runId (Cycle.orderOf config.exchange side ⟨sizing.finalQty⟩ id) sizing
        placed)).append (submitting_after runId id ht hc)
    rw [he]
    simpa [Cycle.sendEvents, Cycle.orderOf, Order.market] using hsent

/-- **A cycle does nothing to the journal, or makes one complete attempt.** -/
theorem IsCourse.attempted (h : c.IsCourse config) : c.Attempted := by
  rcases h.deals_or with ⟨runId, progress, cause, he, -, hj⟩ | ⟨runId, inputs, calls, outcome, h⟩
  · exact .none (by rw [he]; rfl) (.of_quiet (by rw [he]; rfl) (by rw [he]; rfl)) hj
  · exact h.attempted

end CycleRecord

/-! ## Runs -/

/-- The last of these cycles that has entered the id of the attempt has reported its status. -/
def OrderAttempt.CompletedBy (a : OrderAttempt) (cycles : List CycleRecord) : Prop :=
  ∃ before c after report, cycles = before ++ c :: after ∧
    .record a.clientOrderId (.ok ()) ∈ c.events ∧
    (∀ later ∈ after, .record a.clientOrderId (.ok ()) ∉ later.events) ∧
    c.result = .ok report ∧ report.order.clientOrderId? = some a.clientOrderId ∧
    a.finalStatus = some report.order.status

/-- What completed an attempt is still so after a cycle that does not enter it again. -/
theorem OrderAttempt.CompletedBy.concat {a : OrderAttempt} {cycles : List CycleRecord}
    (h : a.CompletedBy cycles) {c : CycleRecord}
    (hc : .record a.clientOrderId (.ok ()) ∉ c.events) : a.CompletedBy (cycles ++ [c]) := by
  obtain ⟨before, c', after, report, rfl, hmem, hlater, hreport⟩ := h
  refine ⟨before, c', after ++ [c], report, by simp, hmem, ?_, hreport⟩
  intro later hl
  rcases List.mem_append.mp hl with hl | hl
  · exact hlater later hl
  · rw [List.mem_singleton.mp hl]
    exact hc

/-- What these cycles have made of the journal and of the exchange, if it was empty before. -/
structure Journal.KeptBy (j : Journal) (cycles : List CycleRecord) : Prop where
  capacity : j.capacity = 1024
  inStep : j.InStep
  remembered : j.queue =
    ((cycles.flatMap CycleRecord.events).filterMap CycleEvent.recorded?).rtake 1024
  spaced : Spaced 1024 ((cycles.flatMap CycleRecord.events).filterMap CycleEvent.recorded?)
  submitting : CycleEvent.Submitting (cycles.flatMap CycleRecord.events)
  completed : ∀ a ∈ j.attempts, a.CompletedBy cycles

namespace Journal.KeptBy

theorem nil : (Journal.empty Journal.defaultCapacity).KeptBy [] where
  capacity := rfl
  inStep := inStep_empty _
  remembered := rfl
  spaced := spaced_nil _
  submitting := .nil
  completed a ha := by cases ha

/-- A journal that is kept by some cycles is kept by one more. -/
theorem concat {cycles : List CycleRecord} {c : CycleRecord} (h : c.before.KeptBy cycles)
    (hc : c.Attempted) : c.after.KeptBy (cycles ++ [c]) := by
  have hevents : (cycles ++ [c]).flatMap CycleRecord.events =
      cycles.flatMap CycleRecord.events ++ c.events := by simp
  cases hc with
  | none hrecorded hsub hj =>
    have hids : ((cycles ++ [c]).flatMap CycleRecord.events).filterMap CycleEvent.recorded? =
        (cycles.flatMap CycleRecord.events).filterMap CycleEvent.recorded? := by
      rw [hevents, List.filterMap_append, hrecorded, List.append_nil]
    rw [hj]
    refine ⟨h.capacity, h.inStep, ?_, ?_, ?_, fun a ha => (h.completed a ha).concat ?_⟩
    · rw [hids]
      exact h.remembered
    · rw [hids]
      exact h.spaced
    · rw [hevents]
      exact h.submitting.append hsub
    · rw [← CycleEvent.mem_filterMap_recorded?, hrecorded]
      exact List.not_mem_nil
  | one id report j hrecorded hsub hresult hid hj hj' =>
    -- the id is none of the last 1024, and now the last of them
    have hids : ((cycles ++ [c]).flatMap CycleRecord.events).filterMap CycleEvent.recorded? =
        (cycles.flatMap CycleRecord.events).filterMap CycleEvent.recorded? ++ [id] := by
      rw [hevents, List.filterMap_append, hrecorded]
    have hnew : id ∉ c.before.queue := h.inStep.ids_eq ▸ (record_eq_ok_iff.mp hj).1
    have hcapacity : c.after.capacity = 1024 := by
      rw [capacity_of_complete hj', capacity_of_record hj, h.capacity]
    refine ⟨hcapacity, (h.inStep.of_record hj).of_complete hj', ?_, ?_, ?_, ?_⟩
    · have hbefore := h.remembered
      rw [← h.capacity] at hbefore
      rw [queue_of_complete hj', hids, queue_eq_rtake hbefore hj, capacity_of_record hj,
        h.capacity]
    · rw [hids]
      rw [h.remembered] at hnew
      exact h.spaced.concat hnew
    · rw [hevents]
      exact h.submitting.append hsub
    · intro a ha
      rcases mem_attempts_of_complete hj hj' ha with rfl | ⟨hmem, hother⟩
      · have hc : id ∈ c.events.filterMap CycleEvent.recorded? := by
          rw [hrecorded]
          exact List.mem_singleton_self id
        exact ⟨cycles, c, [], report, rfl, CycleEvent.mem_filterMap_recorded?.mp hc,
          fun _ h => absurd h List.not_mem_nil, hresult, hid, rfl⟩
      · refine (h.completed a hmem).concat ?_
        rw [← CycleEvent.mem_filterMap_recorded?, hrecorded, List.mem_singleton]
        exact hother

end Journal.KeptBy

/-- A run that sends an order at most once per entry of its id, and completes what it enters. -/
structure CycleRun.SubmitsOnce {σ : Type} (run : CycleRun σ) : Prop where
  /-- Two orders under one id are sent only with many entries of other ids between them. -/
  apart : ∀ before o₁ r₁ mid o₂ r₂ after,
    run.events = before ++ .place o₁ r₁ :: mid ++ .place o₂ r₂ :: after →
    o₁.clientOrderId = o₂.clientOrderId →
    1024 ≤ ((mid.filterMap CycleEvent.recorded?).filter fun id => id ≠ o₁.clientOrderId).length
  /-- The id of an order was entered before in the same cycle. -/
  entered : ∀ c ∈ run.cycles, ∀ before order reply after,
    c.events = before ++ .place order reply :: after →
    .record order.clientOrderId (.ok ()) ∈ before
  /-- What the journal remembers has the status that the last cycle with its id has reported. -/
  completed : ∀ a ∈ run.state.journal.attempts, a.CompletedBy run.cycles

/-- **An order is sent at most once per entry of its id**, and an id is entered again only after
    1024 others; whatever the journal remembers between two cycles is complete. -/
theorem run_submitsOnce {σ : Type} (s : Surroundings (StateM σ)) (config : Config) (world : σ)
    (reconnectCounts : List Nat) :
    (CycleRun.of s config world reconnectCounts).SubmitsOnce := by
  have hkept : (CycleRun.of s config world reconnectCounts).state.journal.KeptBy
      (CycleRun.of s config world reconnectCounts).cycles :=
    CycleRun.of_induction s config world (P := fun run => run.state.journal.KeptBy run.cycles)
      .nil (fun cycles c w w' hc h => h.concat hc.attempted) reconnectCounts
  refine ⟨?_, ?_, hkept.completed⟩
  · intro before o₁ r₁ mid o₂ r₂ after hevents hid
    exact hkept.submitting.apart hkept.spaced hevents hid
  · intro c hc before order reply after hevents
    have hsub := (CycleRun.isCourse_of_mem s config world reconnectCounts c hc).attempted.submitting
    have hmem : order.clientOrderId ∈ before.filterMap CycleEvent.recorded? := by
      rw [hsub.paired before order reply after hevents]
      exact List.mem_append_right _ (List.mem_singleton_self _)
    exact CycleEvent.mem_filterMap_recorded?.mp hmem

end LiveTrader
