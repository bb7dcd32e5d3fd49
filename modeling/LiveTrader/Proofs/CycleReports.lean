import Mathlib.Data.List.Induction
import LiveTrader.Proofs.Containment

/-!
  LiveTrader.Proofs.CycleReports

  What a report says of its cycle.  An order has to pass seven checks (`Checkpoint`), and the
  report tells of the first that it has failed, or of the lifecycle of the order that was sent
  (`Concluded`).  The codes of the report are the codes of all that has happened, each where it
  occurs first (`FirstOccurrences`), so that a code of the strategy may be one of the runtime too.
-/

namespace LiveTrader

/-! ## First occurrences -/

/-- The elements of `xs` without repetition, in the order in which they first occur there. -/
structure FirstOccurrences {α : Type} [DecidableEq α] (xs ys : List α) : Prop where
  nodup : ys.Nodup
  mem_iff : ∀ x, x ∈ ys ↔ x ∈ xs
  ordered : ys.Pairwise fun x y => xs.idxOf x < xs.idxOf y

namespace FirstOccurrences

variable {α : Type} [DecidableEq α] {xs ys : List α} {x : α}

/-- What is added at the end does not change where the others occur. -/
theorem ordered_concat (h : FirstOccurrences xs ys) (x : α) :
    ys.Pairwise fun y z => (xs ++ [x]).idxOf y < (xs ++ [x]).idxOf z := by
  refine h.ordered.imp_of_mem fun {y z} hy hz hlt => ?_
  have hyx : y ∈ xs := (h.mem_iff y).mp hy
  have hzx : z ∈ xs := (h.mem_iff z).mp hz
  rw [List.idxOf_append_of_mem hyx, List.idxOf_append_of_mem hzx]
  exact hlt

theorem concat_of_mem (h : FirstOccurrences xs ys) (hx : x ∈ xs) :
    FirstOccurrences (xs ++ [x]) ys where
  nodup := h.nodup
  mem_iff y := by
    rw [h.mem_iff, List.mem_append, List.mem_singleton]
    constructor
    · exact .inl
    · rintro (hy | rfl)
      · exact hy
      · exact hx
  ordered := h.ordered_concat x

theorem concat_of_not_mem (h : FirstOccurrences xs ys) (hx : x ∉ xs) :
    FirstOccurrences (xs ++ [x]) (ys ++ [x]) where
  nodup := by
    have hy : x ∉ ys := fun hmem => hx ((h.mem_iff x).mp hmem)
    exact List.nodup_append.mpr ⟨h.nodup, List.pairwise_singleton _ _, fun y hmem z hz hyz => by
      rw [List.mem_singleton] at hz
      subst hz hyz
      exact hy hmem⟩
  mem_iff y := by rw [List.mem_append, List.mem_append, h.mem_iff]
  ordered := by
    -- the new element stands behind all others in both lists
    refine List.pairwise_append.mpr ⟨h.ordered_concat x, List.pairwise_singleton _ _, ?_⟩
    intro y hy z hz
    rw [List.mem_singleton] at hz
    subst hz
    have hmem : y ∈ xs := (h.mem_iff y).mp hy
    have hlt : xs.idxOf y < xs.length := List.idxOf_lt_length_iff.mpr hmem
    rw [List.idxOf_append_of_mem hmem, List.idxOf_append_of_notMem hx]
    omega

end FirstOccurrences

theorem eraseDups_concat {α : Type} [DecidableEq α] (xs : List α) (x : α) :
    (xs ++ [x]).eraseDups = if x ∈ xs then xs.eraseDups else xs.eraseDups ++ [x] := by
  rw [List.eraseDups_append]
  split
  case isTrue h => simp [List.removeAll, h]
  case isFalse h => simp [List.removeAll, h, List.eraseDups_cons]

/-- To erase repetitions is to keep what comes first. -/
theorem firstOccurrences_eraseDups {α : Type} [DecidableEq α] (xs : List α) :
    FirstOccurrences xs xs.eraseDups := by
  -- from the end, as the codes are pushed one after the other
  induction xs using List.reverseRecOn with
  | nil => exact ⟨List.nodup_nil, fun _ => Iff.rfl, List.Pairwise.nil⟩
  | append_singleton xs x ih =>
    rw [eraseDups_concat]
    split
    case isTrue hx => exact ih.concat_of_mem hx
    case isFalse hx => exact ih.concat_of_not_mem hx

/-! ## Checkpoints -/

/-- What an order has to pass before it is sent, in the order of the checks. -/
inductive Checkpoint
  /-- No metric is above its ceiling. -/
  | guard
  /-- Orders are switched on. -/
  | orders
  /-- Network access is switched on. -/
  | network
  /-- The strategy wants something to be done. -/
  | action
  /-- The strategy is confident enough. -/
  | confidence
  /-- The size is something that can be ordered. -/
  | size
  /-- The journal takes the id. -/
  | journal

namespace Checkpoint

/-- The place among the checks. -/
def rank : Checkpoint → Nat
  | guard => 0
  | orders => 1
  | network => 2
  | action => 3
  | confidence => 4
  | size => 5
  | journal => 6

/-- The word for an order that ends here. -/
def word : Checkpoint → String
  | guard => "skipped_due_to_risk"
  | orders => "not_attempted"
  | network => "skipped_http_disabled"
  | action => "skipped_by_strategy"
  | confidence => "skipped_by_strategy"
  | size => "skipped_qty_too_small"
  | journal => "skipped_duplicate"

/-- The reasons of the runtime for an order that ends here. -/
def reasons : Checkpoint → List ReasonCode
  | guard => [.skippedDueToRisk]
  | orders => [.executeOrdersDisabled]
  | network => [.liveHttpDisabled]
  | action => []
  | confidence => [.confidenceBelowThreshold]
  | size => [.orderSizeTooSmall]
  | journal => [.duplicateOrderAttempt]

/-- An order with these inputs passes a check, given the balances and the id that were seen
    among the events, and the journal before. -/
def Passes (config : Config) (inputs : CycleInputs) (events : List CycleEvent) (j : Journal) :
    Checkpoint → Prop
  | guard => (evaluateRisk config.risk inputs.snapshot).isSuccess = true
  | orders => config.execution.executeOrders = true
  | network => config.execution.liveHttpEnabled = true
  | action => inputs.decision.action ≠ .hold
  | confidence => inputs.decision.confidence.lt config.execution.minConfidence = false
  | size => ∃ balance sizing,
    Resolved config inputs (events.filterMap CycleEvent.balances?) balance ∧
      sizeOrder? balance inputs.close inputs.atr config.sizing = some sizing ∧
      sizing.finalQty.isPositive = true
  | journal => ∃ id ∈ events.filterMap CycleEvent.orderId?, id ∉ j.ids

/-- The order comes as far as this check, and does not pass it. -/
structure EndsAt (config : Config) (inputs : CycleInputs) (events : List CycleEvent)
    (j : Journal) (k : Checkpoint) : Prop where
  reached : ∀ k' : Checkpoint, k'.rank < k.rank → k'.Passes config inputs events j
  failed : ¬ k.Passes config inputs events j

/-- The check at which an order ends that is skipped for this reason. -/
def ofSkip : Skip → Checkpoint
  | .risk => guard
  | .ordersOff => orders
  | .networkOff => network
  | .hold => action
  | .lowConfidence => confidence

end Checkpoint

section Orders

variable {config : Config} {inputs : CycleInputs} {runId : String} {j j' : Journal}
  {events events' : List CycleEvent} {order : OrderOutcome} {sizing : OrderSizing}

/-- Whether an order passes depends on the balances and the ids alone. -/
theorem Checkpoint.passes_congr
    (hbalances : events.filterMap CycleEvent.balances? = events'.filterMap CycleEvent.balances?)
    (hids : events.filterMap CycleEvent.orderId? = events'.filterMap CycleEvent.orderId?) :
    Passes config inputs events j = Passes config inputs events' j := by
  funext k
  cases k <;> simp only [Passes, hbalances, hids]

/-- An action passes if and only if it has a side. -/
theorem Checkpoint.passes_action_iff :
    action.Passes config inputs events j ↔
      ∃ side, inputs.decision.action.orderSide? = some side := by
  unfold Passes
  cases inputs.decision.action <;> simp [DecisionAction.orderSide?]

/-- The gates let an order through if it passes the checks before that of its size. -/
theorem exists_side_iff :
    (∃ side, Cycle.gate config.execution (evaluateRisk config.risk inputs.snapshot)
      inputs.decision = .ok side) ↔
    ∀ k : Checkpoint, k.rank < Checkpoint.size.rank → k.Passes config inputs events j := by
  constructor
  · rintro ⟨side, hg⟩ k hk
    obtain ⟨hs, ho, hn, ha, hc⟩ := Cycle.gate_eq_ok_iff.mp hg
    cases k with
    | guard => exact hs
    | orders => exact ho
    | network => exact hn
    | action => exact Checkpoint.passes_action_iff.mpr ⟨side, ha⟩
    | confidence => exact hc
    | size | journal => simp [Checkpoint.rank] at hk
  · intro h
    obtain ⟨side, ha⟩ := Checkpoint.passes_action_iff.mp (h .action (by decide))
    exact ⟨side, Cycle.gate_eq_ok_iff.mpr ⟨h .guard (by decide), h .orders (by decide),
      h .network (by decide), ha, h .confidence (by decide)⟩⟩

/-- The reason for which the gates skip an order is the first check that it does not pass. -/
theorem endsAt_of_gate {reason : Skip}
    (hg : Cycle.gate config.execution (evaluateRisk config.risk inputs.snapshot)
      inputs.decision = .error reason) :
    (Checkpoint.ofSkip reason).EndsAt config inputs events j := by
  -- each reason comes with the checks that were passed before it, which are the lower ranks
  cases Cycle.blocked_of_gate hg with
  | risk hs =>
    refine ⟨fun k hk => absurd hk (Nat.not_lt_zero _), fun h => ?_⟩
    exact Bool.false_ne_true (hs.symm.trans h)
  | ordersOff hs ho =>
    refine ⟨fun k hk => ?_, fun h => Bool.false_ne_true (ho.symm.trans h)⟩
    cases k with
    | guard => exact hs
    | _ => simp [Checkpoint.ofSkip, Checkpoint.rank] at hk
  | networkOff hs ho hn =>
    refine ⟨fun k hk => ?_, fun h => Bool.false_ne_true (hn.symm.trans h)⟩
    cases k with
    | guard => exact hs
    | orders => exact ho
    | _ => simp [Checkpoint.ofSkip, Checkpoint.rank] at hk
  | hold hs ho hn ha =>
    refine ⟨fun k hk => ?_, fun h => ?_⟩
    · cases k with
      | guard => exact hs
      | orders => exact ho
      | network => exact hn
      | _ => simp [Checkpoint.ofSkip, Checkpoint.rank] at hk
    · obtain ⟨side, hside⟩ := Checkpoint.passes_action_iff.mp h
      rw [ha] at hside
      cases hside
  | lowConfidence side hs ho hn ha hc =>
    refine ⟨fun k hk => ?_, fun h => Bool.false_ne_true (h.symm.trans hc)⟩
    cases k with
    | guard => exact hs
    | orders => exact ho
    | network => exact hn
    | action => exact Checkpoint.passes_action_iff.mpr ⟨side, ha⟩
    | _ => simp [Checkpoint.ofSkip, Checkpoint.rank] at hk

/-! ## Outcomes -/

/-- What has become of an order: it ended at a check, or it passed all of them and was followed. -/
inductive Concluded (config : Config) (inputs : CycleInputs) (events : List CycleEvent)
    (j : Journal) (order : OrderOutcome) : Prop
  | stopped (k : Checkpoint) (hk : k.EndsAt config inputs events j)
      (hattempted : order.isAttempted = false) (hstatus : order.status = k.word)
      (hreasons : order.reasons = k.reasons)
  | sent (l : Lifecycle) (hpasses : ∀ k : Checkpoint, k.Passes config inputs events j)
      (hattempted : order.isAttempted = true) (hlifecycle : order.lifecycle? = some l)
      (hstatus : l.transitions.getLast? = some order.status) (hreasons : order.reasons = l.reasons)
      (hone : l.reasons.length ≤ 1)

/-- Only the balances and the id that were seen matter. -/
theorem Concluded.congr
    (hpasses : Checkpoint.Passes config inputs events j = Checkpoint.Passes config inputs events' j)
    (h : Concluded config inputs events j order) : Concluded config inputs events' j order := by
  cases h with
  | stopped k hk hattempted hstatus hreasons =>
    have hk' : k.EndsAt config inputs events' j := ⟨hpasses ▸ hk.reached, hpasses ▸ hk.failed⟩
    exact .stopped k hk' hattempted hstatus hreasons
  | sent l hall hattempted hlifecycle hstatus hreasons hone =>
    exact .sent l (hpasses ▸ hall) hattempted hlifecycle hstatus hreasons hone

/-- The last transition of an order is its final status. -/
theorem Tracked.getLast?_transitions {autoCancel : Bool} {placed : OrderState}
    {calls : List CycleEvent} {l : Lifecycle} (h : Tracked autoCancel placed calls l) :
    l.transitions.getLast? = some l.finalStatus := by
  rw [h.transitions_eq, Lifecycle.finalStatus, h.finalState_eq, List.getLast?_cons]
  rcases List.eq_nil_or_concat (calls.filterMap CycleEvent.state?) with hs | ⟨states, s, hs⟩
  · rw [hs]
    rfl
  · simp [hs]

/-- An order has a course if and only if it was attempted. -/
theorem OrderOutcome.isSome_lifecycle? (order : OrderOutcome) :
    order.lifecycle?.isSome = order.isAttempted := by
  cases order <;> rfl

namespace OrderCourse

variable {guard : GuardResult}

/-- An outcome with a size is one that the sizer has found. -/
theorem admitted (h : OrderCourse config runId inputs guard j events (.ok order) j')
    (hs : order.sizing? = some sizing) :
    ∃ side, Admitted config inputs guard side (events.filterMap CycleEvent.balances?)
      (some sizing) := by
  cases h.sized with
  | stopped reason hg => cases hs
  | sized side sizing' order ha ho =>
    rw [hs] at ho
    obtain rfl := Option.some.inj ho
    exact ⟨side, ha⟩

theorem ids_eq (h : OrderCourse config runId inputs guard j events (.ok order) j') :
    events.filterMap CycleEvent.orderId? = order.clientOrderId?.toList := by
  cases h with
  | stopped | skipped => rfl
  | tooSmall => exact Cycle.filterMap_askEvents fun _ _ => rfl
  | duplicate =>
    rw [List.filterMap_append, Cycle.filterMap_askEvents fun _ _ => rfl]
    rfl
  | followed _ _ _ _ _ _ _ _ _ _ _ _ ht =>
    rw [ht.filterMap_followed (fun _ _ => rfl) (fun _ _ => rfl) (fun _ _ => rfl),
      Cycle.filterMap_askEvents fun _ _ => rfl]
    rfl

/-- An order counts as attempted if and only if it was placed. -/
theorem isAttempted_iff (h : OrderCourse config runId inputs guard j events (.ok order) j') :
    order.isAttempted = true ↔ events.filterMap CycleEvent.placed? ≠ [] := by
  cases h with
  | stopped | skipped => exact iff_of_false Bool.false_ne_true (· rfl)
  | tooSmall =>
    rw [Cycle.filterMap_askEvents fun _ _ => rfl]
    exact iff_of_false Bool.false_ne_true (· rfl)
  | duplicate =>
    rw [List.filterMap_append, Cycle.filterMap_askEvents fun _ _ => rfl]
    exact iff_of_false Bool.false_ne_true (· rfl)
  | followed _ _ _ _ _ _ _ _ _ _ _ _ ht =>
    rw [ht.filterMap_followed (fun _ _ => rfl) (fun _ _ => rfl) (fun _ _ => rfl),
      Cycle.filterMap_askEvents fun _ _ => rfl]
    exact iff_of_true rfl (List.cons_ne_nil _ _)

theorem sizing?_eq_some_iff
    (h : OrderCourse config runId inputs (evaluateRisk config.risk inputs.snapshot) j events
      (.ok order) j') :
    order.sizing? = some sizing ↔
      (∀ k : Checkpoint, k.rank < Checkpoint.size.rank → k.Passes config inputs events j) ∧
      ∃ balance, Resolved config inputs (events.filterMap CycleEvent.balances?) balance ∧
        sizeOrder? balance inputs.close inputs.atr config.sizing = some sizing := by
  constructor
  · intro hs
    obtain ⟨side, ha⟩ := h.admitted hs
    exact ⟨exists_side_iff.mp ⟨side, ha.gate⟩, ha.size⟩
  · rintro ⟨hpasses, hsize⟩
    obtain ⟨side, hg⟩ := exists_side_iff.mpr hpasses
    cases h.sized with
    | stopped reason hg' =>
      rw [hg] at hg'
      cases hg'
    | sized side' sizing' order ha ho => rw [ho, ha.unique ⟨hg, hsize⟩]

/-- The decision is looked at once the guard, orders and the network allow for one. -/
theorem isDecided_iff (h : OrderCourse config runId inputs guard j events (.ok order) j') :
    order.isDecided = true ↔ guard.isSuccess = true ∧ config.execution.executeOrders = true ∧
      config.execution.liveHttpEnabled = true := by
  cases h.sized with
  | stopped reason hg =>
    cases Cycle.blocked_of_gate hg with
    | risk hs => simp [OrderOutcome.isDecided, hs]
    | ordersOff hs ho => simp [OrderOutcome.isDecided, ho]
    | networkOff hs ho hn => simp [OrderOutcome.isDecided, hn]
    | hold hs ho hn | lowConfidence _ hs ho hn => simp [OrderOutcome.isDecided, hs, ho, hn]
  | sized side sizing order ha hsizing =>
    obtain ⟨hs, ho, hn, -⟩ := Cycle.gate_eq_ok_iff.mp ha.gate
    refine iff_of_true ?_ ⟨hs, ho, hn⟩
    cases order with
    | skipped reason => cases hsizing
    | _ => rfl

/-- The outcome of an order says at which checkpoint it came to an end. -/
theorem concluded
    (h : OrderCourse config runId inputs (evaluateRisk config.risk inputs.snapshot) j events
      (.ok order) j') : Concluded config inputs events j order := by
  have hids := h.ids_eq
  -- an order with a size has passed the checks before it
  have hbefore : ∀ {sizing}, order.sizing? = some sizing → ∀ k : Checkpoint,
      k.rank < Checkpoint.size.rank → k.Passes config inputs events j := by
    intro sizing hs
    obtain ⟨side, ha⟩ := h.admitted hs
    exact exists_side_iff.mp ⟨side, ha.gate⟩
  have hsize : ∀ {sizing}, order.sizing? = some sizing →
      (Checkpoint.size.Passes config inputs events j ↔ sizing.finalQty.isPositive = true) := by
    intro sizing hs
    obtain ⟨side, ha⟩ := h.admitted hs
    obtain ⟨balance, hb, hz⟩ := ha.size
    constructor
    · rintro ⟨balance', sizing', hb', hz', hq⟩
      rw [hb'.unique hb, hz] at hz'
      rw [Option.some.inj hz']
      exact hq
    · exact fun hq => ⟨balance, sizing, hb, hz, hq⟩
  have hthrough : ∀ {sizing}, order.sizing? = some sizing → sizing.finalQty.isPositive = true →
      ∀ k : Checkpoint, k.rank < Checkpoint.journal.rank → k.Passes config inputs events j := by
    intro sizing hs hq k hk
    cases k with
    | size => exact (hsize hs).mpr hq
    | journal => exact absurd hk (Nat.lt_irrefl _)
    | _ => exact hbefore hs _ (by decide)
  cases h with
  | stopped hg => exact .stopped .guard (endsAt_of_gate hg) rfl rfl rfl
  | skipped reason hr hg =>
    exact .stopped (.ofSkip reason) (endsAt_of_gate hg) rfl (by cases reason <;> rfl)
      (by cases reason <;> rfl)
  | tooSmall side replies sizing ha hq =>
    refine .stopped .size ⟨hbefore rfl, ?_⟩ rfl rfl rfl
    rw [hsize rfl, hq]
    exact Bool.false_ne_true
  | duplicate side replies sizing id ha hq hj =>
    refine .stopped .journal ⟨hthrough rfl hq, ?_⟩ rfl rfl rfl
    rintro ⟨id', hmem, hnew⟩
    rw [hids] at hmem
    obtain rfl : id' = id := by simpa [OrderOutcome.clientOrderId?] using hmem
    exact hnew hj
  | followed side replies sizing id placed calls l j₁ j₂ ha hq hj₁ ht hj₂ =>
    refine .sent l (fun k => ?_) rfl rfl ht.getLast?_transitions rfl ht.length_reasons_le
    cases k with
    | journal =>
      refine ⟨id, ?_, (Journal.record_eq_ok_iff.mp hj₁).1⟩
      rw [hids]
      exact List.mem_singleton_self id
    | _ => exact hthrough rfl hq _ (by decide)

end OrderCourse

end Orders

/-! ## Codes -/

/-- The codes of what has happened in a cycle, as often as it has: those of the guard, of the
    decision once it is looked at, of the order, and of the streams. -/
def raisedCodes (config : Config) (inputs : CycleInputs) (order : OrderOutcome)
    (seen : Arrival OrderEvent × Arrival AccountEvent) : List String :=
  let guard := evaluateRisk config.risk inputs.snapshot
  guard.reasonCodes ++
    (if guard.isSuccess ∧ config.execution.executeOrders ∧ config.execution.liveHttpEnabled
      then inputs.decision.reasonCodes else []) ++
    order.reasons.map ReasonCode.text ++
    (deriveStatus [seen.1.probe, seen.2.probe] guard.status).2.toList.map ReasonCode.text

/-- The reasons of the trader have known codes. -/
theorem ReasonCode.isKnown_text (r : ReasonCode) : isKnown r.text = true := by
  cases r <;> decide

/-- The guard gives known codes only. -/
theorem isKnown_of_mem_evaluateRisk {limits : RiskLimits} {snapshot : RiskSnapshot}
    {code : String} (h : code ∈ (evaluateRisk limits snapshot).reasonCodes) :
    ReasonCode.isKnown code = true := by
  obtain ⟨m, -, rfl⟩ : ∃ m ∈ breaches limits snapshot, m.reason.text = code := List.mem_map.mp h
  exact m.reason.isKnown_text

theorem known_of_mem_raisedCodes {config : Config} {inputs : CycleInputs} {order : OrderOutcome}
    {seen : Arrival OrderEvent × Arrival AccountEvent} {code : String}
    (h : code ∈ raisedCodes config inputs order seen) :
    ReasonCode.isKnown code = true ∨ code ∈ inputs.decision.reasonCodes := by
  have htexts : ∀ reasons : List ReasonCode, code ∈ reasons.map ReasonCode.text →
      ReasonCode.isKnown code = true := by
    intro reasons hmem
    obtain ⟨r, -, rfl⟩ := List.mem_map.mp hmem
    exact r.isKnown_text
  rcases List.mem_append.mp h with h | hstreams
  · rcases List.mem_append.mp h with h | horder
    · rcases List.mem_append.mp h with hguard | hdecision
      · exact .inl (isKnown_of_mem_evaluateRisk hguard)
      · split at hdecision
        · exact .inr hdecision
        · cases hdecision
    · exact .inl (htexts _ horder)
  · exact .inl (htexts _ hstreams)

/-! ## Reports -/

/-- A report that agrees with the cycle, which has read these inputs and seen this of the
    streams. -/
structure CycleReport.Consistent (config : Config) (c : CycleRecord) (inputs : CycleInputs)
    (seen : Arrival OrderEvent × Arrival AccountEvent) (report : CycleReport) : Prop where
  reasonCodes : FirstOccurrences (raisedCodes config inputs report.order seen) report.reasonCodes
  known : ∀ code ∈ report.reasonCodes,
    ReasonCode.isKnown code = true ∨ code ∈ inputs.decision.reasonCodes
  stopReasonCodes_eq : report.stopReasonCodes =
    if (evaluateRisk config.risk inputs.snapshot).isSuccess then []
    else (evaluateRisk config.risk inputs.snapshot).reasonCodes
  /-- The status and the reasons of the order are those of the check at which it ended, or of
      its lifecycle. -/
  concluded : Concluded config inputs c.events c.before report.order
  attempted_iff : report.order.isAttempted = true ↔ ∃ order reply, .place order reply ∈ c.events
  lifecycle_iff : report.order.lifecycle?.isSome = true ↔
    ∃ order reply, .place order reply ∈ c.events
  /-- A size is what the sizer has found, once the checks before it are passed. -/
  sizing_iff : ∀ sizing, report.order.sizing? = some sizing ↔
    (∀ k : Checkpoint, k.rank < Checkpoint.size.rank →
      k.Passes config inputs c.events c.before) ∧
    ∃ balance, Resolved config inputs (c.events.filterMap CycleEvent.balances?) balance ∧
      sizeOrder? balance inputs.close inputs.atr config.sizing = some sizing
  clientOrderId_iff : ∀ id, report.order.clientOrderId? = some id ↔
    ∃ symbol, .orderId symbol id ∈ c.events

namespace CycleRecord

variable {config : Config} {c : CycleRecord} {runId : String} {inputs : CycleInputs}
  {calls : List CycleEvent} {order : OrderOutcome}

/-- An order was sent if and only if the exchange has answered to it. -/
theorem exists_place_iff :
    (∃ order reply, .place order reply ∈ c.events) ↔
      c.events.filterMap CycleEvent.placed? ≠ [] := by
  constructor
  · rintro ⟨order, reply, hmem⟩
    exact List.ne_nil_of_mem (CycleEvent.mem_filterMap_placed?.mpr hmem)
  · intro h
    obtain ⟨⟨order, reply⟩, hmem⟩ := List.exists_mem_of_ne_nil _ h
    exact ⟨order, reply, CycleEvent.mem_filterMap_placed?.mp hmem⟩

/-- The codes of a report are those of all that has happened, each where it occurs first. -/
theorem reasonCodes_reportOf (seen : Arrival OrderEvent × Arrival AccountEvent)
    (h : c.Deals config runId inputs calls (.ok order)) :
    (Cycle.reportOf config runId inputs c.reconnectCount order
      [seen.1.probe, seen.2.probe]).reasonCodes =
      (raisedCodes config inputs order seen).eraseDups := by
  have hstrategy : (if order.isDecided then inputs.decision.reasonCodes else []) =
      if (evaluateRisk config.risk inputs.snapshot).isSuccess ∧ config.execution.executeOrders ∧
        config.execution.liveHttpEnabled then inputs.decision.reasonCodes else [] :=
    if_congr h.course.isDecided_iff rfl rfl
  unfold CycleReport.reasonCodes raisedCodes Cycle.reportOf
  dsimp only
  rw [hstrategy, List.map_append, List.append_assoc _ (order.reasons.map _)]

/-- The report of a cycle says what its calls were. -/
theorem Deals.consistent (seen : Arrival OrderEvent × Arrival AccountEvent)
    (h : c.Deals config runId inputs calls (.ok order)) :
    (Cycle.reportOf config runId inputs c.reconnectCount order
      [seen.1.probe, seen.2.probe]).Consistent config c inputs seen := by
  -- the checkpoints look at balances and ids only, which a cycle has of its order alone
  have hpasses : Checkpoint.Passes config inputs c.events c.before =
      Checkpoint.Passes config inputs calls c.before :=
    Checkpoint.passes_congr h.filterMap_balances? h.filterMap_orderId?
  have hattempted : order.isAttempted = true ↔ ∃ order reply, .place order reply ∈ c.events := by
    rw [exists_place_iff, h.filterMap_placed?]
    exact h.course.isAttempted_iff
  refine ⟨?_, ?_, rfl, ?_, hattempted, ?_, ?_, ?_⟩
  · rw [reasonCodes_reportOf seen h]
    exact firstOccurrences_eraseDups _
  · intro code hcode
    rw [reasonCodes_reportOf seen h, List.mem_eraseDups] at hcode
    exact known_of_mem_raisedCodes hcode
  · exact h.course.concluded.congr hpasses.symm
  · rw [← hattempted, ← OrderOutcome.isSome_lifecycle?]
    rfl
  · intro sizing
    rw [hpasses, h.filterMap_balances?]
    exact h.course.sizing?_eq_some_iff
  · intro id
    rw [← CycleEvent.mem_filterMap_orderId?, h.filterMap_orderId?, h.course.ids_eq,
      Option.mem_toList]
    rfl

end CycleRecord

/-- Every report of the run agrees with its cycle. -/
def CycleRun.IsReported {σ : Type} (config : Config) (run : CycleRun σ) : Prop :=
  ∀ c ∈ run.cycles, ∀ report, c.result = .ok report → ∃ inputs seen,
    .inputs (.ok inputs) ∈ c.events ∧
    .streams config.execution.streamProbeTimeout seen ∈ c.events ∧
    report.Consistent config c inputs seen

/-- **A report agrees with its cycle**, on every way through it: in every run of cycles, for every
    configuration and every world. -/
theorem run_isReported {σ : Type} (s : Surroundings (StateM σ)) (config : Config) (world : σ)
    (reconnectCounts : List Nat) :
    (CycleRun.of s config world reconnectCounts).IsReported config := by
  refine CycleRun.forall_cycles s config world ?_ ?_ reconnectCounts
  · intro c runId progress cause _ hr _ report hreport
    rw [hr] at hreport
    cases hreport
  · intro c runId inputs calls outcome h report hreport
    have hcloses := h.closes
    cases outcome with
    | error cause =>
      rw [hcloses.2] at hreport
      cases hreport
    | ok order =>
      obtain ⟨seen, he, hr⟩ := hcloses
      rw [hr] at hreport
      obtain rfl := Except.ok.inj hreport
      refine ⟨inputs, seen, h.inputs_mem_iff.mpr rfl, ?_, h.consistent seen⟩
      rw [he]
      exact List.mem_append_right _ (List.mem_singleton_self _)

end LiveTrader
