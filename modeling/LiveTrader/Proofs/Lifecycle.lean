import LiveTrader.Proofs.Lockstep

/-!
  LiveTrader.Proofs.Lifecycle

  What following an order does, for every exchange.  `Tracked` lists the seven courses that
  it can take, each with its calls and what is made of them; `track_ends` says that there is
  no other.  Every further statement is read off the courses.
-/

namespace LiveTrader

open Tracing (Ends Erases)

namespace Lifecycle

@[simp] theorem conclude_transitions (l : Lifecycle) : l.conclude.transitions = l.transitions := by
  unfold conclude; split <;> rfl

@[simp] theorem conclude_finalState (l : Lifecycle) : l.conclude.finalState = l.finalState := by
  unfold conclude; split <;> rfl

@[simp] theorem conclude_retryable (l : Lifecycle) : l.conclude.retryable = l.retryable := by
  unfold conclude; split <;> rfl

@[simp] theorem conclude_steps (l : Lifecycle) : l.conclude.steps = l.steps := by
  unfold conclude; split <;> rfl

/-- The conclusion adds one reason at most. -/
theorem length_conclude_reasons_le (l : Lifecycle) :
    l.conclude.reasons.length ≤ l.reasons.length + 1 := by
  unfold conclude; split <;> simp

/-- The conclusion adds a reason only for an order that was rejected. -/
@[simp] theorem mem_conclude_reasons {l : Lifecycle} {r : ReasonCode} :
    r ∈ l.conclude.reasons ↔
      r ∈ l.reasons ∨ l.finalStatus = OrderStatus.rejected ∧ r = .orderRejected := by
  unfold conclude
  split
  case isTrue h => simp [h]
  case isFalse h => simp [h]

end Lifecycle

/-! ## Courses -/

/-- An order in this state is read again. -/
def OrderState.IsOpen (s : OrderState) : Prop :=
  s.status = OrderStatus.accepted ∨ s.status = OrderStatus.active

/-- What has been seen once the order was read. -/
def Lifecycle.read (placed f : OrderState) : Lifecycle :=
  (start placed).observe (.fetch f) f

/-- The courses of following an order: the calls, and what is made of them. -/
inductive Tracked (autoCancel : Bool) (placed : OrderState) :
    List CycleEvent → Lifecycle → Prop
  | placeFailed (hp : placed.isError = true) :
      Tracked autoCancel placed [] ((Lifecycle.start placed).fail .orderPlaceFailed)
  | settled (hp : placed.isError = false) (ho : ¬ placed.IsOpen) :
      Tracked autoCancel placed [] (Lifecycle.start placed).conclude
  | fetchFailed (f : OrderState) (ho : placed.IsOpen) (hf : f.isError = true) :
      Tracked autoCancel placed [.fetch placed.orderId f]
        ((Lifecycle.read placed f).fail .orderFetchFailed)
  | inactive (f : OrderState) (ho : placed.IsOpen) (hf : f.isError = false)
      (ha : f.status ≠ OrderStatus.active) :
      Tracked autoCancel placed [.fetch placed.orderId f] (Lifecycle.read placed f).conclude
  | skipped (f : OrderState) (ho : placed.IsOpen) (ha : f.status = OrderStatus.active)
      (hc : autoCancel = false) :
      Tracked autoCancel placed [.fetch placed.orderId f]
        { Lifecycle.read placed f with
          steps := (Lifecycle.read placed f).steps ++ [.cancelSkipped placed.orderId] }
  | cancelFailed (f c : OrderState) (ho : placed.IsOpen) (ha : f.status = OrderStatus.active)
      (hc : autoCancel = true) (hx : c.isError = true) :
      Tracked autoCancel placed [.fetch placed.orderId f, .cancel placed.orderId c]
        (((Lifecycle.read placed f).observe (.cancel c) c).fail .orderCancelFailed)
  | cancelled (f c : OrderState) (ho : placed.IsOpen) (ha : f.status = OrderStatus.active)
      (hc : autoCancel = true) (hx : c.isError = false) :
      Tracked autoCancel placed [.fetch placed.orderId f, .cancel placed.orderId c]
        ((Lifecycle.read placed f).observe (.cancel c) c).conclude

variable {σ β : Type} {exchange : Exchange (StateM σ)} {part : σ → β}

/-- An order that was read without an error is cancelled, left alone or done with. -/
theorem cancelIfActive_ends (hk : exchange.Keeps part) (autoCancel : Bool)
    (placed f : OrderState) (ho : placed.IsOpen) (hf : f.isError = false) (s : σ) :
    Ends (Lifecycle.cancelIfActive exchange.traced autoCancel placed.orderId
        (Lifecycle.read placed f)) s
      fun calls l s' =>
        Tracked autoCancel placed (.fetch placed.orderId f :: calls) l ∧ part s' = part s := by
  unfold Lifecycle.cancelIfActive
  have hstatus : (Lifecycle.read placed f).finalStatus = f.status := rfl
  rw [hstatus]
  -- the three questions in the order of the program: active, cancelling allowed, cancelled
  split
  case isTrue ha => exact .pure ⟨.inactive f ho hf ha, rfl⟩
  case isFalse ha =>
    have ha : f.status = OrderStatus.active := by simpa using ha
    split
    case isTrue hc => exact .pure ⟨.skipped f ho ha (by simpa using hc), rfl⟩
    case isFalse hc =>
      have hc : autoCancel = true := by simpa using hc
      rw [Exchange.traced_cancel]
      refine .bind (.call ?_)
      have hs := hk.cancel placed.orderId s
      dsimp only
      split
      case isTrue hx => exact .pure ⟨.cancelFailed f _ ho ha hc hx, hs⟩
      case isFalse hx => exact .pure ⟨.cancelled f _ ho ha hc (by simpa using hx), hs⟩

/-- **Following an order takes one of the courses**, whatever the exchange answers. -/
theorem track_ends (hk : exchange.Keeps part) (autoCancel : Bool) (placed : OrderState) (s : σ) :
    Ends (Lifecycle.track exchange.traced autoCancel placed) s
      fun calls l s' => Tracked autoCancel placed calls l ∧ part s' = part s := by
  unfold Lifecycle.track
  dsimp only
  split
  case isTrue hp => exact .pure ⟨.placeFailed hp, rfl⟩
  case isFalse hp =>
    have hp : placed.isError = false := by simpa using hp
    split
    case isTrue ho =>
      rw [Exchange.traced_fetch]
      refine .bind (.call ?_)
      have hs := hk.fetch placed.orderId s
      split
      case isTrue hf => exact .pure ⟨.fetchFailed _ ho hf, hs⟩
      case isFalse hf =>
        refine (cancelIfActive_ends hk autoCancel placed _ ho (by simpa using hf) _).mono ?_
        exact fun calls l s' h => ⟨h.1, h.2.trans hs⟩
    case isFalse ho => exact .pure ⟨.settled hp ho, rfl⟩

/-- Only the first call reads the order. -/
theorem Tracked.fetch_not_mem {autoCancel : Bool} {placed : OrderState} {first : CycleEvent}
    {calls : List CycleEvent} {l : Lifecycle} (h : Tracked autoCancel placed (first :: calls) l)
    (id : String) (f : OrderState) : .fetch id f ∉ calls := by
  cases h <;> simp

/-- What is read of the order is what the exchange tells of it when following begins. -/
theorem track_reads (hk : exchange.Keeps part) (autoCancel : Bool) (placed : OrderState) (s : σ) :
    Ends (Lifecycle.track exchange.traced autoCancel placed) s fun calls _ _ =>
      ∀ id f, .fetch id f ∈ calls → f = ((exchange.fetch placed.orderId).run s).1 := by
  unfold Lifecycle.track
  dsimp only
  split
  case isTrue => exact .pure fun id f h => absurd h List.not_mem_nil
  case isFalse hp =>
    split
    case isTrue ho =>
      rw [Exchange.traced_fetch]
      refine .bind (.call ?_)
      split
      case isTrue hf => exact .pure fun id f h => (CycleEvent.fetch.inj (List.mem_singleton.mp h)).2
      case isFalse hf =>
        refine (cancelIfActive_ends hk autoCancel placed _ ho (by simpa using hf) _).mono ?_
        intro calls l s' htracked id f hmem
        rcases List.mem_cons.mp hmem with h | h
        · exact (CycleEvent.fetch.inj h).2
        · exact absurd h (htracked.1.fetch_not_mem id f)
    case isFalse => exact .pure fun id f h => absurd h List.not_mem_nil

/-- Watching an order does not change what becomes of it. -/
theorem track_erases (exchange : Exchange (StateM σ)) (autoCancel : Bool) (placed : OrderState) :
    Erases (Lifecycle.track exchange.traced autoCancel placed)
      (Lifecycle.track exchange autoCancel placed) :=
  (exchange.traced_alike.track autoCancel placed).erases

/-! ## Status words -/

theorem OrderState.isError_iff {s : OrderState} :
    s.isError = true ↔ s.status = OrderStatus.error := by
  simp [OrderState.isError]

theorem OrderState.isError_of_active {s : OrderState} (h : s.status = OrderStatus.active) :
    s.isError = false := by
  simp [OrderState.isError, h, OrderStatus.active, OrderStatus.error]

theorem OrderState.IsOpen.isError {s : OrderState} (h : s.IsOpen) : s.isError = false := by
  rcases h with h | h
  · simp [OrderState.isError, h, OrderStatus.accepted, OrderStatus.error]
  · exact isError_of_active h

theorem OrderState.status_ne_rejected_of_isError {s : OrderState} (h : s.isError = true) :
    s.status ≠ OrderStatus.rejected := by
  rw [isError_iff.mp h]
  decide

namespace Tracked

variable {autoCancel : Bool} {placed : OrderState} {calls : List CycleEvent} {l : Lifecycle}

/-! ## Calls -/

/-- Only the placed order is read or cancelled, and nothing else is called. -/
theorem mem_calls (h : Tracked autoCancel placed calls l) :
    ∀ e ∈ calls, (∃ r, e = .fetch placed.orderId r) ∨ ∃ r, e = .cancel placed.orderId r := by
  cases h <;> simp

/-- An order is fetched once at most. -/
theorem countP_isFetch_le (h : Tracked autoCancel placed calls l) :
    calls.countP CycleEvent.isFetch ≤ 1 := by
  cases h <;> simp [List.countP_cons, CycleEvent.isFetch]

theorem countP_isCancel_le (h : Tracked autoCancel placed calls l) :
    calls.countP CycleEvent.isCancel ≤ 1 := by
  cases h <;> simp [List.countP_cons, CycleEvent.isCancel]

/-- An order is fetched if and only if it was open when it was placed. -/
theorem exists_fetch_iff (h : Tracked autoCancel placed calls l) :
    (∃ f, CycleEvent.fetch placed.orderId f ∈ calls) ↔ placed.IsOpen := by
  cases h with
  | placeFailed hp =>
    have : ¬ placed.IsOpen := fun ho => by simp [ho.isError] at hp
    simp [this]
  | settled hp ho => simp [ho]
  | fetchFailed f ho | inactive f ho | skipped f ho => simp [ho]
  | cancelFailed f c ho | cancelled f c ho => simp [ho]

/-- An order is cancelled if that is switched on and it was read as active just before. -/
theorem exists_cancel_iff (h : Tracked autoCancel placed calls l) :
    (∃ c, CycleEvent.cancel placed.orderId c ∈ calls) ↔
      autoCancel = true ∧
        ∃ f, CycleEvent.fetch placed.orderId f ∈ calls ∧ f.status = OrderStatus.active := by
  cases h with
  | placeFailed | settled => simp
  | fetchFailed f ho hf =>
    have : f.status ≠ OrderStatus.active := fun ha => by
      simp [OrderState.isError_of_active ha] at hf
    simp [this]
  | inactive f ho hf ha => simp [ha]
  | skipped f ho ha hc => simp [hc]
  | cancelFailed f c ho ha hc | cancelled f c ho ha hc => simp [ha, hc]

/-- Before a cancel there is the read of the active order and nothing else. -/
theorem before_cancel (h : Tracked autoCancel placed calls l) {before after : List CycleEvent}
    {id : String} {c : OrderState} (hcalls : calls = before ++ .cancel id c :: after) :
    ∃ f, before = [.fetch placed.orderId f] ∧ f.status = OrderStatus.active := by
  cases h with
  | placeFailed | settled => simp at hcalls
  | fetchFailed f | inactive f | skipped f =>
    simp [List.cons_eq_append_iff] at hcalls
  | cancelFailed f c ho ha | cancelled f c ho ha =>
    simp [List.cons_eq_append_iff] at hcalls
    exact ⟨f, hcalls.1, ha⟩

/-- Nothing is called after a call that has failed. -/
theorem after_error (h : Tracked autoCancel placed calls l) {before after : List CycleEvent}
    {e : CycleEvent} {r : OrderState} (hcalls : calls = before ++ e :: after)
    (hr : e.state? = some r) (hx : r.isError = true) : after = [] := by
  have hlen : calls.length = before.length + (after.length + 1) := by simp [hcalls]
  have hnil : calls.length ≤ before.length + 1 → after = [] := fun hle =>
    List.eq_nil_of_length_eq_zero (by omega)
  cases h with
  | placeFailed | settled | fetchFailed f | inactive f | skipped f => exact hnil (by simp)
  | cancelFailed f c ho ha | cancelled f c ho ha =>
    cases before with
    | nil =>
      -- the first of the two calls is the read, which has not failed
      obtain ⟨rfl, -⟩ : CycleEvent.fetch placed.orderId f = e ∧ _ := by simpa using hcalls
      obtain rfl : f = r := by simpa [CycleEvent.state?] using hr
      simp [OrderState.isError_of_active ha] at hx
    | cons b before => exact hnil (by simp)

/-- Nothing is asked about an order that could not be placed. -/
theorem nil_of_placeFailed (h : Tracked autoCancel placed calls l)
    (hp : placed.isError = true) : calls = [] := by
  cases h with
  | placeFailed | settled => rfl
  | fetchFailed f ho | inactive f ho | skipped f ho => simp [ho.isError] at hp
  | cancelFailed f c ho | cancelled f c ho => simp [ho.isError] at hp

/-! ## What is recorded -/

/-- The step that a call is recorded as. -/
def stepOf? : CycleEvent → Option LifecycleStep
  | .fetch _ s => some (.fetch s)
  | .cancel _ s => some (.cancel s)
  | _ => none

/-- The steps are the calls, and after them at most the note of a cancel that was not made. -/
theorem steps_eq (h : Tracked autoCancel placed calls l) :
    ∃ notes, l.steps = calls.filterMap stepOf? ++ notes ∧
      (notes = [] ∨ notes = [.cancelSkipped placed.orderId]) := by
  cases h with
  | skipped f => exact ⟨_, rfl, .inr rfl⟩
  | settled | inactive | cancelled =>
    exact ⟨[], (Lifecycle.conclude_steps _).trans rfl, .inl rfl⟩
  | placeFailed | fetchFailed | cancelFailed => exact ⟨[], rfl, .inl rfl⟩

/-- A cancel is noted as skipped if it is switched off for an order that was read as active. -/
theorem exists_skip_iff (h : Tracked autoCancel placed calls l) :
    (∃ id, LifecycleStep.cancelSkipped id ∈ l.steps) ↔
      autoCancel = false ∧
        ∃ f, CycleEvent.fetch placed.orderId f ∈ calls ∧ f.status = OrderStatus.active := by
  cases h with
  | placeFailed => simp [Lifecycle.start, Lifecycle.fail]
  | settled => simp [Lifecycle.start]
  | fetchFailed f ho hf =>
    have : f.status ≠ OrderStatus.active := fun ha => by
      simp [OrderState.isError_of_active ha] at hf
    simp [Lifecycle.read, Lifecycle.start, Lifecycle.observe, Lifecycle.fail, this]
  | inactive f ho hf ha =>
    simp [Lifecycle.read, Lifecycle.start, Lifecycle.observe, ha]
  | skipped f ho ha hc =>
    simp [Lifecycle.read, Lifecycle.start, Lifecycle.observe, ha, hc]
  | cancelFailed f c ho ha hc | cancelled f c ho ha hc =>
    simp [Lifecycle.read, Lifecycle.start, Lifecycle.observe, Lifecycle.fail, hc]

/-- The statuses of an order are those that it was found in, one after the other. -/
theorem transitions_eq (h : Tracked autoCancel placed calls l) :
    l.transitions =
      placed.status :: (calls.filterMap CycleEvent.state?).map OrderState.status := by
  cases h <;>
    simp [Lifecycle.read, Lifecycle.start, Lifecycle.observe, Lifecycle.fail, CycleEvent.state?]

/-- The final state is the last one that the exchange told. -/
theorem finalState_eq (h : Tracked autoCancel placed calls l) :
    l.finalState = (calls.filterMap CycleEvent.state?).getLastD placed := by
  cases h <;>
    simp [Lifecycle.read, Lifecycle.start, Lifecycle.observe, Lifecycle.fail, CycleEvent.state?]

/-! ## Reasons -/

section Reasons

attribute [local simp] Lifecycle.read Lifecycle.start Lifecycle.observe Lifecycle.fail
  Lifecycle.finalStatus

/-- There is one reason at most. -/
theorem length_reasons_le (h : Tracked autoCancel placed calls l) : l.reasons.length ≤ 1 := by
  cases h with
  | placeFailed | fetchFailed | skipped | cancelFailed => simp
  | settled | inactive | cancelled => exact Lifecycle.length_conclude_reasons_le _

/-- No other reasons are given than these four. -/
theorem mem_reasons (h : Tracked autoCancel placed calls l) :
    ∀ r ∈ l.reasons, r ∈ [ReasonCode.orderPlaceFailed, .orderFetchFailed, .orderCancelFailed,
      .orderRejected] := by
  cases h <;> simp +contextual

/-- The reason for a failed placement is given if and only if the placement failed. -/
theorem placeFailed_mem_iff (h : Tracked autoCancel placed calls l) :
    ReasonCode.orderPlaceFailed ∈ l.reasons ↔ placed.isError = true := by
  cases h with
  | placeFailed hp | settled hp => simp [hp]
  | fetchFailed f ho | inactive f ho | skipped f ho => simp [ho.isError]
  | cancelFailed f c ho | cancelled f c ho => simp [ho.isError]

theorem fetchFailed_mem_iff (h : Tracked autoCancel placed calls l) :
    ReasonCode.orderFetchFailed ∈ l.reasons ↔
      ∃ f, CycleEvent.fetch placed.orderId f ∈ calls ∧ f.isError = true := by
  cases h with
  | placeFailed | settled => simp
  | fetchFailed f ho hf | inactive f ho hf => simp [hf]
  | skipped f ho ha => simp [OrderState.isError_of_active ha]
  | cancelFailed f c ho ha | cancelled f c ho ha => simp [OrderState.isError_of_active ha]

theorem cancelFailed_mem_iff (h : Tracked autoCancel placed calls l) :
    ReasonCode.orderCancelFailed ∈ l.reasons ↔
      ∃ c, CycleEvent.cancel placed.orderId c ∈ calls ∧ c.isError = true := by
  cases h with
  | placeFailed | settled | fetchFailed | inactive | skipped => simp
  | cancelFailed f c ho ha hc hx | cancelled f c ho ha hc hx => simp [hx]

/-- The reason for a rejection is given if and only if the last status is that of one. -/
theorem rejected_mem_iff (h : Tracked autoCancel placed calls l) :
    ReasonCode.orderRejected ∈ l.reasons ↔ l.finalStatus = OrderStatus.rejected := by
  cases h with
  | placeFailed hp => simp [OrderState.status_ne_rejected_of_isError hp]
  | settled | inactive | cancelled => simp
  | fetchFailed f ho hf => simp [OrderState.status_ne_rejected_of_isError hf]
  | skipped f ho ha => simp [ha, OrderStatus.active, OrderStatus.rejected]
  | cancelFailed f c ho ha hc hx => simp [OrderState.status_ne_rejected_of_isError hx]

/-- Whether a failure may pass is told if and as the last state tells it. -/
theorem retryable_eq (h : Tracked autoCancel placed calls l) :
    l.retryable =
      if l.finalState.isError then l.finalState.fault?.map Fault.retryable else none := by
  cases h with
  | placeFailed hp | settled hp => simp [hp]
  | fetchFailed f ho hf | inactive f ho hf => simp [hf]
  | skipped f ho ha => simp [OrderState.isError_of_active ha]
  | cancelFailed f c ho ha hc hx | cancelled f c ho ha hc hx => simp [hx]

end Reasons

end Tracked

/-! ## The lifecycle and its calls -/

/-- A lifecycle that tells what the calls made for a placed order have shown, where the calls
    are those that the state of the order asks for. -/
structure Lifecycle.Tells (l : Lifecycle) (autoCancel : Bool) (placed : OrderState)
    (calls : List CycleEvent) : Prop where
  /-- Nothing but the placed order is read and cancelled; no order is sent. -/
  own_calls : ∀ e ∈ calls,
    (∃ r, e = .fetch placed.orderId r) ∨ ∃ r, e = .cancel placed.orderId r
  one_fetch : calls.countP CycleEvent.isFetch ≤ 1
  one_cancel : calls.countP CycleEvent.isCancel ≤ 1
  fetch_iff : (∃ f, .fetch placed.orderId f ∈ calls) ↔
    placed.status = OrderStatus.accepted ∨ placed.status = OrderStatus.active
  cancel_iff : (∃ c, .cancel placed.orderId c ∈ calls) ↔
    autoCancel = true ∧ ∃ f, .fetch placed.orderId f ∈ calls ∧ f.status = OrderStatus.active
  /-- The read that lets the order be cancelled is the call just before. -/
  before_cancel : ∀ before c after, calls = before ++ .cancel placed.orderId c :: after →
    ∃ f, before = [.fetch placed.orderId f] ∧ f.status = OrderStatus.active
  skip_iff : (∃ id, .cancelSkipped id ∈ l.steps) ↔
    autoCancel = false ∧ ∃ f, .fetch placed.orderId f ∈ calls ∧ f.status = OrderStatus.active
  steps_eq : ∃ notes, l.steps = calls.filterMap Tracked.stepOf? ++ notes ∧
    (notes = [] ∨ notes = [.cancelSkipped placed.orderId])
  transitions_eq : l.transitions =
    placed.status :: (calls.filterMap CycleEvent.state?).map OrderState.status
  finalState_eq : l.finalState = (calls.filterMap CycleEvent.state?).getLastD placed
  one_reason : l.reasons.length ≤ 1
  known_reasons : ∀ r ∈ l.reasons, r ∈ [ReasonCode.orderPlaceFailed, .orderFetchFailed,
    .orderCancelFailed, .orderRejected]
  placeFailed_iff : .orderPlaceFailed ∈ l.reasons ↔ placed.isError = true
  fetchFailed_iff : .orderFetchFailed ∈ l.reasons ↔
    ∃ f, .fetch placed.orderId f ∈ calls ∧ f.isError = true
  cancelFailed_iff : .orderCancelFailed ∈ l.reasons ↔
    ∃ c, .cancel placed.orderId c ∈ calls ∧ c.isError = true
  rejected_iff : .orderRejected ∈ l.reasons ↔ l.finalStatus = OrderStatus.rejected
  /-- An error is the last that is seen. -/
  placeFailed_last : placed.isError = true → calls = []
  error_last : ∀ before e after r, calls = before ++ e :: after → e.state? = some r →
    r.isError = true → after = []
  retryable_eq : l.retryable =
    if l.finalState.isError then l.finalState.fault?.map Fault.retryable else none

theorem Tracked.tells {autoCancel : Bool} {placed : OrderState} {calls : List CycleEvent}
    {l : Lifecycle} (h : Tracked autoCancel placed calls l) : l.Tells autoCancel placed calls where
  own_calls := h.mem_calls
  one_fetch := h.countP_isFetch_le
  one_cancel := h.countP_isCancel_le
  fetch_iff := h.exists_fetch_iff
  cancel_iff := h.exists_cancel_iff
  before_cancel := fun _ _ _ hcalls => h.before_cancel hcalls
  skip_iff := h.exists_skip_iff
  steps_eq := h.steps_eq
  transitions_eq := h.transitions_eq
  finalState_eq := h.finalState_eq
  one_reason := h.length_reasons_le
  known_reasons := h.mem_reasons
  placeFailed_iff := h.placeFailed_mem_iff
  fetchFailed_iff := h.fetchFailed_mem_iff
  cancelFailed_iff := h.cancelFailed_mem_iff
  rejected_iff := h.rejected_mem_iff
  placeFailed_last := h.nil_of_placeFailed
  error_last := fun _ _ _ _ hcalls hr hx => h.after_error hcalls hr hx
  retryable_eq := h.retryable_eq

end LiveTrader
