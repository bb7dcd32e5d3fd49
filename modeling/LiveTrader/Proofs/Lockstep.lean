import LiveTrader.Proofs.CycleTrace

/-!
  LiveTrader.Proofs.Lockstep

  Runs of one program in two worlds.  Two computations are in lockstep if related states give
  the same result and stay related.  A cycle is written for any surroundings, so that it is in
  lockstep with itself in two of them as soon as their operations are, one by one.  This is
  proved once here; that a trace changes nothing, or that a sink keeps what it is given, is
  then a matter of single operations.
-/

namespace LiveTrader

variable {σ τ α β φ : Type}

/-! ## Computations -/

/-- From related states both computations have the same result and leave related states. -/
def Lockstep (R : σ → τ → Prop) (act : StateM σ α) (act' : StateM τ α) : Prop :=
  ∀ s t, R s t → (act.run s).1 = (act'.run t).1 ∧ R (act.run s).2 (act'.run t).2

/-- From related states both computations leave related states, whatever they result in. -/
def Abreast (R : σ → τ → Prop) (act : StateM σ α) (act' : StateM τ α) : Prop :=
  ∀ s t, R s t → R (act.run s).2 (act'.run t).2

variable {R : σ → τ → Prop}

theorem Lockstep.abreast {act : StateM σ α} {act' : StateM τ α} (h : Lockstep R act act') :
    Abreast R act act' :=
  fun s t hR => (h s t hR).2

/-- Two computations that are abreast, before what is in lockstep whatever has come of them. -/
theorem Abreast.bind {act : StateM σ β} {act' : StateM τ β} {next : β → StateM σ α}
    {next' : β → StateM τ α} (h : Abreast R act act')
    (hnext : ∀ b b', Lockstep R (next b) (next' b')) :
    Lockstep R (act >>= next) (act' >>= next') :=
  fun s t hR => hnext _ _ _ _ (h s t hR)

namespace Lockstep

theorem pure (a : α) : Lockstep R (Pure.pure a) (Pure.pure a) :=
  fun _ _ hR => ⟨rfl, hR⟩

/-- Runs that go on alike are alike. -/
theorem bind {act : StateM σ β} {act' : StateM τ β} {next : β → StateM σ α}
    {next' : β → StateM τ α} (h : Lockstep R act act')
    (hnext : ∀ b, Lockstep R (next b) (next' b)) :
    Lockstep R (act >>= next) (act' >>= next') := by
  intro s t hR
  obtain ⟨hb, hR'⟩ := h s t hR
  have hrest := hnext (act.run s).1 _ _ hR'
  -- the second program goes on with the result of the first
  have hrun : (act' >>= next').run t = (next' (act.run s).1).run (act'.run t).2 := by
    rw [hb]
    rfl
  rw [hrun]
  exact hrest

theorem ite {c : Prop} [Decidable c] {act next : StateM σ α} {act' next' : StateM τ α}
    (h : Lockstep R act act') (hnext : Lockstep R next next') :
    Lockstep R (if c then act else next) (if c then act' else next') := by
  split
  · exact h
  · exact hnext

/-- Runs that are alike for each item are alike for all. -/
theorem forM {act : β → StateM σ PUnit} {act' : β → StateM τ PUnit}
    (h : ∀ b, Lockstep R (act b) (act' b)) (bs : List β) :
    Lockstep R (bs.forM act) (bs.forM act') := by
  induction bs with
  | nil => exact .pure _
  | cons b bs ih => exact .bind (h b) fun _ => ih

/-- A computation that does not fail, among those that may. -/
theorem lift {act : StateM σ α} {act' : StateM τ α} (h : Lockstep R act act') :
    Lockstep R (liftM act : ExceptT φ (StateM σ) α).run (liftM act' : ExceptT φ (StateM τ) α).run :=
  h.bind fun _ => .pure _

theorem bindExcept {act : ExceptT φ (StateM σ) β} {act' : ExceptT φ (StateM τ) β}
    {next : β → ExceptT φ (StateM σ) α} {next' : β → ExceptT φ (StateM τ) α}
    (h : Lockstep R act.run act'.run) (hnext : ∀ b, Lockstep R (next b).run (next' b).run) :
    Lockstep R (act >>= next).run (act' >>= next').run := by
  rw [ExceptT.run_bind, ExceptT.run_bind]
  refine h.bind fun r => ?_
  cases r with
  | ok b => exact hnext b
  | error e => exact .pure _

/-- In lockstep with what is left without the trace, a computation does the same. -/
theorem erases {ε : Type} {act : Tracing ε σ α} {plain : StateM σ α}
    (h : Lockstep (fun t s => t.state = s) act plain) : Tracing.Erases act plain := by
  intro t
  obtain ⟨hresult, hstate⟩ := h t t.state rfl
  exact Prod.ext hresult hstate

/-- A watched action runs as the plain one does. -/
theorem call {ε : Type} (act : StateM σ α) (events : α → List ε) :
    Lockstep (fun t s => t.state = s) (Tracing.call act events) act := by
  rintro t _ rfl
  exact ⟨rfl, rfl⟩

end Lockstep

/-- The same among computations that may fail. -/
theorem Abreast.bindLift {act : StateM σ β} {act' : StateM τ β}
    {next : β → ExceptT φ (StateM σ) α} {next' : β → ExceptT φ (StateM τ) α}
    (h : Abreast R act act') (hnext : ∀ b b', Lockstep R (next b).run (next' b').run) :
    Lockstep R ((liftM act : ExceptT φ (StateM σ) β) >>= next).run
      ((liftM act' : ExceptT φ (StateM τ) β) >>= next').run := by
  intro s t hR
  exact hnext _ _ _ _ (h s t hR)

/-! ## Operations -/

/-- The operations of two exchanges are in lockstep. -/
structure Exchange.Alike (R : σ → τ → Prop) (e : Exchange (StateM σ))
    (e' : Exchange (StateM τ)) : Prop where
  place : ∀ order, Lockstep R (e.place order) (e'.place order)
  fetch : ∀ orderId, Lockstep R (e.fetch orderId) (e'.fetch orderId)
  cancel : ∀ orderId, Lockstep R (e.cancel orderId) (e'.cancel orderId)
  balances : ∀ accountType, Lockstep R (e.balances accountType) (e'.balances accountType)
  firstEvents : ∀ timeout, Lockstep R (e.firstEvents timeout) (e'.firstEvents timeout)

/-- The operations of two journals are in lockstep. -/
structure JournalAccess.Alike (R : σ → τ → Prop) (j : JournalAccess (StateM σ))
    (j' : JournalAccess (StateM τ)) : Prop where
  record : ∀ id, Lockstep R (j.record id) (j'.record id)
  complete : ∀ id finalStatus, Lockstep R (j.complete id finalStatus) (j'.complete id finalStatus)

/-- The operations of two surroundings are in lockstep, whatever they answer to a note or a
    report of progress. -/
structure Surroundings.Alike (R : σ → τ → Prop) (s : Surroundings (StateM σ))
    (s' : Surroundings (StateM τ)) : Prop where
  exchange : s.exchange.Alike R s'.exchange
  inputs : Lockstep R s.inputs s'.inputs
  freshRunId : Lockstep R s.freshRunId s'.freshRunId
  freshOrderId : ∀ symbol, Lockstep R (s.freshOrderId symbol) (s'.freshOrderId symbol)
  audit : ∀ eventType payload, Abreast R (s.audit eventType payload) (s'.audit eventType payload)
  progress : ∀ p, Abreast R (s.progress p) (s'.progress p)

/-- A watched exchange runs as the plain one does. -/
theorem Exchange.traced_alike (e : Exchange (StateM σ)) :
    e.traced.Alike (fun t s => t.state = s) e :=
  ⟨fun _ => .call _ _, fun _ => .call _ _, fun _ => .call _ _, fun _ => .call _ _,
    fun _ => .call _ _⟩

theorem JournalAccess.traced_alike (j : JournalAccess (StateM σ)) :
    j.traced.Alike (fun t s => t.state = s) j :=
  ⟨fun _ => .call _ _, fun _ _ => .call _ _⟩

theorem Surroundings.traced_alike (s : Surroundings (StateM σ)) :
    s.traced.Alike (fun t s => t.state = s) s :=
  ⟨s.exchange.traced_alike, .call _ _, .call _ _, fun _ => .call _ _,
    fun _ _ => (Lockstep.call _ _).abreast, fun _ => (Lockstep.call _ _).abreast⟩

/-! ## Cycles -/

section Cycles

variable {e : Exchange (StateM σ)} {e' : Exchange (StateM τ)} {s : Surroundings (StateM σ)}
  {s' : Surroundings (StateM τ)} {j : JournalAccess (StateM σ)} {j' : JournalAccess (StateM τ)}

/-- An order is followed alike where the exchanges are alike. -/
theorem Exchange.Alike.track (h : e.Alike R e') (autoCancel : Bool) (placed : OrderState) :
    Lockstep R (Lifecycle.track e autoCancel placed) (Lifecycle.track e' autoCancel placed) := by
  unfold Lifecycle.track Lifecycle.cancelIfActive
  refine .ite (.pure _) (.ite ?_ (.pure _))
  refine .bind (h.fetch _) fun f => .ite (.pure _) (.ite (.pure _) (.ite (.pure _) ?_))
  exact .bind (h.cancel _) fun c => .ite (.pure _) (.pure _)

theorem Exchange.Alike.resolveBalance (h : e.Alike R e') (config : Config)
    (inputs : CycleInputs) :
    Lockstep R (Cycle.resolveBalance e config inputs) (Cycle.resolveBalance e' config inputs) := by
  unfold Cycle.resolveBalance
  cases inputs.balanceOverride with
  | some balance => exact .pure _
  | none => exact .bind (h.balances _) fun _ => .pure _

theorem Exchange.Alike.probeStreams (h : e.Alike R e') (timeout : Span) :
    Lockstep R (probeStreams e timeout) (probeStreams e' timeout) :=
  .bind (h.firstEvents timeout) fun _ => .pure _

namespace Surroundings.Alike

theorem note (h : s.Alike R s') (eventType : String) (payload : Json) :
    Lockstep R (s.note eventType payload) (s'.note eventType payload) :=
  (h.audit eventType payload).bind fun _ _ => .pure _

theorem emit (h : s.Alike R s') (p : Progress) : Lockstep R (s.emit p) (s'.emit p) :=
  (h.progress p).bind fun _ _ => .pure _

variable (config : Config) (runId : String)

/-- An order is sent and followed alike. -/
theorem sendOrder (h : s.Alike R s') (autoCancel : Bool) (order : Order) (sizing : OrderSizing) :
    Lockstep R (Cycle.sendOrder s autoCancel runId order sizing)
      (Cycle.sendOrder s' autoCancel runId order sizing) := by
  unfold Cycle.sendOrder
  refine .bind (h.note _ _) fun _ => .bind (h.exchange.place _) fun placed => ?_
  refine .bind (h.note _ _) fun _ => .bind (h.exchange.track _ _) fun l => ?_
  exact .bind (.forM (fun step => h.note _ _) _) fun _ => .pure _

/-- An order is entered and sent alike. -/
theorem sendOnce (h : s.Alike R s') (hj : j.Alike R j') (side : OrderSide)
    (sizing : OrderSizing) :
    Lockstep R (Cycle.sendOnce s j config runId side sizing).run
      (Cycle.sendOnce s' j' config runId side sizing).run := by
  unfold Cycle.sendOnce
  refine .bindExcept (.lift (h.freshOrderId _)) fun id => ?_
  refine .bindExcept (.lift (hj.record id)) fun reply => ?_
  rcases reply with (e | e) | _
  · exact .pure _
  · exact .pure _
  · refine .bindExcept ?_ fun qty => ?_
    · cases Quantity.of sizing.finalQty <;> exact .pure _
    · refine .bindExcept (.lift (h.sendOrder runId _ _ _)) fun l => ?_
      refine .bindExcept (.lift (hj.complete _ _)) fun reply => ?_
      cases reply <;> exact .pure _

/-- Whatever the inputs ask for is done alike. -/
theorem handleOrder (h : s.Alike R s') (hj : j.Alike R j') (inputs : CycleInputs)
    (guard : GuardResult) :
    Lockstep R (Cycle.handleOrder s j config runId inputs guard).run
      (Cycle.handleOrder s' j' config runId inputs guard).run := by
  unfold Cycle.handleOrder Cycle.sizeAndSend
  cases Cycle.gate config.execution guard inputs.decision with
  | error reason =>
    dsimp only
    by_cases hr : reason = .risk
    · rw [if_pos hr, if_pos hr]
      exact .bindExcept (.lift (h.note _ _)) fun _ => .pure _
    · rw [if_neg hr, if_neg hr]
      exact .pure _
  | ok side =>
    refine .bindExcept (.lift (h.exchange.resolveBalance config inputs)) fun balance => ?_
    cases sizeOrder? balance inputs.close inputs.atr config.sizing with
    | none => exact .pure _
    | some sizing => exact .ite (h.sendOnce config runId hj side sizing) (.pure _)

/-- **A cycle is in lockstep with itself** in surroundings whose operations are. -/
theorem run (h : s.Alike R s') (hj : j.Alike R j') (reconnectCount : Nat) :
    Lockstep R (Cycle.run s j config reconnectCount).run
      (Cycle.run s' j' config reconnectCount).run := by
  unfold Cycle.run
  refine .bindExcept (.lift h.freshRunId) fun runId => ?_
  refine .bindExcept (.lift (h.emit _)) fun _ => ?_
  refine .bindExcept (.lift h.inputs) fun reply => ?_
  cases reply with
  | error cause => exact .pure _
  | ok inputs =>
    refine .bindExcept (.lift (h.emit _)) fun _ => ?_
    refine .bindExcept (h.handleOrder config runId hj inputs _) fun order => ?_
    exact .bindExcept (.lift (h.exchange.probeStreams _)) fun probes => .pure _

end Surroundings.Alike

end Cycles

end LiveTrader
