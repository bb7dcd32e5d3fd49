import Mathlib.Tactic.Simps.Basic
import LiveTrader.Cycle.Run
import LiveTrader.Proofs.Trace

/-!
  LiveTrader.Proofs.CycleTrace

  What a cycle does to its surroundings, as a trace.  Every call of the exchange, of the
  journal and of the rest is an event that holds the arguments and the reply, so that a
  statement about a trace is one about the order of the calls as well.
-/

namespace LiveTrader

/-- One call that a cycle makes. -/
inductive CycleEvent
  | runId (id : String)
  | progress (p : Progress)
  | inputs (reply : Except RunError CycleInputs)
  | audit (eventType : String) (payload : Json)
  | balances (accountType : String) (reply : Except Fault (List Balance))
  | orderId (symbol : Symbol) (id : ClientOrderId)
  | record (id : ClientOrderId) (reply : Except JournalError Unit)
  | place (order : Order) (reply : OrderState)
  | fetch (orderId : String) (reply : OrderState)
  | cancel (orderId : String) (reply : OrderState)
  | complete (id : ClientOrderId) (finalStatus : String) (reply : Except JournalError Unit)
  | streams (timeout : Span) (reply : Arrival OrderEvent × Arrival AccountEvent)

/-- What an exchange can be asked to do. -/
inductive ExchangeOperation
  | balances
  | place
  | fetch
  | cancel
  | streams

namespace CycleEvent

/-- The operation of the exchange that is called. -/
def operation? : CycleEvent → Option ExchangeOperation
  | balances .. => some .balances
  | place .. => some .place
  | fetch .. => some .fetch
  | cancel .. => some .cancel
  | streams .. => some .streams
  | _ => none

/-- The inputs that were read, or why there are none. -/
def inputs? : CycleEvent → Option (Except RunError CycleInputs)
  | inputs reply => some reply
  | _ => none

/-- The balances that were read. -/
def balances? : CycleEvent → Option (Except Fault (List Balance))
  | balances _ reply => some reply
  | _ => none

/-- The id that was made for an order. -/
def orderId? : CycleEvent → Option ClientOrderId
  | orderId _ id => some id
  | _ => none

/-- The id that was entered in the journal. -/
def recorded? : CycleEvent → Option ClientOrderId
  | record id (.ok ()) => some id
  | _ => none

/-- The order that was sent, with the answer. -/
def placed? : CycleEvent → Option (Order × OrderState)
  | place order reply => some (order, reply)
  | _ => none

/-- The order state that the exchange has answered with. -/
def state? : CycleEvent → Option OrderState
  | place _ s | fetch _ s | cancel _ s => some s
  | _ => none

/-- An order is read. -/
def isFetch : CycleEvent → Bool
  | fetch .. => true
  | _ => false

/-- An order is cancelled. -/
def isCancel : CycleEvent → Bool
  | cancel .. => true
  | _ => false

theorem mem_filterMap_inputs? {events : List CycleEvent}
    {reply : Except RunError CycleInputs} :
    reply ∈ events.filterMap inputs? ↔ .inputs reply ∈ events := by
  rw [List.mem_filterMap]
  constructor
  · rintro ⟨e, he, h⟩
    cases e <;> simp only [inputs?, reduceCtorEq, Option.some.injEq] at h
    case inputs reply' =>
      subst h
      exact he
  · intro h
    exact ⟨_, h, rfl⟩

theorem mem_filterMap_recorded? {events : List CycleEvent} {id : ClientOrderId} :
    id ∈ events.filterMap recorded? ↔ .record id (.ok ()) ∈ events := by
  rw [List.mem_filterMap]
  constructor
  · rintro ⟨e, he, h⟩
    cases e <;> simp only [recorded?, reduceCtorEq] at h
    case record id' reply =>
      cases reply with
      | error e => simp at h
      | ok =>
        obtain rfl : id' = id := by simpa using h
        exact he
  · intro h
    exact ⟨_, h, rfl⟩

theorem mem_filterMap_placed? {events : List CycleEvent} {order : Order} {reply : OrderState} :
    (order, reply) ∈ events.filterMap placed? ↔ .place order reply ∈ events := by
  rw [List.mem_filterMap]
  constructor
  · rintro ⟨e, he, h⟩
    cases e <;> simp only [placed?, reduceCtorEq, Option.some.injEq, Prod.mk.injEq] at h
    case place order' reply' =>
      obtain ⟨rfl, rfl⟩ := h
      exact he
  · intro h
    exact ⟨_, h, rfl⟩

theorem mem_filterMap_orderId? {events : List CycleEvent} {id : ClientOrderId} :
    id ∈ events.filterMap orderId? ↔ ∃ symbol, .orderId symbol id ∈ events := by
  rw [List.mem_filterMap]
  constructor
  · rintro ⟨e, he, h⟩
    cases e <;> simp only [orderId?, reduceCtorEq, Option.some.injEq] at h
    case orderId symbol id' =>
      subst h
      exact ⟨symbol, he⟩
  · rintro ⟨symbol, h⟩
    exact ⟨_, h, rfl⟩

end CycleEvent

/-! ## Traced surroundings -/

variable {σ : Type}

/-- An exchange whose calls are traced. -/
@[simps] def Exchange.traced (e : Exchange (StateM σ)) : Exchange (Tracing CycleEvent σ) where
  place order := Tracing.call (e.place order) fun r => [.place order r]
  fetch orderId := Tracing.call (e.fetch orderId) fun r => [.fetch orderId r]
  cancel orderId := Tracing.call (e.cancel orderId) fun r => [.cancel orderId r]
  balances accountType := Tracing.call (e.balances accountType) fun r => [.balances accountType r]
  firstEvents timeout := Tracing.call (e.firstEvents timeout) fun r => [.streams timeout r]

/-- A journal whose calls are traced. -/
@[simps] def JournalAccess.traced (j : JournalAccess (StateM σ)) :
    JournalAccess (Tracing CycleEvent σ) where
  record id := Tracing.call (j.record id) fun r => [.record id r]
  complete id finalStatus :=
    Tracing.call (j.complete id finalStatus) fun r => [.complete id finalStatus r]

/-- Surroundings whose calls are traced. -/
@[simps] def Surroundings.traced (s : Surroundings (StateM σ)) :
    Surroundings (Tracing CycleEvent σ) where
  exchange := s.exchange.traced
  inputs := Tracing.call s.inputs fun r => [.inputs r]
  freshRunId := Tracing.call s.freshRunId fun id => [.runId id]
  freshOrderId symbol := Tracing.call (s.freshOrderId symbol) fun id => [.orderId symbol id]
  audit eventType payload :=
    Tracing.call (s.audit eventType payload) fun _ => [.audit eventType payload]
  progress p := Tracing.call (s.progress p) fun _ => [.progress p]

/-! ## Parts that an exchange does not touch -/

/-- No call of the exchange changes this part of the state. -/
structure Exchange.Keeps {β : Type} (e : Exchange (StateM σ)) (part : σ → β) : Prop where
  place : ∀ order s, part ((e.place order).run s).2 = part s
  fetch : ∀ orderId s, part ((e.fetch orderId).run s).2 = part s
  cancel : ∀ orderId s, part ((e.cancel orderId).run s).2 = part s

/-- What says nothing of the state is not touched by any exchange. -/
theorem Exchange.keeps_unit (e : Exchange (StateM σ)) : e.Keeps fun _ => () :=
  ⟨fun _ _ => rfl, fun _ _ => rfl, fun _ _ => rfl⟩

/-- An exchange of the world does not touch the journal. -/
theorem Exchange.keeps_journal (e : Exchange (StateM σ)) :
    (e.lift CycleState.onWorld).Keeps fun s : CycleState σ => s.journal :=
  ⟨fun _ _ => rfl, fun _ _ => rfl, fun _ _ => rfl⟩

end LiveTrader
