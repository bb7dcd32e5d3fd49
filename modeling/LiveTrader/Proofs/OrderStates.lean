import LiveTrader.Proofs.Payloads
import LiveTrader.Proofs.Requests

/-!
  LiveTrader.Proofs.OrderStates

  What the state that comes of an operation on an order tells of it.  A failure of the call, or of
  reading its data, always becomes the word `error` with the failure in the payload.  The word is
  not kept for failures alone: a status of the exchange that is spelled like it becomes it too.
-/

namespace LiveTrader.Gmo

/-! ## Status words -/

/-- A status of the exchange is spelled like the word for failures, in whatever case and with
    whatever blanks around it. -/
def SpellsError (raw : String) : Prop :=
  Text.asciiLower (Text.trim raw) = OrderStatus.error

theorem length_asciiUpper (s : String) : (Text.asciiUpper s).length = s.length := by
  rw [Text.asciiUpper, String.length_ofList, List.length_map, String.length_toList]

theorem length_asciiLower (s : String) : (Text.asciiLower s).length = s.length := by
  rw [Text.asciiLower, String.length_ofList, List.length_map, String.length_toList]

/-- No text that is spelled like the word for failures stands for a word of another length. -/
theorem not_spellsError_of_mem {raw : String} {words : List String}
    (h : Text.asciiUpper (Text.trim raw) ∈ words)
    (hwords : ∀ w ∈ words, w.length ≠ OrderStatus.error.length) : ¬ SpellsError raw := by
  intro hspells
  refine hwords _ h ?_
  rw [length_asciiUpper, ← length_asciiLower, hspells]

/-- Only the spellings of one word stand for a failure. -/
theorem statusWord_eq_error_iff {raw : String} :
    statusWord raw = OrderStatus.error ↔ SpellsError raw := by
  unfold statusWord
  dsimp only
  -- the words with a meaning of their own come first, and none of them spells `error`
  split
  case isTrue h =>
    exact iff_of_false (by decide) (not_spellsError_of_mem (List.mem_singleton.mpr h) (by decide))
  split
  case isTrue h => exact iff_of_false (by decide) (not_spellsError_of_mem h (by decide))
  split
  case isTrue h => exact iff_of_false (by decide) (not_spellsError_of_mem h (by decide))
  split
  case isTrue h =>
    exact iff_of_false (by decide) (not_spellsError_of_mem (List.mem_singleton.mpr h) (by decide))
  split
  case isTrue h =>
    exact iff_of_false (by decide) (not_spellsError_of_mem (List.mem_singleton.mpr h) (by decide))
  exact Iff.rfl

theorem statusIn_eq_error_iff {default : String} {data : Json}
    (hdefault : default ≠ OrderStatus.error) :
    statusIn default data = OrderStatus.error ↔
      ∃ raw, textField? data statusNames = some raw ∧ SpellsError raw := by
  unfold statusIn
  cases textField? data statusNames with
  | none => simp [hdefault]
  | some raw => simp [statusWord_eq_error_iff]

theorem textField?_of_not_isObject {data : Json} (h : data.isObject = false)
    (names : List String) : textField? data names = none := by
  refine List.findSome?_eq_none_iff.mpr fun name _ => ?_
  cases data with
  | obj => cases h
  | _ => rfl

namespace OrderOperation

/-- The text of the order's status in data. -/
def statusText? : OrderOperation → Json → Option String
  | place _, data => textField? data statusNames
  | cancel _, data => textField? data statusNames
  | fetch orderId, data => textField? (orderEntry orderId data) statusNames

/-- A state that was read has the word for failures if the exchange's status is spelled so. -/
theorem status_eq_error_iff {settings : Settings} {op : OrderOperation} {data : Json}
    {state : OrderState} (h : op.read settings data = .ok state) :
    state.status = OrderStatus.error ↔
      ∃ raw, op.statusText? data = some raw ∧ SpellsError raw := by
  cases op with
  | place order =>
    cases h
    have hplaced : (placedState order data).status = (placement data).2 := rfl
    rw [hplaced]
    unfold placement
    split
    case isTrue => exact statusIn_eq_error_iff (by decide)
    case isFalse hobject =>
      -- only an object has a status text, and of anything else the order was accepted
      have hnone := textField?_of_not_isObject (by simpa using hobject) statusNames
      simp [statusText?, hnone, OrderStatus.accepted, OrderStatus.error]
  | cancel orderId =>
    cases h
    exact statusIn_eq_error_iff (by decide)
  | fetch orderId =>
    simp only [read, fetchedState, statusText?] at h ⊢
    split at h
    case h_1 => cases h
    case h_2 raw hraw =>
      cases h
      rw [hraw]
      simp [statusWord_eq_error_iff]

end OrderOperation

/-! ## Failures -/

namespace Adapter

variable {σ : Type}

/-- Why an operation on an order has failed: its call has, or its data cannot be read. -/
inductive Fails (a : Adapter (StateM σ)) (op : OrderOperation) (events : List GatewayEvent) :
    Fault → Prop
  | call {f : Fault} (h : a.CallFailure op.name events f) : Fails a op events f
  | unreadable {data : Json} {f : Fault} (hlast : (outcomes events).getLast? = some (.ok data))
      (hread : op.read a.settings data = .error f) : Fails a op events f

/-- An operation fails by what comes of its call, or by what is read of it. -/
theorem CallCourse.fails_iff {a : Adapter (StateM σ)} {op : OrderOperation}
    {events : List GatewayEvent} {outcome : Except Fault Json}
    (h : a.CallCourse op.name op.call events outcome) {f : Fault} :
    a.Fails op events f ↔ outcome.bind (op.read a.settings) = .error f := by
  constructor
  · intro hfails
    cases hfails with
    | call hcall =>
      rw [h.eq_error_iff.mpr hcall]
      rfl
    | unreadable hlast hread =>
      rw [h.eq_ok_iff.mpr hlast]
      exact hread
  · intro hresult
    cases houtcome : outcome with
    | error f' =>
      rw [houtcome] at hresult
      cases hresult
      exact .call (h.eq_error_iff.mp houtcome)
    | ok data =>
      rw [houtcome] at hresult
      exact .unreadable (h.eq_ok_iff.mp houtcome) hresult

/-- What the state that comes of an operation on an order tells of it. -/
structure Tells (a : Adapter (StateM σ)) (op : OrderOperation) (events : List GatewayEvent)
    (state : OrderState) : Prop where
  /-- A failure is told, and read back from the state. -/
  failed : ∀ f, a.Fails op events f →
    state.status = OrderStatus.error ∧ state.fault? = some f
  /-- Nothing else is told as a failure but a status that is spelled like one. -/
  sentinel : state.status = OrderStatus.error ↔
    (∃ f, a.Fails op events f) ∨ ∃ data raw, (outcomes events).getLast? = some (.ok data) ∧
      op.statusText? data = some raw ∧ SpellsError raw
  /-- No failure is read from a state that was made by placing or cancelling and tells none. -/
  unexplained : (∀ f, ¬ a.Fails op events f) → (∀ orderId, op ≠ .fetch orderId) →
    state.fault? = none

theorem fault?_eq_none_of_read {settings : Settings} {op : OrderOperation} {data : Json}
    {state : OrderState} (h : op.read settings data = .ok state)
    (hfetch : ∀ orderId, op ≠ .fetch orderId) : state.fault? = none := by
  unfold OrderState.fault?
  split
  case isFalse => rfl
  case isTrue =>
    cases op with
    | place order =>
      cases h
      simp [placedState, Json.lookup_member]
    | cancel orderId =>
      cases h
      simp [cancelledState, Json.lookup_member]
    | fetch orderId => exact absurd rfl (hfetch orderId)

/-- What an operation answers tells whether it has failed, and how. -/
theorem CallCourse.tells {a : Adapter (StateM σ)} {op : OrderOperation}
    {events : List GatewayEvent} {outcome : Except Fault Json}
    (h : a.CallCourse op.name op.call events outcome) :
    a.Tells op events (op.answer a.settings outcome) := by
  unfold OrderOperation.answer
  cases hresult : outcome.bind (op.read a.settings) with
  | error f =>
    have hfails : a.Fails op events f := h.fails_iff.mpr hresult
    exact {
      failed := fun f' hf' => by
        cases hresult.symm.trans (h.fails_iff.mp hf')
        exact ⟨rfl, OrderState.fault?_ofFault _ _ f⟩
      sentinel := ⟨fun _ => .inl ⟨f, hfails⟩, fun _ => rfl⟩
      unexplained := fun hnone => absurd hfails (hnone f) }
  | ok state =>
    -- a state was read, so nothing has failed
    have hfine : ∀ f, ¬ a.Fails op events f := fun f hf => by
      cases hresult.symm.trans (h.fails_iff.mp hf)
    obtain ⟨data, hdata, hread⟩ :
        ∃ data, outcome = .ok data ∧ op.read a.settings data = .ok state := by
      cases outcome with
      | error f => cases hresult
      | ok data => exact ⟨data, rfl, hresult⟩
    have hlast := h.eq_ok_iff.mp hdata
    exact {
      failed := fun f hf => absurd hf (hfine f)
      sentinel := by
        refine (OrderOperation.status_eq_error_iff hread).trans ⟨?_, ?_⟩
        · rintro ⟨raw, hraw, hspells⟩
          exact .inr ⟨data, raw, hlast, hraw, hspells⟩
        · rintro (⟨f, hf⟩ | ⟨data', raw, hlast', hraw, hspells⟩)
          · exact absurd hf (hfine f)
          · cases hlast.symm.trans hlast'
            exact ⟨raw, hraw, hspells⟩
      unexplained := fun _ hfetch => fault?_eq_none_of_read hread hfetch }

/-- **The state tells every failure, and which one it is.**  It also tells of one where the
    exchange gives a status that is spelled like the word for failures, and only there. -/
theorem performOrder_tells (a : Adapter (StateM σ)) (op : OrderOperation) (s : σ) :
    let run := (a.traced.performOrder op).run ⟨s, []⟩
    (run.1, run.2.state) = (a.performOrder op).run s ∧ a.Tells op run.2.trace run.1 := by
  refine ⟨a.performOrder_erases op _, ?_⟩
  obtain ⟨outcome, hcourse, hstate⟩ := (a.performOrder_ends op s).run
  rw [hstate]
  exact hcourse.tells

/-- An order that is read is told as a failure, and as one without a cause, if the exchange calls
    its status so. -/
theorem error_without_failure :
    let data : Json := .arr [.object [("orderId", .str "1"), ("status", .str "ERROR")]]
    let script := ScriptedGateway.of [] (.ok (.object [("status", .int 0), ("data", data)])) [] 0
    let op := OrderOperation.fetch "1"
    let run := (scriptedAdapter.traced.performOrder op).run ⟨script, []⟩
    run.1.status = OrderStatus.error ∧ run.1.fault? = none ∧
      ∀ f, ¬ scriptedAdapter.Fails op run.2.trace f := by
  intro data script op run
  obtain ⟨outcome, hcourse, -⟩ := (scriptedAdapter.performOrder_ends op script).run
  have hlast : (outcomes run.2.trace).getLast? = some (.ok data) := rfl
  have houtcome : outcome = .ok data := hcourse.eq_ok_iff.mpr hlast
  refine ⟨by decide +kernel, rfl, fun f hf => ?_⟩
  have hfailed := hcourse.fails_iff.mp hf
  rw [houtcome] at hfailed
  cases hfailed

end Adapter

end LiveTrader.Gmo
