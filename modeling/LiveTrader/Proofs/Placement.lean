import LiveTrader.Gmo.Streams
import LiveTrader.Proofs.Digits
import LiveTrader.Proofs.Lifecycle
import LiveTrader.Proofs.OrderStates

/-!
  LiveTrader.Proofs.Placement

  The id of an order that was placed, and what is made of it.  Following an order asks for it by
  the id of its placement and by no other.  The id is empty where the exchange has accepted the
  order in a reply that names none, and such an order is followed all the same.
-/

namespace LiveTrader

/-! ## Texts of numbers -/

namespace Binary64

theorem positional_ne_nil {ds : List Char} (h : ds ≠ []) (whole : Int) (pointZero : Bool) :
    positional ds whole pointZero ≠ [] := by
  unfold positional
  split
  · exact List.cons_ne_nil _ _
  · split <;> simp [h]

theorem exponential_ne_nil (ds : List Char) (power : Int) : exponential ds power ≠ [] := by
  simp [exponential]

theorem digitChars_ne_nil (layout : Layout) (s : Shortest) : layout.digitChars s ≠ [] := by
  have hdigits : Text.digits s.digits ≠ [] := Nat.toDigits_ne_nil
  -- whichever notation the bounds ask for
  have heither : ∀ (b : Bool) (power whole : Int),
      (if b then exponential (Text.digits s.digits) power
        else positional (Text.digits s.digits) whole layout.pointZero) ≠ [] := by
    intro b power whole
    cases b
    · exact positional_ne_nil hdigits _ _
    · exact exponential_ne_nil _ _
  exact heither _ _ _

theorem chars_ne_nil (layout : Layout) (x : Binary64) : x.chars layout ≠ [] := by
  unfold chars
  split
  case isTrue => decide
  case isFalse =>
    refine List.append_ne_nil_of_right_ne_nil _ ?_
    split
    · decide
    · split
      · split <;> decide
      · exact digitChars_ne_nil _ _

end Binary64

theorem Json.floatChars_ne_nil (x : Binary64) : floatChars x ≠ [] := by
  unfold floatChars
  split
  · exact Binary64.chars_ne_nil _ _
  · decide

namespace Gmo

/-! ## Values without a text -/

/-- A value that no text is read from. -/
inductive Textless : Json → Prop
  | null : Textless .null
  | bool (b : Bool) : Textless (.bool b)
  | empty : Textless (.str "")
  | arr (items : List Json) : Textless (.arr items)
  | obj (members : List (String × Json)) : Textless (.obj members)

/-- No text is read of values that have none. -/
theorem scalarText?_eq_none_iff {v : Json} : scalarText? v = none ↔ Textless v := by
  constructor
  · intro h
    -- numbers always have a text, and words unless they are empty
    cases v with
    | null => exact .null
    | bool b => exact .bool b
    | int n => cases h
    | float x => cases h
    | str s =>
      by_cases hs : s = ""
      · exact hs ▸ .empty
      · simp [scalarText?, hs] at h
    | arr items => exact .arr items
    | obj members => exact .obj members
  · intro h
    cases h <;> rfl

/-- A text that is read is not empty. -/
theorem scalarText?_ne_empty {v : Json} {text : String} (h : scalarText? v = some text) :
    text ≠ "" := by
  cases v with
  | null | bool | arr | obj => cases h
  | int n =>
    cases h
    exact mt String.ofList_eq_empty_iff.mp (Text.intText_ne_nil n)
  | float x =>
    cases h
    exact mt String.ofList_eq_empty_iff.mp (Json.floatChars_ne_nil x)
  | str s =>
    rintro rfl
    by_cases hs : s = ""
    · subst hs
      cases h
    · exact hs (Option.some.inj ((if_neg hs).symm.trans h))

theorem getD_scalarText?_eq_empty_iff {v : Json} : (scalarText? v).getD "" = "" ↔ Textless v := by
  rw [← scalarText?_eq_none_iff]
  cases htext : scalarText? v with
  | none => simp
  | some text => simpa using scalarText?_ne_empty htext

/-- No member of these names has a text. -/
def Unnamed (names : List String) (v : Json) : Prop :=
  ∀ name ∈ names, ∀ member, v.get? name = some member → Textless member

/-- No text is read where none of the names has one. -/
theorem textField?_eq_none_iff {v : Json} {names : List String} :
    textField? v names = none ↔ Unnamed names v := by
  unfold textField? Unnamed
  rw [List.findSome?_eq_none_iff]
  refine forall₂_congr fun name _ => ?_
  cases v.get? name with
  | none => simp
  | some member => simp [scalarText?_eq_none_iff]

theorem textField?_ne_empty {v : Json} {names : List String} {text : String}
    (h : textField? v names = some text) : text ≠ "" := by
  obtain ⟨name, -, hname⟩ := List.exists_of_findSome?_eq_some h
  obtain ⟨member, -, hmember⟩ := Option.bind_eq_some_iff.mp hname
  exact scalarText?_ne_empty hmember

theorem getD_textField?_eq_empty_iff {v : Json} {names : List String} :
    (textField? v names).getD "" = "" ↔ Unnamed names v := by
  rw [← textField?_eq_none_iff]
  cases htext : textField? v names with
  | none => simp
  | some text => simpa using textField?_ne_empty htext

/-! ## Placements -/

/-- A reply names no order: it is no text itself, nor has it an id that is one. -/
structure NamesNoOrder (data : Json) : Prop where
  textless : Textless data
  unnamed : Unnamed idNames data

/-- The id is empty if and only if the reply names no order. -/
theorem placement_fst_eq_empty_iff {data : Json} :
    (placement data).1 = "" ↔ NamesNoOrder data := by
  unfold placement
  split
  case isTrue hobject =>
    have htextless : Textless data := by
      cases data with
      | obj members => exact .obj members
      | _ => cases hobject
    exact getD_textField?_eq_empty_iff.trans ⟨fun h => ⟨htextless, h⟩, fun h => h.unnamed⟩
  case isFalse hobject =>
    have hunnamed : Unnamed idNames data :=
      textField?_eq_none_iff.mp (textField?_of_not_isObject (by simpa using hobject) idNames)
    exact getD_scalarText?_eq_empty_iff.trans ⟨fun h => ⟨h, hunnamed⟩, fun h => h.textless⟩

namespace Adapter

variable {σ : Type}

/-- The reply to an order names none. -/
def RepliesUnnamed (events : List GatewayEvent) : Prop :=
  ∃ data, (outcomes events).getLast? = some (.ok data) ∧ NamesNoOrder data

/-- The state of an order that was placed is without an id if and as the reply is. -/
theorem CallCourse.orderId_eq_empty_iff {a : Adapter (StateM σ)} {order : Order}
    {events : List GatewayEvent} {outcome : Except Fault Json} {state : OrderState}
    (h : a.CallCourse "place_order" (placeCall order) events outcome)
    (hstate : state = (OrderOperation.place order).answer a.settings outcome)
    (hplaced : state.isError = false) : state.orderId = "" ↔ RepliesUnnamed events := by
  subst hstate
  cases outcome with
  | error f => cases (OrderState.isError_ofFault _ _ f).symm.trans hplaced
  | ok data =>
    have hlast := h.eq_ok_iff.mp rfl
    refine placement_fst_eq_empty_iff.trans ⟨fun hdata => ⟨data, hlast, hdata⟩, ?_⟩
    rintro ⟨data', hlast', hdata'⟩
    cases hlast.symm.trans hlast'
    exact hdata'

end Adapter

end Gmo

/-! ## Following -/

/-- The order that a call of the exchange is about, by the exchange's id. -/
def CycleEvent.target? : CycleEvent → Option String
  | fetch id _ | cancel id _ => some id
  | _ => none

namespace Tracked

variable {autoCancel : Bool} {placed : OrderState} {calls : List CycleEvent} {l : Lifecycle}

/-- Every call is about the order that was placed. -/
theorem target?_eq (h : Tracked autoCancel placed calls l) :
    ∀ e ∈ calls, e.target? = some placed.orderId := by
  intro e he
  rcases h.mem_calls e he with ⟨r, rfl⟩ | ⟨r, rfl⟩ <;> rfl

/-- Something is asked about an order of this id if it is the placed one and it is open. -/
theorem exists_target_iff (h : Tracked autoCancel placed calls l) {id : String} :
    (∃ e ∈ calls, e.target? = some id) ↔ placed.orderId = id ∧ placed.IsOpen := by
  constructor
  · rintro ⟨e, he, hid⟩
    refine ⟨Option.some.inj ((h.target?_eq e he).symm.trans hid), ?_⟩
    rcases h.mem_calls e he with ⟨r, rfl⟩ | ⟨r, rfl⟩
    · exact h.exists_fetch_iff.mp ⟨r, he⟩
    · -- an order that is cancelled has been read
      obtain ⟨-, f, hf, -⟩ := h.exists_cancel_iff.mp ⟨r, he⟩
      exact h.exists_fetch_iff.mp ⟨f, hf⟩
  · rintro ⟨rfl, hopen⟩
    obtain ⟨f, hf⟩ := h.exists_fetch_iff.mpr hopen
    exact ⟨_, hf, rfl⟩

end Tracked

namespace Gmo.Adapter

variable {σ : Type}

/-- **An order that was placed can be followed if the exchange has named it.**  Its id is empty if
    and as the reply names no order.  Following it asks for no other id, and for the empty one
    where the order counts as open although the reply names none. -/
theorem placed_followed (a : Adapter (StateM σ)) (order : Order) (s : σ) :
    let run := (a.traced.placeOrder order).run ⟨s, []⟩
    (run.1, run.2.state) = (a.placeOrder order).run s ∧
      (run.1.isError = false → (run.1.orderId = "" ↔ RepliesUnnamed run.2.trace)) ∧
      ∀ autoCancel,
        let following :=
          (Lifecycle.track a.operations.traced autoCancel run.1).run ⟨run.2.state, []⟩
        (following.1, following.2.state) =
            (Lifecycle.track a.operations autoCancel run.1).run run.2.state ∧
          (∀ e ∈ following.2.trace, e.target? = some run.1.orderId) ∧
          ((∃ e ∈ following.2.trace, e.target? = some "") ↔
            run.1.IsOpen ∧ RepliesUnnamed run.2.trace) := by
  intro run
  have hid : run.1.isError = false → (run.1.orderId = "" ↔ RepliesUnnamed run.2.trace) := by
    obtain ⟨outcome, hcourse, hstate⟩ := (a.performOrder_ends (.place order) s).run
    exact hcourse.orderId_eq_empty_iff hstate
  refine ⟨a.performOrder_erases (.place order) _, hid, fun autoCancel => ?_⟩
  -- the tracker asks by the id in the state it is given, whatever that id is
  have htracked := (track_ends a.operations.keeps_unit autoCancel run.1 run.2.state).run.1
  refine ⟨track_erases a.operations autoCancel run.1 _, htracked.target?_eq,
    htracked.exists_target_iff.trans ?_⟩
  constructor
  · rintro ⟨hempty, hopen⟩
    exact ⟨hopen, (hid hopen.isError).mp hempty⟩
  · rintro ⟨hopen, hunnamed⟩
    exact ⟨(hid hopen.isError).mpr hunnamed, hopen⟩

/-- An order is accepted in a reply without data, and is then read by an empty id. -/
theorem accepted_without_id :
    let qty : Quantity := ⟨⟨1, 2, by decide, by decide⟩⟩
    let order := Order.market "gmo" .spot .standard .buy qty ⟨"live-btcjpy-1"⟩
    let script := ScriptedGateway.of [] (.ok (.object [("status", .int 0), ("data", .null)])) [] 0
    let run := (scriptedAdapter.placeOrder order).run script
    let following :=
      (Lifecycle.track scriptedAdapter.operations.traced true run.1).run ⟨run.2, []⟩
    run.1.isError = false ∧ run.1.orderId = "" ∧ ∃ f, .fetch "" f ∈ following.2.trace := by
  intro qty order script run following
  exact ⟨by decide +kernel, rfl, _, .head _⟩

end Gmo.Adapter

end LiveTrader
