import LiveTrader.Gmo.Streams
import LiveTrader.Proofs.Lifecycle
import LiveTrader.Proofs.OrderStates

/-!
  LiveTrader.Proofs.Attribution

  Whose data an answer is made of.  A reply is searched for an entry that goes by what was asked
  for, and where there is none another is taken in its place: the reply itself for an order, the
  first entry for a ticker.  An entry without a name is taken for what was asked for.  So an
  answer is about something else exactly where the search strays to an entry of another name, and
  the answer then says so: it has the name of the entry.
-/

namespace LiveTrader.Gmo

/-! ## Searches -/

/-- An entry is about what was asked for: it goes by that name, or by none. -/
def IsAbout (names : List String) (wanted : String) (entry : Json) : Prop :=
  ∀ name, textField? entry names = some name → name = wanted

/-- The name of an entry, which is what was asked for if the entry has none. -/
theorem getD_textField?_eq_iff {names : List String} {wanted : String} {entry : Json} :
    (textField? entry names).getD wanted = wanted ↔ IsAbout names wanted entry := by
  unfold IsAbout
  cases textField? entry names with
  | none => simp
  | some name => simp

/-- A search strays: no entry goes by the wanted name, and the one that is taken in its place goes
    by another. -/
structure Strays (names : List String) (wanted : String) (all : List Json)
    (substitute : Option Json) : Prop where
  missing : ∀ e ∈ all, textField? e names ≠ some wanted
  foreign : ∃ entry other, substitute = some entry ∧ textField? entry names = some other ∧
    other ≠ wanted

/-- **What a search comes to is about what was asked for, unless the search strays.** -/
theorem isAbout_search_iff {names : List String} {wanted : String} {all : List Json}
    {substitute : Option Json} {entry : Json}
    (h : (all.find? fun e => textField? e names == some wanted).or substitute = some entry) :
    IsAbout names wanted entry ↔ ¬ Strays names wanted all substitute := by
  cases hfind : all.find? fun e => textField? e names == some wanted with
  | some found =>
    -- the entry that was found goes by the wanted name
    have hname : textField? found names = some wanted :=
      beq_iff_eq.mp (List.find?_some (p := fun e => textField? e names == some wanted) hfind)
    obtain rfl : found = entry := by simpa [hfind] using h
    refine iff_of_true (fun name hn => ?_) fun hstrays => ?_
    · exact Option.some.inj (hn.symm.trans hname)
    · exact hstrays.missing found (List.mem_of_find?_eq_some hfind) hname
  | none =>
    have hmissing : ∀ e ∈ all, textField? e names ≠ some wanted := fun e he hn =>
      List.find?_eq_none.mp hfind e he (beq_iff_eq.mpr hn)
    have hsubstitute : substitute = some entry := by simpa [hfind] using h
    constructor
    · rintro habout ⟨-, entry', other, hentry', hother, hne⟩
      cases hsubstitute.symm.trans hentry'
      exact hne (habout other hother)
    · intro hstrays name hn
      by_contra hne
      exact hstrays ⟨hmissing, entry, name, hsubstitute, hn, hne⟩

/-! ## Orders -/

/-- A reply strays from an order: no entry of it is the order's, and it is itself an object that
    goes by another id. -/
def StraysFromOrder (orderId : String) (data : Json) : Prop :=
  Strays idNames orderId (entries data) (if data.isObject then some data else none)

theorem orderEntry_eq (orderId : String) (data : Json) :
    orderEntry orderId data =
      (((entries data).find? fun e => textField? e idNames == some orderId).or
        (if data.isObject then some data else none)).getD .null := by
  unfold orderEntry
  cases (entries data).find? fun e => textField? e idNames == some orderId with
  | some entry => rfl
  | none => cases data <;> rfl

theorem isAbout_orderEntry_iff {orderId : String} {data : Json} :
    IsAbout idNames orderId (orderEntry orderId data) ↔ ¬ StraysFromOrder orderId data := by
  rw [orderEntry_eq]
  cases hsearch : ((entries data).find? fun e => textField? e idNames == some orderId).or
      (if data.isObject then some data else none) with
  | some entry => exact isAbout_search_iff hsearch
  | none =>
    -- nothing was taken, and what goes by no name is about the order
    obtain ⟨-, hsubstitute⟩ := Option.or_eq_none_iff.mp hsearch
    refine iff_of_true (fun name hn => by cases hn) ?_
    rintro ⟨-, entry, other, hentry, -⟩
    cases hsubstitute.symm.trans hentry

/-- Where a reply strays, it is its own entry. -/
theorem StraysFromOrder.orderEntry_eq {orderId : String} {data : Json}
    (h : StraysFromOrder orderId data) : orderEntry orderId data = data := by
  have hfind : (entries data).find? (fun e => textField? e idNames == some orderId) = none :=
    List.find?_eq_none.mpr fun e he hn => h.missing e he (beq_iff_eq.mp hn)
  obtain ⟨entry, -, hentry, -⟩ := h.foreign
  rw [Gmo.orderEntry_eq, hfind, Option.none_or]
  split at hentry
  case isTrue hobject => rw [if_pos hobject, Option.getD_some]
  case isFalse => cases hentry

/-- What a state that was read takes from the entry. -/
theorem fetchedState_eq_ok {productType : ProductType} {orderId : String} {data : Json}
    {state : OrderState} (h : fetchedState productType orderId data = .ok state) :
    state.orderId = (textField? (orderEntry orderId data) idNames).getD orderId ∧
      ∃ raw, textField? (orderEntry orderId data) statusNames = some raw ∧
        state.status = statusWord raw := by
  unfold fetchedState at h
  dsimp only at h
  split at h
  case h_1 => cases h
  case h_2 raw hraw =>
    have hstate := Except.ok.inj h
    refine ⟨?_, raw, hraw, ?_⟩
    · rw [← hstate]
    · rw [← hstate]

/-! ## Tickers -/

/-- A reply strays from a market: no entry of it is the market's, and the first goes by another
    symbol. -/
def StraysFromMarket (symbol : String) (data : Json) : Prop :=
  Strays ["symbol"] symbol (entries data) (entries data).head?

theorem tickerIn_eq_ok {productType : ProductType} {symbol : String} {data : Json}
    {ticker : Ticker} (h : tickerIn productType symbol data = .ok ticker) :
    ∃ entry, tickerEntry? symbol data = some entry ∧
      ticker = tickerOf productType symbol entry ∧
      (ticker.symbol = symbol ↔ ¬ StraysFromMarket symbol data) := by
  unfold tickerIn at h
  split at h
  case h_1 entry hentry =>
    cases h
    have hsearch : ((entries data).find? fun e => textField? e ["symbol"] == some symbol).or
        (entries data).head? = some entry := hentry
    have hsymbol : (tickerOf productType symbol entry).symbol =
        (textField? entry ["symbol"]).getD symbol := rfl
    refine ⟨entry, hentry, rfl, ?_⟩
    rw [hsymbol, getD_textField?_eq_iff]
    exact isAbout_search_iff hsearch
  case h_2 => cases h

/-! ## Answers -/

namespace Adapter

variable {σ : Type}

/-- Whose status the state of an order that was read tells. -/
structure ReadsOrder (a : Adapter (StateM σ)) (orderId : String) (events : List GatewayEvent)
    (state : OrderState) : Prop where
  /-- A failure is told of the order that was asked for. -/
  failed : ∀ f, a.Fails (.fetch orderId) events f → state.orderId = orderId
  /-- What tells no failure is of that order too, unless the reply strays. -/
  orderId_iff : state.isError = false → (state.orderId = orderId ↔
    ¬ ∃ data, (outcomes events).getLast? = some (.ok data) ∧ StraysFromOrder orderId data)
  /-- The status is that of the entry for the order, or else of the reply that strays. -/
  status : state.isError = false → ∃ data raw,
    (outcomes events).getLast? = some (.ok data) ∧
      textField? (orderEntry orderId data) statusNames = some raw ∧
      state.status = statusWord raw ∧
      (IsAbout idNames orderId (orderEntry orderId data) ∨
        StraysFromOrder orderId data ∧ orderEntry orderId data = data)

theorem CallCourse.readsOrder {a : Adapter (StateM σ)} {orderId : String}
    {events : List GatewayEvent} {outcome : Except Fault Json}
    (h : a.CallCourse (OrderOperation.fetch orderId).name (OrderOperation.fetch orderId).call
      events outcome) :
    a.ReadsOrder orderId events ((OrderOperation.fetch orderId).answer a.settings outcome) := by
  unfold OrderOperation.answer
  cases hresult : outcome.bind ((OrderOperation.fetch orderId).read a.settings) with
  -- a failed state says nothing of an order, so only `failed` is left to show
  | error f => exact {
      failed := fun _ _ => rfl
      orderId_iff := fun hstate => by cases (OrderState.isError_ofFault _ _ _).symm.trans hstate
      status := fun hstate => by cases (OrderState.isError_ofFault _ _ _).symm.trans hstate }
  | ok state =>
    -- the call came back with data, and the entry taken from it decides whose the answer is
    obtain ⟨data, hdata, hread⟩ : ∃ data, outcome = .ok data ∧
        fetchedState a.settings.productType orderId data = .ok state := by
      cases outcome with
      | error f => cases hresult
      | ok data => exact ⟨data, rfl, hresult⟩
    have hlast := h.eq_ok_iff.mp hdata
    obtain ⟨hid, raw, hraw, hstatus⟩ := fetchedState_eq_ok hread
    have horder : state.orderId = orderId ↔ ¬ StraysFromOrder orderId data := by
      rw [hid, getD_textField?_eq_iff, isAbout_orderEntry_iff]
    exact {
      failed := fun f hf => by cases hresult.symm.trans (h.fails_iff.mp hf)
      orderId_iff := fun _ => horder.trans <| not_congr
        ⟨fun hstrays => ⟨data, hlast, hstrays⟩, fun ⟨data', hlast', hstrays⟩ => by
          cases hlast.symm.trans hlast'
          exact hstrays⟩
      status := fun _ => by
        refine ⟨data, raw, hlast, hraw, hstatus, ?_⟩
        by_cases hstrays : StraysFromOrder orderId data
        · exact .inr ⟨hstrays, hstrays.orderEntry_eq⟩
        · exact .inl (isAbout_orderEntry_iff.mpr hstrays) }

/-- Whose prices a ticker tells. -/
structure ReadsTicker (a : Adapter (StateM σ)) (symbol : String) (events : List GatewayEvent)
    (result : Except Fault Ticker) : Prop where
  /-- A ticker is that of the market that was asked for, unless the reply strays. -/
  symbol_iff : ∀ ticker, result = .ok ticker → ∃ data entry,
    (outcomes events).getLast? = some (.ok data) ∧
      tickerEntry? symbol data = some entry ∧
      ticker = tickerOf a.settings.productType symbol entry ∧
      (ticker.symbol = symbol ↔ ¬ StraysFromMarket symbol data)

theorem PublicCourse.getLast?_of_ok {a : Adapter (StateM σ)} {operation : String}
    {request : Request} {events : List GatewayEvent} {outcome : Except Fault Json}
    (h : a.PublicCourse operation request events outcome) {data : Json} (hok : outcome = .ok data) :
    (outcomes events).getLast? = some (.ok data) := by
  cases h with
  | disabled => cases hok
  | asked _ reply => exact congrArg some hok

theorem PublicCourse.readsTicker {a : Adapter (StateM σ)} {operation symbol : String}
    {request : Request} {events : List GatewayEvent} {outcome : Except Fault Json}
    (h : a.PublicCourse operation request events outcome) :
    a.ReadsTicker symbol events (outcome.bind (tickerIn a.settings.productType symbol)) where
  symbol_iff ticker hticker := by
    cases outcome with
    | error f => cases hticker
    | ok data =>
      obtain ⟨entry, hread⟩ := tickerIn_eq_ok hticker
      exact ⟨data, entry, h.getLast?_of_ok rfl, hread⟩

theorem fetchOrder_reads (a : Adapter (StateM σ)) (orderId : String) (s : σ) :
    let run := (a.traced.fetchOrder orderId).run ⟨s, []⟩
    (run.1, run.2.state) = (a.fetchOrder orderId).run s ∧
      a.ReadsOrder orderId run.2.trace run.1 := by
  refine ⟨a.performOrder_erases (.fetch orderId) _, ?_⟩
  obtain ⟨outcome, hcourse, hstate⟩ := (a.performOrder_ends (.fetch orderId) s).run
  have hreads := CallCourse.readsOrder hcourse
  rw [← hstate] at hreads
  exact hreads

/-- An order is cancelled on the status that is read when following it begins. -/
theorem status_of_cancelled (a : Adapter (StateM σ)) (autoCancel : Bool) (placed : OrderState)
    (s : σ)
    (h : ∃ c, .cancel placed.orderId c ∈
      ((Lifecycle.track a.operations.traced autoCancel placed).run ⟨s, []⟩).2.trace) :
    ((a.fetchOrder placed.orderId).run s).1.status = OrderStatus.active := by
  have htracked := (track_ends a.operations.keeps_unit autoCancel placed s).run.1
  obtain ⟨-, f, hf, hactive⟩ := htracked.exists_cancel_iff.mp h
  rw [(track_reads a.operations.keeps_unit autoCancel placed s).run _ f hf] at hactive
  exact hactive

/-- **An answer is about what was asked for, unless the reply strays**: the state of an order that
    is read has its id, and a ticker has its symbol.  So the status on which an order is cancelled
    is that of its own entry, or of one without an id, unless the reply strays from the order. -/
theorem answers_attributed (a : Adapter (StateM σ)) (s : σ) :
    (∀ orderId,
      let run := (a.traced.fetchOrder orderId).run ⟨s, []⟩
      (run.1, run.2.state) = (a.fetchOrder orderId).run s ∧
        a.ReadsOrder orderId run.2.trace run.1) ∧
    (∀ symbol,
      let run := (a.traced.fetchTicker symbol).run ⟨s, []⟩
      (run.1, run.2.state) = (a.fetchTicker symbol).run s ∧
        a.ReadsTicker symbol run.2.trace run.1) ∧
    ∀ autoCancel placed,
      (∃ c, .cancel placed.orderId c ∈
        ((Lifecycle.track a.operations.traced autoCancel placed).run ⟨s, []⟩).2.trace) →
      ∃ data raw,
        (outcomes ((a.traced.fetchOrder placed.orderId).run ⟨s, []⟩).2.trace).getLast? =
          some (.ok data) ∧
        textField? (orderEntry placed.orderId data) statusNames = some raw ∧
        statusWord raw = OrderStatus.active ∧
        (IsAbout idNames placed.orderId (orderEntry placed.orderId data) ∨
          StraysFromOrder placed.orderId data ∧ orderEntry placed.orderId data = data) := by
  refine ⟨fun orderId => a.fetchOrder_reads orderId s, fun symbol => ?_,
    fun autoCancel placed h => ?_⟩
  · obtain ⟨outcome, hcourse, hresult⟩ := (a.fetchTicker_ends symbol s).run
    refine ⟨a.fetchTicker_erases symbol _, ?_⟩
    rw [hresult]
    exact hcourse.readsTicker
  · obtain ⟨herases, hreads⟩ := a.fetchOrder_reads placed.orderId s
    have hactive := a.status_of_cancelled autoCancel placed s h
    rw [← herases] at hactive
    obtain ⟨data, raw, hlast, hraw, hstatus, habout⟩ :=
      hreads.status (OrderState.isError_of_active hactive)
    exact ⟨data, raw, hlast, hraw, hstatus.symm.trans hactive, habout⟩

/-- An order is read as active though the reply tells of another one only, and is cancelled on
    that; the ticker of a market is that of another one. -/
theorem another_answered :
    let order : Json := .object [("orderId", .str "43"), ("status", .str "ORDERED")]
    let tickers : Json := .arr [.object [("symbol", .str "ETH_JPY")]]
    let reply (data : Json) := ScriptedGateway.of []
      (.ok (.object [("status", .int 0), ("data", data)])) [] 0
    let read := ((scriptedAdapter.fetchOrder "42").run (reply order)).1
    let placed := OrderState.bare "42" OrderStatus.accepted .spot
    (read.isError = false ∧ read.status = OrderStatus.active ∧ read.orderId = "43") ∧
      (∃ c, .cancel "42" c ∈ ((Lifecycle.track scriptedAdapter.operations.traced true placed).run
        ⟨reply order, []⟩).2.trace) ∧
      ∃ ticker, ((scriptedAdapter.fetchTicker "BTC_JPY").run (reply tickers)).1 = .ok ticker ∧
        ticker.symbol = "ETH_JPY" := by
  intro order tickers reply read placed
  refine ⟨⟨by decide +kernel, by decide +kernel, by decide +kernel⟩, ⟨_, .tail _ (.head _)⟩, _, rfl,
    by decide +kernel⟩

end Adapter

end LiveTrader.Gmo
