import LiveTrader.Gmo.Account
import LiveTrader.Gmo.Market
import LiveTrader.Gmo.Orders
import LiveTrader.Proofs.GatewayTrace

/-!
  LiveTrader.Proofs.Operations

  The operations of an adapter as data.  A private operation is one private call and a reading of
  what comes of it, which gives every operation the courses of its call.  A public operation asks
  once for each of its requests, one after the other, until a reply fails.
-/

namespace LiveTrader.Gmo

open Tracing (Ends Erases)

/-! ## Operations on an order -/

/-- The operations on an order. -/
inductive OrderOperation
  | place (order : Order)
  | cancel (orderId : String)
  | fetch (orderId : String)

namespace OrderOperation

/-- The name of an operation in failures. -/
def name : OrderOperation → String
  | place _ => "place_order"
  | cancel _ => "cancel_order"
  | fetch _ => "fetch_order"

/-- The private call of an operation. -/
def call : OrderOperation → Adapter.Call
  | place order => placeCall order
  | cancel orderId => cancelCall orderId
  | fetch orderId => fetchCall orderId

/-- The id that a failure is reported for; an order has none before it is placed. -/
def orderId : OrderOperation → String
  | place _ => ""
  | cancel orderId => orderId
  | fetch orderId => orderId

/-- The kind of trading that a failure is reported for. -/
def productType (settings : Settings) : OrderOperation → ProductType
  | place order => order.productType
  | cancel _ => settings.productType
  | fetch _ => settings.productType

/-- Reads the state of the order out of data. -/
def read (settings : Settings) : OrderOperation → Json → Except Fault OrderState
  | place order, data => .ok (placedState order data)
  | cancel orderId, data => .ok (cancelledState settings.productType orderId data)
  | fetch orderId, data => fetchedState settings.productType orderId data

/-- The state that reports a failure. -/
def failed (settings : Settings) (op : OrderOperation) (fault : Fault) : OrderState :=
  .ofFault op.orderId (op.productType settings) fault

/-- The state for what came of the call. -/
def answer (settings : Settings) (op : OrderOperation) (outcome : Except Fault Json) :
    OrderState :=
  stateOf op.orderId (op.productType settings) (outcome.bind (op.read settings))

end OrderOperation

/-! ## Private operations -/

/-- The private operations. -/
inductive PrivateOperation
  | balances (accountType : String)
  | positions (symbol : String)
  | order (operation : OrderOperation)

/-- What a private operation results in. -/
inductive PrivateResult
  | balances (result : Except Fault (List Balance))
  | positions (result : Listing Position)
  | order (state : OrderState)

namespace PrivateOperation

/-- The name of an operation in failures. -/
def name : PrivateOperation → String
  | balances _ => "fetch_balances"
  | positions _ => "fetch_positions"
  | order operation => operation.name

/-- The private call of an operation. -/
def call : PrivateOperation → Adapter.Call
  | balances _ => ⟨.get, "/private/v1/account/assets", [], none⟩
  | positions symbol => ⟨.get, "/private/v1/openPositions", [("symbol", symbol)], none⟩
  | order operation => operation.call

/-- How an operation reports a failure. -/
def failed (settings : Settings) : PrivateOperation → Fault → PrivateResult
  | balances _, fault => .balances (.error fault)
  | positions _, fault => .positions (.failed fault)
  | order operation, fault => .order (operation.failed settings fault)

/-- The result for what came of the call. -/
def answer (settings : Settings) : PrivateOperation → Except Fault Json → PrivateResult
  | balances accountType, outcome =>
    .balances (outcome.bind fun data =>
      (entries data).mapM (balanceOf settings.productType accountType))
  | positions _, outcome =>
    .positions (.ofExcept (outcome.map fun data =>
      (entries data).filterMap (position? settings.productType)))
  | order operation, outcome => .order (operation.answer settings outcome)

theorem answer_error (settings : Settings) (op : PrivateOperation) (fault : Fault) :
    op.answer settings (.error fault) = op.failed settings fault := by
  cases op <;> rfl

end PrivateOperation

namespace Adapter

section Perform

variable {m : Type → Type} [Monad m] (a : Adapter m)

/-- Carries out an operation on an order. -/
def performOrder : OrderOperation → m OrderState
  | .place order => a.placeOrder order
  | .cancel orderId => a.cancelOrder orderId
  | .fetch orderId => a.fetchOrder orderId

/-- Carries out a private operation. -/
def perform : PrivateOperation → m PrivateResult
  | .balances accountType => .balances <$> a.fetchBalances accountType
  | .positions symbol => .positions <$> a.fetchPositions symbol
  | .order operation => .order <$> a.performOrder operation

variable [LawfulMonad m]

/-- An operation on an order is a private call and a reading of what came of it. -/
theorem performOrder_eq (op : OrderOperation) :
    a.performOrder op = op.answer a.settings <$> a.privateCall op.name op.call := by
  cases op with
  | place order =>
    have hanswer : (OrderOperation.place order).answer a.settings =
        fun outcome => stateOf "" order.productType (outcome.map (placedState order)) := by
      funext outcome
      cases outcome <;> rfl
    rw [hanswer]
    exact bind_pure_comp _ _
  | cancel orderId =>
    have hanswer : (OrderOperation.cancel orderId).answer a.settings =
        fun outcome => stateOf orderId a.settings.productType
          (outcome.map (cancelledState a.settings.productType orderId)) := by
      funext outcome
      cases outcome <;> rfl
    rw [hanswer]
    exact bind_pure_comp _ _
  | fetch orderId => exact bind_pure_comp _ _

/-- A private operation is a private call and a reading of what came of it. -/
theorem perform_eq (op : PrivateOperation) :
    a.perform op = op.answer a.settings <$> a.privateCall op.name op.call := by
  cases op with
  | balances accountType =>
    have hcall : a.fetchBalances accountType = _ <$> _ := bind_pure_comp _ _
    dsimp only [perform]
    rw [hcall, ← comp_map]
    rfl
  | positions symbol =>
    have hcall : a.fetchPositions symbol = _ <$> _ := bind_pure_comp _ _
    dsimp only [perform]
    rw [hcall, ← comp_map]
    rfl
  | order operation =>
    dsimp only [perform]
    rw [performOrder_eq, ← comp_map]
    rfl

end Perform

variable {σ : Type} (a : Adapter (StateM σ))

/-- What is made of a private call is made of the outcome of one of its courses. -/
theorem map_privateCall_ends {α : Type} (operation : String) (call : Call)
    (answer : Except Fault Json → α) (s : σ) :
    Ends (answer <$> a.traced.privateCall operation call) s fun events result _ =>
      ∃ outcome, a.CallCourse operation call events outcome ∧ result = answer outcome :=
  .map ((a.privateCall_ends operation call s).mono fun _ outcome _ h => ⟨outcome, h, rfl⟩)

/-- An operation on an order takes the course of its call, and answers with what comes of it. -/
theorem performOrder_ends (op : OrderOperation) (s : σ) :
    Ends (a.traced.performOrder op) s fun events state _ =>
      ∃ outcome, a.CallCourse op.name op.call events outcome ∧
        state = op.answer a.settings outcome := by
  rw [performOrder_eq]
  exact a.map_privateCall_ends op.name op.call (op.answer a.settings) s

theorem performOrder_erases (op : OrderOperation) :
    Erases (a.traced.performOrder op) (a.performOrder op) := by
  rw [performOrder_eq, performOrder_eq]
  exact .map _ (a.privateCall_erases op.name op.call)

/-- A private operation takes the course of its call, and answers with what comes of it. -/
theorem perform_ends (op : PrivateOperation) (s : σ) :
    Ends (a.traced.perform op) s fun events result _ =>
      ∃ outcome, a.CallCourse op.name op.call events outcome ∧
        result = op.answer a.settings outcome := by
  rw [perform_eq]
  exact a.map_privateCall_ends op.name op.call (op.answer a.settings) s

theorem perform_erases (op : PrivateOperation) :
    Erases (a.traced.perform op) (a.perform op) := by
  rw [perform_eq, perform_eq]
  exact .map _ (a.privateCall_erases op.name op.call)

end Adapter

/-! ## Public operations -/

/-- The public operations. -/
inductive PublicOperation
  | ticker (symbol : String)
  | klines (symbol interval : String) (start finish : Instant) (limit : Nat)

/-- What a public operation results in. -/
inductive PublicResult
  | ticker (result : Except Fault Ticker)
  | klines (result : Listing Kline)

/-- A request for public data. -/
def publicRequest (path : String) (query : List (String × String)) : Request :=
  ⟨.get, path, query, none, [], false⟩

/-- The request for the candles of a date. -/
def dateRequest (symbol interval date : String) : Request :=
  publicRequest "/public/v1/klines" [("symbol", symbol), ("interval", interval), ("date", date)]

/-- The date parameters for a window. -/
def windowDates? (interval : String) (start finish : Instant) : Option (List String) :=
  dateParams? interval (start.seconds / Instant.secondsPerDay)
    (finish.seconds / Instant.secondsPerDay)

namespace PublicOperation

/-- The name of an operation in failures. -/
def name : PublicOperation → String
  | ticker _ => "fetch_ticker"
  | klines .. => "fetch_klines"

/-- How an operation reports a failure. -/
def failed : PublicOperation → Fault → PublicResult
  | ticker _, fault => .ticker (.error fault)
  | klines .., fault => .klines (.failed fault)

/-- Whether an operation has nothing to ask for: its window ends before it starts. -/
def isIdle : PublicOperation → Bool
  | ticker _ => false
  | klines _ _ start finish _ => finish.lt start

/-- What an operation asks for, if the days of its window can be counted. -/
def requests? : PublicOperation → Option (List Request)
  | ticker symbol => some [publicRequest "/public/v1/ticker" [("symbol", symbol)]]
  | klines symbol interval start finish _ =>
    if finish.lt start then some []
    else (windowDates? interval start finish).map (·.map (dateRequest symbol interval))

end PublicOperation

namespace Adapter

section Perform

variable {m : Type → Type} [Monad m] (a : Adapter m)

/-- Carries out a public operation, if the days of its window can be counted. -/
def performPublic? : PublicOperation → Option (m PublicResult)
  | .ticker symbol => some (.ticker <$> a.fetchTicker symbol)
  | .klines symbol interval start finish limit =>
    (a.fetchKlines? symbol interval start finish limit).map fun act => .klines <$> act

variable [LawfulMonad m] {symbol interval : String} {start finish : Instant} {limit : Nat}

/-- Candles of an empty window are none, and nothing is asked for them. -/
theorem performPublic?_klines_of_lt (h : finish.lt start = true) :
    a.performPublic? (.klines symbol interval start finish limit) =
      some (pure (.klines (.ok []))) := by
  unfold performPublic? fetchKlines?
  simp [h]

/-- Candles of a window are those of its dates, cut to it. -/
theorem performPublic?_klines (h : finish.lt start = false) :
    a.performPublic? (.klines symbol interval start finish limit) =
      (windowDates? interval start finish).map fun dates =>
        (fun received => .klines (.ofExcept (received.map fun ks =>
          assemble limit (ks.filter (inWindow start finish))))) <$>
            a.fetchDates symbol interval dates := by
  unfold performPublic? fetchKlines? windowDates?
  simp [h, Function.comp_def]

end Perform

variable {σ : Type} (a : Adapter (StateM σ))

/-- The courses of a request for public data. -/
inductive PublicCourse (operation : String) (request : Request) :
    List GatewayEvent → Except Fault Json → Prop
  | disabled (h : a.settings.useHttp = false) :
      PublicCourse operation request [] (.error (httpDisabled operation))
  | asked (h : a.settings.useHttp = true) (reply : Except Fault Json) :
      PublicCourse operation request [.send request reply] (reply.bind Envelope.unwrap)

theorem publicGet_ends (operation path : String) (query : List (String × String)) (s : σ) :
    Ends (a.traced.publicGet operation path query) s fun events outcome _ =>
      a.PublicCourse operation (publicRequest path query) events outcome := by
  unfold publicGet
  rw [traced_settings]
  split
  case isTrue h =>
    rw [traced_gateway, Gateway.traced_send]
    exact .bind (.call (.pure (.asked h _)))
  case isFalse h => exact .pure (.disabled (by simpa using h))

theorem publicGet_erases (operation path : String) (query : List (String × String)) :
    Erases (a.traced.publicGet operation path query) (a.publicGet operation path query) := by
  unfold publicGet
  exact .ite (.bind (.call _ _) fun _ => .pure _) (.pure _)

/-- A ticker is read from the reply to one request. -/
theorem fetchTicker_ends (symbol : String) (s : σ) :
    Ends (a.traced.fetchTicker symbol) s fun events result _ =>
      ∃ outcome, a.PublicCourse "fetch_ticker"
          (publicRequest "/public/v1/ticker" [("symbol", symbol)]) events outcome ∧
        result = outcome.bind (tickerIn a.settings.productType symbol) := by
  unfold fetchTicker
  rw [bind_pure_comp]
  exact .map ((a.publicGet_ends _ _ _ s).mono fun _ outcome _ h => ⟨outcome, h, rfl⟩)

theorem fetchTicker_erases (symbol : String) :
    Erases (a.traced.fetchTicker symbol) (a.fetchTicker symbol) := by
  unfold fetchTicker
  exact .bind (a.publicGet_erases _ _ _) fun _ => .pure _

/-- The courses of asking for the candles of dates. -/
inductive DatesCourse (symbol interval : String) :
    List String → List GatewayEvent → Except Fault (List Kline) → Prop
  | done : DatesCourse symbol interval [] [] (.ok [])
  | failed {date : String} {rest : List String} {events : List GatewayEvent}
      {outcome : Except Fault Json} {fault : Fault}
      (h : a.PublicCourse "fetch_klines" (dateRequest symbol interval date) events outcome)
      (hfault : outcome.bind klines = .error fault) :
      DatesCourse symbol interval (date :: rest) events (.error fault)
  | next {date : String} {rest : List String} {events later : List GatewayEvent}
      {outcome : Except Fault Json} {here : List Kline} {result : Except Fault (List Kline)}
      (h : a.PublicCourse "fetch_klines" (dateRequest symbol interval date) events outcome)
      (hhere : outcome.bind klines = .ok here)
      (hrest : DatesCourse symbol interval rest later result) :
      DatesCourse symbol interval (date :: rest) (events ++ later) (result.map (here ++ ·))

/-- Dates are fetched one after the other. -/
theorem fetchDates_ends (symbol interval : String) (dates : List String) (s : σ) :
    Ends (a.traced.fetchDates symbol interval dates) s fun events result _ =>
      a.DatesCourse symbol interval dates events result := by
  induction dates generalizing s with
  | nil => exact .pure .done
  | cons date rest ih =>
    unfold fetchDates
    refine .bind ((a.publicGet_ends _ _ _ s).mono fun events outcome s₁ hget => ?_)
    cases hread : outcome.bind klines with
    | error fault =>
      -- the dates that are left are not asked for
      exact .pure (by simpa using .failed hget hread)
    | ok here =>
      refine .bind ((ih s₁).mono fun later result _ hrest => ?_)
      exact .pure (by simpa using .next hget hread hrest)

theorem fetchDates_erases (symbol interval : String) (dates : List String) :
    Erases (a.traced.fetchDates symbol interval dates) (a.fetchDates symbol interval dates) := by
  induction dates with
  | nil => exact .pure _
  | cons date rest ih =>
    unfold fetchDates
    refine .bind (a.publicGet_erases _ _ _) fun outcome => ?_
    cases outcome.bind klines with
    | error fault => exact .pure _
    | ok here => exact .bind ih fun _ => .pure _

end Adapter

end LiveTrader.Gmo
