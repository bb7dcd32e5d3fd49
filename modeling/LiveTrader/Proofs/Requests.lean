import Mathlib.Data.List.Forall2
import Mathlib.Data.List.Nodup
import LiveTrader.Gmo.Scripted
import LiveTrader.Proofs.Calendar
import LiveTrader.Proofs.Digits
import LiveTrader.Proofs.Operations

/-!
  LiveTrader.Proofs.Requests

  What an adapter sends and when it may.  A private operation signs the very request that it sends,
  with the credentials it has and at a time read for it; a public one carries no headers and asks
  for nothing twice.  Without network access, and without credentials for what is private, nothing
  is asked of the world at all.  What is sent for an order leaves out its client order id.
-/

namespace LiveTrader.Gmo

open Tracing (Ends Erases)

variable {σ : Type}

/-! ## Signed requests -/

/-- A request with the headers of private operations, signed at a time. -/
structure SignedAt (credentials : Credentials) (millis : Int) (r : Request) : Prop where
  isPrivate : r.isPrivate = true
  /-- The signature is of the time, the verb, the path with its query and the body as they are
      sent. -/
  headers : r.headers = [
    ("API-KEY", credentials.apiKey),
    ("API-TIMESTAMP", Signature.timestampText millis),
    ("API-SIGN", Signature.ofRequest credentials.apiSecret (Signature.timestampText millis)
      r.method.name r.pathAndQuery (r.body.getD ""))]

namespace Adapter

/-- A request has the content of a call. -/
structure Call.IsOf (call : Call) (r : Request) : Prop where
  method : r.method = call.method
  path : r.path = call.path
  query : r.query = call.query
  body : r.body = call.body

/-- A call that is signed carries the signature of its own content. -/
theorem Call.signedAt_sign (call : Call) (credentials : Credentials) (millis : Int) :
    SignedAt credentials millis (call.sign credentials (Signature.timestampText millis)) :=
  ⟨rfl, rfl⟩

theorem Call.isOf_sign (call : Call) (credentials : Credentials) (timestamp : String) :
    call.IsOf (call.sign credentials timestamp) :=
  ⟨rfl, rfl, rfl, rfl⟩

/-! ## Private operations -/

/-- A private operation sends what it may, and reports what keeps it from sending. -/
structure SendsSigned (a : Adapter (StateM σ)) (op : PrivateOperation)
    (trace : List GatewayEvent) (result : PrivateResult) : Prop where
  /-- For every request the clock is read once, and the request is signed at that time. -/
  signed : ∀ credentials, a.credentials = some credentials →
    List.Forall₂ (SignedAt credentials) (readings trace) (sent trace)
  /-- All attempts have the content of the operation's call. -/
  content : ∀ r ∈ sent trace, op.call.IsOf r
  bounded : (sent trace).length ≤ a.settings.retry.maxAttempts
  sends : a.settings.useHttp = true → a.credentials ≠ none → 0 < a.settings.retry.maxAttempts →
    sent trace ≠ []
  withoutHttp : a.settings.useHttp = false →
    trace = [] ∧ result = op.failed a.settings (httpDisabled op.name)
  withoutCredentials : a.settings.useHttp = true → a.credentials = none →
    trace = [] ∧ result = op.failed a.settings a.credentialsMissing

/-- Every request of a course is one of its call, also when it is sent again. -/
theorem CallCourse.isOf {a : Adapter (StateM σ)} {operation : String} {call : Call}
    {events : List GatewayEvent} {outcome : Except Fault Json}
    (h : a.CallCourse operation call events outcome) {r : Request} (hr : r ∈ sent events) :
    call.IsOf r := by
  obtain ⟨_, _, -, rfl⟩ := h.exists_sign hr
  exact call.isOf_sign _ _

/-- Whatever comes of a call, all that it sends is signed. -/
theorem CallCourse.sendsSigned {a : Adapter (StateM σ)} {op : PrivateOperation}
    {events : List GatewayEvent} {outcome : Except Fault Json}
    (h : a.CallCourse op.name op.call events outcome) :
    a.SendsSigned op events (op.answer a.settings outcome) := by
  have hcontent : ∀ r ∈ sent events, op.call.IsOf r := fun r hr => h.isOf hr
  cases h with
  -- without network access the trace is empty, and what is said of a sending call does not apply
  | disabled hoff => exact {
      signed := fun _ _ => .nil
      content := hcontent
      bounded := Nat.zero_le _
      sends := fun hon => by simp [hoff] at hon
      withoutHttp := fun _ => ⟨rfl, op.answer_error _ _⟩
      withoutCredentials := fun hon => by simp [hoff] at hon }
  | anonymous hon hnone => exact {
      signed := fun _ _ => .nil
      content := hcontent
      bounded := Nat.zero_le _
      sends := fun _ hsome => absurd hnone hsome
      withoutHttp := fun hoff => by simp [hon] at hoff
      withoutCredentials := fun _ _ => ⟨rfl, op.answer_error _ _⟩ }
  | @attempted credentials _ _ hon hsome hcourse =>
    -- what was sent is the call, signed once for every time that the clock was asked
    have hsent := hcourse.sent_eq
    exact {
      signed := fun credentials' hcredentials => by
        cases hsome.symm.trans hcredentials
        rw [hsent, List.forall₂_map_right_iff, List.forall₂_same]
        exact fun millis _ => op.call.signedAt_sign credentials millis
      content := hcontent
      bounded := hcourse.length_sent_le
      sends := fun _ _ hleft => hcourse.sent_ne_nil hleft
      withoutHttp := fun hoff => by simp [hon] at hoff
      withoutCredentials := fun _ hnone => by simp [hsome] at hnone }

end Adapter

/-! ## Dates -/

/-- A window that does not end before it starts has dates. -/
theorem windowDates?_ne_nil {interval : String} {start finish : Instant} {dates : List String}
    (h : windowDates? interval start finish = some dates) (hwindow : finish.lt start = false) :
    dates ≠ [] := by
  have hle : start.seconds ≤ finish.seconds := by
    unfold Instant.lt at hwindow
    simp only [Bool.or_eq_false_iff, decide_eq_false_iff_not] at hwindow
    omega
  obtain ⟨days, hdays, rfl⟩ := Option.map_eq_some_iff.mp h
  have hne := daysWithin?_ne_nil hdays (Int.ediv_le_ediv (by decide) hle)
  exact dropRepeats_ne_nil fun hnil => hne (List.map_eq_nil_iff.mp hnil)

theorem dateRequest_inj {symbol interval date date' : String} :
    dateRequest symbol interval date = dateRequest symbol interval date' ↔ date = date' := by
  simp [dateRequest, publicRequest]

/-! ## Public operations -/

namespace Adapter

/-- A public operation asks for what it needs, and for nothing twice. -/
structure AsksOnce (a : Adapter (StateM σ)) (op : PublicOperation) (requests : List Request)
    (trace : List GatewayEvent) (result : PublicResult) : Prop where
  /-- Nothing but requests goes out: the clock is not read and no time is waited. -/
  onlySends : ∀ e ∈ trace, ∃ r reply, e = .send r reply
  plain : ∀ r ∈ sent trace, r.headers = [] ∧ r.isPrivate = false
  once : (sent trace).Nodup
  inOrder : sent trace <+: requests
  sends : a.settings.useHttp = true → op.isIdle = false → sent trace ≠ []
  /-- Only a failure leaves out requests. -/
  complete : (∀ f, result ≠ op.failed f) → sent trace = requests
  withoutHttp : a.settings.useHttp = false → trace = [] ∧
    (op.isIdle = false → result = op.failed (httpDisabled op.name))
  idle : op.isIdle = true → trace = [] ∧ result = .klines (.ok [])

section Courses

variable {a : Adapter (StateM σ)} {operation symbol interval : String} {request : Request}
  {dates : List String} {events : List GatewayEvent} {outcome : Except Fault Json}
  {result : Except Fault (List Kline)}

/-- Public data takes nothing but requests, neither pauses nor signatures. -/
theorem PublicCourse.onlySends (h : a.PublicCourse operation request events outcome) :
    ∀ e ∈ events, ∃ r reply, e = .send r reply := by
  intro e he
  cases h with
  | disabled => exact absurd he List.not_mem_nil
  | asked _ reply => exact ⟨request, reply, List.mem_singleton.mp he⟩

/-- Public data takes one request, and none without network access. -/
theorem PublicCourse.sent_eq (h : a.PublicCourse operation request events outcome) :
    sent events = if a.settings.useHttp then [request] else [] := by
  cases h with
  | disabled hoff =>
    rw [hoff]
    rfl
  | asked hon =>
    rw [hon]
    rfl

/-- Without network access the failure says so, and nothing is sent. -/
theorem PublicCourse.of_disabled (h : a.PublicCourse operation request events outcome)
    (hoff : a.settings.useHttp = false) :
    events = [] ∧ outcome = .error (httpDisabled operation) := by
  cases h with
  | disabled => exact ⟨rfl, rfl⟩
  | asked hon => simp [hoff] at hon

/-- What has brought data was sent. -/
theorem PublicCourse.useHttp_of_ok (h : a.PublicCourse operation request events outcome)
    {α : Type} {read : Json → Except Fault α} {value : α} (hok : outcome.bind read = .ok value) :
    a.settings.useHttp = true := by
  cases h with
  | disabled => cases hok
  | asked hon => exact hon

namespace DatesCourse

theorem onlySends (h : a.DatesCourse symbol interval dates events result) :
    ∀ e ∈ events, ∃ r reply, e = .send r reply := by
  induction h with
  | done => exact fun e he => absurd he List.not_mem_nil
  | failed h => exact h.onlySends
  | next h _ _ ih =>
    intro e he
    rcases List.mem_append.mp he with he | he
    · exact h.onlySends e he
    · exact ih e he

/-- Dates are asked for in their order, none twice and none left out in between. -/
theorem sent_inOrder (h : a.DatesCourse symbol interval dates events result) :
    sent events <+: dates.map (dateRequest symbol interval) := by
  induction h with
  | done => exact List.prefix_rfl
  | failed h =>
    rw [h.sent_eq]
    split
    · exact List.cons_prefix_cons.mpr ⟨rfl, List.nil_prefix⟩
    · exact List.nil_prefix
  | next h hok _ ih =>
    -- candles came back, so the request for them was sent
    have hon := h.useHttp_of_ok hok
    rw [sent_append, h.sent_eq, if_pos hon]
    exact List.cons_prefix_cons.mpr ⟨rfl, ih⟩

/-- If candles come, all dates have been asked for. -/
theorem sent_eq_of_ok (h : a.DatesCourse symbol interval dates events result)
    {ks : List Kline} (hok : result = .ok ks) :
    sent events = dates.map (dateRequest symbol interval) := by
  induction h generalizing ks with
  | done => rfl
  | failed => cases hok
  | @next _ _ _ _ _ _ later h hhere _ ih =>
    cases later with
    | error f => cases hok
    | ok ks' =>
      have hon := h.useHttp_of_ok hhere
      have hlater := ih rfl
      rw [sent_append, h.sent_eq, if_pos hon, hlater]
      rfl

/-- With network access at least the first date is asked for. -/
theorem sent_ne_nil (h : a.DatesCourse symbol interval dates events result)
    (hon : a.settings.useHttp = true) (hdates : dates ≠ []) : sent events ≠ [] := by
  cases h with
  | done => exact absurd rfl hdates
  | failed h =>
    rw [h.sent_eq, if_pos hon]
    exact List.cons_ne_nil _ _
  | next h =>
    rw [sent_append, h.sent_eq, if_pos hon]
    exact List.cons_ne_nil _ _

/-- Without network access no date is asked for. -/
theorem of_disabled (h : a.DatesCourse symbol interval dates events result)
    (hoff : a.settings.useHttp = false) (hdates : dates ≠ []) :
    events = [] ∧ result = .error (httpDisabled "fetch_klines") := by
  cases h with
  | done => exact absurd rfl hdates
  | failed h hfault =>
    obtain ⟨rfl, rfl⟩ := h.of_disabled hoff
    cases hfault
    exact ⟨rfl, rfl⟩
  | next h hhere =>
    have hon := h.useHttp_of_ok hhere
    simp [hoff] at hon

end DatesCourse

/-- Candles of some dates are asked for one date after the other, each of them once. -/
theorem DatesCourse.asksOnce {start finish : Instant} {limit : Nat}
    (h : a.DatesCourse symbol interval dates events result) (hwindow : finish.lt start = false)
    (hdates : dates ≠ []) (hnodup : dates.Nodup) (keep : List Kline → List Kline) :
    a.AsksOnce (.klines symbol interval start finish limit)
      (dates.map (dateRequest symbol interval)) events
      (.klines (.ofExcept (result.map keep))) where
  onlySends := h.onlySends
  plain r hr := by
    obtain ⟨date, -, rfl⟩ := List.mem_map.mp (h.sent_inOrder.subset hr)
    exact ⟨rfl, rfl⟩
  once := by
    refine List.Nodup.sublist h.sent_inOrder.sublist (hnodup.map ?_)
    exact fun _ _ heq => dateRequest_inj.mp heq
  inOrder := h.sent_inOrder
  sends hon _ := h.sent_ne_nil hon hdates
  complete hresult := by
    cases result with
    | error f => exact absurd rfl (hresult f)
    | ok ks => exact h.sent_eq_of_ok rfl
  withoutHttp hoff := by
    obtain ⟨rfl, rfl⟩ := h.of_disabled hoff hdates
    exact ⟨rfl, fun _ => rfl⟩
  idle hidle := by
    rw [PublicOperation.isIdle, hwindow] at hidle
    cases hidle

theorem PublicCourse.asksOnce
    (h : a.PublicCourse "fetch_ticker" (publicRequest "/public/v1/ticker" [("symbol", symbol)])
      events outcome) :
    a.AsksOnce (.ticker symbol) [publicRequest "/public/v1/ticker" [("symbol", symbol)]] events
      (.ticker (outcome.bind (tickerIn a.settings.productType symbol))) where
  onlySends := h.onlySends
  plain r hr := by
    rw [h.sent_eq] at hr
    split at hr
    · obtain rfl := List.mem_singleton.mp hr
      exact ⟨rfl, rfl⟩
    · exact absurd hr List.not_mem_nil
  once := by
    rw [h.sent_eq]
    split
    · exact List.nodup_singleton _
    · exact List.nodup_nil
  inOrder := by
    rw [h.sent_eq]
    split
    · exact List.prefix_rfl
    · exact List.nil_prefix
  sends hon _ := by
    rw [h.sent_eq, if_pos hon]
    exact List.cons_ne_nil _ _
  complete hresult := by
    rw [h.sent_eq]
    cases hread : outcome.bind (tickerIn a.settings.productType symbol) with
    | error f => exact absurd (congrArg PublicResult.ticker hread) (hresult f)
    | ok t => rw [if_pos (h.useHttp_of_ok hread)]
  withoutHttp hoff := by
    obtain ⟨rfl, rfl⟩ := h.of_disabled hoff
    exact ⟨rfl, fun _ => rfl⟩
  idle hidle := by cases hidle

end Courses

/-- A window that ends before it begins takes no request. -/
theorem asksOnce_idle (a : Adapter (StateM σ)) {op : PublicOperation} (h : op.isIdle = true) :
    a.AsksOnce op [] [] (.klines (.ok [])) where
  onlySends e he := absurd he List.not_mem_nil
  plain r hr := absurd hr List.not_mem_nil
  once := .nil
  inOrder := List.prefix_rfl
  sends _ hidle := by
    rw [h] at hidle
    cases hidle
  complete _ := rfl
  withoutHttp _ := by
    refine ⟨rfl, fun hidle => ?_⟩
    rw [h] at hidle
    cases hidle
  idle _ := ⟨rfl, rfl⟩

/-- A public operation asks for what it needs and for nothing twice, if there is a list of what it
    needs; without one it cannot be carried out. -/
def AsksPublicly (a : Adapter (StateM σ)) (op : PublicOperation) (s : σ) : Prop :=
  (op.requests? = none → a.performPublic? op = none) ∧
    ∀ requests, op.requests? = some requests →
      ∃ traced plain, a.traced.performPublic? op = some traced ∧ a.performPublic? op = some plain ∧
        let run := traced.run ⟨s, []⟩
        (run.1, run.2.state) = plain.run s ∧ a.AsksOnce op requests run.2.trace run.1

/-- A ticker takes one request. -/
theorem ticker_asksPublicly (a : Adapter (StateM σ)) (symbol : String) (s : σ) :
    a.AsksPublicly (.ticker symbol) s := by
  have herases := Erases.map PublicResult.ticker (a.fetchTicker_erases symbol)
  have hends : Ends (PublicResult.ticker <$> a.traced.fetchTicker symbol) s
      fun events result _ => a.AsksOnce (.ticker symbol)
        [publicRequest "/public/v1/ticker" [("symbol", symbol)]] events result := by
    refine .map ((a.fetchTicker_ends symbol s).mono fun events result _ h => ?_)
    obtain ⟨outcome, hcourse, rfl⟩ := h
    exact hcourse.asksOnce
  refine ⟨fun h => (by cases h), fun requests h => ?_⟩
  cases h
  exact ⟨_, _, rfl, rfl, herases _, hends.run⟩

/-- The candles of a window take a request for each of its dates, as long as none fails. -/
theorem klines_asksPublicly (a : Adapter (StateM σ)) (symbol interval : String)
    (start finish : Instant) (limit : Nat) (s : σ) :
    a.AsksPublicly (.klines symbol interval start finish limit) s := by
  cases hwindow : finish.lt start with
  | true =>
    -- nothing is asked for in an empty window, whatever the settings
    have hrequests : (PublicOperation.klines symbol interval start finish limit).requests? =
        some [] := if_pos hwindow
    refine ⟨fun h => (by simp [hrequests] at h), fun requests h => ?_⟩
    cases hrequests.symm.trans h
    exact ⟨_, _, performPublic?_klines_of_lt _ hwindow, performPublic?_klines_of_lt _ hwindow, rfl,
      a.asksOnce_idle hwindow⟩
  | false =>
    have hrequests : (PublicOperation.klines symbol interval start finish limit).requests? =
        (windowDates? interval start finish).map (·.map (dateRequest symbol interval)) :=
      if_neg (by simp [hwindow])
    unfold AsksPublicly
    rw [hrequests, performPublic?_klines _ hwindow, performPublic?_klines _ hwindow]
    cases hdates : windowDates? interval start finish with
    | none => exact ⟨fun _ => rfl, fun _ h => by cases h⟩
    | some dates =>
      -- the window has a day at least, and no date of it comes twice
      have hne := windowDates?_ne_nil hdates hwindow
      have hnodup := nodup_dateParams? hdates
      refine ⟨fun h => (by cases h), fun requests h => ?_⟩
      cases h
      have hends : ∀ keep : List Kline → List Kline,
          Ends ((fun received => PublicResult.klines (.ofExcept (received.map keep))) <$>
              a.traced.fetchDates symbol interval dates) s fun events result _ =>
            a.AsksOnce (.klines symbol interval start finish limit)
              (dates.map (dateRequest symbol interval)) events result := fun keep =>
        .map ((a.fetchDates_ends symbol interval dates s).mono fun _ _ _ hcourse =>
          hcourse.asksOnce hwindow hne hnodup keep)
      exact ⟨_, _, rfl, rfl, Erases.map _ (a.fetchDates_erases symbol interval dates) _,
        (hends _).run⟩

/-- **What is sent is signed as it is sent, and nothing is sent without the right to.** -/
theorem requests_authorized (a : Adapter (StateM σ)) (s : σ) :
    (∀ op : PrivateOperation,
      let run := (a.traced.perform op).run ⟨s, []⟩
      (run.1, run.2.state) = (a.perform op).run s ∧ a.SendsSigned op run.2.trace run.1) ∧
    ∀ op : PublicOperation, a.AsksPublicly op s := by
  refine ⟨fun op => ⟨a.perform_erases op _, ?_⟩, fun op => ?_⟩
  · obtain ⟨outcome, hcourse, hresult⟩ := (a.perform_ends op s).run
    rw [hresult]
    exact hcourse.sendsSigned
  · cases op with
    | ticker symbol => exact a.ticker_asksPublicly symbol s
    | klines symbol interval start finish limit =>
      exact a.klines_asksPublicly symbol interval start finish limit s

/-- Candles of an empty window are none also where nothing may be asked for: without network
    access no failure is reported. -/
theorem klines_idle_without_http :
    let a : Adapter (StateM ScriptedGateway) :=
      ⟨.standard, none, ScriptedGateway.operations, none⟩
    let op := PublicOperation.klines "BTC_JPY" "1hour" ⟨1, 0⟩ ⟨0, 0⟩ 10
    a.settings.useHttp = false ∧
      ∃ act, a.performPublic? op = some act ∧ ∀ g f, (act.run g).1 ≠ op.failed f := by
  refine ⟨rfl, _, performPublic?_klines_of_lt _ (by decide), fun g f heq => ?_⟩
  have herror : (none : Option Fault) = some f :=
    congrArg Listing.error (PublicResult.klines.inj heq)
  cases herror

/-! ## Client order ids -/

/-- The id that the client has given an order is not in the call. -/
theorem placeCall_withId (order : Order) (id : ClientOrderId) :
    placeCall { order with clientOrderId := id } = placeCall order :=
  rfl

/-- To place an order is to make its call and to read what comes of it. -/
theorem placeOrder_eq {m : Type → Type} [Monad m] [LawfulMonad m] (a : Adapter m) (order : Order) :
    a.placeOrder order =
      (fun outcome => stateOf "" order.productType (outcome.map (placedState order))) <$>
        a.privateCall "place_order" (placeCall order) :=
  bind_pure_comp _ _

/-- **What is sent for an order does not tell its client order id**: all its attempts have the
    content of one call, and orders that differ in nothing else leave the same trace.  The id is
    only noted in the state of an order that was placed. -/
theorem placeOrder_withId (a : Adapter (StateM σ)) (order : Order) (id : ClientOrderId) (s : σ) :
    let run := (a.traced.placeOrder order).run ⟨s, []⟩
    let other := (a.traced.placeOrder { order with clientOrderId := id }).run ⟨s, []⟩
    (run.1, run.2.state) = (a.placeOrder order).run s ∧
      a.SendsSigned (.order (.place order)) run.2.trace (.order run.1) ∧
      other.2 = run.2 ∧
      ∃ outcome : Except Fault Json,
        run.1 = stateOf "" order.productType (outcome.map (placedState order)) ∧
        other.1 = stateOf "" order.productType (outcome.map fun data =>
          { placedState order data with
            raw := .object [("response", data), ("client_order_id", .str id.text)] }) := by
  have herases := a.performOrder_erases (.place order) ⟨s, []⟩
  have hsends : a.SendsSigned (.order (.place order))
      ((a.traced.placeOrder order).run ⟨s, []⟩).2.trace
      (.order ((a.traced.placeOrder order).run ⟨s, []⟩).1) := by
    obtain ⟨outcome, hcourse, hstate⟩ := (a.perform_ends (.order (.place order)) s).run
    have hsigned := hcourse.sendsSigned
    rw [← hstate] at hsigned
    exact hsigned
  refine ⟨herases, hsends, ?_⟩
  -- both orders make the same call, and what came of it is put into a state afterwards
  rw [placeOrder_eq, placeOrder_eq, placeCall_withId]
  exact ⟨rfl, ((a.traced.privateCall "place_order" (placeCall order)).run ⟨s, []⟩).1, rfl, rfl⟩

end Adapter

/-- The texts that a request carries: its body, and the keys and values of its parameters and its
    headers. -/
def parts (r : Request) : List String :=
  r.body.getD "" :: (r.query ++ r.headers).flatMap fun (k, v) => [k, v]

/-- A text occurs in a part of a request. -/
def Mentions (r : Request) (text : String) : Prop :=
  ∃ part ∈ parts r, text.toList <:+: part.toList

theorem not_mentions_of_mem {r : Request} {text : String} {c : Char} (hc : c ∈ text.toList)
    (h : ∀ part ∈ parts r, c ∉ part.toList) : ¬ Mentions r text := by
  rintro ⟨part, hpart, hin⟩
  exact h part hpart (hin.subset hc)

theorem mem_timestampText {millis : Int} {c : Char}
    (h : c ∈ (Signature.timestampText millis).toList) : c = '-' ∨ c.isDigit = true := by
  unfold Signature.timestampText at h
  rw [String.toList_ofList] at h
  exact Text.mem_intText h

/-- An adapter with network access and credentials over a script. -/
def scriptedAdapter : Adapter (StateM ScriptedGateway) where
  settings := { Settings.standard with useHttp := true }
  credentials := some ⟨"key", "secret"⟩
  gateway := ScriptedGateway.operations
  feed := none

/-- An order whose first reply is lost goes out again, and no request names it. -/
theorem resent_without_clientOrderId :
    let qty : Quantity := ⟨⟨1, 2, by decide, by decide⟩⟩
    let order := Order.market "gmo" .spot .standard .buy qty ⟨"live-btcjpy-1"⟩
    let lost : Except Fault Json := .error (.classify (some SourceCode.networkTimeout) "lost")
    let script := ScriptedGateway.of [lost] (.ok (.str "1")) [] 0
    let run := (scriptedAdapter.traced.placeOrder order).run ⟨script, []⟩
    (sent run.2.trace).length = 2 ∧
      ∀ r ∈ sent run.2.trace, ¬ Mentions r order.clientOrderId.text := by
  intro qty order lost script run
  refine ⟨by decide +kernel, fun r hr => ?_⟩
  -- the id has a letter that is in none of the texts and is no digit of a time or a signature
  have hbody : ∀ part ∈ [(orderBody order).toText, "API-KEY", "key", "API-TIMESTAMP", "API-SIGN"],
      'v' ∉ part.toList := by decide +kernel
  have hsign : ∀ n < 16, Text.hexDigit n ≠ 'v' := by decide
  obtain ⟨outcome, hcourse, -⟩ := (scriptedAdapter.performOrder_ends (.place order) script).run
  obtain ⟨credentials, millis, hcredentials, rfl⟩ := hcourse.exists_sign hr
  cases hcredentials
  refine not_mentions_of_mem (c := 'v') (by decide) fun part hpart hv => ?_
  change part ∈ [(orderBody order).toText, "API-KEY", "key", "API-TIMESTAMP",
    Signature.timestampText millis, "API-SIGN", Signature.hmacHex "secret" _] at hpart
  simp only [List.mem_cons, List.not_mem_nil, or_false] at hpart
  rcases hpart with rfl | rfl | rfl | rfl | rfl | rfl | rfl
  case inr.inr.inr.inr.inl =>
    rcases mem_timestampText hv with h | h <;> cases h
  case inr.inr.inr.inr.inr.inr =>
    unfold Signature.hmacHex Text.hex at hv
    rw [String.toList_ofList] at hv
    obtain ⟨n, hn, hdigit⟩ := Text.mem_hexChars hv
    exact hsign n hn hdigit.symm
  all_goals exact hbody _ (by simp) hv

end LiveTrader.Gmo
