import Mathlib.Data.Rat.Defs
import Mathlib.Tactic.NormNum
import LiveTrader.Proofs.Requests

/-!
  LiveTrader.Proofs.Envelopes

  What the status of a reply makes of it.  A status is a code if it is a whole number of the
  signed 64-bit range that is written without fraction and exponent.  A code other than zero
  refuses the reply and zero opens it; any other reply is taken as it is, also where its status is
  a number.  What is refused is reported by every operation as a failure of its own kind.
-/

namespace LiveTrader

/-! ## Numbers -/

/-- The number that a finite pattern stands for. -/
def Binary64.value (x : Binary64) : ℚ :=
  let size : ℚ := x.ratio.1 / x.ratio.2
  if x.isNegative then -size else size

theorem Binary64.value_eq {x : Binary64} (h : x.isNegative = false) :
    x.value = x.ratio.1 / x.ratio.2 := by
  have hsize : x.value = if x.isNegative then -(x.ratio.1 / x.ratio.2 : ℚ)
      else x.ratio.1 / x.ratio.2 := rfl
  rw [hsize, if_neg (by simp [h])]

namespace Json

/-- The number that a value is, if it is one. -/
def number? : Json → Option ℚ
  | int n => some n
  | float x => if x.isFinite then some x.value else none
  | _ => none

theorem asSigned64?_eq_some_iff {v : Json} {n : Int} :
    v.asSigned64? = some n ↔ v = .int n ∧ n < pow2 63 := by
  cases v with
  | int m =>
    have hread : (int m).asSigned64? = if m < pow2 63 then some m else none := rfl
    rw [hread, Option.ite_none_right_eq_some, Option.some.injEq, int.injEq]
    constructor
    · rintro ⟨hm, rfl⟩
      exact ⟨rfl, hm⟩
    · rintro ⟨rfl, hn⟩
      exact ⟨hn, rfl⟩
  | _ => simp [asSigned64?]

/-- No value is a member of itself. -/
theorem get?_ne_self (v : Json) (key : String) : v.get? key ≠ some v := by
  intro h
  cases v with
  | obj members =>
    obtain ⟨before, after, hmembers, -⟩ := List.lookup_eq_some_iff.mp h
    have hmem : ∀ m, members = before ++ m :: after → m ∈ members := by
      rintro m rfl
      exact List.mem_append_right _ List.mem_cons_self
    have hsize := List.sizeOf_lt_of_mem (hmem _ hmembers)
    simp only [Prod.mk.sizeOf_spec, obj.sizeOf_spec] at hsize
    omega
  | _ => cases h

/-- A numeral of the signed 64-bit range that is written without fraction and exponent.  A
    negative zero is none. -/
structure Numeral.IsSigned64 (n : Numeral) : Prop where
  fraction : n.fraction = none
  exponent : n.exponent = none
  below : n.negative = false → digitsValue n.whole < pow2 63
  above : n.negative = true → 0 < digitsValue n.whole ∧ digitsValue n.whole ≤ pow2 63

theorem isSome_asSigned64?_int {n : Int} :
    (int n).asSigned64?.isSome = true ↔ n < pow2 63 := by
  rw [Option.isSome_iff_exists]
  simp [asSigned64?_eq_some_iff]

/-- Other numerals are read as floating-point numbers, or as whole numbers beyond the range. -/
theorem Numeral.isSome_asSigned64?_iff {n : Numeral} {v : Json} (h : n.value? = some v) :
    v.asSigned64?.isSome = true ↔ n.IsSigned64 := by
  have hpow : pow2 63 < pow2 64 := by decide
  unfold value? at h
  dsimp only at h
  split at h
  case isTrue hplain =>
    simp only [Bool.and_eq_true, Option.isNone_iff_eq_none, Bool.not_eq_true'] at hplain
    -- digits without a sign are read whole, up to one bit more than a signed integer has
    obtain ⟨⟨⟨hfraction, hexponent⟩, hsign⟩, -⟩ := hplain
    cases h
    rw [isSome_asSigned64?_int, Int.ofNat_lt]
    exact ⟨fun hlt => ⟨hfraction, hexponent, fun _ => hlt, fun hneg => by simp [hsign] at hneg⟩,
      fun hn => hn.below hsign⟩
  case isFalse hplain =>
    split at h
    case isTrue hneg =>
      simp only [Bool.and_eq_true, Option.isNone_iff_eq_none, decide_eq_true_eq] at hneg
      obtain ⟨⟨⟨⟨hfraction, hexponent⟩, hsign⟩, hpos⟩, hle⟩ := hneg
      cases h
      refine iff_of_true (isSome_asSigned64?_int.mpr (by omega)) ?_
      exact ⟨hfraction, hexponent, fun hs => by simp [hs] at hsign, fun _ => ⟨hpos, hle⟩⟩
    case isFalse hneg =>
      -- everything else became a floating-point number, and no signed integer is read as one
      obtain ⟨x, -, rfl⟩ := Option.map_eq_some_iff.mp h
      refine iff_of_false (by simp [asSigned64?]) fun hn => ?_
      obtain ⟨hfraction, hexponent, hbelow, habove⟩ := hn
      cases hsign : n.negative with
      | false => simp [hfraction, hexponent, hsign, (hbelow hsign).trans hpow] at hplain
      | true => simp [hfraction, hexponent, hsign, habove hsign] at hneg

end Json

namespace Gmo

/-! ## Codes -/

/-- The status of a reply is a code. -/
def HasCode (payload : Json) (code : Int) : Prop :=
  payload.get? "status" = some (.int code) ∧ code < pow2 63

namespace Envelope

/-- The status that is read is the code of the payload. -/
theorem status?_eq_some_iff {payload : Json} {code : Int} :
    status? payload = some code ↔ HasCode payload code := by
  unfold status? HasCode
  rw [Option.bind_eq_some_iff]
  simp only [Json.asSigned64?_eq_some_iff]
  constructor
  · rintro ⟨v, hv, rfl, hlt⟩
    exact ⟨hv, hlt⟩
  · rintro ⟨hv, hlt⟩
    exact ⟨_, hv, rfl, hlt⟩

theorem unwrap_of_code {payload : Json} {code : Int} (h : HasCode payload code) :
    unwrap payload = if code = 0 then .ok ((payload.get? "data").getD .null)
      else .error (fault payload code) := by
  unfold unwrap
  rw [status?_eq_some_iff.mpr h]

/-- A payload without a code is taken as it is. -/
theorem unwrap_of_no_code {payload : Json} (h : ∀ code, ¬ HasCode payload code) :
    unwrap payload = .ok payload := by
  have hnone : status? payload = none :=
    Option.eq_none_iff_forall_ne_some.mpr fun code hcode => h code (status?_eq_some_iff.mp hcode)
  unfold unwrap
  rw [hnone]

/-- What the status of a reply makes of it. -/
structure Decides (payload : Json) : Prop where
  /-- A code other than zero refuses the reply. -/
  refused : ∀ code, HasCode payload code → code ≠ 0 →
    unwrap payload = .error (fault payload code)
  /-- Any other reply without a code is taken as it is. -/
  bare : (∀ code, ¬ HasCode payload code) → unwrap payload = .ok payload
  /-- Of the numbers other than zero, codes close the envelope and no others. -/
  closes_iff : ∀ status q, payload.get? "status" = some status → status.number? = some q →
    q ≠ 0 → ((∃ f, unwrap payload = .error f) ↔ ∃ code, HasCode payload code)
  /-- Of the spellings of zero, the code opens it and no others. -/
  opens_iff : ∀ status, payload.get? "status" = some status → status.number? = some 0 →
    (unwrap payload = .ok ((payload.get? "data").getD .null) ↔ HasCode payload 0)

/-- The code of a payload decides what is made of it. -/
theorem unwrap_decides (payload : Json) : Decides payload where
  refused code hcode hne := by rw [unwrap_of_code hcode, if_neg hne]
  bare := unwrap_of_no_code
  closes_iff status q hstatus hq hne := by
    constructor
    · rintro ⟨f, hf⟩
      -- a payload without a code is taken as it is and cannot have been refused
      by_contra hnone
      rw [unwrap_of_no_code fun code hcode => hnone ⟨code, hcode⟩] at hf
      cases hf
    · rintro ⟨code, hcode⟩
      have hzero : code ≠ 0 := by
        rintro rfl
        cases hcode.1.symm.trans hstatus
        exact hne (by simpa [Json.number?] using hq.symm)
      exact ⟨_, (unwrap_of_code hcode).trans (if_neg hzero)⟩
  opens_iff status hstatus hq := by
    refine ⟨fun hopen => ?_, fun hcode => (unwrap_of_code hcode).trans (if_pos rfl)⟩
    by_cases hcode : ∃ code, HasCode payload code
    · obtain ⟨code, hcode⟩ := hcode
      obtain rfl : code = 0 := by
        cases hcode.1.symm.trans hstatus
        simpa [Json.number?] using hq
      exact hcode
    · -- what was taken would be a member of itself
      rw [unwrap_of_no_code fun code h => hcode ⟨code, h⟩] at hopen
      cases hdata : payload.get? "data" with
      | none =>
        rw [hdata] at hopen
        cases hopen
        cases hstatus
      | some data =>
        rw [hdata] at hopen
        have hself : payload = data := Except.ok.inj hopen
        exact absurd (hself ▸ hdata) (Json.get?_ne_self data "data")

end Envelope

/-! ## Replies -/

/-- The outcomes are what the replies are unwrapped to. -/
theorem outcomes_eq (events : List GatewayEvent) :
    outcomes events = (replies events).map (·.bind Envelope.unwrap) := by
  unfold outcomes replies
  rw [List.map_filterMap]
  refine List.filterMap_congr fun e _ => ?_
  cases e <;> rfl

/-- A reply that has been refused. -/
theorem error_mem_outcomes {events : List GatewayEvent} {payload : Json} {code : Int}
    (hmem : .ok payload ∈ replies events) (hcode : HasCode payload code) (hne : code ≠ 0) :
    .error (Envelope.fault payload code) ∈ outcomes events := by
  rw [outcomes_eq]
  exact List.mem_map.mpr ⟨_, hmem, (Envelope.unwrap_decides payload).refused code hcode hne⟩

theorem getLast?_outcomes {events : List GatewayEvent} {payload : Json} {code : Int}
    (hlast : (replies events).getLast? = some (.ok payload)) (hcode : HasCode payload code)
    (hne : code ≠ 0) :
    (outcomes events).getLast? = some (.error (Envelope.fault payload code)) := by
  rw [outcomes_eq, List.getLast?_map, hlast]
  exact congrArg some ((Envelope.unwrap_decides payload).refused code hcode hne)

/-! ## Failures of operations -/

namespace Adapter

variable {σ : Type} {a : Adapter (StateM σ)}

/-- A failure that comes back last is the result, unless another attempt was due for it. -/
theorem CallCourse.of_getLast?_error {operation : String} {call : Call}
    {events : List GatewayEvent} {result : Except Fault Json} {f : Fault}
    (h : a.CallCourse operation call events result)
    (hlast : (outcomes events).getLast? = some (.error f)) :
    result = .error f ∨ result = .error .retryExhausted := by
  cases h with
  | disabled | anonymous => cases hlast
  | attempted _ _ hcourse =>
    rcases hcourse.result_eq with ⟨hresult, -⟩ | ⟨-, -, hresult⟩
    · exact .inl (Option.some.inj (hresult.symm.trans hlast))
    · exact .inr hresult

theorem PublicCourse.eq_error_of_mem {operation : String} {request : Request}
    {events : List GatewayEvent} {outcome : Except Fault Json} {f : Fault}
    (h : a.PublicCourse operation request events outcome)
    (hmem : .error f ∈ outcomes events) : outcome = .error f := by
  cases h with
  | disabled => cases hmem
  | asked _ reply => exact (List.mem_singleton.mp hmem).symm

/-- A failure ends the reading of candles. -/
theorem DatesCourse.eq_error_of_mem {symbol interval : String} {dates : List String}
    {events : List GatewayEvent} {result : Except Fault (List Kline)} {f : Fault}
    (h : a.DatesCourse symbol interval dates events result)
    (hmem : .error f ∈ outcomes events) : result = .error f := by
  induction h with
  | done => cases hmem
  | failed h hfault =>
    rw [h.eq_error_of_mem hmem] at hfault
    cases hfault
    rfl
  | next h hhere _ ih =>
    rw [outcomes_append] at hmem
    rcases List.mem_append.mp hmem with hmem | hmem
    · -- these candles came back, so nothing was refused there
      rw [h.eq_error_of_mem hmem] at hhere
      cases hhere
    · rw [ih hmem]
      rfl

/-- A private operation reports a refusal that is the last reply. -/
def ReportsRefusal (a : Adapter (StateM σ)) (op : PrivateOperation) (events : List GatewayEvent)
    (result : PrivateResult) : Prop :=
  ∀ payload code, (replies events).getLast? = some (.ok payload) → HasCode payload code →
    code ≠ 0 →
    result = op.failed a.settings (Envelope.fault payload code) ∨
      result = op.failed a.settings .retryExhausted

/-- A call tells of a refusal in its last reply. -/
theorem CallCourse.reportsRefusal {op : PrivateOperation} {events : List GatewayEvent}
    {outcome : Except Fault Json} (h : a.CallCourse op.name op.call events outcome) :
    a.ReportsRefusal op events (op.answer a.settings outcome) := by
  intro payload code hlast hcode hne
  rcases h.of_getLast?_error (getLast?_outcomes hlast hcode hne) with rfl | rfl
  · exact .inl (op.answer_error _ _)
  · exact .inr (op.answer_error _ _)

/-- A public operation reports a refusal that is among the replies. -/
def ReportsRefusalPublicly (a : Adapter (StateM σ)) (op : PublicOperation) (s : σ) : Prop :=
  ∀ act, a.traced.performPublic? op = some act →
    ∀ payload code, .ok payload ∈ replies (act.run ⟨s, []⟩).2.trace → HasCode payload code →
      code ≠ 0 → (act.run ⟨s, []⟩).1 = op.failed (Envelope.fault payload code)

theorem ticker_reportsRefusal (a : Adapter (StateM σ)) (symbol : String) (s : σ) :
    a.ReportsRefusalPublicly (.ticker symbol) s := by
  intro act hact payload code hmem hcode hne
  cases hact
  obtain ⟨outcome, hcourse, hresult⟩ := (a.fetchTicker_ends symbol s).run
  have houtcome := hcourse.eq_error_of_mem (error_mem_outcomes hmem hcode hne)
  rw [houtcome] at hresult
  exact congrArg PublicResult.ticker hresult

theorem klines_reportsRefusal (a : Adapter (StateM σ)) (symbol interval : String)
    (start finish : Instant) (limit : Nat) (s : σ) :
    a.ReportsRefusalPublicly (.klines symbol interval start finish limit) s := by
  intro act hact payload code hmem hcode hne
  cases hwindow : finish.lt start with
  | true =>
    -- nothing is asked for in an empty window
    rw [performPublic?_klines_of_lt _ hwindow] at hact
    cases hact
    cases hmem
  | false =>
    rw [performPublic?_klines _ hwindow] at hact
    obtain ⟨dates, -, rfl⟩ := Option.map_eq_some_iff.mp hact
    have hcourse := (a.fetchDates_ends symbol interval dates s).run
    have hresult := hcourse.eq_error_of_mem (error_mem_outcomes hmem hcode hne)
    exact congrArg (fun received : Except Fault (List Kline) => PublicResult.klines
      (.ofExcept (received.map fun ks => assemble limit (ks.filter (inWindow start finish)))))
      hresult

/-- **A code other than zero closes the envelope, and every operation reports it**: of the
    numbers, those are codes that are read of numerals of the signed 64-bit range without fraction
    and exponent.  A reply whose status is no code passes as it is, whatever number it is. -/
theorem codes_close (a : Adapter (StateM σ)) (s : σ) :
    (∀ payload, Envelope.Decides payload) ∧
      (∀ (numeral : Json.Numeral) (v : Json), numeral.value? = some v →
        (v.asSigned64?.isSome = true ↔ numeral.IsSigned64)) ∧
      (∀ op : PrivateOperation,
        let run := (a.traced.perform op).run ⟨s, []⟩
        (run.1, run.2.state) = (a.perform op).run s ∧ a.ReportsRefusal op run.2.trace run.1) ∧
      ∀ op : PublicOperation, a.ReportsRefusalPublicly op s := by
  refine ⟨Envelope.unwrap_decides, fun _ _ => Json.Numeral.isSome_asSigned64?_iff, fun op => ?_,
    fun op => ?_⟩
  · refine ⟨a.perform_erases op _, ?_⟩
    obtain ⟨outcome, hcourse, hresult⟩ := (a.perform_ends op s).run
    rw [hresult]
    exact hcourse.reportsRefusal
  · cases op with
    | ticker symbol => exact a.ticker_reportsRefusal symbol s
    | klines symbol interval start finish limit =>
      exact a.klines_reportsRefusal symbol interval start finish limit s

/-- A status of one and a half is no code: the reply is taken as it is and places an order.  Nor is
    a zero that is written with a fraction, so that the data of its reply is not found. -/
theorem fraction_passes :
    let reply (status : Binary64) := Json.object [("status", .float status), ("data", .str "1")]
    let refused := reply (.nearest false 3 2)
    let opened := reply .zero
    let qty : Quantity := ⟨⟨1, 2, by decide, by decide⟩⟩
    let order := Order.market "gmo" .spot .standard .buy qty ⟨"live-btcjpy-1"⟩
    let script := ScriptedGateway.of [] (.ok refused) [] 0
    (∃ status, refused.get? "status" = some status ∧ status.number? = some (3 / 2)) ∧
      Envelope.unwrap refused = .ok refused ∧
      ((scriptedAdapter.placeOrder order).run script).1.isError = false ∧
      (∃ status, opened.get? "status" = some status ∧ status.number? = some 0) ∧
      Envelope.unwrap opened ≠ .ok (.str "1") := by
  intro reply refused opened qty order script
  have hhalf : (Binary64.nearest false 3 2).value = 3 / 2 := by
    have hratio : (Binary64.nearest false 3 2).ratio = (3 * pow2 51, pow2 52) := by decide +kernel
    rw [Binary64.value_eq (by decide +kernel), hratio]
    norm_num
  have hzero : Binary64.zero.value = 0 := by
    have hratio : Binary64.zero.ratio.1 = 0 := by decide +kernel
    rw [Binary64.value_eq (by decide +kernel), hratio, Nat.cast_zero, zero_div]
  have hnumber : ∀ x : Binary64, x.isFinite = true → (Json.float x).number? = some x.value :=
    fun x hx => if_pos hx
  have hopened : Envelope.unwrap opened = .ok opened := rfl
  refine ⟨⟨_, rfl, ?_⟩, rfl, by decide +kernel, ⟨_, rfl, ?_⟩, ?_⟩
  · rw [hnumber _ (by decide +kernel), hhalf]
  · rw [hnumber _ (by decide +kernel), hzero]
  · rw [hopened]
    exact fun h => nomatch Except.ok.inj h

end Adapter

end Gmo

end LiveTrader
