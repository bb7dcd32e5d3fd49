import Mathlib.Tactic.Simps.Basic
import LiveTrader.Gmo.Adapter
import LiveTrader.Proofs.Retry

/-!
  LiveTrader.Proofs.GatewayTrace

  What an adapter asks of the world, as a trace: readings of the clock, requests with their
  replies, waits and connections.  `CallCourse` lists the courses of a private call; which of
  them it was, and what came of it, is told by the settings and the replies alone.
-/

namespace LiveTrader.Gmo

open Tracing (Ends Erases)

/-- One thing that an adapter asks of the world. -/
inductive GatewayEvent
  | clock (millis : Int)
  | send (request : Request) (reply : Except Fault Json)
  | sleep (time : Span)
  | connect (channel : Channel)

namespace GatewayEvent

/-- The time that was read. -/
def reading? : GatewayEvent → Option Int
  | clock millis => some millis
  | _ => none

/-- The request that was sent. -/
def request? : GatewayEvent → Option Request
  | send request _ => some request
  | _ => none

/-- What came back for a request, in its envelope. -/
def reply? : GatewayEvent → Option (Except Fault Json)
  | send _ reply => some reply
  | _ => none

/-- What came back for a request, without the envelope. -/
def outcome? : GatewayEvent → Option (Except Fault Json)
  | send _ reply => some (reply.bind Envelope.unwrap)
  | _ => none

end GatewayEvent

/-- The times that were read, in order. -/
def readings (events : List GatewayEvent) : List Int := events.filterMap GatewayEvent.reading?

/-- The requests that were sent, in order. -/
def sent (events : List GatewayEvent) : List Request := events.filterMap GatewayEvent.request?

/-- What came back, in order and in its envelope. -/
def replies (events : List GatewayEvent) : List (Except Fault Json) :=
  events.filterMap GatewayEvent.reply?

/-- What came back, in order. -/
def outcomes (events : List GatewayEvent) : List (Except Fault Json) :=
  events.filterMap GatewayEvent.outcome?

section Lists

variable (xs ys : List GatewayEvent)

@[simp] theorem readings_append : readings (xs ++ ys) = readings xs ++ readings ys :=
  List.filterMap_append

@[simp] theorem sent_append : sent (xs ++ ys) = sent xs ++ sent ys := List.filterMap_append

@[simp] theorem replies_append : replies (xs ++ ys) = replies xs ++ replies ys :=
  List.filterMap_append

@[simp] theorem outcomes_append : outcomes (xs ++ ys) = outcomes xs ++ outcomes ys :=
  List.filterMap_append

end Lists

/-! ## Traced adapters -/

variable {σ : Type}

/-- A gateway whose operations are traced. -/
@[simps] def Gateway.traced (g : Gateway (StateM σ)) : Gateway (Tracing GatewayEvent σ) where
  send r := Tracing.call (g.send r) fun reply => [.send r reply]
  now := Tracing.call g.now fun millis => [.clock millis]
  sleep time := Tracing.call (g.sleep time) fun _ => [.sleep time]
  dial credentials channel := Tracing.call (g.dial credentials channel) fun _ => [.connect channel]

namespace Adapter

/-- An adapter over a traced gateway. -/
@[simps] def traced (a : Adapter (StateM σ)) : Adapter (Tracing GatewayEvent σ) where
  settings := a.settings
  credentials := a.credentials
  gateway := a.gateway.traced
  feed := a.feed.map fun connect channel =>
    Tracing.call (connect channel) fun _ => [.connect channel]

variable (a : Adapter (StateM σ))

/-! ## Attempts -/

/-- What an attempt of a private call does and comes to: it is signed at the time that was read
    for it, and its reply taken out of the envelope. -/
def SignedAttempt (credentials : Credentials) (call : Call) (_index : Nat)
    (events : List GatewayEvent) (outcome : Except Fault Json) : Prop :=
  ∃ millis reply,
    events = [.clock millis,
      .send (call.sign credentials (Signature.timestampText millis)) reply] ∧
    outcome = reply.bind Envelope.unwrap

/-- An attempt reads the time, signs the call with it and sends it once. -/
theorem attempt_ends (credentials : Credentials) (call : Call) (index : Nat) (s : σ) :
    Ends (a.traced.attempt credentials call) s fun events outcome _ =>
      SignedAttempt credentials call index events outcome := by
  unfold attempt
  rw [traced_gateway, Gateway.traced_now]
  refine .bind (.call ?_)
  rw [Gateway.traced_send]
  exact .bind (.call (.pure ⟨_, _, rfl, rfl⟩))

theorem attempt_erases (credentials : Credentials) (call : Call) :
    Erases (a.traced.attempt credentials call) (a.attempt credentials call) := by
  unfold attempt
  exact .bind (.call _ _) fun _ => .bind (.call _ _) fun _ => .pure _

/-- The courses of the attempts of a private call. -/
abbrev AttemptCourse (credentials : Credentials) (call : Call) :
    (index left : Nat) → List GatewayEvent → Except Fault Json → Prop :=
  a.settings.retry.Course (SignedAttempt credentials call) fun time => [.sleep time]

/-! ## Private calls -/

/-- The courses of a private call: what was asked of the world, and what came of it. -/
inductive CallCourse (operation : String) (call : Call) :
    List GatewayEvent → Except Fault Json → Prop
  | disabled (h : a.settings.useHttp = false) :
      CallCourse operation call [] (.error (httpDisabled operation))
  | anonymous (h : a.settings.useHttp = true) (hc : a.credentials = none) :
      CallCourse operation call [] (.error a.credentialsMissing)
  | attempted {credentials : Credentials} {events : List GatewayEvent}
      {result : Except Fault Json} (h : a.settings.useHttp = true)
      (hc : a.credentials = some credentials)
      (hcourse : a.AttemptCourse credentials call 0 a.settings.retry.maxAttempts events result) :
      CallCourse operation call events result

/-- **A private call takes one of the courses.** -/
theorem privateCall_ends (operation : String) (call : Call) (s : σ) :
    Ends (a.traced.privateCall operation call) s fun events result _ =>
      a.CallCourse operation call events result := by
  unfold privateCall
  rw [traced_settings, traced_credentials]
  split
  case isFalse h => exact .pure (.disabled (by simpa using h))
  case isTrue h =>
    cases hc : a.credentials with
    | none => exact .pure (.anonymous h hc)
    | some credentials =>
      refine (a.settings.retry.attempts_ends (fun _ _ => True) (fun _ _ => True) ?_ ?_ ?_
        0 _ s trivial).mono fun events result _ hcourse => .attempted h hc hcourse
      · intro i s' _
        exact (a.attempt_ends credentials call i s').mono fun _ _ _ h => ⟨h, trivial⟩
      · intro i s' _ _
        rw [traced_gateway, Gateway.traced_sleep]
        exact .call ⟨rfl, trivial⟩
      · exact fun _ _ _ _ => trivial

theorem privateCall_erases (operation : String) (call : Call) :
    Erases (a.traced.privateCall operation call) (a.privateCall operation call) := by
  unfold privateCall
  refine .ite ?_ (.pure _)
  rw [traced_credentials]
  cases a.credentials with
  | none => exact .pure _
  | some credentials =>
    have hsleep : ∀ time, Erases (a.traced.gateway.sleep time) (a.gateway.sleep time) :=
      fun _ => .call _ _
    exact a.settings.retry.attempts_erases hsleep (fun _ => a.attempt_erases credentials call) 0 _

/-! ## What the courses show -/

section Course

variable {a} {credentials : Credentials} {call : Call} {index left : Nat}
  {events : List GatewayEvent} {outcome result : Except Fault Json}

theorem SignedAttempt.views (h : SignedAttempt credentials call index events outcome) :
    ∃ millis, readings events = [millis] ∧
      sent events = [call.sign credentials (Signature.timestampText millis)] ∧
      outcomes events = [outcome] := by
  obtain ⟨millis, reply, rfl, rfl⟩ := h
  exact ⟨millis, rfl, rfl, rfl⟩

/-- A view that does not keep waits does not keep what is between two attempts. -/
theorem filterMap_pause {β : Type} (p : RetryPolicy) (view : GatewayEvent → Option β)
    (hview : ∀ time, view (.sleep time) = none) :
    (p.pause (fun time => [.sleep time]) index left).filterMap view = [] := by
  unfold RetryPolicy.pause
  split
  · rfl
  · rw [List.filterMap_cons, hview]
    rfl

@[simp] theorem readings_pause (p : RetryPolicy) :
    readings (p.pause (fun time => [.sleep time]) index left) = [] :=
  filterMap_pause p _ fun _ => rfl

@[simp] theorem sent_pause (p : RetryPolicy) :
    sent (p.pause (fun time => [.sleep time]) index left) = [] :=
  filterMap_pause p _ fun _ => rfl

@[simp] theorem replies_pause (p : RetryPolicy) :
    replies (p.pause (fun time => [.sleep time]) index left) = [] :=
  filterMap_pause p _ fun _ => rfl

@[simp] theorem outcomes_pause (p : RetryPolicy) :
    outcomes (p.pause (fun time => [.sleep time]) index left) = [] :=
  filterMap_pause p _ fun _ => rfl

namespace AttemptCourse

/-- A request goes out for every reading of the clock, signed at that time. -/
theorem sent_eq (h : a.AttemptCourse credentials call index left events result) :
    sent events =
      (readings events).map fun t => call.sign credentials (Signature.timestampText t) := by
  induction h with
  | spent => rfl
  | settled h =>
    obtain ⟨millis, hread, hsent, -⟩ := h.views
    rw [hread, hsent]
    rfl
  | again h hs hrest ih =>
    obtain ⟨millis, hread, hsent, -⟩ := h.views
    simp [hread, hsent, ih]

theorem length_sent_le (h : a.AttemptCourse credentials call index left events result) :
    (sent events).length ≤ left := by
  induction h with
  | spent => exact Nat.le_refl 0
  | settled h =>
    obtain ⟨millis, -, hsent, -⟩ := h.views
    rw [hsent]
    exact Nat.succ_le_succ (Nat.zero_le _)
  | again h hs hrest ih =>
    obtain ⟨millis, -, hsent, -⟩ := h.views
    simpa [hsent] using ih

/-- If an attempt may be made there is one. -/
theorem sent_ne_nil (h : a.AttemptCourse credentials call index left events result)
    (hleft : 0 < left) : sent events ≠ [] := by
  cases h with
  | spent => exact absurd hleft (Nat.lt_irrefl 0)
  | settled h | again h =>
    obtain ⟨millis, -, hsent, -⟩ := h.views
    simp [hsent]

/-- The result is the last outcome, unless nothing has settled the matter in time. -/
theorem result_eq (h : a.AttemptCourse credentials call index left events result) :
    (outcomes events).getLast? = some result ∧ Settles result ∨
      (outcomes events).length = left ∧ (∀ r ∈ outcomes events, ¬ Settles r) ∧
        result = .error .retryExhausted := by
  -- on the attempts, each with its one reply; pauses between them add none
  induction h with
  | spent => exact .inr ⟨rfl, fun r hr => absurd hr List.not_mem_nil, rfl⟩
  | settled h hs =>
    obtain ⟨millis, -, -, hout⟩ := h.views
    rw [hout]
    exact .inl ⟨rfl, hs⟩
  | again h hs hrest ih =>
    obtain ⟨millis, -, -, hout⟩ := h.views
    simp only [outcomes_append, outcomes_pause, hout, List.nil_append, List.singleton_append]
    rcases ih with ⟨hlast, hset⟩ | ⟨hlength, hunset, hresult⟩
    · refine .inl ⟨?_, hset⟩
      rw [List.getLast?_cons, hlast]
      rfl
    · refine .inr ⟨?_, List.forall_mem_cons.mpr ⟨hs, hunset⟩, hresult⟩
      rw [List.length_cons, hlength]

end AttemptCourse

end Course

/-- Why a private call has failed, told by the settings and by what came back. -/
inductive CallFailure (operation : String) (events : List GatewayEvent) : Fault → Prop
  | disabled (h : a.settings.useHttp = false) :
      CallFailure operation events (httpDisabled operation)
  | anonymous (h : a.settings.useHttp = true) (hc : a.credentials = none) :
      CallFailure operation events a.credentialsMissing
  | refused {f : Fault} (hlast : (outcomes events).getLast? = some (.error f))
      (hs : Settles (.error f : Except Fault Json)) : CallFailure operation events f
  | exhausted (h : a.settings.useHttp = true) (hc : a.credentials ≠ none)
      (hlength : (outcomes events).length = a.settings.retry.maxAttempts)
      (hs : ∀ r ∈ outcomes events, ¬ Settles r) : CallFailure operation events .retryExhausted

namespace CallCourse

variable {a} {operation : String} {call : Call} {events : List GatewayEvent}
  {result : Except Fault Json}

/-- Every request is the call, signed with the credentials at some time. -/
theorem exists_sign (h : a.CallCourse operation call events result) {r : Request}
    (hr : r ∈ sent events) : ∃ credentials millis, a.credentials = some credentials ∧
      r = call.sign credentials (Signature.timestampText millis) := by
  cases h with
  | disabled | anonymous => exact absurd hr List.not_mem_nil
  | @attempted credentials _ _ h hc hcourse =>
    rw [hcourse.sent_eq] at hr
    obtain ⟨millis, -, rfl⟩ := List.mem_map.mp hr
    exact ⟨credentials, millis, hc, rfl⟩

/-- What settles the matter and comes back last is the result. -/
theorem result_of_getLast? (h : a.CallCourse operation call events result)
    {outcome : Except Fault Json} (hlast : (outcomes events).getLast? = some outcome)
    (hs : Settles outcome) : result = outcome := by
  cases h with
  | disabled | anonymous => cases hlast
  | attempted h hc hcourse =>
    rcases hcourse.result_eq with ⟨hlast', -⟩ | ⟨-, hunset, -⟩
    · rw [hlast] at hlast'
      exact (Option.some.inj hlast').symm
    · exact absurd hs (hunset _ (List.mem_of_getLast? hlast))

/-- The result is data if they came back last. -/
theorem eq_ok_iff (h : a.CallCourse operation call events result) {data : Json} :
    result = .ok data ↔ (outcomes events).getLast? = some (.ok data) := by
  refine ⟨?_, fun hlast => h.result_of_getLast? hlast trivial⟩
  rintro rfl
  cases h with
  | attempted h hc hcourse =>
    rcases hcourse.result_eq with ⟨hlast, -⟩ | ⟨-, -, hresult⟩
    · exact hlast
    · cases hresult

/-- **The result is a failure if and as the settings and the replies tell.** -/
theorem eq_error_iff (h : a.CallCourse operation call events result) {f : Fault} :
    result = .error f ↔ a.CallFailure operation events f := by
  constructor
  · rintro rfl
    cases h with
    | disabled h => exact .disabled h
    | anonymous h hc => exact .anonymous h hc
    | attempted h hc hcourse =>
      -- the attempts ended with one that settles the matter, or with the last that there was
      rcases hcourse.result_eq with ⟨hlast, hset⟩ | ⟨hlength, hunset, hresult⟩
      · exact .refused hlast hset
      · cases hresult
        exact .exhausted h (by simp [hc]) hlength hunset
  · intro hfailure
    -- each failure contradicts the courses of the others: the switch, credentials or replies differ
    cases hfailure with
    | disabled hoff =>
      cases h with
      | disabled => rfl
      | anonymous h | attempted h => simp [hoff] at h
    | anonymous hon hnone =>
      cases h with
      | disabled h => simp [hon] at h
      | anonymous => rfl
      | attempted h hc => simp [hnone] at hc
    | refused hlast hset => exact h.result_of_getLast? hlast hset
    | exhausted hon hsome hlength hunset =>
      cases h with
      | disabled h => simp [hon] at h
      | anonymous h hc => exact absurd hc hsome
      | attempted h hc hcourse =>
        rcases hcourse.result_eq with ⟨hlast, hset⟩ | ⟨-, -, hresult⟩
        · exact absurd hset (hunset _ (List.mem_of_getLast? hlast))
        · exact hresult

end CallCourse

end Adapter

end LiveTrader.Gmo
