import Mathlib.Data.List.Forall2
import Mathlib.Data.Option.Basic
import LiveTrader.Proofs.Operations

/-!
  LiveTrader.Proofs.Concurrence

  Runs of an operation with different credentials.  Two requests agree if they are the same but for
  the values of three headers.  Two runs that get the same replies concur: they have the same
  result, and their requests agree one by one.  The courses of the operations show it, for any two
  worlds, whatever their clocks say.
-/

namespace LiveTrader

/-! ## Requests that agree -/

namespace Request

/-- The headers that the credentials and the time make. -/
def signingHeaders : List String := ["API-KEY", "API-TIMESTAMP", "API-SIGN"]

/-- Two headers have the same name, and the same value unless it is one that signs. -/
def HeadersAgree (h h' : String × String) : Prop :=
  h.1 = h'.1 ∧ (h.2 = h'.2 ∨ h.1 ∈ signingHeaders)

/-- Two requests are the same but for what signs them. -/
structure AgreesWith (r r' : Request) : Prop where
  method : r.method = r'.method
  path : r.path = r'.path
  query : r.query = r'.query
  body : r.body = r'.body
  isPrivate : r.isPrivate = r'.isPrivate
  headers : List.Forall₂ HeadersAgree r.headers r'.headers

theorem AgreesWith.refl (r : Request) : r.AgreesWith r :=
  ⟨rfl, rfl, rfl, rfl, rfl, List.forall₂_same.mpr fun _ _ => ⟨rfl, .inl rfl⟩⟩

end Request

namespace Gmo

open Tracing (Ends)

variable {σ τ : Type}

/-- A call agrees with itself, whoever signs it and when. -/
theorem Adapter.Call.sign_agreesWith (call : Adapter.Call) (c c' : Credentials)
    (timestamp timestamp' : String) :
    (call.sign c timestamp).AgreesWith (call.sign c' timestamp') := by
  refine ⟨rfl, rfl, rfl, rfl, rfl, ?_⟩
  refine .cons ⟨rfl, .inr ?_⟩ (.cons ⟨rfl, .inr ?_⟩ (.cons ⟨rfl, .inr ?_⟩ .nil)) <;>
    simp [Request.signingHeaders]

/-! ## Runs that are answered alike -/

/-- Two runs have the same result, and their requests agree one by one. -/
structure Indistinct {α : Type} (events : List GatewayEvent) (result : α)
    (events' : List GatewayEvent) (result' : α) : Prop where
  result_eq : result = result'
  replies_eq : replies events = replies events'
  agree : List.Forall₂ Request.AgreesWith (sent events) (sent events')

namespace Indistinct

variable {α β : Type} {events later events' later' : List GatewayEvent} {a a' : α} {b b' : β}

theorem nil (a : α) : Indistinct [] a [] a := ⟨rfl, rfl, .nil⟩

theorem map (f : α → β) (h : Indistinct events a events' a') :
    Indistinct events (f a) events' (f a') :=
  ⟨congrArg f h.result_eq, h.replies_eq, h.agree⟩

theorem append (h : Indistinct events a events' a') (hlater : Indistinct later b later' b') :
    Indistinct (events ++ later) b (events' ++ later') b' where
  result_eq := hlater.result_eq
  replies_eq := by
    rw [replies_append, replies_append, h.replies_eq, hlater.replies_eq]
  agree := by
    rw [sent_append, sent_append]
    exact List.rel_append h.agree hlater.agree

end Indistinct

/-- Whatever replies come, in order, the runs of one course and of the other that get them have the
    same result and agree in their requests. -/
def Concur {α : Type} (Course Course' : List GatewayEvent → α → Prop) : Prop :=
  ∀ ⦃events result events' result' script⦄, Course events result → Course' events' result' →
    replies events <+: script → replies events' <+: script →
    Indistinct events result events' result'

theorem Concur.map {α β : Type} {Course Course' : List GatewayEvent → α → Prop}
    (h : Concur Course Course') (f : α → β) :
    Concur (fun events b => ∃ a, Course events a ∧ b = f a)
      (fun events b => ∃ a, Course' events a ∧ b = f a) := by
  rintro _ _ _ _ _ ⟨a, ha, rfl⟩ ⟨a', ha', rfl⟩ hs hs'
  exact (h ha ha' hs hs').map f

/-- Whatever replies two computations get, in order, they have the same result and agree in their
    requests. -/
def RunsConcur {α : Type} (act : Tracing GatewayEvent σ α) (act' : Tracing GatewayEvent τ α) :
    Prop :=
  ∀ s t script, replies (act.run ⟨s, []⟩).2.trace <+: script →
    replies (act'.run ⟨t, []⟩).2.trace <+: script →
      Indistinct (act.run ⟨s, []⟩).2.trace (act.run ⟨s, []⟩).1
        (act'.run ⟨t, []⟩).2.trace (act'.run ⟨t, []⟩).1

/-- Actions whose courses concur run alike wherever they start. -/
theorem Concur.runs {α : Type} {Course Course' : List GatewayEvent → α → Prop}
    {act : Tracing GatewayEvent σ α} {act' : Tracing GatewayEvent τ α} (h : Concur Course Course')
    (hact : ∀ s, Ends act s fun events result _ => Course events result)
    (hact' : ∀ t, Ends act' t fun events result _ => Course' events result) :
    RunsConcur act act' :=
  fun s t _ hs hs' => h (hact s).run (hact' t).run hs hs'

/-- After the same replies those to come are again of one script. -/
theorem exists_script {α : Type} {past xs ys script : List α} (hx : past ++ xs <+: script)
    (hy : past ++ ys <+: script) : ∃ rest, xs <+: rest ∧ ys <+: rest := by
  obtain ⟨later, rfl⟩ := hx
  rw [List.append_assoc, List.prefix_append_right_inj] at hy
  exact ⟨xs ++ later, List.prefix_append xs later, hy⟩

namespace Adapter

/-! ## Private operations -/

section Private

variable {a : Adapter (StateM σ)} {a' : Adapter (StateM τ)} {c c' : Credentials} {call : Call}

/-- Attempts with different credentials differ in what the credentials make of them alone. -/
theorem SignedAttempt.concur {index index' : Nat} :
    Concur (SignedAttempt c call index) (SignedAttempt c' call index') := by
  rintro _ _ _ _ script ⟨millis, reply, rfl, rfl⟩ ⟨millis', reply', rfl, rfl⟩ h h'
  obtain ⟨later, rfl⟩ := h
  -- both have got the first reply of the script
  obtain rfl : reply' = reply := (List.cons_prefix_cons.mp h').1
  exact ⟨rfl, rfl, .cons (call.sign_agreesWith _ _ _ _) .nil⟩

theorem indistinct_pause {p p' : RetryPolicy} {index left index' left' : Nat} :
    Indistinct (p.pause (fun time => [GatewayEvent.sleep time]) index left) ()
      (p'.pause (fun time => [.sleep time]) index' left') () :=
  ⟨rfl, by rw [replies_pause, replies_pause], by rw [sent_pause, sent_pause]; exact .nil⟩

/-- As many attempts concur, however long is waited between them. -/
theorem AttemptCourse.concur {index index' left : Nat} :
    Concur (a.AttemptCourse c call index left) (a'.AttemptCourse c' call index' left) := by
  intro events result events' result' script h h' hs hs'
  -- on the attempts of the first run; that of the second has had the same replies so far
  induction h generalizing index' events' result' script with
  | spent =>
    cases h'
    exact .nil _
  | settled h hsettles =>
    cases h' with
    | settled h' => exact SignedAttempt.concur h h' hs hs'
    | again h' hopen =>
      rw [replies_append] at hs'
      -- the same reply settles the matter in both runs or in neither
      have hfirst := SignedAttempt.concur h h' hs ((List.prefix_append _ _).trans hs')
      exact absurd (hfirst.result_eq ▸ hsettles) hopen
  | again h hopen hrest ih =>
    rw [replies_append, replies_append, replies_pause, List.nil_append] at hs
    have hstart := (List.prefix_append _ _).trans hs
    cases h' with
    | settled h' hsettles =>
      have hfirst := SignedAttempt.concur h h' hstart hs'
      exact absurd (hfirst.result_eq ▸ hsettles) hopen
    | again h' _ hrest' =>
      rw [replies_append, replies_append, replies_pause, List.nil_append] at hs'
      have hfirst := SignedAttempt.concur h h' hstart ((List.prefix_append _ _).trans hs')
      -- what is left of the script after this attempt is the same for both
      rw [hfirst.replies_eq] at hs
      obtain ⟨rest, hlater, hlater'⟩ := exists_script hs hs'
      exact hfirst.append (indistinct_pause.append (ih hrest' hlater hlater'))

/-- Private calls concur if both are made, whatever the credentials. -/
theorem CallCourse.concur {operation : String} (hsettings : a.settings = a'.settings)
    (hc : a.credentials ≠ none) (hc' : a'.credentials ≠ none) :
    Concur (a.CallCourse operation call) (a'.CallCourse operation call) := by
  intro events result events' result' script h h' hs hs'
  -- with credentials on both sides the switch decides alike, and only attempts remain
  cases h with
  | disabled hoff =>
    cases h' with
    | disabled => exact .nil _
    | anonymous _ hnone => exact absurd hnone hc'
    | attempted hon => simp [← hsettings, hoff] at hon
  | anonymous _ hnone => exact absurd hnone hc
  | attempted hon _ hcourse =>
    cases h' with
    | disabled hoff => simp [← hsettings, hon] at hoff
    | anonymous _ hnone => exact absurd hnone hc'
    | attempted _ _ hcourse' =>
      rw [hsettings] at hcourse
      exact AttemptCourse.concur hcourse hcourse' hs hs'

/-- Private operations run alike with any two credentials. -/
theorem perform_concur (hsettings : a.settings = a'.settings) (hc : a.credentials ≠ none)
    (hc' : a'.credentials ≠ none) (op : PrivateOperation) :
    RunsConcur (a.traced.perform op) (a'.traced.perform op) := by
  refine ((CallCourse.concur hsettings hc hc').map (op.answer a.settings)).runs
    (a.perform_ends op) fun t => ?_
  rw [hsettings]
  exact a'.perform_ends op t

end Private

/-! ## Public operations -/

section Public

variable {a : Adapter (StateM σ)} {a' : Adapter (StateM τ)} {symbol interval : String}

/-- Public data takes the same course with any credentials. -/
theorem PublicCourse.concur {operation : String} {request : Request}
    (hsettings : a.settings = a'.settings) :
    Concur (a.PublicCourse operation request) (a'.PublicCourse operation request) := by
  intro events result events' result' script h h' hs hs'
  cases h with
  | disabled hoff =>
    cases h' with
    | disabled => exact .nil _
    | asked hon => simp [← hsettings, hoff] at hon
  | asked hon reply =>
    cases h' with
    | disabled hoff => simp [← hsettings, hon] at hoff
    | asked _ reply' =>
      obtain ⟨later, rfl⟩ := hs
      obtain rfl : reply' = reply := (List.cons_prefix_cons.mp hs').1
      exact ⟨rfl, rfl, .cons (.refl _) .nil⟩

theorem DatesCourse.concur {dates : List String} (hsettings : a.settings = a'.settings) :
    Concur (a.DatesCourse symbol interval dates) (a'.DatesCourse symbol interval dates) := by
  intro events result events' result' script h h' hs hs'
  -- on the dates that the first run has asked for; equal replies fail at the same date
  induction h generalizing events' result' script with
  | done =>
    cases h'
    exact .nil _
  | failed h hfault =>
    cases h' with
    | failed h' hfault' =>
      have hfirst := PublicCourse.concur hsettings h h' hs hs'
      rw [hfirst.result_eq, hfault'] at hfault
      cases hfault
      exact hfirst.map fun _ => Except.error _
    | next h' hhere' =>
      rw [replies_append] at hs'
      have hfirst := PublicCourse.concur hsettings h h' hs ((List.prefix_append _ _).trans hs')
      rw [hfirst.result_eq, hhere'] at hfault
      cases hfault
  | next h hhere hrest ih =>
    rw [replies_append] at hs
    have hstart := (List.prefix_append _ _).trans hs
    cases h' with
    | failed h' hfault' =>
      have hfirst := PublicCourse.concur hsettings h h' hstart hs'
      rw [hfirst.result_eq, hfault'] at hhere
      cases hhere
    | next h' hhere' hrest' =>
      rw [replies_append] at hs'
      have hfirst := PublicCourse.concur hsettings h h' hstart ((List.prefix_append _ _).trans hs')
      rw [hfirst.result_eq, hhere'] at hhere
      cases hhere
      -- the later dates are asked with what is left of the same script
      rw [hfirst.replies_eq] at hs
      obtain ⟨rest, hlater, hlater'⟩ := exists_script hs hs'
      exact hfirst.append ((ih hrest' hlater hlater').map _)

/-- Public operations run alike with any two credentials, or with none. -/
theorem performPublic?_concur (hsettings : a.settings = a'.settings) (op : PublicOperation) :
    Option.Rel RunsConcur (a.traced.performPublic? op) (a'.traced.performPublic? op) := by
  cases op with
  | ticker symbol =>
    let request := publicRequest "/public/v1/ticker" [("symbol", symbol)]
    -- the ticker is a function of the one reply and of the settings, which are the same
    have hasked : Concur (a.PublicCourse "fetch_ticker" request)
        (a'.PublicCourse "fetch_ticker" request) := PublicCourse.concur hsettings
    refine .some ((hasked.map fun outcome => .ticker
      (outcome.bind (tickerIn a.settings.productType symbol))).runs (fun s => ?_) fun t => ?_)
    · refine .map ((a.fetchTicker_ends symbol s).mono ?_)
      rintro events _ _ ⟨outcome, h, rfl⟩
      exact ⟨outcome, h, rfl⟩
    · rw [hsettings]
      refine .map ((a'.fetchTicker_ends symbol t).mono ?_)
      rintro events _ _ ⟨outcome, h, rfl⟩
      exact ⟨outcome, h, rfl⟩
  | klines symbol interval start finish limit =>
    -- an empty window is answered without a request, and one at the calendar's end not at all
    cases hwindow : finish.lt start with
    | true =>
      rw [performPublic?_klines_of_lt _ hwindow, performPublic?_klines_of_lt _ hwindow]
      exact .some fun _ _ _ _ _ => .nil _
    | false =>
      rw [performPublic?_klines _ hwindow, performPublic?_klines _ hwindow]
      cases windowDates? interval start finish with
      | none => exact .none
      | some dates =>
        have hasked : Concur (a.DatesCourse symbol interval dates)
            (a'.DatesCourse symbol interval dates) := DatesCourse.concur hsettings
        refine .some ((hasked.map fun received => .klines (.ofExcept
          (received.map fun ks => assemble limit (ks.filter (inWindow start finish))))).runs ?_ ?_)
        · exact fun s => .map ((a.fetchDates_ends symbol interval dates s).mono
            fun _ received _ h => ⟨received, h, rfl⟩)
        · exact fun t => .map ((a'.fetchDates_ends symbol interval dates t).mono
            fun _ received _ h => ⟨received, h, rfl⟩)

end Public

end Adapter

end Gmo

end LiveTrader
