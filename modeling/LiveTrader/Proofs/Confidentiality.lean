import LiveTrader.Cycle.Scripted
import LiveTrader.Gmo.Scripted
import LiveTrader.Gmo.Streams
import LiveTrader.Proofs.Concurrence
import LiveTrader.Proofs.CycleRuns
import LiveTrader.Proofs.Lockstep

/-!
  LiveTrader.Proofs.Confidentiality

  What credentials can be told from.  The operations of two adapters that differ in their
  credentials concur.  Where the world answers requests that agree alike, whoever sends them and
  when, they are in lockstep, and so are the cycles that trade through them: the same is reported,
  noted and told, and the same is entered in the journal.
-/

namespace LiveTrader

variable {σ τ α β : Type} {R : σ → τ → Prop}

/-! ## Private calls and streams in lockstep -/

namespace Lockstep

/-- Attempts that run alike run alike when they are repeated. -/
theorem attempts (p : RetryPolicy) {sleep : Span → StateM σ Unit} {sleep' : Span → StateM τ Unit}
    {call : Nat → StateM σ (Except Fault α)} {call' : Nat → StateM τ (Except Fault α)}
    (hsleep : ∀ time, Lockstep R (sleep time) (sleep' time))
    (hcall : ∀ index, Lockstep R (call index) (call' index)) (index left : Nat) :
    Lockstep R (p.attempts sleep call index left) (p.attempts sleep' call' index left) := by
  induction left generalizing index with
  | zero => exact .pure _
  | succ left ih =>
    unfold RetryPolicy.attempts
    refine .bind (hcall index) fun reply => ?_
    cases reply with
    | ok value => exact .pure _
    | error fault =>
      refine .ite (.pure _) (.ite (.pure _) ?_)
      exact .ite (.bind (hsleep _) fun _ => ih _) (ih _)

/-- Streams over connections that open alike are followed alike. -/
theorem followFrom (parse : Json → Option α) {connect : StateM σ Connection}
    {connect' : StateM τ Connection} (h : Lockstep R connect connect') (mayReopen : Bool)
    (opens : Nat) :
    Lockstep R (followFrom parse connect mayReopen opens)
      (followFrom parse connect' mayReopen opens) := by
  induction opens generalizing mayReopen with
  | zero => exact .pure _
  | succ opens ih =>
    unfold LiveTrader.followFrom
    exact .bind h fun c => .ite (.bind (ih false) fun _ => .pure _) (.pure _)

end Lockstep

/-! ## Sessions over the same bytes -/

namespace WebSocket

/-- Two sessions whose peers have the same to send, whatever was written to them. -/
def SameUnread (s s' : Session) : Prop := s.unread = s'.unread

namespace Session

theorem write_lockstep (bytes bytes' : List UInt8) :
    Lockstep SameUnread (write bytes) (write bytes') :=
  fun _ _ h => ⟨rfl, h⟩

theorem read_lockstep (r : Receive α) : Lockstep SameUnread (read r) (read r) := by
  rintro ⟨unread, writes⟩ ⟨_, writes'⟩ rfl
  exact ⟨rfl, rfl⟩

/-- How much is unread may be asked for: it is as much in both sessions. -/
theorem withUnread_lockstep {next : Nat → StateM Session α}
    (hnext : ∀ length, Lockstep SameUnread (next length) (next length)) :
    Lockstep SameUnread (get >>= fun s => next (s.unread.length + 1))
      (get >>= fun s => next (s.unread.length + 1)) := by
  rintro ⟨unread, writes⟩ ⟨_, writes'⟩ rfl
  exact hnext _ _ _ rfl

/-- The next text is the same where the same bytes are unread. -/
theorem nextTextWithin_lockstep (frames : Nat) :
    Lockstep SameUnread (nextTextWithin frames) (nextTextWithin frames) := by
  induction frames with
  | zero => exact .pure _
  | succ frames ih =>
    unfold nextTextWithin
    refine .bind (read_lockstep _) fun reply => ?_
    cases reply with
    | error e => exact .pure _
    | ok frame =>
      dsimp only
      split
      · split <;> exact .pure _
      · exact .bind (write_lockstep _ _) fun _ => ih
      · exact .pure _
      · exact ih

end Session

theorem messagesWithin_lockstep (texts : Nat) :
    Lockstep SameUnread (messagesWithin texts) (messagesWithin texts) := by
  induction texts with
  | zero => exact .pure _
  | succ texts ih =>
    unfold messagesWithin
    refine .bind (Session.withUnread_lockstep Session.nextTextWithin_lockstep) fun reply => ?_
    cases reply with
    | error e => exact .pure _
    | ok text =>
      dsimp only
      split
      · exact ih
      · exact .pure _
      · exact .bind ih fun _ => .pure _

/-- **What is read after a subscription is told by the bytes of the peer**, whatever was sent to
    it. -/
theorem subscribe_lockstep (host path key key' : String) (mask mask' : MaskKey)
    (command command' : Json) :
    Lockstep SameUnread (subscribe host path key mask command)
      (subscribe host path key' mask' command') := by
  unfold subscribe Session.upgrade
  refine .bind (.bind (Session.write_lockstep _ _) fun _ => Session.read_lockstep _) fun reply => ?_
  cases reply with
  | error e => exact .pure _
  | ok =>
    exact .bind (Session.write_lockstep _ _) fun _ =>
      Session.withUnread_lockstep messagesWithin_lockstep

end WebSocket

namespace Gmo

/-! ## Worlds that answer alike -/

/-- Requests that agree are answered alike, whatever the clocks say, and connections are opened
    alike, whoever asks for them. -/
structure Gateway.Alike (R : σ → τ → Prop) (g : Gateway (StateM σ)) (g' : Gateway (StateM τ)) :
    Prop where
  send : ∀ r r', r.AgreesWith r' → Lockstep R (g.send r) (g'.send r')
  now : Abreast R g.now g'.now
  sleep : ∀ time, Lockstep R (g.sleep time) (g'.sleep time)
  dial : ∀ credentials credentials' channel,
    Lockstep R (g.dial credentials channel) (g'.dial credentials' channel)

/-- Feeds that open connections alike, or none. -/
abbrev FeedsAlike (R : σ → τ → Prop) :
    Option (Channel → StateM σ Connection) → Option (Channel → StateM τ Connection) → Prop :=
  Option.Rel fun connect connect' => ∀ channel, Lockstep R (connect channel) (connect' channel)

namespace Adapter

/-- Two adapters with the same settings, in worlds that answer alike; both have credentials, or
    neither has. -/
structure Alike (R : σ → τ → Prop) (a : Adapter (StateM σ)) (a' : Adapter (StateM τ)) : Prop where
  settings : a.settings = a'.settings
  credentials : a.credentials.isSome = a'.credentials.isSome
  gateway : a.gateway.Alike R a'.gateway
  feed : FeedsAlike R a.feed a'.feed

namespace Alike

variable {a : Adapter (StateM σ)} {a' : Adapter (StateM τ)}

theorem credentials_cases (h : a.Alike R a') : a.credentials = none ∧ a'.credentials = none ∨
    ∃ c c', a.credentials = some c ∧ a'.credentials = some c' := by
  have hsome := h.credentials
  cases hc : a.credentials <;> cases hc' : a'.credentials <;> simp_all

theorem credentialsMissing_eq (h : a.Alike R a') :
    a.credentialsMissing = a'.credentialsMissing := by
  unfold credentialsMissing
  rw [h.settings]

theorem attempt (h : a.Alike R a') (c c' : Credentials) (call : Call) :
    Lockstep R (a.attempt c call) (a'.attempt c' call) :=
  -- the times may differ: requests signed at either agree
  h.gateway.now.bind fun _ _ =>
    .bind (h.gateway.send _ _ (call.sign_agreesWith _ _ _ _)) fun _ => .pure _

theorem privateCall (h : a.Alike R a') (operation : String) (call : Call) :
    Lockstep R (a.privateCall operation call) (a'.privateCall operation call) := by
  unfold Adapter.privateCall
  rw [h.credentialsMissing_eq, h.settings]
  refine .ite ?_ (.pure _)
  rcases h.credentials_cases with ⟨hc, hc'⟩ | ⟨c, c', hc, hc'⟩
  · rw [hc, hc']
    exact .pure _
  · rw [hc, hc']
    exact .attempts _ h.gateway.sleep (fun _ => h.attempt c c' call) _ _

/-- Connections to a stream are opened alike, or neither stream has any. -/
theorem opener (h : a.Alike R a') (channel : Channel) :
    (∃ faults, a.opener channel = .error faults ∧ a'.opener channel = .error faults) ∨
      ∃ connect connect', a.opener channel = .ok connect ∧ a'.opener channel = .ok connect' ∧
        Lockstep R connect connect' := by
  have hmissing := h.credentialsMissing_eq
  have hcases := h.credentials_cases
  obtain ⟨settings, credentials, gateway, feed⟩ := a
  obtain ⟨settings', credentials', gateway', feed'⟩ := a'
  obtain ⟨rfl, -, hgateway, hfeed⟩ := h
  unfold Adapter.opener
  -- a feed opens connections without credentials; without one both sides have them or neither
  cases hfeed with
  | some hconnect => exact .inr ⟨_, _, rfl, rfl, hconnect channel⟩
  | none =>
    dsimp only
    split
    case isFalse => exact .inl ⟨_, rfl, rfl⟩
    case isTrue =>
      rcases hcases with ⟨rfl, rfl⟩ | ⟨c, c', rfl, rfl⟩
      · exact .inl ⟨_, rfl, by rw [hmissing]⟩
      · exact .inr ⟨_, _, rfl, rfl, hgateway.dial c c' channel⟩

theorem stream (h : a.Alike R a') (channel : Channel) (parse : Json → Option α) (opens : Nat) :
    Lockstep R (a.stream channel parse opens) (a'.stream channel parse opens) := by
  unfold Adapter.stream
  rcases h.opener channel with ⟨faults, ho, ho'⟩ | ⟨connect, connect', ho, ho', hconnect⟩
  · rw [ho, ho']
    exact .pure _
  · rw [ho, ho']
    exact .followFrom parse hconnect true opens

theorem arrival (h : a.Alike R a') (channel : Channel) (parse : Json → Option α) :
    Lockstep R (a.arrival channel parse) (a'.arrival channel parse) := by
  unfold Adapter.arrival
  refine .bind (h.stream channel parse 1) fun items => ?_
  cases items.head? <;> exact .pure _

/-- **The operations of alike adapters are in lockstep.** -/
theorem operations (h : a.Alike R a') : a.operations.Alike R a'.operations where
  place order := .bind (h.privateCall _ _) fun _ => .pure _
  fetch orderId := by
    unfold Adapter.operations fetchOrder
    rw [h.settings]
    exact .bind (h.privateCall _ _) fun _ => .pure _
  cancel orderId := by
    unfold Adapter.operations cancelOrder
    rw [h.settings]
    exact .bind (h.privateCall _ _) fun _ => .pure _
  balances accountType := by
    unfold Adapter.operations fetchBalances
    rw [h.settings]
    exact .bind (h.privateCall _ _) fun _ => .pure _
  firstEvents timeout := by
    unfold Adapter.operations Adapter.firstEvents
    rw [h.settings]
    exact .bind (h.arrival _ _) fun _ => .bind (h.arrival _ _) fun _ => .pure _

end Alike

end Adapter

end Gmo

/-! ## Cycles in lockstep -/

/-- The states of two watched cycles, in related worlds: the journals are the same, and so is what
    was called and what came of it. -/
structure InStep (R : σ → τ → Prop) (a : Traced CycleEvent (CycleState σ))
    (b : Traced CycleEvent (CycleState τ)) : Prop where
  journal : a.state.journal = b.state.journal
  world : R a.state.world b.state.world
  trace : a.trace = b.trace

theorem Lockstep.onWorld {act : StateM σ α} {act' : StateM τ α} (h : Lockstep R act act')
    (events : α → List CycleEvent) :
    Lockstep (InStep R) (Tracing.call (CycleState.onWorld act) events)
      (Tracing.call (CycleState.onWorld act') events) := by
  rintro ⟨⟨j, w⟩, trace⟩ ⟨⟨_, w'⟩, _⟩ ⟨rfl, hw, rfl⟩
  obtain ⟨hresult, hafter⟩ := h w w' hw
  exact ⟨hresult, rfl, hafter, congrArg (fun a => trace ++ events a) hresult⟩

/-- What is told is the same, whatever comes of it. -/
theorem Abreast.onWorld {act : StateM σ α} {act' : StateM τ α} (h : Abreast R act act')
    (events : List CycleEvent) :
    Abreast (InStep R) (Tracing.call (CycleState.onWorld act) fun _ => events)
      (Tracing.call (CycleState.onWorld act') fun _ => events) := by
  rintro ⟨⟨j, w⟩, trace⟩ ⟨⟨_, w'⟩, _⟩ ⟨rfl, hw, rfl⟩
  exact ⟨rfl, h w w' hw, rfl⟩

namespace InStep

theorem onJournal (act : StateM Journal α) (events : α → List CycleEvent) :
    Lockstep (InStep R) (Tracing.call (CycleState.onJournal act) events)
      (Tracing.call (CycleState.onJournal act) events) := by
  rintro ⟨⟨j, w⟩, trace⟩ ⟨⟨_, w'⟩, _⟩ ⟨rfl, hw, rfl⟩
  exact ⟨rfl, rfl, hw, rfl⟩

theorem journalAccess : Journal.watched.Alike (InStep R) Journal.watched :=
  ⟨fun _ => onJournal _ _, fun _ _ => onJournal _ _⟩

end InStep

namespace Surroundings.Alike

variable {s : Surroundings (StateM σ)} {s' : Surroundings (StateM τ)}

/-- Surroundings that run alike are watched alike. -/
theorem watched (h : s.Alike R s') : s.watched.Alike (InStep R) s'.watched where
  exchange := {
    place order := (h.exchange.place order).onWorld _
    fetch orderId := (h.exchange.fetch orderId).onWorld _
    cancel orderId := (h.exchange.cancel orderId).onWorld _
    balances accountType := (h.exchange.balances accountType).onWorld _
    firstEvents timeout := (h.exchange.firstEvents timeout).onWorld _ }
  inputs := h.inputs.onWorld _
  freshRunId := h.freshRunId.onWorld _
  freshOrderId symbol := (h.freshOrderId symbol).onWorld _
  audit eventType payload := (h.audit eventType payload).onWorld _
  progress p := (h.progress p).onWorld _

/-- From the same journal and related worlds the next cycles are the same. -/
theorem nextCycle_eq (h : s.Alike R s') (config : Config) (reconnectCount : Nat)
    {st : CycleState σ} {st' : CycleState τ} (hj : st.journal = st'.journal)
    (hw : R st.world st'.world) :
    CycleRun.nextCycle s config st reconnectCount =
        CycleRun.nextCycle s' config st' reconnectCount ∧
      R ((Cycle.runWithJournal s config reconnectCount).run st).2.world
        ((Cycle.runWithJournal s' config reconnectCount).run st').2.world := by
  obtain ⟨hresult, hafter⟩ := h.watched.run config InStep.journalAccess reconnectCount
    ⟨st, []⟩ ⟨st', []⟩ ⟨hj, hw, rfl⟩
  unfold CycleRun.nextCycle Cycle.callsOf
  rw [← Cycle.run_watched_erases s config reconnectCount ⟨st, []⟩,
    ← Cycle.run_watched_erases s' config reconnectCount ⟨st', []⟩]
  refine ⟨?_, hafter.world⟩
  rw [CycleRecord.mk.injEq]
  exact ⟨rfl, hj, hafter.trace, hresult, hafter.journal⟩

end Surroundings.Alike

namespace CycleRun

/-- Two runs with the same cycles, which have left the same journal and related worlds. -/
structure SameCycles (R : σ → τ → Prop) (run : CycleRun σ) (run' : CycleRun τ) : Prop where
  cycles : run.cycles = run'.cycles
  journal : run.state.journal = run'.state.journal
  world : R run.state.world run'.state.world

variable {s : Surroundings (StateM σ)} {s' : Surroundings (StateM τ)}

/-- Runs with the same cycles so far have the same next cycle. -/
theorem SameCycles.extend {run : CycleRun σ} {run' : CycleRun τ} (h : SameCycles R run run')
    (hs : s.Alike R s') (config : Config) (reconnectCount : Nat) :
    SameCycles R (run.extend s config reconnectCount) (run'.extend s' config reconnectCount) := by
  obtain ⟨hcycle, hworld⟩ := hs.nextCycle_eq config reconnectCount h.journal h.world
  refine ⟨?_, congrArg CycleRecord.after hcycle, hworld⟩
  rw [cycles_extend, cycles_extend, h.cycles, hcycle]

/-- **In alike surroundings all cycles are the same.** -/
theorem sameCycles_of (hs : s.Alike R s') (config : Config) {world : σ} {world' : τ}
    (hw : R world world') (reconnectCounts : List Nat) :
    SameCycles R (of s config world reconnectCounts) (of s' config world' reconnectCounts) := by
  unfold of
  induction reconnectCounts using List.reverseRecOn with
  | nil => exact ⟨rfl, rfl, hw⟩
  | append_singleton counts count ih =>
    rw [List.foldl_concat, List.foldl_concat]
    exact ih.extend hs config count

end CycleRun

/-! ## Adapters -/

namespace Gmo

/-- Nothing tells two adapters apart but the values of the headers that sign. -/
structure Adapter.Inseparable (a : Adapter (StateM σ)) (a' : Adapter (StateM τ)) : Prop where
  /-- With the same replies private operations have the same results, and send requests that
      agree. -/
  performs : ∀ op, RunsConcur (a.traced.perform op) (a'.traced.perform op)
  /-- So do public operations, where there are any. -/
  publics : ∀ op, Option.Rel RunsConcur (a.traced.performPublic? op) (a'.traced.performPublic? op)
  /-- From the same bytes the same is read of a connection. -/
  connections : ∀ c ∈ a.credentials, ∀ c' ∈ a'.credentials,
    ∀ timestamp timestamp' channel host path key key' mask mask' bytes,
      ((socketConnection c timestamp channel host path key mask).run (.start bytes)).1 =
        ((socketConnection c' timestamp' channel host path key' mask').run (.start bytes)).1
  /-- Cycles that trade through them are the same, with their calls, notes and reports, in all
      surroundings that are alike around alike exchanges. -/
  cycles : ∀ {υ φ : Type} (R : σ → τ → Prop) (S : υ → φ → Prop)
    (around : Exchange (StateM σ) → Surroundings (StateM υ))
    (around' : Exchange (StateM τ) → Surroundings (StateM φ)),
    a.gateway.Alike R a'.gateway → FeedsAlike R a.feed a'.feed →
    (∀ e e', e.Alike R e' → (around e).Alike S (around' e')) →
    ∀ config world world', S world world' → ∀ reconnectCounts,
      (CycleRun.of (around a.operations) config world reconnectCounts).cycles =
        (CycleRun.of (around' a'.operations) config world' reconnectCounts).cycles

/-- **Credentials do not leak.**  Two adapters with credentials of their own, in worlds of their
    own, do the same with the same replies: they differ in what signs a request, and in nothing
    that is answered, reported, noted or told. -/
theorem Adapter.inseparable_of_credentials (settings : Settings) (c c' : Credentials)
    (gateway : Gateway (StateM σ)) (gateway' : Gateway (StateM τ))
    (feed : Option (Channel → StateM σ Connection))
    (feed' : Option (Channel → StateM τ Connection)) :
    Inseparable ⟨settings, some c, gateway, feed⟩ ⟨settings, some c', gateway', feed'⟩ where
  performs := perform_concur rfl (Option.some_ne_none c) (Option.some_ne_none c')
  publics := performPublic?_concur rfl
  connections _ _ _ _ _ _ _ _ _ _ _ _ _ _ :=
    (WebSocket.subscribe_lockstep _ _ _ _ _ _ _ _ _ _ rfl).1
  cycles R _ _ _ hgateway hfeed haround config _ _ hworld counts := by
    have hadapters : Alike R ⟨settings, some c, gateway, feed⟩
        ⟨settings, some c', gateway', feed'⟩ := ⟨rfl, rfl, hgateway, hfeed⟩
    exact (CycleRun.sameCycles_of (haround _ _ hadapters.operations) config hworld counts).cycles

namespace ScriptedGateway

/-- Two gateways with the same replies and connections to come. -/
structure SameScript (g g' : ScriptedGateway) : Prop where
  replies : g.replies = g'.replies
  lastReply : g.lastReply = g'.lastReply
  connections : g.connections = g'.connections

/-- The operations on a script run alike, whatever the credentials. -/
theorem operations_alike : operations.Alike SameScript operations where
  send r r' _ := by
    rintro ⟨replies, lastReply, _, connections, _, _, _⟩ ⟨_, _, _, _, _, _, _⟩ ⟨rfl, rfl, rfl⟩
    cases replies <;> exact ⟨rfl, rfl, rfl, rfl⟩
  now _ _ h := h
  sleep time := by
    rintro ⟨_, _, _, _, _, _, _⟩ ⟨_, _, _, _, _, _, _⟩ ⟨rfl, rfl, rfl⟩
    exact ⟨rfl, rfl, rfl, rfl⟩
  dial _ _ _ := .pure _

end ScriptedGateway

/-- Surroundings with a strategy that wants to buy. -/
def wantingToBuy {m : Type → Type} [Monad m] (exchange : Exchange m) : Surroundings m where
  exchange := exchange
  inputs := return .ok {
    snapshot := .flat
    decision := ⟨.buy, .one, []⟩
    close := .small 100 0
    atr := .small 1 0
    balanceOverride := some (.small 10000 0) }
  freshRunId := return "run"
  freshOrderId _ := return ⟨"live-1"⟩
  audit _ _ := return .ok ()
  progress _ := return .ok ()

/-- Cycles that want to buy run alike if the exchanges do. -/
theorem wantingToBuy_alike {e : Exchange (StateM σ)} {e' : Exchange (StateM τ)}
    (h : e.Alike R e') : (wantingToBuy e).Alike R (wantingToBuy e') where
  exchange := h
  inputs := .pure _
  freshRunId := .pure _
  freshOrderId _ := .pure _
  audit _ _ := (Lockstep.pure _).abreast
  progress _ := (Lockstep.pure _).abreast

/-- The key that a request names. -/
def keyOf? (r : Request) : Option String := r.headers.lookup "API-KEY"

/-- Two adapters with keys of their own, at different times, send an order in the same
    cycle. -/
theorem inseparable_scripted :
    let settings := { Settings.standard with useHttp := true }
    let gateway := ScriptedGateway.operations
    let a : Adapter (StateM ScriptedGateway) := ⟨settings, some ⟨"key", "secret"⟩, gateway, none⟩
    let a' : Adapter (StateM ScriptedGateway) := ⟨settings, some ⟨"other", "hidden"⟩, gateway, none⟩
    let world := ScriptedGateway.of [] (.ok (.str "1")) [] 0
    let world' := ScriptedGateway.of [] (.ok (.str "1")) [] 1700000000000
    let run := CycleRun.of (wantingToBuy a.operations) .dryRun world [0]
    let run' := CycleRun.of (wantingToBuy a'.operations) .dryRun world' [0]
    gateway.Alike ScriptedGateway.SameScript gateway ∧
      FeedsAlike ScriptedGateway.SameScript a.feed a'.feed ∧
      ScriptedGateway.SameScript world world' ∧ run.cycles = run'.cycles ∧
      (run.events.filterMap CycleEvent.placed?).length = 1 ∧
      run.state.world.requests.map keyOf? = [some "key", some "key"] ∧
      run'.state.world.requests.map keyOf? = [some "other", some "other"] := by
  intro settings gateway a a' world world' run run'
  refine ⟨ScriptedGateway.operations_alike, .none, ⟨rfl, rfl, rfl⟩, ?_, by decide +kernel,
    by decide +kernel, by decide +kernel⟩
  exact (Adapter.inseparable_of_credentials settings _ _ gateway gateway none none).cycles
    ScriptedGateway.SameScript ScriptedGateway.SameScript wantingToBuy wantingToBuy
    ScriptedGateway.operations_alike .none (fun _ _ => wantingToBuy_alike) .dryRun world world'
    ⟨rfl, rfl, rfl⟩ [0]

end Gmo

end LiveTrader
