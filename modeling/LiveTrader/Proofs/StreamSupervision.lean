import LiveTrader.Proofs.Trace
import LiveTrader.Stream.Supervision

/-!
  LiveTrader.Proofs.StreamSupervision

  What a supervised stream makes of its connections.  Of a connection it reads the messages
  before the first failure and that failure (`Connection.heard`), and yields their events and the
  failure (`Connection.items`).  `Followed` lists how the connections follow each other.  Whether
  there is another one is told by what the stream has yielded so far, for connections of any
  length and number.
-/

namespace LiveTrader

open Tracing (Ends Erases)
open WebSocket (SocketError)

variable {α σ : Type} {parse : Json → Option α}

/-! ## What is read of a connection -/

namespace Connection

/-- The messages before the first failure. -/
def messages : Connection → List Json
  | .ok message :: rest => message :: messages rest
  | _ => []

/-- The first failure. -/
def failure? : Connection → Option SocketError
  | [] => none
  | .error e :: _ => some e
  | .ok _ :: rest => failure? rest

/-- What is read: everything up to the first failure, and nothing after it. -/
def heard (c : Connection) : Connection :=
  c.messages.map .ok ++ c.failure?.toList.map .error

/-- The events that the messages report. -/
def events (parse : Json → Option α) (c : Connection) : List α := c.messages.filterMap parse

/-- What a stream yields for the connection. -/
def items (parse : Json → Option α) (c : Connection) : List (Except Fault α) :=
  (c.events parse).map .ok ++ c.failure?.toList.map fun e => .error e.fault

end Connection

theorem watch_items (parse : Json → Option α) (mayReopen : Bool) (c : Connection) :
    (watch parse mayReopen c).items = c.items parse := by
  induction c generalizing mayReopen with
  | nil => rfl
  | cons raw rest ih =>
    cases raw with
    | error e => rfl
    | ok message =>
      unfold watch Connection.items Connection.events
      rw [Connection.messages, Connection.failure?, List.filterMap_cons]
      cases parse message with
      | none => exact ih mayReopen
      | some event => exact congrArg (List.cons (.ok event)) (ih true)

/-- Another connection is opened after a network failure, if there was the right to it before
    or an event has come. -/
theorem watch_reopen_iff {mayReopen : Bool} {c : Connection} :
    (watch parse mayReopen c).reopen = true ↔
      ∃ e, c.failure? = some e ∧ e.isNetwork = true ∧
        (c.events parse ≠ [] ∨ mayReopen = true) := by
  induction c generalizing mayReopen with
  | nil => simp [watch, Connection.failure?]
  | cons raw rest ih =>
    cases raw with
    | error e =>
      simp [watch, Connection.failure?, Connection.events, Connection.messages]
    | ok message =>
      unfold watch Connection.events
      rw [Connection.messages, Connection.failure?, List.filterMap_cons]
      cases hp : parse message with
      | none => exact ih
      | some event =>
        dsimp only [Watch.cons]
        rw [ih]
        simp

/-- What stands after the first failure makes no difference. -/
theorem watch_heard (parse : Json → Option α) (mayReopen : Bool) (c : Connection) :
    watch parse mayReopen c.heard = watch parse mayReopen c := by
  induction c generalizing mayReopen with
  | nil => rfl
  | cons raw rest ih =>
    cases raw with
    | error e => rfl
    | ok message =>
      have hheard : Connection.heard (.ok message :: rest) =
          .ok message :: Connection.heard rest := rfl
      rw [hheard]
      unfold watch
      cases parse message with
      | none => exact ih mayReopen
      | some event => exact congrArg (Watch.cons (.ok event)) (ih true)

/-! ## Failures of the network -/

/-- The item says that the exchange could not be reached. -/
def isNetworkFailure : Except Fault α → Bool
  | .error f => f.category == .network
  | .ok _ => false

theorem FaultClass.ofCode_networkTimeout : ofCode SourceCode.networkTimeout = .network := by
  decide +kernel

theorem FaultClass.ofCode_connectionError : ofCode SourceCode.connectionError = .network := by
  decide +kernel

theorem FaultClass.ofCode_exchangeError : ofCode SourceCode.exchangeError = .exchange := by
  decide +kernel

/-- Those failures are classified as the network's that another connection may mend. -/
theorem isNetworkFailure_fault (e : SocketError) :
    isNetworkFailure (.error e.fault : Except Fault α) = e.isNetwork := by
  unfold isNetworkFailure SocketError.fault Fault.classify
  cases e <;>
    simp [SocketError.sourceCode, SocketError.isNetwork, FaultClass.ofCode_networkTimeout,
      FaultClass.ofCode_connectionError, FaultClass.ofCode_exchangeError]

/-- After these items there is the right to connect again: an event has followed every failure
    of the network. -/
def MayReconnect (items : List (Except Fault α)) : Prop :=
  ∀ before failure after, items = before ++ failure :: after →
    isNetworkFailure failure = true → ∃ event, .ok event ∈ after

theorem mayReconnect_nil : MayReconnect ([] : List (Except Fault α)) := by
  intro before failure after h
  simp at h

theorem mayReconnect_append_events {past : List (Except Fault α)} {events : List α} :
    MayReconnect (past ++ events.map .ok) ↔ events ≠ [] ∨ MayReconnect past := by
  constructor
  · intro h
    cases events with
    | nil => exact .inr (by simpa using h)
    | cons event rest => exact .inl (List.cons_ne_nil _ _)
  · intro h before failure after hsplit hf
    -- the failure stands among the events, which are none, or before them
    rcases List.append_eq_append_iff.mp hsplit with ⟨mid, rfl, hmid⟩ | ⟨mid, rfl, hmid⟩
    · -- the failure would be one of the events
      have hmem : failure ∈ events.map (Except.ok : α → Except Fault α) := by
        rw [hmid]
        exact List.mem_append_right _ List.mem_cons_self
      obtain ⟨event, -, rfl⟩ := List.mem_map.mp hmem
      cases hf
    · cases mid with
      | nil =>
        have hmem : failure ∈ events.map (Except.ok : α → Except Fault α) := by
          rw [← List.nil_append (events.map _), ← hmid]
          exact List.mem_cons_self
        obtain ⟨event, -, rfl⟩ := List.mem_map.mp hmem
        cases hf
      | cons first mid =>
        obtain ⟨rfl, rfl⟩ := List.cons.inj hmid
        rcases h with hevents | hpast
        · obtain ⟨event, hevent⟩ := List.exists_mem_of_ne_nil events hevents
          exact ⟨event, List.mem_append_right _ (List.mem_map_of_mem hevent)⟩
        · obtain ⟨event, hevent⟩ := hpast before failure mid rfl hf
          exact ⟨event, List.mem_append_left _ hevent⟩

theorem not_mayReconnect_concat {past : List (Except Fault α)} {failure : Except Fault α}
    (hf : isNetworkFailure failure = true) : ¬ MayReconnect (past ++ [failure]) := by
  intro h
  obtain ⟨event, hmem⟩ := h past failure [] rfl hf
  cases hmem

/-! ## Connections one after the other -/

/-- How the connections of a stream follow each other, and what it yields, where at most so many
    may be opened and the first may or may not be followed by another one without an event. -/
inductive Followed (parse : Json → Option α) :
    (mayReopen : Bool) → (opens : Nat) → List Connection → List (Except Fault α) → Prop
  | spent (mayReopen : Bool) : Followed parse mayReopen 0 [] []
  | ended (mayReopen : Bool) (opens : Nat) (c : Connection)
      (h : (watch parse mayReopen c).reopen = false) :
      Followed parse mayReopen (opens + 1) [c] (c.items parse)
  | reopened (mayReopen : Bool) (opens : Nat) (c : Connection) (opened : List Connection)
      (items : List (Except Fault α)) (h : (watch parse mayReopen c).reopen = true)
      (hrest : Followed parse false opens opened items) :
      Followed parse mayReopen (opens + 1) (c :: opened) (c.items parse ++ items)

/-- A factory whose connections are traced. -/
abbrev tracedConnect (connect : StateM σ Connection) : Tracing Connection σ Connection :=
  Tracing.call connect fun c => [c]

/-- **The connections of a stream follow each other in one of the ways.** -/
theorem followFrom_ends (connect : StateM σ Connection) (mayReopen : Bool) (opens : Nat) (s : σ) :
    Ends (followFrom parse (tracedConnect connect) mayReopen opens) s
      fun opened items _ => Followed parse mayReopen opens opened items := by
  induction opens generalizing mayReopen s with
  | zero => exact .pure (.spent mayReopen)
  | succ opens ih =>
    unfold followFrom
    refine .bind (.call ?_)
    dsimp only
    split
    case isTrue h =>
      refine .bind ((ih false _).mono fun opened items s' hrest => .pure ?_)
      rw [List.append_nil, watch_items]
      exact .reopened mayReopen opens _ opened items h hrest
    case isFalse h =>
      refine .pure ?_
      rw [watch_items]
      exact .ended mayReopen opens _ (by simpa using h)

theorem followFrom_erases (connect : StateM σ Connection) (mayReopen : Bool) (opens : Nat) :
    Erases (followFrom parse (tracedConnect connect) mayReopen opens)
      (followFrom parse connect mayReopen opens) := by
  induction opens generalizing mayReopen with
  | zero => exact .pure _
  | succ opens ih =>
    exact .bind (.call _ _) fun c => .ite (.bind (ih false) fun _ => .pure _) (.pure _)

namespace Followed

variable {mayReopen : Bool} {opens : Nat} {opened : List Connection}
  {items : List (Except Fault α)}

/-- **Every event and every failure that is read is yielded once, in order, and nothing else.** -/
theorem items_eq (h : Followed parse mayReopen opens opened items) :
    items = opened.flatMap (Connection.items parse) := by
  induction h with
  | spent => rfl
  | ended mayReopen opens c => simp
  | reopened mayReopen opens c opened items h hrest ih => rw [List.flatMap_cons, ← ih]

theorem length_opened_le (h : Followed parse mayReopen opens opened items) :
    opened.length ≤ opens := by
  induction h with
  | spent => exact Nat.le_refl 0
  | ended => exact Nat.succ_le_succ (Nat.zero_le _)
  | reopened _ _ _ _ _ _ _ ih => exact Nat.succ_le_succ ih

theorem opened_ne_nil_iff (h : Followed parse mayReopen opens opened items) :
    opened ≠ [] ↔ 0 < opens := by
  cases h <;> simp

/-- What a connection yields that is followed by another one. -/
theorem items_of_reopen {c : Connection} (h : (watch parse mayReopen c).reopen = true) :
    ∃ e : SocketError, e.isNetwork = true ∧
      c.items parse = (c.events parse).map .ok ++ [.error e.fault] := by
  obtain ⟨e, hc, he, -⟩ := watch_reopen_iff.mp h
  refine ⟨e, he, ?_⟩
  rw [Connection.items, hc]
  rfl

/-- **A connection is followed by another one exactly after a failure of the network**, and if an
    event was yielded since the one before, as far as connections may be opened at all. -/
theorem reopened_iff (h : Followed parse mayReopen opens opened items)
    {past : List (Except Fault α)} (hpast : mayReopen = true ↔ MayReconnect past)
    {before after : List Connection} {c : Connection} (hopened : opened = before ++ c :: after) :
    after ≠ [] ↔ before.length + 1 < opens ∧
      ∃ e, c.failure? = some e ∧ e.isNetwork = true ∧
        MayReconnect (past ++ before.flatMap (Connection.items parse) ++
          (c.events parse).map .ok) := by
  induction h generalizing past before with
  | spent => simp at hopened
  | ended mayReopen opens c' h =>
    obtain ⟨rfl, rfl, rfl⟩ : before = [] ∧ c = c' ∧ after = [] := by
      simpa [List.append_eq_singleton_iff] using hopened.symm
    refine iff_of_false (fun hne => hne rfl) ?_
    rintro ⟨-, hreopen⟩
    rw [List.flatMap_nil, List.append_nil] at hreopen
    simp only [mayReconnect_append_events, ← hpast, ← watch_reopen_iff] at hreopen
    rw [h] at hreopen
    cases hreopen
  | reopened mayReopen opens c' opened items h hrest ih =>
    cases before with
    | nil =>
      obtain ⟨rfl, rfl⟩ := List.cons.inj hopened
      have hreopen := watch_reopen_iff.mp h
      rw [hrest.opened_ne_nil_iff, List.flatMap_nil, List.append_nil]
      simp only [mayReconnect_append_events, ← hpast, hreopen, and_true, List.length_nil]
      omega
    | cons b before =>
      obtain ⟨rfl, htail⟩ := List.cons.inj hopened
      obtain ⟨e, he, hitems⟩ := items_of_reopen h
      -- the failure of this connection has used up the right to connect again
      have hspent : false = true ↔ MayReconnect (past ++ c'.items parse) := by
        rw [hitems, ← List.append_assoc]
        refine iff_of_false Bool.false_ne_true (not_mayReconnect_concat ?_)
        rw [isNetworkFailure_fault]
        exact he
      have hlength : before.length + 1 < opens ↔ (c' :: before).length + 1 < opens + 1 :=
        Nat.succ_lt_succ_iff.symm
      rw [ih hspent htail, hlength, List.flatMap_cons, ← List.append_assoc]

/-- Where a failure stands among items that begin with events up to another failure. -/
theorem failure_split {events : List α} {e f : Fault} {rest before after : List (Except Fault α)}
    (h : events.map .ok ++ .error e :: rest = before ++ .error f :: after) :
    rest = after ∨ ∃ mid, rest = mid ++ .error f :: after := by
  induction events generalizing before with
  | nil =>
    cases before with
    | nil => exact .inl (List.cons.inj h).2
    | cons b before => exact .inr ⟨before, (List.cons.inj h).2⟩
  | cons event events ih =>
    cases before with
    | nil => cases (List.cons.inj h).1
    | cons b before => exact ih (List.cons.inj h).2

/-- Without the right to connect again, a failure that comes first is all. -/
theorem eq_nil_of_failure_first (h : Followed parse false opens opened items) {f : Fault}
    {rest : List (Except Fault α)} (hitems : items = .error f :: rest) : rest = [] := by
  generalize hright : false = mayReopen at h
  cases h with
  | spent => cases hitems
  | ended mayReopen opens c h =>
    unfold Connection.items at hitems
    cases hevents : c.events parse with
    | nil =>
      rw [hevents] at hitems
      cases hc : c.failure? with
      | none => simp [hc] at hitems
      | some e =>
        rw [hc] at hitems
        exact (List.cons.inj hitems).2.symm
    | cons event events => simp [hevents] at hitems
  | reopened mayReopen opens c opened items h hrest =>
    subst hright
    obtain ⟨e, hc, -, hevents⟩ := watch_reopen_iff.mp h
    unfold Connection.items at hitems
    cases hcases : c.events parse with
    | nil => simp [hcases] at hevents
    | cons event events => simp [hcases] at hitems

/-- **Two failures one after the other are the last items.** -/
theorem failures_last (h : Followed parse mayReopen opens opened items)
    {before after : List (Except Fault α)} {f g : Fault}
    (hitems : items = before ++ .error f :: .error g :: after) : after = [] := by
  -- on the openings; failures in a row come from two of them, and after a second one none follows
  induction h generalizing before with
  | spent => simp at hitems
  | ended mayReopen opens c h =>
    unfold Connection.items at hitems
    cases hc : c.failure? with
    | none =>
      have hmem : (.error f : Except Fault α) ∈ (c.events parse).map .ok := by
        rw [hc] at hitems
        simp only [Option.toList_none, List.map_nil, List.append_nil] at hitems
        rw [hitems]
        exact List.mem_append_right _ List.mem_cons_self
      simp at hmem
    | some e =>
      rw [hc] at hitems
      rcases failure_split hitems with h | ⟨mid, h⟩ <;> simp at h
  | reopened mayReopen opens c opened items h hrest ih =>
    obtain ⟨e, he, hc⟩ := items_of_reopen h
    rw [hc, List.append_assoc, List.singleton_append] at hitems
    rcases failure_split hitems with h | ⟨mid, h⟩
    · exact hrest.eq_nil_of_failure_first h
    · exact ih h

theorem length_opened_le_failures (h : Followed parse mayReopen opens opened items) :
    opened.length ≤ 1 + items.countP isNetworkFailure := by
  induction h with
  | spent => exact Nat.zero_le _
  | ended => simp
  | reopened mayReopen opens c opened items h hrest ih =>
    obtain ⟨e, he, hitems⟩ := items_of_reopen h
    rw [hitems, List.countP_append, List.countP_append, List.countP_singleton,
      isNetworkFailure_fault, he, if_pos rfl, List.length_cons]
    omega

end Followed

/-! ## Streams -/

/-- What stands after the failure of a connection is never read. -/
theorem followFrom_heard (parse : Json → Option α) (connect : StateM σ Connection)
    (mayReopen : Bool) (opens : Nat) :
    followFrom parse (Connection.heard <$> connect) mayReopen opens =
      followFrom parse connect mayReopen opens := by
  induction opens generalizing mayReopen with
  | zero => rfl
  | succ opens ih =>
    unfold followFrom
    simp only [bind_map_left, watch_heard, ih]

theorem followFrom_run_succ (connect : StateM σ Connection) (mayReopen : Bool) (opens : Nat)
    (t : Traced Connection σ) :
    (followFrom parse (tracedConnect connect) mayReopen (opens + 1)).run t =
      let c := (connect.run t.state).1
      let w := watch parse mayReopen c
      let t' : Traced Connection σ := ⟨(connect.run t.state).2, t.trace ++ [c]⟩
      if w.reopen then
        let rest := (followFrom parse (tracedConnect connect) false opens).run t'
        (w.items ++ rest.1, rest.2)
      else (w.items, t') := by
  let w := watch parse mayReopen (connect.run t.state).1
  have hrun : (followFrom parse (tracedConnect connect) mayReopen (opens + 1)).run t =
      (if w.reopen then do
          return w.items ++ (← followFrom parse (tracedConnect connect) false opens)
        else return w.items : Tracing Connection σ (List (Except Fault α))).run
          ⟨(connect.run t.state).2, t.trace ++ [(connect.run t.state).1]⟩ := rfl
  rw [hrun]
  dsimp only
  split <;> rfl

/-- A run is the beginning of another, and all of it unless it was cut off after opening so many
    connections. -/
structure Begins (cut : Nat) (run longer : List (Except Fault α) × Traced Connection σ) :
    Prop where
  items : run.1 <+: longer.1
  opened : run.2.trace <+: longer.2.trace
  all : run.2.trace.length < cut → longer = run

theorem followFrom_begins (connect : StateM σ Connection) (mayReopen : Bool) (opens : Nat)
    (t : Traced Connection σ) :
    Begins (t.trace.length + opens)
      ((followFrom parse (tracedConnect connect) mayReopen opens).run t)
      ((followFrom parse (tracedConnect connect) mayReopen (opens + 1)).run t) := by
  -- on the openings allowed: one more changes nothing before the last of them
  induction opens generalizing mayReopen t with
  | zero =>
    have hends : Ends (followFrom parse (tracedConnect connect) mayReopen 1) t.state
        fun opened items _ => Followed parse mayReopen 1 opened items :=
      followFrom_ends connect mayReopen 1 t.state
    obtain ⟨opened, htrace, -⟩ := hends t.trace
    exact ⟨List.nil_prefix, ⟨opened, htrace.symm⟩, fun h => absurd h (Nat.lt_irrefl _)⟩
  | succ opens ih =>
    rw [followFrom_run_succ, followFrom_run_succ connect mayReopen (opens + 1)]
    dsimp only
    split
    case isTrue h =>
      have hrest := ih false ⟨(connect.run t.state).2, t.trace ++ [(connect.run t.state).1]⟩
      refine ⟨(List.prefix_append_right_inj _).mpr hrest.items, hrest.opened, ?_⟩
      intro hlt
      dsimp only at hlt
      rw [hrest.all (by rw [List.length_append, List.length_singleton]; omega)]
    case isFalse h => exact ⟨List.prefix_rfl, List.prefix_rfl, fun _ => rfl⟩

/-- A stream over these connections: it yields what they report, and opens another one as long as
    it has the right to. -/
structure Reconnects (parse : Json → Option α) (opens : Nat) (opened : List Connection)
    (items : List (Except Fault α)) : Prop where
  items_eq : items = opened.flatMap (Connection.items parse)
  opened_ne_nil_iff : opened ≠ [] ↔ 0 < opens
  length_opened_le : opened.length ≤ opens
  /-- After a connection another one is opened exactly if it ended in a failure of the network
      and an event was yielded since the one before, and nothing comes after it otherwise. -/
  reopened_iff : ∀ before c after, opened = before ++ c :: after →
    (after ≠ [] ↔ before.length + 1 < opens ∧
      ∃ e, c.failure? = some e ∧ e.isNetwork = true ∧
        MayReconnect (before.flatMap (Connection.items parse) ++ (c.events parse).map .ok))
  failures_last : ∀ before f g after, items = before ++ .error f :: .error g :: after → after = []
  length_opened_le_failures : opened.length ≤ 1 + items.countP isNetworkFailure

theorem Followed.reconnects {opens : Nat} {opened : List Connection}
    {items : List (Except Fault α)} (h : Followed parse true opens opened items) :
    Reconnects parse opens opened items where
  items_eq := h.items_eq
  opened_ne_nil_iff := h.opened_ne_nil_iff
  length_opened_le := h.length_opened_le
  reopened_iff before c after hopened := by
    have hright : true = true ↔ MayReconnect ([] : List (Except Fault α)) :=
      iff_of_true rfl mayReconnect_nil
    simpa using h.reopened_iff hright hopened
  failures_last _ _ _ _ hitems := h.failures_last hitems
  length_opened_le_failures := h.length_opened_le_failures

/-- The items of a stream over at most `opens` connections, and those connections. -/
def followed (parse : Json → Option α) (connect : StateM σ Connection) (opens : Nat) (s : σ) :
    List (Except Fault α) × Traced Connection σ :=
  (follow parse (tracedConnect connect) opens).run ⟨s, []⟩

/-- **A stream never reconnects twice without an event in between**: for every factory and every
    reading of messages.  With one more connection allowed it only goes on where it was cut off,
    and what stands after the failure of a connection is never read. -/
theorem followed_reconnects (parse : Json → Option α) (connect : StateM σ Connection)
    (opens : Nat) (s : σ) :
    let run := followed parse connect opens s
    (run.1, run.2.state) = (follow parse connect opens).run s ∧
      Reconnects parse opens run.2.trace run.1 ∧
      Begins opens run (followed parse connect (opens + 1) s) ∧
      follow parse (Connection.heard <$> connect) opens = follow parse connect opens := by
  have hbegins : Begins (0 + opens) (followed parse connect opens s)
      (followed parse connect (opens + 1) s) :=
    followFrom_begins connect true opens ⟨s, []⟩
  rw [Nat.zero_add] at hbegins
  have hfollowed : Followed parse true opens _ _ := (followFrom_ends connect true opens s).run
  exact ⟨followFrom_erases connect true opens _, hfollowed.reconnects, hbegins,
    followFrom_heard parse connect true opens⟩

end LiveTrader
