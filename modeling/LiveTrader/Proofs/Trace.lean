import Mathlib.Data.List.Basic

/-!
  LiveTrader.Proofs.Trace

  Computations over a state whose calls leave a trace, and a small logic for them.
  `Tracing.Ends act s Q` says of every run of `act` from the state `s` which events it adds
  to the trace, what it results in and which state it leaves; the rules follow the program
  from its first call on (`bind`, `call`, `pure`), so that a proof about a program has the
  shape of the program.  `Erases act plain` says that `act` without its trace is `plain`.
-/

namespace LiveTrader

/-- A state with the events that have led to it, in order. -/
structure Traced (ε σ : Type) where
  state : σ
  trace : List ε

/-- Computations that leave a trace. -/
abbrev Tracing (ε σ : Type) := StateM (Traced ε σ)

namespace Tracing

variable {ε σ α β φ : Type}

/-- Lets the state act, and adds what the result tells to the trace. -/
def call (act : StateM σ α) (events : α → List ε) : Tracing ε σ α := fun t =>
  let (a, s) := act t.state
  (a, ⟨s, t.trace ++ events a⟩)

/-- Every run from `s` adds events, has a result and leaves a state as `Q` says. -/
def Ends (act : Tracing ε σ α) (s : σ) (Q : List ε → α → σ → Prop) : Prop :=
  ∀ trace, ∃ events, (act.run ⟨s, trace⟩).2.trace = trace ++ events ∧
    Q events (act.run ⟨s, trace⟩).1 (act.run ⟨s, trace⟩).2.state

namespace Ends

variable {s : σ} {Q R : List ε → α → σ → Prop}

/-- A run without a past. -/
theorem run {act : Tracing ε σ α} (h : Ends act s Q) :
    Q (act.run ⟨s, []⟩).2.trace (act.run ⟨s, []⟩).1 (act.run ⟨s, []⟩).2.state := by
  obtain ⟨events, ht, hQ⟩ := h []
  rw [List.nil_append] at ht
  rw [ht]
  exact hQ

/-- What holds at the end may be weakened. -/
theorem mono {act : Tracing ε σ α} (h : Ends act s Q)
    (hQR : ∀ events a s', Q events a s' → R events a s') : Ends act s R := by
  intro trace
  obtain ⟨events, ht, hQ⟩ := h trace
  exact ⟨events, ht, hQR _ _ _ hQ⟩

theorem pure {a : α} (h : Q [] a s) : Ends (Pure.pure a : Tracing ε σ α) s Q :=
  fun trace => ⟨[], (List.append_nil trace).symm, h⟩

/-- A single action ends where its own run does. -/
theorem call {act : StateM σ α} {events : α → List ε}
    (h : Q (events (act.run s).1) (act.run s).1 (act.run s).2) :
    Ends (Tracing.call act events) s Q :=
  fun _ => ⟨events (act.run s).1, rfl, h⟩

theorem map {act : Tracing ε σ β} {f : β → α}
    (h : Ends act s fun events b s' => Q events (f b) s') : Ends (f <$> act) s Q := by
  intro trace
  obtain ⟨events, ht, hQ⟩ := h trace
  exact ⟨events, ht, hQ⟩

/-- An action that goes on ends where its second part does, with the events of both. -/
theorem bind {act : Tracing ε σ β} {next : β → Tracing ε σ α}
    (h : Ends act s fun events b s' =>
      Ends (next b) s' fun events' a s'' => Q (events ++ events') a s'') :
    Ends (act >>= next) s Q := by
  intro trace
  obtain ⟨events, ht, hnext⟩ := h trace
  obtain ⟨events', ht', hQ⟩ := hnext (trace ++ events)
  have hmid : (act.run ⟨s, trace⟩).2 = ⟨(act.run ⟨s, trace⟩).2.state, trace ++ events⟩ := by
    rw [← ht]
  have hrun : (act >>= next).run ⟨s, trace⟩ =
      (next (act.run ⟨s, trace⟩).1).run ⟨(act.run ⟨s, trace⟩).2.state, trace ++ events⟩ := by
    rw [← hmid]
    rfl
  rw [hrun]
  exact ⟨events ++ events', by rw [ht', List.append_assoc], hQ⟩

end Ends

/-! ## Computations that may fail -/

namespace Ends

variable {s : σ} {Q : List ε → Except φ α → σ → Prop}

theorem pureExcept {a : α} (h : Q [] (.ok a) s) :
    Ends (Pure.pure a : ExceptT φ (Tracing ε σ) α).run s Q :=
  Ends.pure h

theorem throwExcept {e : φ} (h : Q [] (.error e) s) :
    Ends (throw e : ExceptT φ (Tracing ε σ) α).run s Q :=
  Ends.pure h

/-- A computation that does not fail, among those that may. -/
theorem lift {act : Tracing ε σ α} (h : Ends act s fun events a s' => Q events (.ok a) s') :
    Ends (liftM act : ExceptT φ (Tracing ε σ) α).run s Q := by
  intro trace
  obtain ⟨events, ht, hQ⟩ := h trace
  exact ⟨events, ht, hQ⟩

/-- What follows is done unless `act` has failed. -/
theorem bindExcept {act : ExceptT φ (Tracing ε σ) β} {next : β → ExceptT φ (Tracing ε σ) α}
    (h : Ends act.run s fun events r s' => match r with
      | .ok b => Ends (next b).run s' fun events' a s'' => Q (events ++ events') a s''
      | .error e => Q events (.error e) s') :
    Ends (act >>= next).run s Q := by
  rw [ExceptT.run_bind]
  apply Ends.bind
  refine h.mono fun events r s' hr => ?_
  cases r with
  | ok b => exact hr
  | error e => exact Ends.pure (by simpa using hr)

end Ends

/-! ## Without the trace -/

/-- Every run of `act` has the result and leaves the state of the run of `plain`. -/
def Erases (act : Tracing ε σ α) (plain : StateM σ α) : Prop :=
  ∀ t, ((act.run t).1, (act.run t).2.state) = plain.run t.state

namespace Erases

theorem pure (a : α) : Erases (Pure.pure a : Tracing ε σ α) (Pure.pure a) :=
  fun _ => rfl

/-- Watching a single action does not change it. -/
theorem call (act : StateM σ α) (events : α → List ε) : Erases (Tracing.call act events) act :=
  fun _ => rfl

theorem map {act : Tracing ε σ β} {plain : StateM σ β} (f : β → α) (h : Erases act plain) :
    Erases (f <$> act) (f <$> plain) := by
  intro t
  have hrun := h t
  calc (f (act.run t).1, (act.run t).2.state)
      = Prod.map f id ((act.run t).1, (act.run t).2.state) := rfl
    _ = (f <$> plain).run t.state := by rw [hrun]; rfl

/-- Watching does not change an action if it does not change its parts. -/
theorem bind {act : Tracing ε σ β} {plain : StateM σ β} {next : β → Tracing ε σ α}
    {plainNext : β → StateM σ α} (h : Erases act plain)
    (hnext : ∀ b, Erases (next b) (plainNext b)) : Erases (act >>= next) (plain >>= plainNext) := by
  intro t
  have hb : (act.run t).1 = (plain.run t.state).1 := congrArg Prod.fst (h t)
  have hs : (act.run t).2.state = (plain.run t.state).2 := congrArg Prod.snd (h t)
  calc (((act >>= next).run t).1, ((act >>= next).run t).2.state)
      = (plainNext (act.run t).1).run (act.run t).2.state := hnext _ _
    _ = (plain >>= plainNext).run t.state := by rw [hb, hs]; rfl

theorem ite {c : Prop} [Decidable c] {act act' : Tracing ε σ α} {plain plain' : StateM σ α}
    (h : Erases act plain) (h' : Erases act' plain') :
    Erases (if c then act else act') (if c then plain else plain') := by
  split
  · exact h
  · exact h'

end Erases

end Tracing

end LiveTrader
