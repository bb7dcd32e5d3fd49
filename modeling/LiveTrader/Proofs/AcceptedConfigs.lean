import LiveTrader.Config.Reading

/-!
  LiveTrader.Proofs.AcceptedConfigs

  The configurations that pass their checks.  The checks are made one after the other and the
  first that fails ends them, so that a configuration is accepted exactly if all of them hold.
-/

namespace LiveTrader

theorem exceptBind_eq_ok_iff {ε α β : Type} {x : Except ε α} {f : α → Except ε β} {b : β} :
    (x >>= f) = .ok b ↔ ∃ a, x = .ok a ∧ f a = .ok b := by
  cases x <;> simp [bind, Except.bind]

/-- Limits are accepted if and only if none is negative. -/
theorem RiskLimits.validate_eq_ok_iff {l : RiskLimits} :
    l.validate = .ok () ↔ ∀ m, (l.limit m).isNegative = false := by
  have hall : ∀ m, m ∈ RiskMetric.all := by
    intro m
    cases m <;> decide
  unfold validate
  split
  case h_1 m hfound =>
    refine iff_of_false nofun fun h => ?_
    have hnegative := List.find?_some hfound
    simp [h m] at hnegative
  case h_2 hnone =>
    refine iff_of_true rfl fun m => ?_
    simpa using List.find?_eq_none.mp hnone m (hall m)

namespace Config

/-- What the checks of a configuration ask of it. -/
structure Accepted (c : Config) : Prop where
  attempts : 1 ≤ c.exchange.retryMaxAttempts
  delay : isDelay c.exchange.retryBaseDelay = true
  qtyStep : c.sizing.qtyStep.isNegative = false
  confidence : isFraction c.execution.minConfidence = true
  timeout : c.exchange.requestTimeout ≠ .zero
  limits : ∀ m, (c.risk.limit m).isNegative = false

variable {c : Config} {lookup : Lookup}

theorem require_eq_ok_iff {holds : Bool} {complaint : String} {u : Unit} :
    require holds complaint = .ok u ↔ holds = true := by
  cases holds <;> simp [require]

theorem ofValue_eq_ok_iff {α : Type} {e : Except ValueError α} {a : α} :
    ofValue e = .ok a ↔ e = .ok a := by
  cases e with
  | error cause => exact iff_of_false nofun nofun
  | ok b =>
    have hvalue : ofValue (.ok b) = .ok b := rfl
    rw [hvalue, Except.ok.injEq, Except.ok.injEq]

/-- The checks ask just this of a configuration. -/
theorem validate_eq_ok_iff : c.validate = .ok () ↔ c.Accepted := by
  unfold validate
  simp only [exceptBind_eq_ok_iff, require_eq_ok_iff, exists_const, ofValue_eq_ok_iff,
    RiskLimits.validate_eq_ok_iff, decide_eq_true_eq, Bool.not_eq_true', bne_iff_ne]
  constructor
  · rintro ⟨hattempts, hdelay, hstep, hconfidence, htimeout, hlimits⟩
    exact ⟨hattempts, hdelay, hstep, hconfidence, htimeout, hlimits⟩
  · rintro ⟨hattempts, hdelay, hstep, hconfidence, htimeout, hlimits⟩
    exact ⟨hattempts, hdelay, hstep, hconfidence, htimeout, hlimits⟩

/-- A lookup gives a configuration if it can be read and is accepted. -/
theorem ofLookup_eq_ok_iff : ofLookup lookup = .ok c ↔ sections lookup = .ok c ∧ c.Accepted := by
  unfold ofLookup
  rw [exceptBind_eq_ok_iff]
  constructor
  · rintro ⟨c', hread, h⟩
    obtain ⟨⟨⟩, hvalid, hc⟩ := exceptBind_eq_ok_iff.mp h
    obtain rfl : c' = c := Except.ok.inj hc
    exact ⟨hread, validate_eq_ok_iff.mp hvalid⟩
  · rintro ⟨hread, haccepted⟩
    exact ⟨c, hread, exceptBind_eq_ok_iff.mpr ⟨(), validate_eq_ok_iff.mpr haccepted, rfl⟩⟩

end Config

end LiveTrader
