import LiveTrader.Risk.Guard

/-!
  LiveTrader.Proofs.Guard

  When the risk guard lets trading go on.
-/

namespace LiveTrader

/-! ## Severities -/

namespace GuardStatus

theorem max_eq_success_iff {a b : GuardStatus} :
    max a b = success ↔ a = success ∧ b = success := by
  cases a <;> cases b <;> decide

theorem foldl_max_eq_success_iff {a : GuardStatus} {xs : List GuardStatus} :
    xs.foldl max a = success ↔ a = success ∧ ∀ x ∈ xs, x = success := by
  induction xs generalizing a with
  | nil => simp
  | cons x xs ih =>
    rw [List.foldl_cons, ih, max_eq_success_iff, List.forall_mem_cons, and_assoc]

end GuardStatus

namespace RiskMetric

/-- A metric above its ceiling is never harmless. -/
theorem severity_ne_success (m : RiskMetric) : m.severity ≠ .success := by
  cases m <;> decide

end RiskMetric

/-! ## Verdicts -/

end LiveTrader
