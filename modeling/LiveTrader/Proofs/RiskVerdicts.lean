import Mathlib.Data.List.Nodup
import Mathlib.Order.Bounds.Basic
import LiveTrader.Proofs.Guard
import LiveTrader.Proofs.Rounding

/-!
  LiveTrader.Proofs.RiskVerdicts

  What the guard's verdict says.  The guard goes by a table (`riskTable`) that pairs every value
  with its ceiling, the code for passing it and how grave that is.  The verdict tells the codes of
  the rows whose value is the larger number, and the gravest severity among them.  More rows are
  passed if values grow and ceilings fall, so that a verdict can only get graver by that.
-/

namespace LiveTrader

/-! ## Severities in order -/

namespace GuardStatus

theorem rank_injective : Function.Injective rank := by
  intro a b h
  cases a <;> cases b <;> first | rfl | cases h

/-- From harmless to grave. -/
instance : PartialOrder GuardStatus := PartialOrder.lift rank rank_injective

theorem le_iff_rank {a b : GuardStatus} : a ≤ b ↔ a.rank ≤ b.rank := Iff.rfl

/-- To pause is graver than to go on. -/
theorem success_lt_degraded : success < degraded := Nat.zero_lt_one

/-- To stop is graver than to pause. -/
theorem degraded_lt_abort : degraded < abort := Nat.one_lt_two

theorem success_le (a : GuardStatus) : success ≤ a := by
  cases a with
  | success => exact le_rfl
  | degraded => exact success_lt_degraded.le
  | abort => exact (success_lt_degraded.trans degraded_lt_abort).le

theorem le_success_iff {a : GuardStatus} : a ≤ success ↔ a = success := by
  constructor
  · exact fun h => le_antisymm h a.success_le
  · rintro rfl
    exact le_rfl

/-- Nothing is graver than to stop. -/
theorem le_abort (a : GuardStatus) : a ≤ abort := by
  cases a with
  | success => exact abort.success_le
  | degraded => exact degraded_lt_abort.le
  | abort => exact le_rfl

/-- Of what is not success only to stop is above degraded. -/
theorem eq_degraded_iff {a : GuardStatus} : a = degraded ↔ a ≠ success ∧ a ≠ abort := by
  cases a <;> simp

/-- The graver of two severities is one of them, and neither is graver. -/
theorem isGreatest_max (a b : GuardStatus) : IsGreatest {x | x = a ∨ x = b} (max a b) := by
  unfold max
  split
  case isTrue h =>
    refine ⟨.inr rfl, ?_⟩
    rintro x (rfl | rfl)
    · exact le_iff_rank.mpr h.le
    · exact le_rfl
  case isFalse h =>
    refine ⟨.inl rfl, ?_⟩
    rintro x (rfl | rfl)
    · exact le_rfl
    · exact le_iff_rank.mpr (not_lt.mp h)

/-- A fold of `max` is the gravest of all severities that went into it. -/
theorem isGreatest_foldl_max (a : GuardStatus) (xs : List GuardStatus) :
    IsGreatest {x | x ∈ a :: xs} (xs.foldl max a) := by
  -- on the list; the start takes in one element at a time and stays an upper bound of those
  induction xs generalizing a with
  | nil =>
    refine ⟨List.mem_singleton_self a, fun x hx => ?_⟩
    rw [List.mem_singleton.mp hx]
    rfl
  | cons x xs ih =>
    obtain ⟨hmem, hle⟩ := ih (max a x)
    obtain ⟨hone, hboth⟩ := isGreatest_max a x
    have hmax : max a x ≤ xs.foldl max (max a x) := hle List.mem_cons_self
    refine ⟨?_, fun y hy => ?_⟩
    · rcases List.mem_cons.mp hmem with heq | hmem
      · rw [List.foldl_cons, heq]
        rcases hone with h | h <;> rw [h] <;> simp
      · exact List.mem_cons_of_mem _ (List.mem_cons_of_mem _ hmem)
    · rcases List.mem_cons.mp hy with rfl | hy
      · exact (hboth (.inl rfl)).trans hmax
      · rcases List.mem_cons.mp hy with rfl | hy
        · exact (hboth (.inr rfl)).trans hmax
        · exact hle (List.mem_cons_of_mem _ hy)

end GuardStatus

/-! ## The table -/

/-- A row of the guard's table: a value, its ceiling, the code for a value above it, and how
    grave that is. -/
structure RiskRow where
  current : Decimal
  limit : Decimal
  code : String
  severity : GuardStatus

/-- The guard's table, in the order of the checks. -/
def riskTable (l : RiskLimits) (s : RiskSnapshot) : List RiskRow := [
  ⟨s.drawdown, l.maxDrawdown, "max_drawdown_exceeded", .abort⟩,
  ⟨s.dailyLoss, l.dailyLossLimit, "daily_loss_limit_exceeded", .degraded⟩,
  ⟨s.positionSize, l.maxPositionSize, "max_position_size_exceeded", .degraded⟩,
  ⟨s.tradeLoss, l.maxTradeLoss, "max_trade_loss_exceeded", .abort⟩,
  ⟨s.leverage, l.maxLeverage, "max_leverage_exceeded", .degraded⟩,
  ⟨s.walletDrift, l.maxWalletDrift, "wallet_drift_exceeded", .degraded⟩]

/-- The rows whose value is a larger number than the ceiling. -/
def exceededRows (l : RiskLimits) (s : RiskSnapshot) : List RiskRow :=
  (riskTable l s).filter fun r => r.limit.value < r.current.value

/-- The row of a metric. -/
def RiskMetric.row (l : RiskLimits) (s : RiskSnapshot) (m : RiskMetric) : RiskRow :=
  ⟨s.current m, l.limit m, m.reason.text, m.severity⟩

variable {l l' : RiskLimits} {s s' : RiskSnapshot}

theorem map_row_all : RiskMetric.all.map (RiskMetric.row l s) = riskTable l s := rfl

theorem map_row_breaches : (breaches l s).map (RiskMetric.row l s) = exceededRows l s := by
  rw [exceededRows, ← map_row_all, List.filter_map, breaches]
  congr 1
  refine List.filter_congr fun m _ => ?_
  rw [RiskMetric.isBreached, Function.comp_apply]
  exact decide_eq_decide.mpr Decimal.lt_iff_value

theorem reasonCodes_evaluateRisk :
    (evaluateRisk l s).reasonCodes = (exceededRows l s).map RiskRow.code := by
  rw [← map_row_breaches, List.map_map]
  rfl

theorem status_evaluateRisk :
    (evaluateRisk l s).status =
      ((exceededRows l s).map RiskRow.severity).foldl GuardStatus.max .success := by
  rw [← map_row_breaches, List.map_map]
  rfl

/-- No two rows have the same code. -/
theorem nodup_exceededRows : ((exceededRows l s).map RiskRow.code).Nodup := by
  have htable : ((riskTable l s).map RiskRow.code).Nodup := by
    have hcodes : (riskTable l s).map RiskRow.code =
        (RiskMetric.all.map RiskMetric.reason).map ReasonCode.text := rfl
    rw [hcodes]
    decide
  exact htable.sublist (List.filter_sublist.map _)

theorem severity_ne_success_of_mem {r : RiskRow} (hr : r ∈ exceededRows l s) :
    r.severity ≠ .success := by
  rw [← map_row_breaches] at hr
  obtain ⟨m, -, rfl⟩ := List.mem_map.mp hr
  exact m.severity_ne_success

/-! ## Verdicts -/

/-- A verdict that tells the rows that are exceeded, and the gravest of them. -/
structure GuardResult.Judges (g : GuardResult) (l : RiskLimits) (s : RiskSnapshot) : Prop where
  /-- The codes are those of the exceeded rows, in the order of the table. -/
  codes_eq : g.reasonCodes = (exceededRows l s).map RiskRow.code
  nodup : g.reasonCodes.Nodup
  success_iff : g.status = .success ↔ g.reasonCodes = []
  gravest : g.reasonCodes ≠ [] →
    IsGreatest {x | ∃ r ∈ exceededRows l s, r.severity = x} g.status
  /-- One row that asks for a stop is enough for it. -/
  abort_iff : g.status = .abort ↔ ∃ r ∈ exceededRows l s, r.severity = .abort
  /-- Otherwise anything exceeded makes a pause. -/
  degraded_iff : g.status = .degraded ↔
    g.reasonCodes ≠ [] ∧ ∀ r ∈ exceededRows l s, r.severity ≠ .abort
  judged : g.snapshot = s ∧ g.limits = l

theorem evaluateRisk_success_iff :
    (evaluateRisk l s).status = .success ↔ (evaluateRisk l s).reasonCodes = [] := by
  rw [status_evaluateRisk, reasonCodes_evaluateRisk, GuardStatus.foldl_max_eq_success_iff,
    List.map_eq_nil_iff, List.eq_nil_iff_forall_not_mem]
  constructor
  · rintro ⟨-, h⟩ r hr
    exact severity_ne_success_of_mem hr (h _ (List.mem_map_of_mem hr))
  · intro h
    refine ⟨rfl, fun x hx => ?_⟩
    obtain ⟨r, hr, -⟩ := List.mem_map.mp hx
    exact absurd hr (h r)

/-- The status is the gravest severity among the exceeded rows and success. -/
theorem isGreatest_status :
    IsGreatest {x | x = .success ∨ ∃ r ∈ exceededRows l s, r.severity = x}
      (evaluateRisk l s).status := by
  have h := GuardStatus.isGreatest_foldl_max .success ((exceededRows l s).map RiskRow.severity)
  simpa only [status_evaluateRisk, List.mem_cons, List.mem_map] using h

theorem evaluateRisk_gravest (h : (evaluateRisk l s).reasonCodes ≠ []) :
    IsGreatest {x | ∃ r ∈ exceededRows l s, r.severity = x} (evaluateRisk l s).status := by
  obtain ⟨hmem, hle⟩ := isGreatest_status (l := l) (s := s)
  refine ⟨?_, fun x hx => hle (.inr hx)⟩
  rcases hmem with hsuccess | hmem
  · exact absurd (evaluateRisk_success_iff.mp hsuccess) h
  · exact hmem

theorem evaluateRisk_abort_iff :
    (evaluateRisk l s).status = .abort ↔ ∃ r ∈ exceededRows l s, r.severity = .abort := by
  obtain ⟨hmem, hle⟩ := isGreatest_status (l := l) (s := s)
  constructor
  · intro h
    rw [h] at hmem
    rcases hmem with hsuccess | hmem
    · cases hsuccess
    · exact hmem
  · exact fun hrow => le_antisymm (GuardStatus.le_abort _) (hle (.inr hrow))

/-! ## Graver conditions -/

/-- Nothing has got better: no ceiling is a larger number, and no value a smaller one. -/
structure Worsens (l l' : RiskLimits) (s s' : RiskSnapshot) : Prop where
  tighter : ∀ m, (l'.limit m).value ≤ (l.limit m).value
  higher : ∀ m, (s.current m).value ≤ (s'.current m).value

/-- A row that is exceeded stays so. -/
theorem Worsens.breaches_sublist (h : Worsens l l' s s') :
    (breaches l s).Sublist (breaches l' s') := by
  refine List.monotone_filter_right _ fun m hm => ?_
  simp only [RiskMetric.isBreached, decide_eq_true_eq, Decimal.lt_iff_value] at hm ⊢
  exact ((h.tighter m).trans_lt hm).trans_le (h.higher m)

theorem Worsens.status_le (h : Worsens l l' s s') :
    (evaluateRisk l s).status ≤ (evaluateRisk l' s').status := by
  have hseverities := h.breaches_sublist.map RiskMetric.severity
  obtain ⟨hmem, -⟩ := GuardStatus.isGreatest_foldl_max .success
    ((breaches l s).map RiskMetric.severity)
  obtain ⟨-, hle⟩ := GuardStatus.isGreatest_foldl_max .success
    ((breaches l' s').map RiskMetric.severity)
  exact hle ((hseverities.cons_cons _).subset hmem)

/-- **The verdict tells what is exceeded, and gets no better where values grow and ceilings
    fall.** -/
theorem evaluateRisk_judges (l : RiskLimits) (s : RiskSnapshot) :
    (evaluateRisk l s).Judges l s ∧
      ∀ l' s', Worsens l l' s s' →
        (evaluateRisk l s).status ≤ (evaluateRisk l' s').status ∧
        (evaluateRisk l s).reasonCodes.Sublist (evaluateRisk l' s').reasonCodes ∧
        ((evaluateRisk l' s').isSuccess = true → (evaluateRisk l s).isSuccess = true) := by
  have hjudges : (evaluateRisk l s).Judges l s := {
    codes_eq := reasonCodes_evaluateRisk
    nodup := reasonCodes_evaluateRisk ▸ nodup_exceededRows
    success_iff := evaluateRisk_success_iff
    gravest := evaluateRisk_gravest
    abort_iff := evaluateRisk_abort_iff
    degraded_iff := by
      rw [GuardStatus.eq_degraded_iff, Ne, Ne, evaluateRisk_success_iff, evaluateRisk_abort_iff]
      simp only [Ne, not_exists, not_and]
    judged := ⟨rfl, rfl⟩ }
  refine ⟨hjudges, fun l' s' h => ⟨h.status_le, h.breaches_sublist.map _, fun hsuccess => ?_⟩⟩
  simp only [GuardResult.isSuccess, beq_iff_eq] at hsuccess ⊢
  exact GuardStatus.le_success_iff.mp (hsuccess ▸ h.status_le)

/-- A lower ceiling and a higher loss add a code to that of a drawdown. -/
theorem drawdown_judges :
    let l := RiskLimits.standard
    let l' := { l with dailyLossLimit := .small 50 3 }
    let s := { RiskSnapshot.flat with drawdown := .small 25 2 }
    let s' := { s with dailyLoss := .small 6 2 }
    Worsens l l' s s' ∧ (evaluateRisk l s).Judges l s ∧
      (evaluateRisk l s).reasonCodes = ["max_drawdown_exceeded"] ∧
      (evaluateRisk l' s').reasonCodes =
        ["max_drawdown_exceeded", "daily_loss_limit_exceeded"] ∧
      (evaluateRisk l s).status ≤ (evaluateRisk l' s').status := by
  intro l l' s s'
  have h : Worsens l l' s s' := by
    constructor <;> intro m <;> rw [← Decimal.le_iff_value] <;> cases m <;> decide
  obtain ⟨hjudges, hworse⟩ := evaluateRisk_judges l s
  exact ⟨h, hjudges, by decide, by decide, (hworse l' s' h).1⟩

end LiveTrader
