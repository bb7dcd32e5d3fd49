import LiveTrader.Proofs.AcceptedConfigs
import LiveTrader.Proofs.Lots

/-!
  LiveTrader.Proofs.Sizes

  The size of an order.  `SizeCourse` lists what the sizer can come to.  From it: how far a size
  keeps to the two quantities that bound it, where there is none, that sizes keep the order of
  balances and turn that of ranges round, and what a size is where a lot is a power of ten.
-/

namespace LiveTrader

open Decimal (Nearest Overflows)

variable {balance balance' close atr atr' fraction divisor divisor' : Decimal}
  {params : SizingParams} {s s' : OrderSizing}

/-! ## The smaller quantity -/

/-- The smaller of the two quantities that bound a size, the notional one if there is no other. -/
def OrderSizing.limit (s : OrderSizing) : Decimal :=
  match s.riskQty with
  | some qty => if qty < s.cappedQty then qty else s.cappedQty
  | none => s.cappedQty

theorem bindingQty_fst (s : OrderSizing) : (bindingQty s.riskQty s.cappedQty).1 = s.limit := by
  unfold bindingQty OrderSizing.limit
  cases s.riskQty with
  | none => rfl
  | some qty =>
    dsimp only
    split <;> rfl

theorem OrderSizing.le_limit_iff {x : ℚ} :
    x ≤ s.limit.value ↔ x ≤ s.cappedQty.value ∧ ∀ qty, s.riskQty = some qty → x ≤ qty.value := by
  unfold limit
  cases s.riskQty with
  | none => simp
  | some qty =>
    simp only [Option.some.injEq, forall_eq']
    split
    case isTrue hlt =>
      rw [Decimal.lt_iff_value] at hlt
      exact ⟨fun h => ⟨h.trans hlt.le, h⟩, fun h => h.2⟩
    case isFalse hge =>
      rw [Decimal.lt_iff_value, not_lt] at hge
      exact ⟨fun h => ⟨h, h.trans hge⟩, fun h => h.1⟩

theorem OrderSizing.limit_le (s : OrderSizing) :
    s.limit.value ≤ s.cappedQty.value ∧ ∀ qty, s.riskQty = some qty → s.limit.value ≤ qty.value :=
  le_limit_iff.mp le_rfl

/-! ## What the sizer comes to -/

/-- Both quantities, with nothing sized yet. -/
def boundsOf (balance close atr : Decimal) (params : SizingParams) : OrderSizing :=
  ⟨balance, close, atr, riskQty? balance atr params, cappedQty balance close params, .zero,
    .unsized⟩

/-- What the sizer can come to. -/
inductive SizeCourse (balance close atr : Decimal) (params : SizingParams) : OrderSizing → Prop
  /-- There is nothing to size. -/
  | nothing (h : balance.value ≤ 0 ∨ close.value ≤ 0) :
      SizeCourse balance close atr params ⟨balance, close, atr, none, .zero, .zero, .unsized⟩
  /-- There are no lots, or fewer than may be ordered. -/
  | tooSmall {stepped : Decimal} (hbalance : 0 < balance.value) (hclose : 0 < close.value)
      (hfloored : Floored (boundsOf balance close atr params).limit params.qtyStep
        stepped)
      (h : stepped.value ≤ 0 ∨ stepped.value < params.minOrderQty.value) :
      SizeCourse balance close atr params (boundsOf balance close atr params)
  | sized {stepped : Decimal} (hbalance : 0 < balance.value) (hclose : 0 < close.value)
      (hfloored : Floored (boundsOf balance close atr params).limit params.qtyStep
        stepped)
      (hpos : 0 < stepped.value) (hmin : params.minOrderQty.value ≤ stepped.value) :
      SizeCourse balance close atr params
        { boundsOf balance close atr params with
          finalQty := stepped.normalized
          binding := (bindingQty (riskQty? balance atr params)
            (cappedQty balance close params)).2 }

theorem isPositive_eq_false_iff {a : Decimal} : (!a.isPositive) = true ↔ a.value ≤ 0 := by
  rw [Bool.not_eq_true', ← Bool.not_eq_true, Decimal.isPositive_iff, not_lt]

theorem sizeOrder?_of_nothing (h : balance.value ≤ 0 ∨ close.value ≤ 0) :
    sizeOrder? balance close atr params =
      some ⟨balance, close, atr, none, .zero, .zero, .unsized⟩ := by
  unfold sizeOrder?
  dsimp only
  rw [if_pos (by rwa [Bool.or_eq_true, isPositive_eq_false_iff, isPositive_eq_false_iff])]

/-- Where there is something to size, the smaller quantity is rounded to lots. -/
theorem sizeOrder?_of_pos (hbalance : 0 < balance.value) (hclose : 0 < close.value) :
    sizeOrder? balance close atr params =
      (floorToStep? (boundsOf balance close atr params).limit params.qtyStep).map
        fun stepped =>
          if stepped.value ≤ 0 ∨ stepped.value < params.minOrderQty.value then
            boundsOf balance close atr params
          else
            { boundsOf balance close atr params with
              finalQty := stepped.normalized
              binding := (bindingQty (riskQty? balance atr params)
                (cappedQty balance close params)).2 } := by
  unfold sizeOrder?
  dsimp only
  rw [if_neg (by
    rw [Bool.or_eq_true, isPositive_eq_false_iff, isPositive_eq_false_iff, not_or, not_le, not_le]
    exact ⟨hbalance, hclose⟩)]
  rw [← bindingQty_fst]
  congr 1
  funext stepped
  congr 1
  rw [Bool.or_eq_true, isPositive_eq_false_iff, decide_eq_true_eq, Decimal.lt_iff_value]

/-- **The sizer takes one of the courses.** -/
theorem sizeOrder?_isCourse (h : sizeOrder? balance close atr params = some s) :
    SizeCourse balance close atr params s := by
  by_cases hpos : 0 < balance.value ∧ 0 < close.value
  · obtain ⟨hbalance, hclose⟩ := hpos
    rw [sizeOrder?_of_pos hbalance hclose] at h
    obtain ⟨stepped, hfloor, rfl⟩ := Option.map_eq_some_iff.mp h
    have hfloored := floorToStep?_eq_some_iff.mp hfloor
    split
    case isTrue hsmall => exact .tooSmall hbalance hclose hfloored hsmall
    case isFalse hlarge =>
      rw [not_or, not_le, not_lt] at hlarge
      exact .sized hbalance hclose hfloored hlarge.1 hlarge.2
  · rw [not_and_or, not_lt, not_lt] at hpos
    rw [sizeOrder?_of_nothing hpos] at h
    cases h
    exact .nothing hpos

/-- Where there is something to size, both quantities are worked out, whatever comes of them. -/
theorem SizeCourse.bounds (h : SizeCourse balance close atr params s) (hbalance : 0 < balance.value)
    (hclose : 0 < close.value) : s.cappedQty = (boundsOf balance close atr params).cappedQty ∧
      s.riskQty = (boundsOf balance close atr params).riskQty := by
  cases h with
  | nothing hnothing =>
    rcases hnothing with hle | hle
    · exact absurd hbalance (not_lt.mpr hle)
    · exact absurd hclose (not_lt.mpr hle)
  | tooSmall => exact ⟨rfl, rfl⟩
  | sized => exact ⟨rfl, rfl⟩

/-! ## Keeping to the bounds -/

/-- What a size keeps to. -/
structure OrderSizing.KeepsTo (s : OrderSizing) (params : SizingParams) : Prop where
  /-- There is no order, or one of at least the least quantity. -/
  least : s.finalQty.value = 0 ∨
    0 < s.finalQty.value ∧ params.minOrderQty.value ≤ s.finalQty.value
  /-- Unless lots are counted up, the size is above neither quantity, and zero where one of them
      is negative. -/
  within : ¬ CountsUp s.limit params.qtyStep → s.finalQty.value ≤ max 0 s.cappedQty.value ∧
    ∀ qty, s.riskQty = some qty → s.finalQty.value ≤ max 0 qty.value
  /-- Even then it passes the smaller one by at most three parts in 10²⁸ of it and a lot. -/
  excess : 0 < s.finalQty.value → s.finalQty.value ≤
    s.limit.value + 3 * (s.limit.value + params.qtyStep.value) / 10 ^ 28

theorem SizeCourse.keepsTo (h : SizeCourse balance close atr params s)
    (hstep : 0 ≤ params.qtyStep.value) : s.KeepsTo params := by
  -- without an order there is little to show
  have hunsized : ∀ s : OrderSizing, s.finalQty.value = 0 → s.KeepsTo params := fun s hzero =>
    { least := .inl hzero
      within := fun _ =>
        ⟨hzero.trans_le (le_max_left ..), fun _ _ => hzero.trans_le (le_max_left ..)⟩
      excess := fun hpos => absurd hzero hpos.ne' }
  cases h with
  | nothing => exact hunsized _ Decimal.value_zero
  | tooSmall => exact hunsized _ Decimal.value_zero
  | @sized stepped hbalance hclose hfloored hpos hmin =>
    refine ⟨.inr ?_, fun hup => ?_, fun _ => ?_⟩
    · rw [Decimal.value_normalized]
      exact ⟨hpos, hmin⟩
    · obtain ⟨hcapped, hrisk⟩ := (boundsOf balance close atr params).limit_le
      have hle := hfloored.le_of_not_countsUp hup
      rw [Decimal.value_normalized]
      refine ⟨(hle.trans hcapped).trans (le_max_right ..), fun qty hqty => ?_⟩
      exact (hle.trans (hrisk qty hqty)).trans (le_max_right ..)
    · rw [Decimal.value_normalized]
      exact hfloored.le_add (hfloored.qty_pos hpos).le hstep

theorem Config.qtyStep_nonneg {c : Config} (h : c.validate = .ok ()) :
    0 ≤ c.sizing.qtyStep.value := by
  have hsign := (validate_eq_ok_iff.mp h).qtyStep
  rw [Decimal.isNegative, decide_eq_false_iff_not, not_lt] at hsign
  exact div_nonneg (by exact_mod_cast hsign) (by positivity)

/-- **A size is zero or at least the least order, and within both quantities that bound it unless
    its lots are counted up.** -/
theorem sizeOrder?_keepsTo {config : Config} (hvalid : config.validate = .ok ())
    (h : sizeOrder? balance close atr config.sizing = some s) : s.KeepsTo config.sizing :=
  (sizeOrder?_isCourse h).keepsTo (Config.qtyStep_nonneg hvalid)

/-- The configuration without variables is accepted, and a hundredth of a balance of ten thousand
    buys a hundredth of a unit whose range is ten thousand. -/
theorem standard_keepsTo :
    let s : OrderSizing :=
      ⟨.small 10000 0, .small 50000 0, .small 10000 0, some ⟨10 ^ 26, 28, by decide, by decide⟩,
        ⟨2 * 10 ^ 26, 28, by decide, by decide⟩, .small 1 2, .riskBudget⟩
    Config.standard.validate = .ok () ∧
      sizeOrder? (.small 10000 0) (.small 50000 0) (.small 10000 0) Config.standard.sizing =
        some s ∧ s.KeepsTo Config.standard.sizing := by
  intro s
  have hsized : sizeOrder? (.small 10000 0) (.small 50000 0) (.small 10000 0)
      Config.standard.sizing = some s := by decide +kernel
  exact ⟨rfl, hsized, sizeOrder?_keepsTo rfl hsized⟩

/-- Lots of three are counted up where three of the smallest units are missing from a whole one:
    the size is above both quantities that bound it. -/
theorem size_above_bounds :
    let params : SizingParams := ⟨.small 1 0, .small 1 0, .small 1 3, .small 3 0⟩
    let balance : Decimal := ⟨3 * 10 ^ 28 - 1, 28, by decide, by decide⟩
    let one : Decimal := .small 1 0
    { Config.standard with sizing := params }.validate = .ok () ∧
      ∃ s, sizeOrder? balance one one params = some s ∧ s.cappedQty < s.finalQty ∧
        ∃ risk, s.riskQty = some risk ∧ risk < s.finalQty := by
  intro params balance one
  let s : OrderSizing :=
    ⟨balance, one, one, some balance, balance, .small 3 0, .notionalCap⟩
  exact ⟨rfl, s, by decide +kernel, by decide +kernel, balance, rfl, by decide +kernel⟩

/-! ## Where there is no size -/

/-- **There is a size unless the lots of the smaller quantity overflow.**  A quantity that is not
    negative has to be counted up for that, from less than five below the largest decimal, and of
    a negative one the greatest multiple below it has to be no decimal. -/
theorem sizeOrder?_eq_none_iff (balance close atr : Decimal) (params : SizingParams) :
    (sizeOrder? balance close atr params = none ↔ 0 < balance.value ∧ 0 < close.value ∧
      LotsOverflow (boundsOf balance close atr params).limit params.qtyStep) ∧
    ∀ qty, LotsOverflow qty params.qtyStep →
      (0 ≤ qty.value ∧ CountsUp qty params.qtyStep ∧ Decimal.max.value - 5 < qty.value) ∨
        (qty.value < 0 ∧
          Overflows (⌊qty.value / params.qtyStep.value⌋ * params.qtyStep.value)) := by
  refine ⟨?_, fun qty hover => ?_⟩
  · by_cases hpos : 0 < balance.value ∧ 0 < close.value
    · obtain ⟨hbalance, hclose⟩ := hpos
      rw [sizeOrder?_of_pos hbalance hclose, Option.map_eq_none_iff, floorToStep?_eq_none_iff]
      exact ⟨fun hover => ⟨hbalance, hclose, hover⟩, fun h => h.2.2⟩
    · have hnothing : balance.value ≤ 0 ∨ close.value ≤ 0 := by
        rwa [not_and_or, not_lt, not_lt] at hpos
      rw [sizeOrder?_of_nothing hnothing]
      exact iff_of_false (Option.some_ne_none _) fun h => hpos ⟨h.1, h.2.1⟩
  · rcases le_or_gt 0 qty.value with hqty | hqty
    · exact .inl ⟨hqty, hover.of_nonneg hqty⟩
    · exact .inr ⟨hqty, hover.of_neg hqty⟩

/-- A notional value beyond every decimal leaves the largest one as the quantity.  In lots of eight
    it is an eighth short of a whole number of them, is counted up to it, and so has no size. -/
theorem no_size_at_least_close :
    let params : SizingParams := { SizingParams.standard with qtyStep := .small 8 0 }
    let close : Decimal := ⟨1, 28, by decide, by decide⟩
    { Config.standard with sizing := params }.validate = .ok () ∧
      cappedQty (.small 10000 0) close params = .max ∧
      sizeOrder? (.small 10000 0) close .zero params = none := by
  intro params close
  exact ⟨rfl, by decide +kernel, by decide +kernel⟩

/-! ## Balances and ranges -/

/-- A fraction of the balance divided by a price or a range. -/
def share? (balance fraction divisor : Decimal) : Option Decimal :=
  (balance.mul? fraction).bind fun amount => amount.div? divisor

theorem cappedQty_eq :
    cappedQty balance close params = (share? balance params.maxPositionSize close).getD .max :=
  rfl

theorem riskQty?_of_pos (h : 0 < atr.value) :
    riskQty? balance atr params = share? balance params.positionRiskFraction atr :=
  if_pos (Decimal.isPositive_iff.mpr h)

theorem riskQty?_of_nonpos (h : atr.value ≤ 0) : riskQty? balance atr params = none :=
  if_neg (by rw [Decimal.isPositive_iff, not_lt]; exact h)

theorem share?_eq_some_iff {qty : Decimal} : share? balance fraction divisor = some qty ↔
    ∃ amount, balance.mul? fraction = some amount ∧ amount.div? divisor = some qty :=
  Option.bind_eq_some_iff

/-- A positive share is one of a positive fraction. -/
theorem fraction_pos {qty : Decimal} (hbalance : 0 ≤ balance.value) (hdivisor : 0 < divisor.value)
    (h : share? balance fraction divisor = some qty) (hqty : 0 < qty.value) :
    0 < fraction.value := by
  obtain ⟨amount, hmul, hdiv⟩ := share?_eq_some_iff.mp h
  by_contra hfraction
  have hamount : amount.value ≤ Decimal.zero.value :=
    (Decimal.nearest_of_mul? hmul).le_of_le (by
      rw [Decimal.value_zero]
      exact mul_nonpos_of_nonneg_of_nonpos hbalance (not_lt.mp hfraction))
  have hle : qty.value ≤ Decimal.zero.value :=
    (Decimal.nearest_of_div? hdiv).le_of_le (by
      rw [Decimal.value_zero] at hamount ⊢
      exact div_nonpos_of_nonpos_of_nonneg hamount hdivisor.le)
  rw [Decimal.value_zero] at hle
  exact absurd hqty (not_lt.mpr hle)

/-- A share that fits at a larger balance fits at a smaller one. -/
theorem exists_share?_of_balance_le {qty : Decimal} (hbalance : 0 ≤ balance.value)
    (hle : balance.value ≤ balance'.value) (hdivisor : 0 < divisor.value)
    (h : share? balance' fraction divisor = some qty) :
    ∃ qty', share? balance fraction divisor = some qty' := by
  obtain ⟨amount', hmul', hdiv'⟩ := share?_eq_some_iff.mp h
  have hsize : |balance.value * fraction.value| ≤ |balance'.value * fraction.value| := by
    -- a smaller amount fits where a larger one does, at both steps
    rw [abs_mul, abs_mul, abs_of_nonneg hbalance, abs_of_nonneg (hbalance.trans hle)]
    exact mul_le_mul_of_nonneg_right hle (abs_nonneg _)
  have hfits := (Decimal.nearest_of_mul? hmul').not_overflows
  obtain ⟨amount, hmul⟩ : ∃ amount, balance.mul? fraction = some amount :=
    Option.ne_none_iff_exists'.mp fun hnone =>
      hfits ((Decimal.mul?_eq_none_iff.mp hnone).of_abs_le hsize)
  have hamount := (Decimal.nearest_of_mul? hmul).abs_le_abs (Decimal.nearest_of_mul? hmul') hsize
  have hfits' := (Decimal.nearest_of_div? hdiv').not_overflows
  obtain ⟨qty', hdiv⟩ : ∃ qty', amount.div? divisor = some qty' :=
    Option.ne_none_iff_exists'.mp fun hnone => by
      refine hfits' (((Decimal.div?_eq_none_iff hdivisor.ne').mp hnone).of_abs_le ?_)
      rw [abs_div, abs_div]
      exact div_le_div_of_nonneg_right hamount (abs_nonneg _)
  exact ⟨qty', share?_eq_some_iff.mpr ⟨amount, hmul, hdiv⟩⟩

/-- A positive share grows with the balance. -/
theorem share?_le_of_balance_le {qty qty' : Decimal} (hbalance : 0 ≤ balance.value)
    (hle : balance.value ≤ balance'.value) (hdivisor : 0 < divisor.value)
    (h : share? balance fraction divisor = some qty) (hqty : 0 < qty.value)
    (h' : share? balance' fraction divisor = some qty') : qty.value ≤ qty'.value := by
  have hfraction := fraction_pos hbalance hdivisor h hqty
  obtain ⟨amount, hmul, hdiv⟩ := share?_eq_some_iff.mp h
  obtain ⟨amount', hmul', hdiv'⟩ := share?_eq_some_iff.mp h'
  have hamount := (Decimal.nearest_of_mul? hmul).mono (Decimal.nearest_of_mul? hmul')
    (mul_le_mul_of_nonneg_right hle hfraction.le)
  exact (Decimal.nearest_of_div? hdiv).mono (Decimal.nearest_of_div? hdiv')
    (div_le_div_of_nonneg_right hamount hdivisor.le)

/-- What fits with a smaller divisor fits with a larger one, and a positive share shrinks. -/
theorem share?_le_of_divisor_le {qty : Decimal} (hbalance : 0 ≤ balance.value)
    (hdivisor : 0 < divisor.value) (hle : divisor.value ≤ divisor'.value)
    (h : share? balance fraction divisor = some qty) :
    ∃ qty', share? balance fraction divisor' = some qty' ∧
      (0 < qty'.value → qty'.value ≤ qty.value) := by
  have hdivisor' := hdivisor.trans_le hle
  obtain ⟨amount, hmul, hdiv⟩ := share?_eq_some_iff.mp h
  have hfits := (Decimal.nearest_of_div? hdiv).not_overflows
  obtain ⟨qty', hdiv'⟩ : ∃ qty', amount.div? divisor' = some qty' :=
    Option.ne_none_iff_exists'.mp fun hnone => by
      refine hfits (((Decimal.div?_eq_none_iff hdivisor'.ne').mp hnone).of_abs_le ?_)
      rw [abs_div, abs_div, abs_of_pos hdivisor, abs_of_pos hdivisor']
      exact div_le_div_of_nonneg_left (abs_nonneg _) hdivisor hle
  have h' := share?_eq_some_iff.mpr ⟨amount, hmul, hdiv'⟩
  refine ⟨qty', h', fun hqty' => ?_⟩
  -- for a negative share the order is the other way, so the fraction's sign is needed here
  have hfraction := fraction_pos hbalance hdivisor' h' hqty'
  have hamount : 0 ≤ amount.value :=
    (Decimal.nearest_of_mul? hmul).value_nonneg (mul_nonneg hbalance hfraction.le)
  exact (Decimal.nearest_of_div? hdiv').mono (Decimal.nearest_of_div? hdiv)
    (div_le_div_of_nonneg_left hamount hdivisor hle)

theorem cappedQty_mono (hbalance : 0 ≤ balance.value) (hle : balance.value ≤ balance'.value)
    (hclose : 0 < close.value) (hpos : 0 < (cappedQty balance close params).value) :
    (cappedQty balance close params).value ≤ (cappedQty balance' close params).value := by
  rw [cappedQty_eq] at hpos ⊢
  rw [cappedQty_eq]
  cases h' : share? balance' params.maxPositionSize close with
  | none => exact Decimal.value_le_max _
  | some qty' =>
    obtain ⟨qty, h⟩ := exists_share?_of_balance_le hbalance hle hclose h'
    rw [h] at hpos ⊢
    exact share?_le_of_balance_le hbalance hle hclose h hpos h'

/-- The smaller quantity grows with the balance. -/
theorem limit_mono_balance (hbalance : 0 < balance.value) (hle : balance.value ≤ balance'.value)
    (hclose : 0 < close.value) (hpos : 0 < (boundsOf balance close atr params).limit.value) :
    (boundsOf balance close atr params).limit.value ≤
      (boundsOf balance' close atr params).limit.value := by
  obtain ⟨hcapped, hrisk⟩ := (boundsOf balance close atr params).limit_le
  refine OrderSizing.le_limit_iff.mpr ⟨?_, fun qty' hqty' => ?_⟩
  · exact hcapped.trans (cappedQty_mono hbalance.le hle hclose (hpos.trans_le hcapped))
  · rcases le_or_gt atr.value 0 with hatr | hatr
    · -- without a range there is no risk budget at either balance
      cases (riskQty?_of_nonpos hatr).symm.trans hqty'
    have h' := (riskQty?_of_pos hatr).symm.trans hqty'
    -- a risk budget that fits at the larger balance fits at the smaller one
    obtain ⟨qty, h⟩ := exists_share?_of_balance_le hbalance.le hle hatr h'
    have hqty := hrisk qty ((riskQty?_of_pos hatr).trans h)
    exact hqty.trans (share?_le_of_balance_le hbalance.le hle hatr h (hpos.trans_le hqty) h')

/-- The smaller quantity shrinks as the range grows. -/
theorem limit_anti_atr (hbalance : 0 < balance.value) (hle : atr.value ≤ atr'.value)
    (hpos : 0 < (boundsOf balance close atr' params).limit.value) :
    (boundsOf balance close atr' params).limit.value ≤
      (boundsOf balance close atr params).limit.value := by
  obtain ⟨hcapped, hrisk⟩ := (boundsOf balance close atr' params).limit_le
  refine OrderSizing.le_limit_iff.mpr ⟨hcapped, fun qty hqty => ?_⟩
  rcases le_or_gt atr.value 0 with hatr | hatr
  · -- a range that is not positive switches the risk budget off, which only enlarges the limit
    cases (riskQty?_of_nonpos hatr).symm.trans hqty
  obtain ⟨qty', h', hshrinks⟩ := share?_le_of_divisor_le hbalance.le hatr hle
    ((riskQty?_of_pos hatr).symm.trans hqty)
  have hqty' := hrisk qty' ((riskQty?_of_pos (hatr.trans_le hle)).trans h')
  exact hqty'.trans (hshrinks (hpos.trans_le hqty'))

/-- A size is at most another one of a balance that is not smaller if its smaller quantity is. -/
theorem SizeCourse.finalQty_le (h : SizeCourse balance close atr params s)
    (h' : SizeCourse balance' close atr' params s') (hbalance : balance.value ≤ balance'.value)
    (hlimit : 0 < balance.value → 0 < close.value →
      0 < (boundsOf balance close atr params).limit.value →
      (boundsOf balance close atr params).limit.value ≤
        (boundsOf balance' close atr' params).limit.value) :
    s.finalQty.value ≤ s'.finalQty.value := by
  have hnonneg : 0 ≤ s'.finalQty.value := by
    cases h' with
    | nothing => exact Decimal.value_zero.ge
    | tooSmall => exact Decimal.value_zero.ge
    | sized _ _ _ hpos => exact (Decimal.value_normalized _).symm ▸ hpos.le
  cases h with
  | nothing => exact Decimal.value_zero.le.trans hnonneg
  | tooSmall => exact Decimal.value_zero.le.trans hnonneg
  | sized hb hc hfloored hpos hmin =>
    have hqty := hfloored.qty_pos hpos
    have hle := hlimit hb hc hqty
    -- the other one is sized too, since it has at least as many lots
    cases h' with
    | nothing hnothing =>
      rcases hnothing with hsmall | hsmall
      · exact absurd (hb.trans_le hbalance) (not_lt.mpr hsmall)
      · exact absurd hc (not_lt.mpr hsmall)
    | tooSmall _ _ hfloored' hsmall =>
      have hstepped := hfloored.mono hfloored' hqty.le hle
      rcases hsmall with hsmall | hsmall
      · exact absurd (hpos.trans_le hstepped) (not_lt.mpr hsmall)
      · exact absurd (hmin.trans hstepped) (not_le.mpr hsmall)
    | sized _ _ hfloored' =>
      rw [Decimal.value_normalized, Decimal.value_normalized]
      exact hfloored.mono hfloored' hqty.le hle

/-- **Sizes do not grow with the range and do not shrink with the balance.** -/
theorem sizeOrder?_monotone (params : SizingParams) (close : Decimal) :
    (∀ balance atr atr' s s', atr ≤ atr' → sizeOrder? balance close atr params = some s →
      sizeOrder? balance close atr' params = some s' → s'.finalQty ≤ s.finalQty) ∧
    (∀ balance balance' atr s s', balance ≤ balance' →
      sizeOrder? balance close atr params = some s →
      sizeOrder? balance' close atr params = some s' → s.finalQty ≤ s'.finalQty) := by
  refine ⟨fun balance atr atr' s s' hle h h' => ?_, fun balance balance' atr s s' hle h h' => ?_⟩
  · rw [Decimal.le_iff_value] at hle ⊢
    exact (sizeOrder?_isCourse h').finalQty_le (sizeOrder?_isCourse h) le_rfl
      fun hbalance _ hpos => limit_anti_atr hbalance hle hpos
  · rw [Decimal.le_iff_value] at hle ⊢
    exact (sizeOrder?_isCourse h).finalQty_le (sizeOrder?_isCourse h') hle
      fun hbalance hclose hpos => limit_mono_balance hbalance hle hclose hpos

/-- A range that doubles does not enlarge a size, and neither does half the balance. -/
theorem sizeOrder?_monotone_standard :
    let size (balance atr : Decimal) := sizeOrder? balance (.small 50000 0) atr .standard
    ∃ s s' s'', size (.small 10000 0) (.small 10000 0) = some s ∧
      size (.small 10000 0) (.small 20000 0) = some s' ∧
      size (.small 5000 0) (.small 10000 0) = some s'' ∧
      s'.finalQty ≤ s.finalQty ∧ s''.finalQty ≤ s.finalQty := by
  intro size
  have hmonotone := sizeOrder?_monotone .standard (.small 50000 0)
  obtain ⟨s, hs⟩ : ∃ s, size (.small 10000 0) (.small 10000 0) = some s := ⟨_, rfl⟩
  obtain ⟨s', hs'⟩ : ∃ s, size (.small 10000 0) (.small 20000 0) = some s := ⟨_, rfl⟩
  obtain ⟨s'', hs''⟩ : ∃ s, size (.small 5000 0) (.small 10000 0) = some s := ⟨_, rfl⟩
  exact ⟨s, s', s'', hs, hs', hs'', hmonotone.1 _ _ _ s s' (by decide +kernel) hs hs',
    hmonotone.2 _ _ _ s'' s (by decide +kernel) hs'' hs⟩

/-! ## Lots that are powers of ten -/

/-- What a size is where nothing is rounded on the way to whole lots. -/
structure OrderSizing.FloorsExactly (s : OrderSizing) (balance close atr : Decimal)
    (params : SizingParams) : Prop where
  /-- Where there is something to size, both quantities are those that the balance gives. -/
  bounds : 0 < balance.value → 0 < close.value →
    s.cappedQty = (boundsOf balance close atr params).cappedQty ∧
      s.riskQty = (boundsOf balance close atr params).riskQty
  /-- The number of lots is exact, and so is their size. -/
  exact : ∀ lots, s.limit.div? params.qtyStep = some lots →
    lots.value = s.limit.value / params.qtyStep.value ∧
      ∀ product, lots.floor.mul? params.qtyStep = some product →
        product.value = lots.floor.value * params.qtyStep.value
  /-- The size is the greatest multiple of a lot within the smaller quantity, or zero if there is
      nothing to size or this multiple is not above zero or below the least order. -/
  greatest : ∃ multiple, IsGreatest (multiplesUpTo s.limit.value params.qtyStep.value) multiple ∧
    (s.finalQty.value = multiple ∨ s.finalQty.value = 0) ∧
    (s.finalQty.value = 0 ↔ balance.value ≤ 0 ∨ close.value ≤ 0 ∨ multiple ≤ 0 ∨
      multiple < params.minOrderQty.value)
  /-- A size of zero has no binding quantity. -/
  unsized_iff : s.binding = .unsized ↔ s.finalQty.value = 0
  /-- The risk budget binds any other size if it is strictly below the notional cap. -/
  riskBudget_iff : s.finalQty.value ≠ 0 → (s.binding = .riskBudget ↔
    ∃ qty, s.riskQty = some qty ∧ qty < s.cappedQty)

theorem bindingQty_snd_ne (risk : Option Decimal) (capped : Decimal) :
    (bindingQty risk capped).2 ≠ .unsized := by
  unfold bindingQty
  cases risk with
  | none => exact nofun
  | some qty =>
    dsimp only
    split <;> exact nofun

theorem bindingQty_snd_eq_riskBudget_iff {risk : Option Decimal} {capped : Decimal} :
    (bindingQty risk capped).2 = .riskBudget ↔ ∃ qty, risk = some qty ∧ qty < capped := by
  unfold bindingQty
  cases risk with
  | none => simp
  | some qty =>
    dsimp only
    split <;> simp [*]

theorem SizeCourse.floorsExactly {k : Nat} (h : SizeCourse balance close atr params s)
    (hstep : params.qtyStep.value = 1 / 10 ^ k) (hk : k ≤ 28) :
    s.FloorsExactly balance close atr params := by
  have hexact : ∀ lots, s.limit.div? params.qtyStep = some lots → _ := fun lots =>
    -- by a power of a tenth nothing is rounded, and rounding is where an excess comes from
    floorToStep?_exact hstep hk
  have hbounds := h.bounds
  have hzero := Decimal.value_zero
  cases h with
  | nothing hnothing =>
    refine ⟨hbounds, hexact, ⟨_, isGreatest_floor_mul (step_pos hstep), .inr hzero, ?_⟩, ?_, ?_⟩
    · exact iff_of_true hzero (hnothing.imp_right .inl)
    · exact iff_of_true rfl hzero
    · exact fun hne => absurd hzero hne
  | tooSmall hbalance hclose hfloored hsmall =>
    refine ⟨hbounds, hexact, ⟨_, hfloored.isGreatest hstep hk, .inr hzero, ?_⟩, ?_, ?_⟩
    · exact iff_of_true hzero (.inr (.inr hsmall))
    · exact iff_of_true rfl hzero
    · exact fun hne => absurd hzero hne
  | @sized stepped hbalance hclose hfloored hsized hmin =>
    have hne := hsized.ne'
    rw [← Decimal.value_normalized] at hne
    have hsame := Decimal.value_normalized stepped
    refine ⟨hbounds, hexact, ⟨_, hfloored.isGreatest hstep hk, .inl hsame, ?_⟩, ?_, ?_⟩
    · refine iff_of_false hne ?_
      -- none of the reasons for an empty size holds where a size was given
      rintro (hle | hle | hle | hlt)
      · exact absurd hbalance (not_lt.mpr hle)
      · exact absurd hclose (not_lt.mpr hle)
      · exact absurd hsized (not_lt.mpr hle)
      · exact absurd hmin (not_le.mpr hlt)
    · exact iff_of_false (bindingQty_snd_ne _ _) hne
    · exact fun _ => bindingQty_snd_eq_riskBudget_iff

/-- **Where a lot is a power of ten there always is a size, the greatest multiple of the lot within
    both quantities that is not too small.** -/
theorem sizeOrder?_floorsExactly {k : Nat} (hk : k ≤ 28)
    (hstep : params.qtyStep.value = 1 / 10 ^ k) (balance close atr : Decimal) :
    ∃ s, sizeOrder? balance close atr params = some s ∧
      s.FloorsExactly balance close atr params := by
  obtain ⟨s, hs⟩ : ∃ s, sizeOrder? balance close atr params = some s := by
    by_cases hpos : 0 < balance.value ∧ 0 < close.value
    · obtain ⟨stepped, hfloor, -⟩ :=
        exists_floorToStep? hstep hk (boundsOf balance close atr params).limit
      rw [sizeOrder?_of_pos hpos.1 hpos.2, hfloor]
      exact ⟨_, rfl⟩
    · rw [not_and_or, not_lt, not_lt] at hpos
      exact ⟨_, sizeOrder?_of_nothing hpos⟩
  exact ⟨s, hs, (sizeOrder?_isCourse hs).floorsExactly hstep hk⟩

/-- A third of a unit is cut to whole thousandths. -/
theorem standard_floorsExactly :
    SizingParams.standard.qtyStep.value = 1 / 10 ^ 3 ∧
      ∃ s, sizeOrder? (.small 10 0) (.small 3 0) .zero .standard = some s ∧
        s.FloorsExactly (.small 10 0) (.small 3 0) .zero .standard := by
  have hstep : SizingParams.standard.qtyStep.value = 1 / 10 ^ 3 := by
    change ((1 : Int) : ℚ) / 10 ^ 3 = 1 / 10 ^ 3
    norm_num
  exact ⟨hstep, sizeOrder?_floorsExactly (by decide) hstep _ _ _⟩

end LiveTrader
