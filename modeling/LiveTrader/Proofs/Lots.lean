import Mathlib.Order.Bounds.Basic
import LiveTrader.Proofs.Rounding
import LiveTrader.Sizing

/-!
  LiveTrader.Proofs.Lots

  Rounding a quantity down to lots.  The number of lots is a rounded quotient and their size a
  rounded product, so the result keeps the order of quantities, but it may pass the quantity:
  where the number of lots is rounded up to a whole number, by at most three parts in 10²⁸ of
  the quantity and a lot.  At the largest quantities that is enough to pass every decimal
  (`LotsOverflow`).  Where a lot is a power of ten nothing is rounded, and the result is the
  greatest multiple of the lot.
-/

namespace LiveTrader

open Decimal (Nearest Overflows)

variable {qty qty' step stepped stepped' lots : Decimal}

/-! ## What becomes of a quantity -/

/-- What becomes of a quantity that is rounded down to lots. -/
inductive Floored (qty step : Decimal) : Decimal → Prop
  /-- Without a positive lot it stays as it is. -/
  | asIs (hstep : step.value ≤ 0) : Floored qty step qty
  /-- So it does if its lots are too many to be counted. -/
  | uncounted (hstep : 0 < step.value) (hdiv : qty.div? step = none) : Floored qty step qty
  | counted {lots stepped : Decimal} (hstep : 0 < step.value) (hdiv : qty.div? step = some lots)
      (hmul : lots.floor.mul? step = some stepped) : Floored qty step stepped

theorem floorToStep?_eq_some_iff :
    floorToStep? qty step = some stepped ↔ Floored qty step stepped := by
  unfold floorToStep?
  constructor
  · intro h
    split at h
    case isTrue hstep =>
      rw [Decimal.isPositive_iff] at hstep
      split at h
      case h_1 lots hdiv => exact .counted hstep hdiv h
      case h_2 hdiv =>
        cases h
        exact .uncounted hstep hdiv
    case isFalse hstep =>
      cases h
      rw [Decimal.isPositive_iff, not_lt] at hstep
      exact .asIs hstep
  · intro h
    cases h with
    | asIs hstep => rw [if_neg (by rw [Decimal.isPositive_iff]; exact not_lt.mpr hstep)]
    | uncounted hstep hdiv => rw [if_pos (Decimal.isPositive_iff.mpr hstep), hdiv]
    | counted hstep hdiv hmul =>
      rw [if_pos (Decimal.isPositive_iff.mpr hstep), hdiv]
      exact hmul

/-- Only a quantity above zero has lots. -/
theorem Floored.qty_pos (h : Floored qty step stepped) (hpos : 0 < stepped.value) :
    0 < qty.value := by
  cases h with
  | asIs => exact hpos
  | uncounted => exact hpos
  | counted hstep hdiv hmul =>
    -- a quantity that is not positive has no positive quotient, floor or product
    by_contra hqty
    have hlots : _ ≤ Decimal.zero.value := (Decimal.nearest_of_div? hdiv).le_of_le (by
      rw [Decimal.value_zero]
      exact div_nonpos_of_nonpos_of_nonneg (not_lt.mp hqty) hstep.le)
    have hwhole := Int.floor_le_floor hlots
    have hstepped := (Decimal.nearest_of_mul? hmul).le_of_le (a := .zero) (by
      rw [Decimal.value_zero, Decimal.value_floor]
      refine mul_nonpos_of_nonpos_of_nonneg ?_ hstep.le
      rw [Decimal.value_zero, Int.floor_zero] at hwhole
      exact_mod_cast hwhole)
    rw [Decimal.value_zero] at hstepped
    exact absurd hpos (not_lt.mpr hstepped)

/-- Lots that can be counted are fewer than those that cannot. -/
theorem floor_mul_le_of_uncounted (hstep : 0 < step.value) (hqty : 0 ≤ qty.value)
    (hdiv : qty.div? step = none) (lots : Decimal) :
    (⌊lots.value⌋ : ℚ) * step.value ≤ qty.value := by
  have hover := (Decimal.div?_eq_none_iff hstep.ne').mp hdiv
  unfold Overflows at hover
  rw [abs_of_nonneg (div_nonneg hqty hstep.le)] at hover
  have hmax := lots.value_le_max
  rw [Decimal.value_max] at hmax
  rw [← le_div_iff₀ hstep]
  linarith [Int.floor_le lots.value]

/-- **Rounding to lots keeps the order of quantities**, whether their lots can be counted or
    not. -/
theorem Floored.mono (h : Floored qty step stepped) (h' : Floored qty' step stepped')
    (hqty : 0 ≤ qty.value) (hle : qty.value ≤ qty'.value) : stepped.value ≤ stepped'.value := by
  have hqty' := hqty.trans hle
  cases h with
  | asIs hstep =>
    cases h' with
    | asIs => exact hle
    | uncounted hstep' => exact absurd hstep' (not_lt.mpr hstep)
    | counted hstep' => exact absurd hstep' (not_lt.mpr hstep)
  | uncounted hstep hdiv =>
    cases h' with
    | asIs hstep' => exact absurd hstep (not_lt.mpr hstep')
    | uncounted => exact hle
    | counted _ hdiv' =>
      -- more than can be counted is not counted
      have hover := (Decimal.div?_eq_none_iff hstep.ne').mp hdiv
      refine absurd (hover.of_abs_le ?_) (Decimal.nearest_of_div? hdiv').not_overflows
      rw [abs_of_nonneg (div_nonneg hqty hstep.le), abs_of_nonneg (div_nonneg hqty' hstep.le)]
      exact div_le_div_of_nonneg_right hle hstep.le
  | @counted lots _ hstep hdiv hmul =>
    have hproduct := Decimal.nearest_of_mul? hmul
    rw [Decimal.value_floor] at hproduct
    cases h' with
    | asIs hstep' => exact absurd hstep (not_lt.mpr hstep')
    | uncounted _ hdiv' =>
      exact hproduct.le_of_le (floor_mul_le_of_uncounted hstep hqty' hdiv' lots)
    | counted _ hdiv' hmul' =>
      have hlots := (Decimal.nearest_of_div? hdiv).mono (Decimal.nearest_of_div? hdiv')
        (div_le_div_of_nonneg_right hle hstep.le)
      have hproduct' := Decimal.nearest_of_mul? hmul'
      rw [Decimal.value_floor] at hproduct'
      refine hproduct.mono hproduct' (mul_le_mul_of_nonneg_right ?_ hstep.le)
      exact_mod_cast Int.floor_le_floor hlots

/-! ## Passing the quantity -/

/-- A quantity's lots are counted up: there are fewer than a whole number that they are rounded
    to. -/
def CountsUp (qty step : Decimal) : Prop :=
  0 < step.value ∧ ∃ lots, qty.div? step = some lots ∧ qty.value / step.value < ⌊lots.value⌋

/-- The result passes the quantity only where its lots are counted up. -/
theorem Floored.le_of_not_countsUp (h : Floored qty step stepped) (hup : ¬ CountsUp qty step) :
    stepped.value ≤ qty.value := by
  cases h with
  | asIs => exact le_rfl
  | uncounted => exact le_rfl
  | @counted lots _ hstep hdiv hmul =>
    have hproduct := Decimal.nearest_of_mul? hmul
    rw [Decimal.value_floor] at hproduct
    refine hproduct.le_of_le ?_
    rw [← le_div_iff₀ hstep]
    exact not_lt.mp fun hlt => hup ⟨hstep, lots, hdiv, hlt⟩

/-- The number of lots is off by less than one part in 10²⁸ of itself and half a lot. -/
theorem lots_le (hqty : 0 ≤ qty.value) (hstep : 0 < step.value) (hdiv : qty.div? step = some lots) :
    lots.value ≤ qty.value / step.value + (qty.value / step.value + 1 / 2) / 10 ^ 28 := by
  have hnearest := Decimal.nearest_of_div? hdiv
  have hx : 0 ≤ qty.value / step.value := div_nonneg hqty hstep.le
  rcases eq_or_lt_of_le lots.scale_le with hscale | hscale
  · have herror := (abs_le.mp hnearest.abs_sub_le).2
    rw [hscale] at herror
    have hmore : 0 ≤ qty.value / step.value / 10 ^ 28 := by positivity
    rw [add_div]
    linarith
  · have herror := (abs_le.mp (hnearest.abs_sub_le_of_scale_lt hscale)).2
    rw [abs_of_nonneg hx] at herror
    have hmore : (0 : ℚ) ≤ 1 / 2 / 10 ^ 28 := by positivity
    rw [add_div]
    linarith

/-- **A result passes its quantity by at most three parts in 10²⁸ of the quantity and a lot.** -/
theorem Floored.le_add (h : Floored qty step stepped) (hqty : 0 ≤ qty.value)
    (hstep : 0 ≤ step.value) :
    stepped.value ≤ qty.value + 3 * (qty.value + step.value) / 10 ^ 28 := by
  have hslack : 0 ≤ 3 * (qty.value + step.value) / 10 ^ 28 := by positivity
  cases h with
  | asIs => linarith
  | uncounted => linarith
  | @counted lots _ hpos hdiv hmul =>
    -- two roundings, each by a half of the last of 28 places: the quotient's here
    have hwhole : (⌊lots.value⌋ : ℚ) * step.value ≤
        qty.value + (qty.value + step.value / 2) / 10 ^ 28 := by
      calc (⌊lots.value⌋ : ℚ) * step.value
          ≤ lots.value * step.value := mul_le_mul_of_nonneg_right (Int.floor_le _) hstep
        _ ≤ (qty.value / step.value + (qty.value / step.value + 1 / 2) / 10 ^ 28) * step.value :=
            mul_le_mul_of_nonneg_right (lots_le hqty hpos hdiv) hstep
        _ = qty.value + (qty.value + step.value / 2) / 10 ^ 28 := by
            field_simp
    have hlots : 0 ≤ lots.value :=
      (Decimal.nearest_of_div? hdiv).value_nonneg (div_nonneg hqty hstep)
    have hproduct : 0 ≤ (⌊lots.value⌋ : ℚ) * step.value :=
      mul_nonneg (by exact_mod_cast Int.floor_nonneg.mpr hlots) hstep
    -- and the product's
    have herror := Decimal.abs_sub_le_of_mul? hmul ((Nat.zero_add _).le.trans step.scale_le)
    rw [Decimal.value_floor, abs_of_nonneg hproduct] at herror
    linarith [(abs_le.mp herror).2]

/-! ## Lots beyond every decimal -/

/-- A quantity is counted to have lots that are together beyond every decimal. -/
def LotsOverflow (qty step : Decimal) : Prop :=
  0 < step.value ∧ ∃ lots, qty.div? step = some lots ∧ Overflows (⌊lots.value⌋ * step.value)

/-- Nothing else keeps a quantity from being rounded to lots. -/
theorem floorToStep?_eq_none_iff : floorToStep? qty step = none ↔ LotsOverflow qty step := by
  unfold floorToStep? LotsOverflow
  rw [← Decimal.isPositive_iff]
  split
  case isTrue hstep =>
    cases hdiv : qty.div? step with
    | none => simp
    | some lots =>
      have hproduct : lots.floor.mul? step = none ↔ Overflows (⌊lots.value⌋ * step.value) := by
        rw [Decimal.mul?_eq_none_iff, Decimal.value_floor]
      simp [hstep, hproduct]
  case isFalse hstep => simp [hstep]

/-- Counting lots up adds less than five to a quantity: a lot is short of ten units of the place
    that their number is rounded at. -/
theorem floor_mul_lt_add_five (hqty : 0 ≤ qty.value) (hstep : 0 < step.value)
    (hdiv : qty.div? step = some lots) : (⌊lots.value⌋ : ℚ) * step.value < qty.value + 5 := by
  have hnearest := Decimal.nearest_of_div? hdiv
  have hmax : ∀ a : Decimal, a.value ≤ 2 ^ 96 - 1 := fun a =>
    a.value_le_max.trans_eq Decimal.value_max
  have hfloor : (⌊lots.value⌋ : ℚ) * step.value ≤ lots.value * step.value :=
    mul_le_mul_of_nonneg_right (Int.floor_le _) hstep.le
  rcases hnearest.finest with hexact | hover
  · have hsame : lots.value * step.value = qty.value := by
      rw [hexact, div_mul_cancel₀ _ hstep.ne']
    linarith
  have hpow : (0 : ℚ) < 10 ^ lots.scale := by positivity
  have hlot : step.value < 10 * 10 ^ lots.scale := by
    -- the number of lots keeps as many places as fit, so a large lot leaves it many
    rcases eq_or_lt_of_le lots.scale_le with hscale | hscale
    · -- at the last place every decimal is
      rw [hscale]
      linarith [hmax step]
    · -- one more place would have made the coefficient too large
      have hnext := hover _ (Nat.lt_succ_self _) hscale
      unfold Overflows at hnext
      rw [abs_of_nonneg (by positivity), pow_succ' (10 : ℚ), div_mul_eq_mul_div,
        ← sub_le_iff_le_add, le_div_iff₀ hstep] at hnext
      have hqty' : qty.value * (10 * 10 ^ lots.scale) ≤ (2 ^ 96 - 1) * (10 * 10 ^ lots.scale) :=
        mul_le_mul_of_nonneg_right (hmax qty) (by positivity)
      by_contra hge
      have hlots : (2 ^ 96 - 1 / 2) * (10 * 10 ^ lots.scale) ≤ (2 ^ 96 - 1 / 2) * step.value :=
        mul_le_mul_of_nonneg_left (not_lt.mp hge) (by norm_num)
      linarith
  have herror : lots.value * step.value ≤ qty.value + step.value / 2 / 10 ^ lots.scale := by
    have h := (abs_le.mp hnearest.abs_sub_le).2
    calc lots.value * step.value
        ≤ (qty.value / step.value + 1 / 2 / 10 ^ lots.scale) * step.value :=
          mul_le_mul_of_nonneg_right (by linarith) hstep.le
      _ = qty.value + step.value / 2 / 10 ^ lots.scale := by field_simp
  have hhalf : step.value / 2 / 10 ^ lots.scale < 5 := by
    rw [div_lt_iff₀ hpow]
    linarith
  linarith

/-- **The lots of a quantity that is not negative overflow only if they are counted up and the
    quantity is less than five below the largest decimal.** -/
theorem LotsOverflow.of_nonneg (h : LotsOverflow qty step) (hqty : 0 ≤ qty.value) :
    CountsUp qty step ∧ Decimal.max.value - 5 < qty.value := by
  obtain ⟨hstep, lots, hdiv, hover⟩ := h
  have hlots : 0 ≤ lots.value :=
    (Decimal.nearest_of_div? hdiv).value_nonneg (div_nonneg hqty hstep.le)
  have hwhole : (0 : ℚ) ≤ ⌊lots.value⌋ * step.value :=
    mul_nonneg (by exact_mod_cast Int.floor_nonneg.mpr hlots) hstep.le
  unfold Overflows at hover
  rw [abs_of_nonneg hwhole] at hover
  have hexcess := floor_mul_lt_add_five hqty hstep hdiv
  have hmax := qty.value_le_max
  rw [Decimal.value_max] at hmax
  refine ⟨⟨hstep, lots, hdiv, ?_⟩, ?_⟩
  · rw [div_lt_iff₀ hstep]
    linarith
  · rw [Decimal.value_max]
    linarith

/-- The lots of a negative quantity overflow only if the greatest multiple below it is no decimal:
    their number is rounded up, if at all. -/
theorem LotsOverflow.of_neg (h : LotsOverflow qty step) (hqty : qty.value < 0) :
    Overflows (⌊qty.value / step.value⌋ * step.value) := by
  obtain ⟨hstep, lots, hdiv, hover⟩ := h
  have hnearest := Decimal.nearest_of_div? hdiv
  have hlots : lots.value ≤ Decimal.zero.value := hnearest.le_of_le (by
    rw [Decimal.value_zero]
    exact (div_neg_of_neg_of_pos hqty hstep).le)
  have hfloor : (⌊qty.value / step.value⌋ : ℚ) ≤ ⌊lots.value⌋ := by
    exact_mod_cast Int.le_floor.mpr hnearest.floor_le
  have hnonpos : (⌊lots.value⌋ : ℚ) ≤ 0 := by
    rw [Decimal.value_zero] at hlots
    exact (Int.floor_le _).trans hlots
  refine hover.of_abs_le ?_
  rw [abs_mul, abs_mul, abs_of_nonpos hnonpos, abs_of_nonpos (hfloor.trans hnonpos)]
  exact mul_le_mul_of_nonneg_right (neg_le_neg hfloor) (abs_nonneg _)

/-! ## Lots that are powers of ten -/

/-- The multiples of a lot that are not above a quantity. -/
def multiplesUpTo (qty step : ℚ) : Set ℚ :=
  {x | (∃ n : Int, x = n * step) ∧ x ≤ qty}

theorem isGreatest_floor_mul {qty step : ℚ} (hstep : 0 < step) :
    IsGreatest (multiplesUpTo qty step) (⌊qty / step⌋ * step) := by
  refine ⟨⟨⟨_, rfl⟩, (le_div_iff₀ hstep).mp (Int.floor_le _)⟩, ?_⟩
  rintro _ ⟨⟨n, rfl⟩, hle⟩
  refine mul_le_mul_of_nonneg_right ?_ hstep.le
  exact_mod_cast Int.le_floor.mpr ((le_div_iff₀ hstep).mpr hle)

section PowersOfTen

variable {k : Nat}

theorem div_eq_mul_pow (hstep : step.value = 1 / 10 ^ k) (x : ℚ) :
    x / step.value = x * 10 ^ k := by
  rw [hstep, div_div_eq_mul_div, div_one]

theorem step_pos (hstep : step.value = 1 / 10 ^ k) : 0 < step.value := by
  rw [hstep]
  positivity

/-- The number of lots is exact: it has at most the digits of the quantity. -/
theorem lots_eq (hstep : step.value = 1 / 10 ^ k) (hdiv : qty.div? step = some lots) :
    lots.value = qty.value / step.value := by
  have hnearest := Decimal.nearest_of_div? hdiv
  rw [div_eq_mul_pow hstep] at hnearest ⊢
  rcases le_or_gt qty.scale (k + lots.scale) with hfits | hcut
  · have hwhole := qty.value_mul_pow_of_le hfits
    rw [pow_add, ← mul_assoc] at hwhole
    exact hnearest.rounds.value_eq hwhole
  · -- cut off at this scale, the coefficient of the quantity itself would have fit
    refine hnearest.finest.resolve_right fun hover => ?_
    have hscale : qty.scale - k ≤ 28 := (Nat.sub_le ..).trans qty.scale_le
    have hlost := hover (qty.scale - k) (by omega) hscale
    rw [mul_assoc, ← pow_add, Nat.add_sub_cancel' (by omega), qty.value_mul_pow] at hlost
    exact qty.not_overflows_coeff hlost

/-- A quantity with too many lots to be counted is a multiple of them. -/
theorem eq_mul_of_uncounted (hstep : step.value = 1 / 10 ^ k) (hdiv : qty.div? step = none) :
    ∃ n : Int, qty.value = n * step.value := by
  have hover := (Decimal.div?_eq_none_iff (step_pos hstep).ne').mp hdiv
  rw [div_eq_mul_pow hstep] at hover
  have hscale : qty.scale ≤ k := by
    by_contra hlong
    -- with a digit beyond the lot the number of lots is at most the coefficient
    have hlost := hover.mul_pow_of_le (not_le.mp hlong).le
    rw [qty.value_mul_pow] at hlost
    exact qty.not_overflows_coeff hlost
  have hwhole := qty.value_mul_pow_of_le hscale
  refine ⟨qty.coeff * 10 ^ (k - qty.scale), ?_⟩
  rw [hstep, mul_one_div, ← hwhole]
  exact (mul_div_cancel_right₀ _ (by positivity)).symm

/-- Whole lots have an exact size. -/
theorem product_eq (hstep : step.value = 1 / 10 ^ k) (hk : k ≤ 28)
    (hmul : lots.floor.mul? step = some stepped) :
    stepped.value = ⌊lots.value⌋ * step.value := by
  have hnearest := Decimal.nearest_of_mul? hmul
  have hwhole : lots.floor.value = (lots.floor.coeff : ℚ) := div_one _
  rw [← Decimal.value_floor]
  rcases le_or_gt k stepped.scale with hfits | hcut
  · obtain ⟨more, hmore⟩ := Nat.exists_eq_add_of_le hfits
    refine hnearest.rounds.value_eq (n := lots.floor.coeff * 10 ^ more) ?_
    rw [hstep, hwhole, hmore, pow_add]
    push_cast
    field_simp
  · -- at the scale of the lot the number of lots is the coefficient, which fits
    refine hnearest.finest.resolve_right fun hover => ?_
    have hlost := hover k hcut hk
    rw [hstep, mul_assoc, one_div_mul_cancel (by positivity), mul_one, hwhole] at hlost
    exact lots.floor.not_overflows_coeff hlost

theorem exists_product (hstep : step.value = 1 / 10 ^ k) (lots : Decimal) :
    ∃ stepped, lots.floor.mul? step = some stepped := by
  refine Option.ne_none_iff_exists'.mp fun hnone => ?_
  have hwhole : lots.floor.value = (lots.floor.coeff : ℚ) := div_one _
  refine lots.floor.not_overflows_coeff ((Decimal.mul?_eq_none_iff.mp hnone).of_abs_le ?_)
  rw [hstep, hwhole, abs_mul, abs_of_pos (by positivity : (0 : ℚ) < 1 / 10 ^ k)]
  refine mul_le_of_le_one_right (abs_nonneg _) ?_
  rw [div_le_one (by positivity)]
  exact one_le_pow₀ (by norm_num)

/-- **Rounding to lots that are a power of ten always has a result, the greatest multiple that is
    not above the quantity.** -/
theorem exists_floorToStep? (hstep : step.value = 1 / 10 ^ k) (hk : k ≤ 28) (qty : Decimal) :
    ∃ stepped, floorToStep? qty step = some stepped ∧
      stepped.value = ⌊qty.value / step.value⌋ * step.value := by
  have hpos := step_pos hstep
  cases hdiv : qty.div? step with
  | none =>
    refine ⟨qty, floorToStep?_eq_some_iff.mpr (.uncounted hpos hdiv), ?_⟩
    obtain ⟨n, hn⟩ := eq_mul_of_uncounted hstep hdiv
    rw [hn, mul_div_cancel_right₀ _ hpos.ne', Int.floor_intCast]
  | some lots =>
    obtain ⟨stepped, hmul⟩ := exists_product hstep lots
    refine ⟨stepped, floorToStep?_eq_some_iff.mpr (.counted hpos hdiv hmul), ?_⟩
    rw [product_eq hstep hk hmul, lots_eq hstep hdiv]

/-- Whatever a quantity is rounded to is the greatest multiple of the lot within it. -/
theorem Floored.isGreatest (hstep : step.value = 1 / 10 ^ k) (hk : k ≤ 28)
    (h : Floored qty step stepped) :
    IsGreatest (multiplesUpTo qty.value step.value) stepped.value := by
  obtain ⟨greatest, hfloor, hvalue⟩ := exists_floorToStep? hstep hk qty
  cases (floorToStep?_eq_some_iff.mpr h).symm.trans hfloor
  rw [hvalue]
  exact isGreatest_floor_mul (step_pos hstep)

/-- Neither the number of lots nor their size is rounded on the way. -/
theorem floorToStep?_exact (hstep : step.value = 1 / 10 ^ k) (hk : k ≤ 28)
    (hdiv : qty.div? step = some lots) :
    lots.value = qty.value / step.value ∧
      ∀ product, lots.floor.mul? step = some product →
        product.value = lots.floor.value * step.value := by
  refine ⟨lots_eq hstep hdiv, fun product hmul => ?_⟩
  rw [Decimal.value_floor]
  exact product_eq hstep hk hmul

end PowersOfTen

end LiveTrader
