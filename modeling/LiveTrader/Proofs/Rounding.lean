import Mathlib.Algebra.Order.Field.Basic
import Mathlib.Data.Rat.Floor
import Mathlib.Tactic.FieldSimp
import Mathlib.Tactic.Linarith
import Mathlib.Tactic.Positivity
import Mathlib.Tactic.Ring
import LiveTrader.Decimal.Arithmetic

/-!
  LiveTrader.Proofs.Rounding

  Decimals as rational numbers, and what rounding does to them.  `Nearest x d` says that `d` is
  what becomes of the exact result `x`: rounded to the nearest decimal at the largest scale that
  fits.  Products and quotients are nearest to the exact ones, and `Nearest.mono` carries the
  order of exact results over to rounded ones, whatever their scales.
-/

namespace LiveTrader.Decimal

/-! ## The number that a decimal stands for -/

/-- The number that a decimal stands for. -/
def value (a : Decimal) : ℚ :=
  a.coeff / 10 ^ a.scale

theorem cast_pow10 (n : Nat) : ((pow10 n : Nat) : ℚ) = 10 ^ n :=
  Nat.cast_pow 10 n

/-- At its own scale a decimal is a whole number, its coefficient. -/
theorem value_mul_pow (a : Decimal) : a.value * 10 ^ a.scale = a.coeff :=
  div_mul_cancel₀ _ (by positivity)

/-- At any scale that is not smaller the coefficient is a whole number too. -/
theorem value_mul_pow_of_le (a : Decimal) {scale : Nat} (h : a.scale ≤ scale) :
    a.value * 10 ^ scale = ((a.coeff * 10 ^ (scale - a.scale) : Int) : ℚ) := by
  obtain ⟨more, rfl⟩ := Nat.exists_eq_add_of_le h
  rw [pow_add, ← mul_assoc, value_mul_pow, Nat.add_sub_cancel_left]
  push_cast
  rfl

/-- Decimals are compared by what they stand for, whatever their scales. -/
theorem lt_iff_value {a b : Decimal} : a < b ↔ a.value < b.value := by
  have hcross : a < b ↔ (a.coeff : ℚ) * 10 ^ b.scale < b.coeff * 10 ^ a.scale := by
    rw [← cast_pow10, ← cast_pow10]
    change a.coeff * (pow10 b.scale : Nat) < b.coeff * (pow10 a.scale : Nat) ↔ _
    exact_mod_cast Iff.rfl
  rw [hcross, value, value, div_lt_div_iff₀ (by positivity) (by positivity)]

/-- Of two decimals the one that is not the larger stands for no larger number. -/
theorem le_iff_value {a b : Decimal} : a ≤ b ↔ a.value ≤ b.value := by
  have hcross : a ≤ b ↔ (a.coeff : ℚ) * 10 ^ b.scale ≤ b.coeff * 10 ^ a.scale := by
    rw [← cast_pow10, ← cast_pow10]
    change a.coeff * (pow10 b.scale : Nat) ≤ b.coeff * (pow10 a.scale : Nat) ↔ _
    exact_mod_cast Iff.rfl
  rw [hcross, value, value, div_le_div_iff₀ (by positivity) (by positivity)]

theorem value_pos_iff {a : Decimal} : 0 < a.value ↔ 0 < a.coeff := by
  rw [value, div_pos_iff_of_pos_right (by positivity), Int.cast_pos]

theorem isPositive_iff {a : Decimal} : a.isPositive = true ↔ 0 < a.value := by
  rw [value_pos_iff, isPositive, decide_eq_true_eq]

theorem value_eq_zero_iff {a : Decimal} : a.value = 0 ↔ a.coeff = 0 := by
  rw [value, div_eq_zero_iff, or_iff_left (by positivity), Int.cast_eq_zero]

@[simp] theorem value_zero : zero.value = 0 :=
  value_eq_zero_iff.mpr rfl

/-- No coefficient has more than 96 bits. -/
theorem abs_coeff_lt (a : Decimal) : |a.coeff| < 2 ^ 96 := by
  have h : a.coeff.natAbs < 2 ^ 96 := a.coeff_lt
  rw [Int.abs_eq_natAbs]
  exact_mod_cast h

/-- The largest decimal is the largest coefficient without a fraction. -/
theorem value_max : max.value = 2 ^ 96 - 1 := by
  norm_num [value, max]

/-- No decimal is above the largest one. -/
theorem value_le_max (a : Decimal) : a.value ≤ max.value := by
  have hcoeff : (a.coeff : ℚ) ≤ 2 ^ 96 - 1 := by
    have h : a.coeff ≤ 2 ^ 96 - 1 := Int.le_sub_one_of_lt (abs_lt.mp a.abs_coeff_lt).2
    exact_mod_cast h
  have hone : (1 : ℚ) ≤ 10 ^ a.scale := one_le_pow₀ (by norm_num)
  rw [value_max, value, div_le_iff₀ (by positivity)]
  calc (a.coeff : ℚ) ≤ 2 ^ 96 - 1 := hcoeff
    _ ≤ (2 ^ 96 - 1) * 10 ^ a.scale := le_mul_of_one_le_right (by norm_num) hone

/-- The floor of a decimal is that of the number it stands for. -/
theorem value_floor (a : Decimal) : a.floor.value = (⌊a.value⌋ : Int) := by
  have hfloor : ⌊a.value⌋ = a.coeff / (pow10 a.scale : Nat) := by
    rw [value, ← cast_pow10]
    exact Rat.floor_intCast_div_natCast a.coeff (pow10 a.scale)
  rw [hfloor, value, floor, pow_zero, div_one]

/-- Zeros at the end of a fraction can go without a change of the number. -/
theorem stripZeros_value (coeff : Int) (scale : Nat) :
    ((stripZeros coeff scale).1 : ℚ) / 10 ^ (stripZeros coeff scale).2 = coeff / 10 ^ scale := by
  induction scale generalizing coeff with
  | zero => rfl
  | succ scale ih =>
    unfold stripZeros
    split
    case isTrue h =>
      have htenth : (coeff : ℚ) = (coeff / 10 : Int) * 10 := by
        have hexact : coeff / 10 * 10 = coeff := Int.ediv_mul_cancel (Int.dvd_of_emod_eq_zero h)
        exact_mod_cast hexact.symm
      rw [ih, htenth, pow_succ, mul_div_mul_right _ _ (by norm_num)]
    case isFalse => rfl

/-- Normalizing changes the scale of a decimal, and not the number. -/
@[simp] theorem value_normalized (a : Decimal) : a.normalized.value = a.value :=
  stripZeros_value a.coeff a.scale

/-! ## Rounding to whole numbers -/

/-- `n` is the whole number nearest to `x`, of two such the even one. -/
structure RoundsTo (x : ℚ) (n : Int) : Prop where
  le : x ≤ n + 1 / 2
  ge : n ≤ x + 1 / 2
  even : |x - n| = 1 / 2 → Even n

namespace RoundsTo

variable {x y : ℚ} {m n : Int}

/-- A whole number is rounded to itself. -/
theorem intCast (n : Int) : RoundsTo n n where
  le := by linarith
  ge := by linarith
  even h := by norm_num at h

theorem neg (h : RoundsTo x n) : RoundsTo (-x) (-n) where
  le := by push_cast; linarith [h.ge]
  ge := by push_cast; linarith [h.le]
  even htie := by
    refine (h.even ?_).neg
    rw [← htie, ← abs_neg]
    congr 1
    push_cast
    ring

/-- Rounding keeps the order.  Two numbers could only change places if both were the middle
    between two whole numbers, and of these only one is even. -/
theorem mono (hx : RoundsTo x m) (hy : RoundsTo y n) (hxy : x ≤ y) : m ≤ n := by
  by_contra hlt
  have hstep : (n : ℚ) + 1 ≤ m := by
    have h : n + 1 ≤ m := by omega
    exact_mod_cast h
  have hxm : x = n + 1 / 2 := by linarith [hx.ge, hy.le]
  have hyn : y = n + 1 / 2 := by linarith [hx.ge, hy.le]
  have hm : m = n + 1 := by
    have h : (m : ℚ) = n + 1 := by linarith [hx.ge]
    exact_mod_cast h
  have hevenm : Even m := hx.even (by rw [hxm, hm]; push_cast; norm_num)
  have hevenn : Even n := hy.even (by rw [hyn]; norm_num)
  rw [Int.even_iff] at hevenm hevenn
  omega

/-- Only one whole number is what a whole number is rounded to. -/
theorem eq_of_intCast (h : RoundsTo (m : ℚ) n) : n = m :=
  le_antisymm (h.mono (intCast m) le_rfl) ((intCast m).mono h le_rfl)

/-- Nothing is lost at a scale at which the exact result is a whole number. -/
theorem value_eq {d : Decimal} (h : RoundsTo (x * 10 ^ d.scale) d.coeff)
    (hx : x * 10 ^ d.scale = n) : d.value = x := by
  have hcoeff : d.coeff = n := (hx ▸ h).eq_of_intCast
  have hpow : (10 : ℚ) ^ d.scale ≠ 0 := by positivity
  refine mul_right_cancel₀ hpow ?_
  rw [value_mul_pow, hcoeff, hx]

theorem nonneg (h : RoundsTo x n) (hx : 0 ≤ x) : 0 ≤ n := by
  have hzero : RoundsTo 0 0 := by simpa using intCast 0
  exact hzero.mono h hx

theorem nonpos (h : RoundsTo x n) (hx : x ≤ 0) : n ≤ 0 := by
  have hzero : RoundsTo 0 0 := by simpa using intCast 0
  exact h.mono hzero hx

theorem abs (h : RoundsTo x n) : RoundsTo |x| |n| := by
  rcases le_total 0 x with hx | hx
  · rw [abs_of_nonneg hx, abs_of_nonneg (h.nonneg hx)]
    exact h
  · rw [abs_of_nonpos hx, abs_of_nonpos (h.nonpos hx)]
    exact h.neg

end RoundsTo

/-- A whole number and a fraction of one round to the number or to the next one. -/
theorem roundsTo_add {q : Nat} {f : ℚ} (hf : 0 ≤ f) :
    (f < 1 / 2 → RoundsTo (q + f) q) ∧ (1 / 2 < f → f ≤ 1 → RoundsTo (q + f) (q + 1 : Nat)) ∧
      (f = 1 / 2 → RoundsTo (q + f) (if q % 2 = 0 then q else q + 1 : Nat)) := by
  -- only in the middle is there a choice, and there the even neighbour is taken
  refine ⟨fun hlow => ⟨?_, ?_, ?_⟩, fun hhigh hone => ⟨?_, ?_, ?_⟩, ?_⟩
  · push_cast; linarith
  · push_cast; linarith
  · intro htie
    rw [Int.cast_natCast, add_sub_cancel_left, abs_of_nonneg hf] at htie
    exact absurd htie hlow.ne
  · push_cast; linarith
  · push_cast; linarith
  · intro htie
    have hneg : (q : ℚ) + f - ((q + 1 : Nat) : Int) = f - 1 := by push_cast; ring
    rw [hneg, abs_of_nonpos (by linarith)] at htie
    linarith
  · rintro rfl
    split
    case isTrue heven =>
      refine ⟨by push_cast; linarith, by push_cast; linarith, fun _ => ?_⟩
      exact (Int.even_coe_nat q).mpr (Nat.even_iff.mpr heven)
    case isFalse hodd =>
      refine ⟨by push_cast; linarith, by push_cast; linarith, fun _ => ?_⟩
      exact (Int.even_coe_nat (q + 1)).mpr (Nat.even_iff.mpr (by omega))

/-- Rounding half to even gives a nearest whole number, the even one of two. -/
theorem roundsTo_roundHalfEven (num : Nat) {den : Nat} (hden : 0 < den) :
    RoundsTo (num / den) (roundHalfEven num den) := by
  have hden' : (0 : ℚ) < den := by exact_mod_cast hden
  -- the quotient is a whole number and a fraction below one
  have hsplit : (num : ℚ) / den = (num / den : Nat) + (num % den : Nat) / den := by
    have h : (den : ℚ) * (num / den : Nat) + (num % den : Nat) = num := by
      exact_mod_cast Nat.div_add_mod num den
    field_simp
    linarith
  have hle : ((num % den : Nat) : ℚ) / den ≤ 1 := by
    rw [div_le_one hden']
    exact_mod_cast (Nat.mod_lt num hden).le
  obtain ⟨hlow, hhigh, hhalf⟩ :=
    roundsTo_add (q := num / den) (f := (num % den : Nat) / (den : ℚ)) (by positivity)
  rw [hsplit]
  unfold roundHalfEven
  dsimp only
  split
  case isTrue h =>
    refine hlow ?_
    rw [div_lt_div_iff₀ hden' two_pos, one_mul, mul_comm]
    exact_mod_cast h
  case isFalse hge =>
    split
    case isTrue h =>
      refine hhigh ?_ hle
      rw [div_lt_div_iff₀ two_pos hden', one_mul, mul_comm _ 2]
      exact_mod_cast h
    case isFalse hne =>
      have hmid : ((num % den : Nat) : ℚ) / den = 1 / 2 := by
        have h : 2 * (num % den) = den := by omega
        rw [div_eq_div_iff hden'.ne' two_ne_zero, one_mul, mul_comm]
        exact_mod_cast h
      have hround := hhalf hmid
      split
      case isTrue heven => rwa [if_pos heven] at hround
      case isFalse hodd => rwa [if_neg hodd] at hround

/-! ## Results that do not fit -/

/-- A number rounds to one that is beyond all coefficients. -/
def Overflows (x : ℚ) : Prop :=
  2 ^ 96 ≤ |x| + 1 / 2

/-- What is as large as a number without room has no room either. -/
theorem Overflows.of_abs_le {x y : ℚ} (h : Overflows x) (hxy : |x| ≤ |y|) : Overflows y :=
  le_trans h (by linarith)

theorem abs_mul_pow (x : ℚ) (scale : Nat) : |x * 10 ^ scale| = |x| * 10 ^ scale := by
  rw [abs_mul, abs_of_pos (by positivity : (0 : ℚ) < 10 ^ scale)]

/-- What does not fit at a scale does not fit at a larger one. -/
theorem Overflows.mul_pow_of_le {x : ℚ} {scale other : Nat} (h : Overflows (x * 10 ^ scale))
    (hle : scale ≤ other) : Overflows (x * 10 ^ other) := by
  refine h.of_abs_le ?_
  rw [abs_mul_pow, abs_mul_pow]
  exact mul_le_mul_of_nonneg_left (pow_le_pow_right₀ (by norm_num) hle) (abs_nonneg x)

/-- The middle between the largest coefficient and the limit goes to the limit, which is even. -/
theorem RoundsTo.lt_iff {x : ℚ} {n : Int} (h : RoundsTo x n) :
    |n| < 2 ^ 96 ↔ ¬ Overflows x := by
  have habs := h.abs
  unfold Overflows
  constructor
  · intro hlt hover
    -- within half of the limit the only coefficient is the largest, and it is odd
    have hle : (|n| : Int) ≤ 2 ^ 96 - 1 := by omega
    have hle' : ((|n| : Int) : ℚ) ≤ 2 ^ 96 - 1 := by exact_mod_cast hle
    have hn : |n| = 2 ^ 96 - 1 := by
      have hge : (2 ^ 96 : ℚ) - 1 ≤ (|n| : Int) := by linarith [habs.le]
      have hge' : 2 ^ 96 - 1 ≤ |n| := by exact_mod_cast hge
      omega
    have heven : Even |n| := by
      refine habs.even ?_
      have hx : |x| = 2 ^ 96 - 1 / 2 := by
        have := habs.le
        rw [hn] at this
        push_cast at this
        linarith
      rw [hx, hn]
      push_cast
      norm_num
    rw [hn, Int.even_iff] at heven
    norm_num at heven
  · intro hover
    by_contra hge
    have hge' : (2 ^ 96 : ℚ) ≤ (|n| : Int) := by exact_mod_cast not_lt.mp hge
    exact hover (by linarith [habs.ge])

/-- There is room for every coefficient. -/
theorem not_overflows_coeff (a : Decimal) : ¬ Overflows a.coeff :=
  (RoundsTo.intCast a.coeff).lt_iff.mp a.abs_coeff_lt

/-! ## The nearest decimal -/

/-- `d` is what becomes of the exact result `x`: the nearest decimal at its scale, and if that is
    not `x` itself, no larger scale would have done. -/
structure Nearest (x : ℚ) (d : Decimal) : Prop where
  rounds : RoundsTo (x * 10 ^ d.scale) d.coeff
  finest : d.value = x ∨ ∀ scale, d.scale < scale → scale ≤ 28 → Overflows (x * 10 ^ scale)

/-- The decimal of the other sign. -/
def neg (a : Decimal) : Decimal where
  coeff := -a.coeff
  scale := a.scale
  coeff_lt := (Int.natAbs_neg a.coeff).symm ▸ a.coeff_lt
  scale_le := a.scale_le

@[simp] theorem value_neg (a : Decimal) : a.neg.value = -a.value := by
  unfold value neg
  push_cast
  ring

theorem overflows_neg {x : ℚ} : Overflows (-x) ↔ Overflows x := by
  rw [Overflows, abs_neg, Overflows]

namespace Nearest

variable {x y : ℚ} {d e : Decimal}

theorem neg (h : Nearest x d) : Nearest (-x) d.neg where
  rounds := by
    rw [neg_mul]
    exact h.rounds.neg
  finest := by
    refine h.finest.imp (fun hexact => by rw [value_neg, hexact]) fun hover scale hlt hle => ?_
    rw [neg_mul, overflows_neg]
    exact hover scale hlt hle

/-- A decimal is its own nearest one. -/
theorem self (a : Decimal) : Nearest a.value a where
  rounds := a.value_mul_pow ▸ RoundsTo.intCast a.coeff
  finest := .inl rfl

theorem value_nonneg (h : Nearest x d) (hx : 0 ≤ x) : 0 ≤ d.value := by
  have hcoeff : 0 ≤ d.coeff := h.rounds.nonneg (by positivity)
  exact div_nonneg (by exact_mod_cast hcoeff) (by positivity)

/-- The size of a nearest decimal is nearest to the size of the number. -/
theorem exists_abs (h : Nearest x d) : ∃ e, Nearest |x| e ∧ e.value = |d.value| := by
  rcases le_total 0 x with hx | hx
  · rw [abs_of_nonneg hx, abs_of_nonneg (h.value_nonneg hx)]
    exact ⟨d, h, rfl⟩
  · have hneg := h.neg.value_nonneg (neg_nonneg.mpr hx)
    rw [value_neg, neg_nonneg] at hneg
    rw [abs_of_nonpos hx, abs_of_nonpos hneg]
    exact ⟨d.neg, h.neg, value_neg d⟩

theorem not_overflows_at (h : Nearest x d) : ¬ Overflows (x * 10 ^ d.scale) :=
  h.rounds.lt_iff.mp d.abs_coeff_lt

theorem not_overflows (h : Nearest x d) : ¬ Overflows x := by
  intro hover
  have hunit : Overflows (x * 10 ^ 0) := by rwa [pow_zero, mul_one]
  exact h.not_overflows_at (hunit.mul_pow_of_le (Nat.zero_le _))

/-- Where one more digit did not fit, the coefficient fills its range but for that digit: ten
    times it is beyond every coefficient. -/
theorem le_coeff_mul_ten (h : Nearest x d) (hx : 0 ≤ x)
    (hover : Overflows (x * 10 ^ (d.scale + 1))) : 2 ^ 96 ≤ d.coeff * 10 := by
  have hlow := h.rounds.le
  unfold Overflows at hover
  rw [abs_of_nonneg (by positivity), pow_succ (10 : ℚ), ← mul_assoc] at hover
  have hq : (2 : ℚ) ^ 97 - 11 ≤ 20 * d.coeff := by linarith
  have hz : 2 ^ 97 - 11 ≤ 20 * d.coeff := by exact_mod_cast hq
  omega

theorem mono_of_nonneg (hd : Nearest x d) (he : Nearest y e) (hx : 0 ≤ x) (hxy : x ≤ y) :
    d.value ≤ e.value := by
  have hpow (n : Nat) : (0 : ℚ) < 10 ^ n := by positivity
  have hscaled (n : Nat) : x * 10 ^ n ≤ y * 10 ^ n :=
    mul_le_mul_of_nonneg_right hxy (hpow n).le
  have hy : 0 ≤ y := hx.trans hxy
  -- results at one scale are compared by their coefficients; unequal scales are brought together
  rcases lt_trichotomy d.scale e.scale with hlt | heq | hgt
  · rcases hd.finest with hexact | hover
    · -- the smaller result is exact, so it is a whole number at the other's scale too
      have hx' := d.value_mul_pow_of_le hlt.le
      rw [hexact] at hx'
      have hcoeff := (hx' ▸ RoundsTo.intCast _).mono he.rounds (hscaled e.scale)
      refine le_of_mul_le_mul_right ?_ (hpow e.scale)
      rw [hexact, hx', value_mul_pow]
      exact_mod_cast hcoeff
    · -- the smaller result did not fit at the other's scale, so neither did the larger one
      refine absurd ((hover e.scale hlt e.scale_le).of_abs_le ?_) he.not_overflows_at
      rw [abs_of_nonneg (by positivity), abs_of_nonneg (by positivity)]
      exact hscaled e.scale
  · -- at one scale rounding is monotone
    refine le_of_mul_le_mul_right ?_ (hpow d.scale)
    have hcoeff := hd.rounds.mono (heq ▸ he.rounds) (hscaled d.scale)
    rw [value_mul_pow, heq, value_mul_pow]
    exact_mod_cast hcoeff
  · rcases he.finest with hexact | hover
    · -- the larger result is exact, so it is a whole number at the other's scale too
      have hy' := e.value_mul_pow_of_le hgt.le
      rw [hexact] at hy'
      have hcoeff := hd.rounds.mono (hy' ▸ RoundsTo.intCast _) (hscaled d.scale)
      refine le_of_mul_le_mul_right ?_ (hpow d.scale)
      rw [hexact, hy', value_mul_pow]
      exact_mod_cast hcoeff
    · -- with one digit less the larger result is beyond whatever fits with that digit
      have hbig := he.le_coeff_mul_ten hy (hover _ (Nat.lt_succ_self _) (by
        have := d.scale_le
        omega))
      have hd0 := hd.value_nonneg hx
      refine le_of_mul_le_mul_right ?_ (hpow (e.scale + 1))
      calc d.value * 10 ^ (e.scale + 1)
          ≤ d.value * 10 ^ d.scale :=
            mul_le_mul_of_nonneg_left (pow_le_pow_right₀ (by norm_num) hgt) hd0
        _ = d.coeff := d.value_mul_pow
        _ ≤ (2 ^ 96 : Int) := by exact_mod_cast (abs_lt.mp d.abs_coeff_lt).2.le
        _ ≤ (e.coeff * 10 : Int) := by exact_mod_cast hbig
        _ = e.value * 10 ^ (e.scale + 1) := by
            rw [pow_succ, ← mul_assoc, value_mul_pow]
            push_cast
            rfl

/-- **Rounding keeps the order of results**, also where they are rounded at different scales. -/
theorem mono (hd : Nearest x d) (he : Nearest y e) (hxy : x ≤ y) : d.value ≤ e.value := by
  rcases le_total 0 x with hx | hx
  · exact hd.mono_of_nonneg he hx hxy
  rcases le_total 0 y with hy | hy
  · have hd0 := hd.neg.value_nonneg (neg_nonneg.mpr hx)
    rw [value_neg] at hd0
    linarith [he.value_nonneg hy]
  · have hneg := he.neg.mono_of_nonneg hd.neg (neg_nonneg.mpr hy) (neg_le_neg hxy)
    rw [value_neg, value_neg] at hneg
    linarith

/-- Rounding does not pass a decimal. -/
theorem le_of_le (h : Nearest x d) {a : Decimal} (hx : x ≤ a.value) : d.value ≤ a.value :=
  h.mono (self a) hx

/-- Rounding does not pass a whole number either, since one that is no decimal is beyond all of
    them. -/
theorem floor_le (h : Nearest x d) : (⌊x⌋ : ℚ) ≤ d.value := by
  have hfloor := Int.floor_le x
  -- a floor that is a decimal is not passed, by monotony
  by_cases hsize : ⌊x⌋.natAbs < pow2 96
  · have hwhole : (⟨⌊x⌋, 0, hsize, Nat.zero_le _⟩ : Decimal).value = ⌊x⌋ := div_one _
    rw [← hwhole] at hfloor ⊢
    exact (self _).mono h hfloor
  · have hnot := h.not_overflows
    unfold Overflows at hnot
    have hlow := d.neg.value_le_max
    rw [value_neg, value_max] at hlow
    rcases Int.natAbs_eq ⌊x⌋ with hpos | hneg
    · -- a floor above all decimals would leave no room for `x`
      have hbig : (2 : ℚ) ^ 96 ≤ ⌊x⌋ := by
        have h96 : 2 ^ 96 ≤ ⌊x⌋ := by
          rw [hpos]
          exact_mod_cast not_lt.mp hsize
        exact_mod_cast h96
      linarith [le_abs_self x]
    · -- a floor below all decimals is below the result
      have hsmall : (⌊x⌋ : ℚ) ≤ -2 ^ 96 := by
        have h96 : ⌊x⌋ ≤ -2 ^ 96 := by
          rw [hneg, neg_le_neg_iff]
          exact_mod_cast not_lt.mp hsize
        exact_mod_cast h96
      linarith

/-- Larger results stay larger in size. -/
theorem abs_le_abs (hd : Nearest x d) (he : Nearest y e) (hxy : |x| ≤ |y|) :
    |d.value| ≤ |e.value| := by
  obtain ⟨d', hd', hvalue⟩ := hd.exists_abs
  obtain ⟨e', he', hvalue'⟩ := he.exists_abs
  rw [← hvalue, ← hvalue']
  exact hd'.mono he' hxy

/-- A result is off by at most half a unit of its last place. -/
theorem abs_sub_le (h : Nearest x d) : |d.value - x| ≤ 1 / 2 / 10 ^ d.scale := by
  have hpow : (0 : ℚ) < 10 ^ d.scale := by positivity
  have hscaled : (d.value - x) * 10 ^ d.scale = d.coeff - x * 10 ^ d.scale := by
    rw [sub_mul, value_mul_pow]
  rw [le_div_iff₀ hpow, ← abs_mul_pow, hscaled, abs_le]
  constructor <;> linarith [h.rounds.le, h.rounds.ge]

/-- A result that is rounded before the last place keeps more than 28 digits. -/
theorem abs_sub_le_of_scale_lt (h : Nearest x d) (hscale : d.scale < 28) :
    |d.value - x| ≤ |x| / 10 ^ 28 := by
  rcases h.finest with hexact | hover
  · rw [hexact, sub_self, abs_zero]
    positivity
  have hpow : (0 : ℚ) < 10 ^ d.scale := by positivity
  have hnext := hover _ (Nat.lt_succ_self _) hscale
  unfold Overflows at hnext
  rw [abs_mul_pow, pow_succ (10 : ℚ), ← mul_assoc] at hnext
  refine h.abs_sub_le.trans ?_
  rw [div_div, div_le_div_iff₀ (by positivity) (by positivity)]
  norm_num at hnext ⊢
  linarith

end Nearest

/-! ## Products and quotients -/

/-- A ratio with its sign. -/
def signedRatio (negative : Bool) (num den : Nat) : ℚ :=
  if negative then -(num / den) else num / den

/-- A sign in front of a rounded quotient is the sign of the exact one. -/
theorem roundsTo_signed (negative : Bool) (num scale : Nat) {den : Nat} (hden : 0 < den) :
    RoundsTo (signedRatio negative num den * 10 ^ scale)
      (signed negative (roundHalfEven (num * pow10 scale) den)) := by
  have hround := roundsTo_roundHalfEven (num * pow10 scale) hden
  rw [Nat.cast_mul, cast_pow10, mul_div_right_comm] at hround
  cases negative with
  | false => exact hround
  | true =>
    rw [signedRatio, if_pos rfl, neg_mul]
    exact hround.neg

/-- A rounded quotient of more than 96 bits is one that has no room. -/
theorem overflows_of_not_lt {negative : Bool} {num den scale : Nat} (hden : 0 < den)
    (h : ¬ roundHalfEven (num * pow10 scale) den < pow2 96) :
    Overflows (signedRatio negative num den * 10 ^ scale) := by
  have hsize : |signed negative (roundHalfEven (num * pow10 scale) den)| =
      (roundHalfEven (num * pow10 scale) den : Int) := by
    cases negative with
    | false => exact abs_of_nonneg (Int.natCast_nonneg _)
    | true =>
      rw [signed, if_pos rfl, abs_neg]
      exact abs_of_nonneg (Int.natCast_nonneg _)
  have hfits := (roundsTo_signed negative num scale hden).lt_iff
  rw [hsize] at hfits
  exact not_not.mp (mt hfits.mpr fun hlt => h (by exact_mod_cast hlt))

section nearest?

variable {negative : Bool} {num den scale : Nat} {hs : scale ≤ 28} {d : Decimal}

/-- What is found is rounded once, at the largest scale for which there is room. -/
theorem nearest?_eq_some (hden : 0 < den) (h : nearest? negative num den scale hs = some d) :
    d.scale ≤ scale ∧ RoundsTo (signedRatio negative num den * 10 ^ d.scale) d.coeff ∧
      ∀ other, d.scale < other → other ≤ scale →
        Overflows (signedRatio negative num den * 10 ^ other) := by
  -- on the scale that is tried, from the largest down; what did not fit before overflows
  induction scale with
  | zero =>
    unfold nearest? at h
    dsimp only at h
    split at h
    case isTrue =>
      cases h
      exact ⟨le_rfl, roundsTo_signed negative num 0 hden,
        fun other hlt hle => absurd hlt (not_lt.mpr hle)⟩
    case isFalse => cases h
  | succ scale ih =>
    unfold nearest? at h
    dsimp only at h
    split at h
    case isTrue =>
      cases h
      exact ⟨le_rfl, roundsTo_signed negative num _ hden,
        fun other hlt hle => absurd hlt (not_lt.mpr hle)⟩
    case isFalse hover =>
      obtain ⟨hle, hrounds, hfinest⟩ := ih h
      refine ⟨by omega, hrounds, fun other hlt hother => ?_⟩
      rcases Nat.le_succ_iff.mp hother with hsmall | rfl
      · exact hfinest other hlt hsmall
      · exact overflows_of_not_lt hden hover

/-- If nothing is found there is no room even without places. -/
theorem nearest?_eq_none (hden : 0 < den) (h : nearest? negative num den scale hs = none) :
    Overflows (signedRatio negative num den) := by
  -- on the scale; what does not even fit as a whole number does not fit at all
  induction scale with
  | zero =>
    unfold nearest? at h
    dsimp only at h
    split at h
    case isTrue => cases h
    case isFalse hover =>
      have hzero : Overflows (signedRatio negative num den * 10 ^ 0) :=
        overflows_of_not_lt hden hover
      rwa [pow_zero, mul_one] at hzero
  | succ scale ih =>
    unfold nearest? at h
    dsimp only at h
    split at h
    case isTrue => cases h
    case isFalse => exact ih h

/-- A result that starts at its last possible place, or at a place from which on it has no more
    digits, is the nearest decimal. -/
theorem nearest_of_nearest? (hden : 0 < den)
    (hstart : scale = 28 ∨ ∃ n : Int, signedRatio negative num den * 10 ^ scale = n)
    (h : nearest? negative num den scale hs = some d) :
    Nearest (signedRatio negative num den) d := by
  obtain ⟨hle, hrounds, hfinest⟩ := nearest?_eq_some hden h
  refine ⟨hrounds, ?_⟩
  rcases hstart with rfl | ⟨n, hn⟩
  · exact .inr hfinest
  rcases eq_or_lt_of_le hle with rfl | hlt
  · exact .inl (hrounds.value_eq hn)
  · refine .inr fun other hother _ => ?_
    rcases le_or_gt other scale with hsmall | hlarge
    · exact hfinest other hother hsmall
    · exact (hfinest scale hlt le_rfl).mul_pow_of_le hlarge.le

end nearest?

theorem mul_mul_pow_add (a b : Decimal) :
    a.value * b.value * 10 ^ (a.scale + b.scale) = ((a.coeff * b.coeff : Int) : ℚ) := by
  rw [pow_add, mul_mul_mul_comm, value_mul_pow, value_mul_pow]
  push_cast
  rfl

theorem signedRatio_mul (a b : Decimal) :
    signedRatio (a.coeff * b.coeff < 0) (a.coeff.natAbs * b.coeff.natAbs)
      (pow10 (a.scale + b.scale)) = a.value * b.value := by
  have hvalue : a.value * b.value = (a.coeff * b.coeff : Int) / 10 ^ (a.scale + b.scale) :=
    eq_div_of_mul_eq (by positivity) (mul_mul_pow_add a b)
  rw [hvalue, ← Int.natAbs_mul, signedRatio, cast_pow10, Nat.cast_natAbs]
  generalize a.coeff * b.coeff = n
  split
  case isTrue h => rw [abs_of_neg (of_decide_eq_true h), Int.cast_neg, neg_div, neg_neg]
  case isFalse h => rw [abs_of_nonneg (not_lt.mp fun hneg => h (decide_eq_true hneg))]

theorem signedRatio_div (a : Decimal) {b : Decimal} (hb : b.coeff ≠ 0) :
    signedRatio (decide (a.coeff < 0) != decide (b.coeff < 0)) (a.coeff.natAbs * pow10 b.scale)
      (b.coeff.natAbs * pow10 a.scale) = a.value / b.value := by
  have hvalue : a.value / b.value = a.coeff * 10 ^ b.scale / (b.coeff * 10 ^ a.scale) := by
    rw [value, value, div_div_div_eq, mul_comm (10 ^ a.scale : ℚ)]
  rw [hvalue, signedRatio]
  push_cast
  rcases lt_or_ge a.coeff 0 with ha | ha <;> rcases lt_or_gt_of_ne hb with hb | hb
  · simp [ha, hb, abs_of_neg, neg_mul, neg_div_neg_eq]
  · simp [ha, hb.not_gt, abs_of_neg, abs_of_pos hb, neg_mul, neg_div]
  · simp [ha.not_gt, hb, abs_of_nonneg, abs_of_neg, neg_mul, div_neg, ha]
  · simp [ha.not_gt, hb.not_gt, abs_of_nonneg ha, abs_of_pos hb]

section Operations

variable {a b d : Decimal}

theorem pow10_pos (n : Nat) : 0 < pow10 n :=
  Nat.pow_pos (by decide)

/-- A product is the nearest decimal to the exact one. -/
theorem nearest_of_mul? (h : a.mul? b = some d) : Nearest (a.value * b.value) d := by
  rw [← signedRatio_mul]
  refine nearest_of_nearest? (pow10_pos _) ?_ h
  rcases le_total 28 (a.scale + b.scale) with hlong | hshort
  · exact .inl (Nat.min_eq_right hlong)
  · -- the exact product has no more digits than the factors together
    refine .inr ⟨a.coeff * b.coeff, ?_⟩
    rw [signedRatio_mul, Nat.min_eq_left hshort, mul_mul_pow_add]

/-- A product is missing if and only if the exact one has no room. -/
theorem mul?_eq_none_iff : a.mul? b = none ↔ Overflows (a.value * b.value) := by
  constructor
  · intro h
    rw [← signedRatio_mul]
    exact nearest?_eq_none (pow10_pos _) h
  · refine fun hover => Option.eq_none_iff_forall_ne_some.mpr fun d hd => ?_
    exact (nearest_of_mul? hd).not_overflows hover

/-- A product whose factors have no more places than a decimal keeps more than 28 digits. -/
theorem abs_sub_le_of_mul? (h : a.mul? b = some d) (hscale : a.scale + b.scale ≤ 28) :
    |d.value - a.value * b.value| ≤ |a.value * b.value| / 10 ^ 28 := by
  have hnearest := nearest_of_mul? h
  have hle : d.scale ≤ a.scale + b.scale :=
    (nearest?_eq_some (pow10_pos _) h).1.trans (Nat.min_le_left ..)
  rcases eq_or_lt_of_le hle with heq | hlt
  · have hexact := hnearest.rounds.value_eq (heq ▸ mul_mul_pow_add a b)
    rw [hexact, sub_self, abs_zero]
    positivity
  · exact hnearest.abs_sub_le_of_scale_lt (hlt.trans_le hscale)

theorem den_pos (a : Decimal) (hb : b.coeff ≠ 0) : 0 < b.coeff.natAbs * pow10 a.scale :=
  Nat.mul_pos (Int.natAbs_pos.mpr hb) (pow10_pos _)

/-- A quotient is the nearest decimal to the exact one. -/
theorem nearest_of_div? (h : a.div? b = some d) : Nearest (a.value / b.value) d := by
  unfold div? at h
  split at h
  case isTrue => cases h
  case isFalse hb =>
    rw [← signedRatio_div a hb]
    exact nearest_of_nearest? (den_pos a hb) (.inl rfl) h

/-- A quotient by what is not zero is missing if and only if the exact one has no room. -/
theorem div?_eq_none_iff (hb : b.value ≠ 0) : a.div? b = none ↔ Overflows (a.value / b.value) := by
  have hcoeff := mt value_eq_zero_iff.mpr hb
  constructor
  · intro h
    rw [div?, if_neg hcoeff] at h
    rw [← signedRatio_div a hcoeff]
    exact nearest?_eq_none (den_pos a hcoeff) h
  · refine fun hover => Option.eq_none_iff_forall_ne_some.mpr fun d hd => ?_
    exact (nearest_of_div? hd).not_overflows hover

end Operations

end LiveTrader.Decimal
