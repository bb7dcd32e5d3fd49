import Mathlib.Algebra.Group.Nat.Defs
import Mathlib.Data.List.Induction
import LiveTrader.Decimal.Reading
import LiveTrader.Text.Hex

/-!
  LiveTrader.Proofs.Digits

  Numbers, bytes and decimals are read back from their digits.  A number is also read of its digits
  behind zeros and a plus sign, and of nothing else.  A decimal's text has as many places as its
  scale, so the decimal that is read is the same one and not only one of the same value.
-/

namespace LiveTrader

/-! ## Numbers of a fixed width -/

namespace Text

theorem isDigit_of_mem_digits {n : Nat} {c : Char} (h : c ∈ digits n) : c.isDigit = true :=
  Nat.isDigit_of_mem_toDigits (by decide) (by decide) h

theorem isDigit_of_mem_zeros {zeros n : Nat} {c : Char}
    (h : c ∈ List.replicate zeros '0' ++ digits n) : c.isDigit = true := by
  rcases List.mem_append.mp h with h | h
  · rw [List.eq_of_mem_replicate h]
    rfl
  · exact isDigit_of_mem_digits h

theorem ofDigitChars_zeros (zeros n : Nat) :
    Nat.ofDigitChars 10 (List.replicate zeros '0' ++ digits n) 0 = n := by
  rw [Nat.ofDigitChars_append, Nat.ofDigitChars_replicate_zero, Nat.mul_zero]
  exact Nat.ofDigitChars_ten_toDigits

/-- A padded number is read back. -/
theorem ofDigitChars_padded (width n : Nat) : Nat.ofDigitChars 10 (padded width n) 0 = n :=
  ofDigitChars_zeros _ n

/-- Different numbers are different texts at the same width. -/
theorem padded_inj {width m n : Nat} : padded width m = padded width n ↔ m = n := by
  refine ⟨fun h => ?_, fun h => h ▸ rfl⟩
  rw [← ofDigitChars_padded width m, h, ofDigitChars_padded]

/-- A number that is not too large for its width takes just that width. -/
theorem length_padded {width n : Nat} (hwidth : 0 < width) (h : n < 10 ^ width) :
    (padded width n).length = width := by
  have hle : (digits n).length ≤ width :=
    (Nat.length_toDigits_le_iff (by decide) hwidth).mpr h
  unfold padded
  rw [List.length_append, List.length_replicate]
  omega

theorem isDigit_of_mem_padded {width n : Nat} {c : Char} (h : c ∈ padded width n) :
    c.isDigit = true :=
  isDigit_of_mem_zeros h

theorem le_length_padded (width n : Nat) : width ≤ (padded width n).length := by
  unfold padded
  rw [List.length_append, List.length_replicate]
  omega

/-- The number that a character stands for as a digit. -/
def valueOf (c : Char) : Nat :=
  c.toNat - '0'.toNat

/-! ## Spellings of numbers -/

theorem intText_ne_nil (n : Int) : intText n ≠ [] := by
  unfold intText
  split
  · exact List.cons_ne_nil _ _
  · exact Nat.toDigits_ne_nil

theorem mem_intText {n : Int} {c : Char} (h : c ∈ intText n) : c = '-' ∨ c.isDigit = true := by
  unfold intText at h
  split at h
  · rcases List.mem_cons.mp h with rfl | h
    · exact .inl rfl
    · exact .inr (isDigit_of_mem_digits h)
  · exact .inr (isDigit_of_mem_digits h)

theorem valueOf_lt {c : Char} (h : c.isDigit = true) : valueOf c < 10 := by
  obtain ⟨-, hle⟩ := Char.isDigit_iff_toNat.mp h
  have hnine : '9'.toNat = 57 := rfl
  have hzero : '0'.toNat = 48 := rfl
  unfold valueOf
  omega

/-- A digit is the only digit of its value. -/
theorem digits_valueOf {c : Char} (h : c.isDigit = true) : digits (valueOf c) = [c] := by
  have hchar : ∀ v < 10, Nat.digitChar v = Char.ofNat ('0'.toNat + v) := by decide
  obtain ⟨hle, -⟩ := Char.isDigit_iff_toNat.mp h
  rw [digits, Nat.toDigits_of_lt_base (valueOf_lt h), hchar _ (valueOf_lt h), valueOf,
    Nat.add_sub_cancel' hle, Char.ofNat_toNat]

/-- The digits of a number of several digits. -/
theorem digits_append {n v : Nat} (hn : 0 < n) (hv : v < 10) :
    digits n ++ digits v = digits (10 * n + v) :=
  Nat.toDigits_append_toDigits (by decide) hn hv

/-- So many digits have a value below the power of ten with as many zeros. -/
theorem ofDigitChars_lt {cs : List Char} (h : ∀ c ∈ cs, c.isDigit = true) :
    Nat.ofDigitChars 10 cs 0 < 10 ^ cs.length := by
  induction cs using List.reverseRecOn with
  | nil => exact Nat.one_pos
  | append_singleton cs c ih =>
    obtain ⟨hcs, hc⟩ := List.forall_mem_append.mp h
    have hvalue := valueOf_lt (hc c (List.mem_singleton_self c))
    have hcs := ih hcs
    rw [Nat.ofDigitChars_append, Nat.ofDigitChars_cons, Nat.ofDigitChars_nil, List.length_append,
      List.length_singleton, Nat.pow_succ]
    unfold valueOf at hvalue
    omega

theorem le_ofDigitChars (cs : List Char) (acc : Nat) : acc ≤ Nat.ofDigitChars 10 cs acc := by
  induction cs generalizing acc with
  | nil => exact Nat.le_refl acc
  | cons c cs ih =>
    rw [Nat.ofDigitChars_cons]
    exact Nat.le_trans (by omega) (ih _)

/-- Digits are read if and only if there is nothing else. -/
theorem extendDigits?_eq_some_iff {cs : List Char} {acc n : Nat} :
    extendDigits? acc cs = some n ↔
      (∀ c ∈ cs, c.isDigit = true) ∧ Nat.ofDigitChars 10 cs acc = n := by
  induction cs generalizing acc with
  | nil => simp [extendDigits?, Nat.ofDigitChars]
  | cons c cs ih =>
    rw [extendDigits?, List.forall_mem_cons, Nat.ofDigitChars_cons]
    by_cases hc : c.isDigit = true
    · rw [digitValue?, if_pos hc, Nat.mul_comm]
      simpa [hc] using ih
    · rw [digitValue?, if_neg hc]
      simp [hc]

/-- Digits are those of their number behind zeros. -/
theorem exists_zeros {cs : List Char} (hne : cs ≠ []) (hcs : ∀ c ∈ cs, c.isDigit = true) :
    ∃ zeros, cs = List.replicate zeros '0' ++ digits (Nat.ofDigitChars 10 cs 0) := by
  -- from the last digit, since a number is written by its last digit behind those of its tenth
  induction cs using List.reverseRecOn with
  | nil => exact absurd rfl hne
  | append_singleton cs c ih =>
    obtain ⟨hcs, hc⟩ := List.forall_mem_append.mp hcs
    have hc := hc c (List.mem_singleton_self c)
    have hvalue : Nat.ofDigitChars 10 (cs ++ [c]) 0 =
        10 * Nat.ofDigitChars 10 cs 0 + valueOf c := by
      rw [Nat.ofDigitChars_append, Nat.ofDigitChars_cons]
      rfl
    rw [hvalue]
    by_cases hnil : cs = []
    · subst hnil
      refine ⟨0, ?_⟩
      simpa [Nat.ofDigitChars] using (digits_valueOf hc).symm
    · obtain ⟨zeros, hzeros⟩ := ih hnil hcs
      by_cases hpos : 0 < Nat.ofDigitChars 10 cs 0
      · -- the digits so far are those of a number that is not zero
        refine ⟨zeros, ?_⟩
        rw [← digits_append hpos (valueOf_lt hc), digits_valueOf hc, ← List.append_assoc, ← hzeros]
      · -- so far there have been zeros only
        have hnone : Nat.ofDigitChars 10 cs 0 = 0 := by omega
        have hdigits : digits 0 = ['0'] := rfl
        rw [hnone, hdigits, ← List.replicate_succ'] at hzeros
        refine ⟨zeros + 1, ?_⟩
        rw [hnone, Nat.mul_zero, Nat.zero_add, digits_valueOf hc, ← hzeros]

/-- The spellings of a number: its digits, also behind zeros and behind a plus sign. -/
def Spells (n : Nat) (cs : List Char) : Prop :=
  ∃ zeros, let unsigned := List.replicate zeros '0' ++ digits n
    cs = unsigned ∨ cs = '+' :: unsigned

theorem natOfDigits?_of_ne_nil {cs : List Char} (h : cs ≠ []) :
    natOfDigits? cs = extendDigits? 0 cs := by
  cases cs with
  | nil => exact absurd rfl h
  | cons c cs => rfl

/-- The texts of a natural number are its digits with any zeros in front. -/
theorem natOfDigits?_eq_some_iff {cs : List Char} {n : Nat} :
    natOfDigits? cs = some n ↔ ∃ zeros, cs = List.replicate zeros '0' ++ digits n := by
  constructor
  · intro h
    have hne : cs ≠ [] := by
      rintro rfl
      cases h
    rw [natOfDigits?_of_ne_nil hne] at h
    obtain ⟨hcs, rfl⟩ := extendDigits?_eq_some_iff.mp h
    exact exists_zeros hne hcs
  · rintro ⟨zeros, rfl⟩
    have hne : List.replicate zeros '0' ++ digits n ≠ [] :=
      List.append_ne_nil_of_right_ne_nil _ Nat.toDigits_ne_nil
    rw [natOfDigits?_of_ne_nil hne, extendDigits?_eq_some_iff]
    exact ⟨fun _ => isDigit_of_mem_zeros, ofDigitChars_zeros zeros n⟩

/-- A number below a bound is read of its spellings, and of nothing else. -/
theorem unsignedBelow?_eq_some_iff {bound n : Nat} {cs : List Char} :
    unsignedBelow? bound cs = some n ↔ Spells n cs ∧ n < bound := by
  -- a plus sign is no digit
  have hplus : ∀ (zeros : Nat) (rest : List Char),
      '+' :: rest ≠ List.replicate zeros '0' ++ digits n := by
    intro zeros rest h
    cases natOfDigits?_eq_some_iff.mpr ⟨zeros, h⟩
  unfold unsignedBelow? Spells
  rw [Option.filter_eq_some_iff, decide_eq_true_iff, natOfDigits?_eq_some_iff]
  refine and_congr_left fun _ => exists_congr fun zeros => ?_
  split
  case h_1 rest => simp [hplus zeros rest]
  case h_2 hhead =>
    refine ⟨.inl, ?_⟩
    rintro (h | rfl)
    · exact h
    · exact absurd rfl (hhead _)

end Text

/-! ## Hexadecimal text -/

namespace Text

theorem mem_hexChars {bytes : List UInt8} {c : Char} (h : c ∈ hexChars bytes) :
    ∃ n < 16, c = hexDigit n := by
  obtain ⟨b, -, hc⟩ := List.mem_flatMap.mp h
  have hb : b.toNat < 256 := b.toNat_lt
  simp only [List.mem_cons, List.not_mem_nil, or_false] at hc
  rcases hc with rfl | rfl
  · exact ⟨b.toNat / 16, by omega, rfl⟩
  · exact ⟨b.toNat % 16, by omega, rfl⟩

theorem length_hexChars (bytes : List UInt8) : (hexChars bytes).length = 2 * bytes.length := by
  induction bytes with
  | nil => rfl
  | cons b bytes ih =>
    rw [hexChars, List.flatMap_cons, List.length_append, ← hexChars, ih, List.length_cons]
    exact Nat.add_comm 2 _

/-- Bytes are read back from their digits. -/
theorem bytesOfHex?_hexChars (bytes : List UInt8) : bytesOfHex? (hexChars bytes) = some bytes := by
  have hdigit : ∀ n < 16, hexValue? (hexDigit n) = some n := by decide
  induction bytes with
  | nil => rfl
  | cons b bytes ih =>
    have hb : b.toNat < 256 := b.toNat_lt
    rw [hexChars, List.flatMap_cons, ← hexChars]
    simp only [List.cons_append, List.nil_append, bytesOfHex?,
      hdigit _ (show b.toNat / 16 < 16 by omega), hdigit _ (show b.toNat % 16 < 16 by omega), ih,
      Option.bind_eq_bind, Option.bind_some, Nat.div_add_mod', UInt8.ofNat_toNat]
    rfl

end Text

/-! ## Decimals -/

namespace Decimal

open Text (le_ofDigitChars valueOf)

/-- A digit belongs to the part of the number that the point has or has not begun. -/
theorem splitPlain?_digit {c : Char} (hc : c.isDigit = true) (seenDigit seenPoint : Bool)
    (rest : List Char) :
    splitPlain? seenDigit seenPoint (c :: rest) =
      (splitPlain? true seenPoint rest).map fun (whole, fraction) =>
        if seenPoint then (whole, some (valueOf c) :: fraction)
        else (valueOf c :: whole, fraction) := by
  have hpoint : c ≠ '.' := by rintro rfl; cases hc
  have hunderscore : c ≠ '_' := by rintro rfl; cases hc
  rw [splitPlain?]
  · rw [Text.digitValue?, if_pos hc]
    rfl
  · exact hpoint
  · exact hunderscore

/-- Behind the point all digits are fraction digits. -/
theorem splitPlain?_fraction {cs : List Char} (hcs : ∀ c ∈ cs, c.isDigit = true) :
    splitPlain? true true cs = some ([], cs.map fun c => some (valueOf c)) := by
  induction cs with
  | nil => rfl
  | cons c rest ih =>
    obtain ⟨hc, hrest⟩ := List.forall_mem_cons.mp hcs
    rw [splitPlain?_digit hc, ih hrest]
    rfl

/-- Before the point they belong to the whole part. -/
theorem splitPlain?_whole {cs rest : List Char} {fraction : List (Option Nat)}
    (hcs : ∀ c ∈ cs, c.isDigit = true) (hrest : splitPlain? true false rest = some ([], fraction)) :
    splitPlain? true false (cs ++ rest) = some (cs.map valueOf, fraction) := by
  induction cs with
  | nil => exact hrest
  | cons c cs ih =>
    obtain ⟨hc, hcs⟩ := List.forall_mem_cons.mp hcs
    rw [List.cons_append, splitPlain?_digit hc, ih hcs]
    rfl

/-- The whole part is read exactly if it has no more than 96 bits. -/
theorem wholeValue?_map {cs : List Char} {acc : Nat} (h : Nat.ofDigitChars 10 cs acc < pow2 96) :
    wholeValue? acc (cs.map valueOf) = some (Nat.ofDigitChars 10 cs acc) := by
  induction cs generalizing acc with
  | nil => rfl
  | cons c cs ih =>
    rw [Nat.ofDigitChars_cons, Nat.mul_comm] at h ⊢
    -- what has been read only grows, so it fits at every digit if it does at the last
    have hfits := Nat.lt_of_le_of_lt (le_ofDigitChars cs _) h
    rw [List.map_cons, wholeValue?]
    exact (if_pos hfits).trans (ih h)

/-- Digits without separators are all taken while they fit. -/
theorem takeFraction?_map {cs : List Char} {acc scale : Nat} (hscale : scale + cs.length ≤ 28)
    (h : Nat.ofDigitChars 10 cs acc < pow2 96) :
    takeFraction? acc scale (cs.map fun c => some (valueOf c)) =
      some (Nat.ofDigitChars 10 cs acc, scale + cs.length) := by
  induction cs generalizing acc scale with
  | nil => rfl
  | cons c cs ih =>
    rw [Nat.ofDigitChars_cons, Nat.mul_comm] at h ⊢
    rw [List.length_cons] at hscale
    have hfits := Nat.lt_of_le_of_lt (le_ofDigitChars cs _) h
    -- a digit is refused only with a separator behind it, and there is none
    have hseparator : (cs.map fun c => some (valueOf c)).head? ≠ some none := by
      cases cs <;> simp
    rw [List.map_cons, takeFraction?, if_pos ⟨by omega, hfits⟩,
      if_neg fun hlast => hseparator hlast.2.2]
    refine (ih (by omega) h).trans ?_
    rw [List.length_cons, Nat.add_right_comm]
    rfl

/-- The text of a number without a sign splits into its two parts. -/
theorem splitPlain?_written {whole fraction : List Char} (hne : whole ≠ [])
    (hwhole : ∀ c ∈ whole, c.isDigit = true) (hfraction : ∀ c ∈ fraction, c.isDigit = true) :
    splitPlain? false false (whole ++ if fraction.isEmpty then [] else '.' :: fraction) =
      some (whole.map valueOf, fraction.map fun c => some (valueOf c)) := by
  obtain ⟨c, cs, rfl⟩ := List.exists_cons_of_ne_nil hne
  obtain ⟨hc, hcs⟩ := List.forall_mem_cons.mp hwhole
  have hrest : splitPlain? true false (if fraction.isEmpty then [] else '.' :: fraction) =
      some ([], fraction.map fun c => some (valueOf c)) := by
    cases fraction with
    | nil => rfl
    | cons d ds => exact splitPlain?_fraction hfraction
  rw [List.cons_append, splitPlain?_digit hc, splitPlain?_whole hcs hrest]
  rfl

/-- The parts of a decimal's text. -/
theorem exists_chars (a : Decimal) : ∃ whole fraction : List Char,
    a.chars = (if a.coeff < 0 then ['-'] else []) ++
      (whole ++ if fraction.isEmpty then [] else '.' :: fraction) ∧
    whole ≠ [] ∧ fraction.length = a.scale ∧ (∀ c ∈ whole, c.isDigit = true) ∧
    (∀ c ∈ fraction, c.isDigit = true) ∧
    Nat.ofDigitChars 10 fraction (Nat.ofDigitChars 10 whole 0) = a.coeff.natAbs := by
  -- padded so that a digit is left before the point
  let ds := Text.padded (a.scale + 1) a.coeff.natAbs
  have hlength : a.scale + 1 ≤ ds.length := Text.le_length_padded _ _
  have hdigits : ∀ c ∈ ds, c.isDigit = true := fun c => Text.isDigit_of_mem_padded
  refine ⟨ds.take (ds.length - a.scale), ds.drop (ds.length - a.scale), ?_, ?_, ?_, ?_, ?_, ?_⟩
  · rw [chars, List.append_assoc]
  · intro hnil
    have hzero := congrArg List.length hnil
    rw [List.length_take, List.length_nil] at hzero
    omega
  · rw [List.length_drop]
    omega
  · exact fun c hc => hdigits c (List.mem_of_mem_take hc)
  · exact fun c hc => hdigits c (List.mem_of_mem_drop hc)
  · rw [← Nat.ofDigitChars_append, List.take_append_drop]
    exact Text.ofDigitChars_padded _ _

/-- A sign in front of a number is told from its digits. -/
theorem splitSign_written (n : Int) {whole : List Char} (rest : List Char) (hne : whole ≠ [])
    (hwhole : ∀ c ∈ whole, c.isDigit = true) :
    splitSign ((if n < 0 then ['-'] else []) ++ (whole ++ rest)) =
      (decide (n < 0), whole ++ rest) := by
  by_cases hn : n < 0
  · rw [if_pos hn, decide_eq_true hn]
    rfl
  · obtain ⟨c, cs, rfl⟩ := List.exists_cons_of_ne_nil hne
    have hc := hwhole c List.mem_cons_self
    have hminus : c ≠ '-' := by rintro rfl; cases hc
    have hplus : c ≠ '+' := by rintro rfl; cases hc
    rw [if_neg hn, decide_eq_false hn, List.nil_append, List.cons_append, splitSign]
    · exact fun _ h => hminus (List.cons.inj h).1
    · exact fun _ h => hplus (List.cons.inj h).1

theorem signed_natAbs (n : Int) : signed (n < 0) n.natAbs = n := by
  unfold signed
  split
  case isTrue h =>
    have hneg : n < 0 := of_decide_eq_true h
    omega
  case isFalse h =>
    have hnonneg : ¬ n < 0 := fun hlt => h (decide_eq_true hlt)
    omega

/-- The text of a decimal is read back with its scale. -/
theorem plain?_chars (a : Decimal) : plain? a.chars = some a := by
  obtain ⟨whole, fraction, hchars, hne, hlength, hwhole, hfraction, hvalue⟩ := a.exists_chars
  have hfits : Nat.ofDigitChars 10 fraction (Nat.ofDigitChars 10 whole 0) < pow2 96 :=
    hvalue ▸ a.coeff_lt
  have hscale : 0 + fraction.length ≤ 28 := by
    rw [Nat.zero_add, hlength]
    exact a.scale_le
  unfold plain?
  rw [hchars, splitSign_written _ _ hne hwhole]
  dsimp only
  rw [splitPlain?_written hne hwhole hfraction, Option.bind_eq_bind, Option.bind_some,
    wholeValue?_map (Nat.lt_of_le_of_lt (le_ofDigitChars fraction _) hfits), Option.bind_eq_bind,
    Option.bind_some, takeFraction?_map hscale hfits, Option.bind_eq_bind, Option.bind_some,
    hvalue, hlength, signed_natAbs, Nat.zero_add]
  exact dif_pos ⟨a.coeff_lt, a.scale_le⟩

/-- **A decimal is read back from its text**, scale included. -/
theorem ofText?_toText (a : Decimal) : ofText? a.toText = some a := by
  rw [ofText?, toText, String.toList_ofList, ofChars?, plain?_chars]
  rfl

end Decimal

end LiveTrader
