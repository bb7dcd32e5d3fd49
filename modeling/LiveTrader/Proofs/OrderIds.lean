import Mathlib.Data.String.Basic
import LiveTrader.Order.Basic
import LiveTrader.Proofs.DatesInOrder
import LiveTrader.Proofs.WrittenTimes

/-!
  LiveTrader.Proofs.OrderIds

  The ids that are made for orders.  Between its hyphens an id has a tag, the letters and digits of
  the symbol, the time and the random suffix, each found again from its field.  The time is written
  with a fixed number of digits, so ids of one symbol are in the order of their times.
-/

namespace LiveTrader

open Text (padded)

/-! ## Times of twenty digits -/

namespace Instant

/-- The microsecond of the minute, that of a leap second being one after the others. -/
def microOfMinute (t : Instant) : Nat :=
  t.split.2 % 60 * 1000000 + t.nanos / 1000

/-- The number that the digits of a time of day make. -/
def clockStamp (t : Instant) : Nat :=
  (t.split.2 / 3600 * 100 + t.split.2 / 60 % 60) * 100000000 + t.microOfMinute

/-- The number that the digits of a time make. -/
def stamp (t : Instant) : Nat :=
  (t.split.1.year.toNat * 10000 + (t.split.1.month * 100 + t.split.1.day)) * 1000000000000 +
    t.clockStamp

theorem IsTime.microOfMinute_lt {t : Instant} (h : t.IsTime) : t.microOfMinute < 61000000 := by
  have hsecond : t.split.2 = (t.seconds % 86400).toNat := rfl
  unfold IsTime at h
  unfold microOfMinute
  omega

theorem IsTime.clockStamp_lt {t : Instant} (h : t.IsTime) : t.clockStamp < 1000000000000 := by
  have hsecond : t.split.2 = (t.seconds % 86400).toNat := rfl
  have hmicro := h.microOfMinute_lt
  unfold clockStamp
  omega

/-- Within a day later times have later numbers. -/
theorem IsTime.clockStamp_lt_of_lt {t u : Instant} (ht : t.IsTime)
    (hday : t.seconds / 86400 = u.seconds / 86400) (h : t.toMicro.lt u.toMicro = true) :
    t.clockStamp < u.clockStamp := by
  have hlater : t.seconds < u.seconds ∨
      t.seconds = u.seconds ∧ t.nanos / 1000 * 1000 < u.nanos / 1000 * 1000 := lt_iff.mp h
  have hsecond : t.split.2 = (t.seconds % 86400).toNat := rfl
  have husecond : u.split.2 = (u.seconds % 86400).toNat := rfl
  have hsplit : t.split.2 < u.split.2 ∨
      t.split.2 = u.split.2 ∧ t.nanos / 1000 < u.nanos / 1000 := by omega
  have hhour (n : Nat) : n / 3600 = n / 60 / 60 := by omega
  have hminute : t.split.2 / 60 ≤ u.split.2 / 60 := by omega
  unfold clockStamp
  rw [hhour, hhour]
  -- by the minute first: a leap second counts beyond the sixty of its minute
  rcases Nat.lt_or_eq_of_le hminute with hlt | heq
  · -- a leap second is still one of its minute
    have hmicro := ht.microOfMinute_lt
    have hclock : t.split.2 / 60 / 60 * 100 + t.split.2 / 60 % 60 <
        u.split.2 / 60 / 60 * 100 + u.split.2 / 60 % 60 := by omega
    omega
  · have hmicro : t.microOfMinute < u.microOfMinute := by
      have htime := ht
      unfold IsTime at htime
      have hleap : t.nanos < 1000000000 ∨ t.split.2 % 60 = 59 := by omega
      clear hsecond husecond htime
      unfold microOfMinute
      omega
    rw [heq]
    exact Nat.add_lt_add_left hmicro _

/-- Later times have later numbers. -/
theorem IsCivil.stamp_lt {t u : Instant} (ht : t.IsCivil) (hu : u.IsCivil)
    (h : t.toMicro.lt u.toMicro = true) : t.stamp < u.stamp := by
  have hlater : t.seconds < u.seconds ∨
      t.seconds = u.seconds ∧ t.nanos / 1000 * 1000 < u.nanos / 1000 * 1000 := lt_iff.mp h
  have hyear := ht.year_nonneg
  have huyear := hu.year_nonneg
  unfold stamp
  by_cases hday : t.seconds / 86400 = u.seconds / 86400
  · have hdate : t.split.1 = u.split.1 := congrArg Date.ofDays hday
    rw [hdate]
    exact Nat.add_lt_add_left (ht.isTime.clockStamp_lt_of_lt hday h) _
  · have hnumber : t.split.1.year * 10000 + (t.split.1.month * 100 + t.split.1.day : Nat) <
        u.split.1.year * 10000 + (u.split.1.month * 100 + u.split.1.day : Nat) :=
      Date.number_ofDays_lt (show t.seconds / 86400 < u.seconds / 86400 by omega)
    have hclock := ht.isTime.clockStamp_lt
    omega

theorem IsCivil.compactChars_eq {t : Instant} (h : t.IsCivil) : t.compactChars =
    padded 4 t.split.1.year.toNat ++ padded 2 t.split.1.month ++ padded 2 t.split.1.day ++
      padded 2 (t.split.2 / 3600) ++ padded 2 (t.split.2 / 60 % 60) ++
        padded 2 (t.split.2 % 60 + t.nanos / 1000000000) ++
          padded 6 (t.nanos % 1000000000 / 1000) := by
  unfold compactChars Date.compactChars Date.yearChars clockChars
  dsimp only
  rw [if_pos ⟨h.year_nonneg, h.year_le⟩]
  simp only [List.append_nil, List.append_assoc]

theorem IsCivil.isDigit_of_mem_compactChars {t : Instant} (h : t.IsCivil) {c : Char}
    (hc : c ∈ t.compactChars) : c.isDigit = true := by
  rw [h.compactChars_eq] at hc
  simp only [List.mem_append] at hc
  rcases hc with (((((hc | hc) | hc) | hc) | hc) | hc) | hc <;> exact Text.isDigit_of_mem_padded hc

/-- A time takes twenty digits. -/
theorem IsCivil.length_compactChars {t : Instant} (h : t.IsCivil) :
    t.compactChars.length = 20 := by
  obtain ⟨hyear, hmonth, hday, hhour, hminute, hsecond⟩ := h.parts_lt
  have hmicro : t.nanos % 1000000000 / 1000 < 10 ^ 6 := by omega
  rw [h.compactChars_eq]
  simp only [List.length_append]
  rw [Text.length_padded (by decide) hyear, Text.length_padded (by decide) hmonth,
    Text.length_padded (by decide) hday, Text.length_padded (by decide) hhour,
    Text.length_padded (by decide) hminute, Text.length_padded (by decide) hsecond,
    Text.length_padded (by decide) hmicro]

/-- The digits of a time stand for its number. -/
theorem IsCivil.ofDigitChars_compactChars {t : Instant} (h : t.IsCivil) :
    Nat.ofDigitChars 10 t.compactChars 0 = t.stamp := by
  obtain ⟨hyear, hmonth, hday, hhour, hminute, hsecond⟩ := h.parts_lt
  have hmicro : t.nanos % 1000000000 / 1000 < 10 ^ 6 := by omega
  rw [h.compactChars_eq, Text.ofDigitChars_append_padded (by decide) hmicro,
    Text.ofDigitChars_append_padded (by decide) hsecond,
    Text.ofDigitChars_append_padded (by decide) hminute,
    Text.ofDigitChars_append_padded (by decide) hhour,
    Text.ofDigitChars_append_padded (by decide) hday,
    Text.ofDigitChars_append_padded (by decide) hmonth, Text.ofDigitChars_padded]
  unfold stamp clockStamp microOfMinute
  omega

/-- Reads a time of twenty digits. -/
def ofCompact? (cs : List Char) : Option Instant := do
  let (year, cs) ← scanDigits? 4 4 cs
  let (month, cs) ← scanDigits? 2 2 cs
  let (day, cs) ← scanDigits? 2 2 cs
  let (hour, cs) ← scanDigits? 2 2 cs
  let (minute, cs) ← scanDigits? 2 2 cs
  let (second, cs) ← scanDigits? 2 2 cs
  let (micro, cs) ← scanDigits? 6 6 cs
  if cs.isEmpty then ofParts? year month day hour minute second (micro * 1000) 0 else none

/-- The time is found again to the microsecond. -/
theorem IsCivil.ofCompact?_compactChars {t : Instant} (h : t.IsCivil) :
    ofCompact? t.compactChars = some t.toMicro := by
  obtain ⟨hyear, hmonth, hday, hhour, hminute, hsecond⟩ := h.parts_lt
  have hmicro : t.nanos % 1000000000 / 1000 < 10 ^ 6 := by omega
  have hend := scanDigits?_padded (by decide) hmicro []
  rw [List.append_nil] at hend
  rw [h.compactChars_eq]
  simp only [List.append_assoc]
  unfold ofCompact?
  simp only [Option.bind_eq_bind, scanDigits?_padded (by decide) hyear,
    scanDigits?_padded (by decide) hmonth, scanDigits?_padded (by decide) hday,
    scanDigits?_padded (by decide) hhour, scanDigits?_padded (by decide) hminute,
    scanDigits?_padded (by decide) hsecond, hend, Option.bind_some, List.isEmpty_nil, if_true]
  rw [Int.toNat_of_nonneg h.year_nonneg]
  -- a leap second is a nanosecond part of a second or more, which microseconds keep
  have hparts := h.toMicro.ofParts?_split
  have hnanos : t.toMicro.nanos = t.nanos / 1000 * 1000 := rfl
  have hwhole : t.toMicro.nanos / 1000000000 = t.nanos / 1000000000 := by omega
  have hrest : t.toMicro.nanos % 1000000000 = t.nanos % 1000000000 / 1000 * 1000 := by omega
  rw [hwhole, hrest] at hparts
  exact hparts

theorem compactChars_toMicro (t : Instant) : t.toMicro.compactChars = t.compactChars := by
  have hnanos : t.toMicro.nanos = t.nanos / 1000 * 1000 := rfl
  have hwhole : t.toMicro.nanos / 1000000000 = t.nanos / 1000000000 := by omega
  have hrest : t.toMicro.nanos % 1000000000 / 1000 = t.nanos % 1000000000 / 1000 := by omega
  unfold compactChars
  dsimp only
  rw [hwhole, hrest]
  rfl

/-- Two times have the same digits just if they are in the same microsecond. -/
theorem IsCivil.compactChars_eq_iff {t u : Instant} (ht : t.IsCivil) (hu : u.IsCivil) :
    t.compactChars = u.compactChars ↔ t.toMicro = u.toMicro := by
  constructor
  · intro h
    have hread := ht.ofCompact?_compactChars
    rw [h, hu.ofCompact?_compactChars] at hread
    exact (Option.some.inj hread).symm
  · intro h
    rw [← compactChars_toMicro t, h, compactChars_toMicro]

end Instant

/-! ## Symbols -/

/-- What is kept of a symbol has no other characters than capital letters and digits. -/
theorem Symbol.isUpper_or_isDigit {symbol : Symbol} {c : Char} (h : c ∈ symbol.compactChars) :
    c.isUpper = true ∨ c.isDigit = true := by
  obtain ⟨d, hd, rfl⟩ := List.mem_map.mp (List.mem_of_mem_take h)
  obtain ⟨-, hkept⟩ := List.mem_filter.mp hd
  have hmoved := Text.toNat_toUpper d
  rcases Bool.or_eq_true_iff.mp hkept with hletter | hdigit
  · refine .inl (Text.isUpper_iff_toNat.mpr ?_)
    rcases Bool.or_eq_true_iff.mp hletter with hupper | hlower
    · have hrange := Text.isUpper_iff_toNat.mp hupper
      rw [if_neg (by omega)] at hmoved
      omega
    · have hrange := Text.isLower_iff_toNat.mp hlower
      rw [if_pos hrange] at hmoved
      omega
  · -- a digit has no capital
    have hrange := Char.isDigit_iff_toNat.mp hdigit
    have hzero : '0'.toNat = 48 := rfl
    have hnine : '9'.toNat = 57 := rfl
    rw [if_neg (by omega)] at hmoved
    rw [Char.toNat_inj.mp hmoved]
    exact .inr hdigit

/-! ## Ids -/

namespace ClientOrderId

/-- The fields of an id, which hyphens separate. -/
def fields (id : ClientOrderId) : List (List Char) :=
  id.text.toList.splitOn '-'

/-- The fields of an id are found between its hyphens. -/
theorem fields_generate {now : Instant} (h : now.IsCivil) (symbol : Symbol) (suffix : List UInt8) :
    (generate symbol now suffix).fields =
      ["live".toList, symbol.compactChars, now.compactChars, Text.hexChars suffix] := by
  have hjoined : (generate symbol now suffix).text.toList = ['-'].intercalate
      ["live".toList, symbol.compactChars, now.compactChars, Text.hexChars suffix] := by
    simp [generate, generatedChars, headChars, List.intercalate]
  unfold fields
  rw [hjoined]
  refine List.splitOn_intercalate '-' (fun field hfield hhyphen => ?_) (List.cons_ne_nil _ _)
  simp only [List.mem_cons, List.not_mem_nil, or_false] at hfield
  -- no field holds a hyphen: capitals and digits, digits, and hexadecimal digits
  rcases hfield with rfl | rfl | rfl | rfl
  · revert hhyphen
    decide
  · rcases Symbol.isUpper_or_isDigit hhyphen with hc | hc <;> cases hc
  · cases h.isDigit_of_mem_compactChars hhyphen
  · obtain ⟨n, hn, hdigit⟩ := Text.mem_hexChars hhyphen
    have hnone : ∀ n < 16, '-' ≠ Text.hexDigit n := by decide
    exact hnone n hn hdigit

/-- Two ids are the same if and only if all that goes into them is. -/
theorem generate_eq_iff {now now' : Instant} (h : now.IsCivil) (h' : now'.IsCivil)
    {symbol symbol' : Symbol} {suffix suffix' : List UInt8} :
    generate symbol now suffix = generate symbol' now' suffix' ↔
      symbol.compact = symbol'.compact ∧ now.toMicro = now'.toMicro ∧ suffix = suffix' := by
  have hcompact : symbol.compact = symbol'.compact ↔ symbol.compactChars = symbol'.compactChars :=
    String.ofList_inj
  constructor
  · intro heq
    have hfields := congrArg fields heq
    rw [fields_generate h, fields_generate h'] at hfields
    simp only [List.cons.injEq, and_true, true_and] at hfields
    obtain ⟨hsymbol, htime, hhex⟩ := hfields
    have hread := Text.bytesOfHex?_hexChars suffix
    rw [hhex, Text.bytesOfHex?_hexChars] at hread
    exact ⟨hcompact.mpr hsymbol, (h.compactChars_eq_iff h').mp htime, (Option.some.inj hread).symm⟩
  · rintro ⟨hsymbol, htime, rfl⟩
    unfold generate generatedChars headChars
    rw [hcompact.mp hsymbol, (h.compactChars_eq_iff h').mpr htime]

/-- Of ids for one symbol the later one comes later. -/
theorem generate_lt {now now' : Instant} (h : now.IsCivil) (h' : now'.IsCivil)
    {symbol symbol' : Symbol} (hsymbol : symbol.compact = symbol'.compact)
    (hlater : now.toMicro.lt now'.toMicro = true) (suffix suffix' : List UInt8) :
    (generate symbol now suffix).text < (generate symbol' now' suffix').text := by
  have hhead : headChars symbol = headChars symbol' := by
    unfold headChars
    rw [String.ofList_inj.mp hsymbol]
  have hstamp :
      Nat.ofDigitChars 10 now.compactChars 0 < Nat.ofDigitChars 10 now'.compactChars 0 := by
    rw [h.ofDigitChars_compactChars, h'.ofDigitChars_compactChars]
    exact h.stamp_lt h' hlater
  rw [String.lt_iff_toList_lt]
  unfold generate generatedChars
  rw [String.toList_ofList, String.toList_ofList, hhead, List.append_assoc, List.append_assoc]
  refine List.append_left_lt (Text.append_lt_append_of_ofDigitChars
    (fun _ => h.isDigit_of_mem_compactChars) (fun _ => h'.isDigit_of_mem_compactChars) ?_
    hstamp _ _)
  rw [h.length_compactChars, h'.length_compactChars]

/-- **Generated ids are read back.**  The four fields between the hyphens are the tag, the
    symbol's capital letters and digits, twenty digits of the time and eight of the suffix; ids are
    the same just if what they are made of is, the time up to its microsecond; and the id of a
    later time comes after those of the same symbol. -/
theorem generate_readBack {now now' : Instant} (h : now.IsCivil) (h' : now'.IsCivil)
    {suffix : List UInt8} (hsuffix : suffix.length = 4) (symbol symbol' : Symbol)
    (suffix' : List UInt8) :
    (∃ stamp random, (generate symbol now suffix).fields =
        ["live".toList, symbol.compactChars, stamp, random] ∧
      symbol.compactChars.length ≤ 16 ∧
      (∀ c ∈ symbol.compactChars, c.isUpper = true ∨ c.isDigit = true) ∧
      stamp.length = 20 ∧ (∀ c ∈ stamp, c.isDigit = true) ∧
      Instant.ofCompact? stamp = some now.toMicro ∧
      random.length = 8 ∧ (∀ c ∈ random, isSuffixChar c = true) ∧
      Text.bytesOfHex? random = some suffix) ∧
    (generate symbol now suffix = generate symbol' now' suffix' ↔
      symbol.compact = symbol'.compact ∧ now.toMicro = now'.toMicro ∧ suffix = suffix') ∧
    (symbol.compact = symbol'.compact → now.toMicro.lt now'.toMicro = true →
      (generate symbol now suffix).text < (generate symbol' now' suffix').text) := by
  have hrandom : (Text.hexChars suffix).length = 8 := by
    rw [Text.length_hexChars, hsuffix]
  have hdigits : ∀ c ∈ Text.hexChars suffix, isSuffixChar c = true := by
    intro c hc
    obtain ⟨n, hn, rfl⟩ := Text.mem_hexChars hc
    have hall : ∀ n < 16, isSuffixChar (Text.hexDigit n) = true := by decide
    exact hall n hn
  exact ⟨⟨now.compactChars, Text.hexChars suffix, fields_generate h symbol suffix,
      List.length_take_le _ _, fun _ => Symbol.isUpper_or_isDigit, h.length_compactChars,
      fun _ => h.isDigit_of_mem_compactChars, h.ofCompact?_compactChars, hrandom, hdigits,
      Text.bytesOfHex?_hexChars suffix⟩,
    generate_eq_iff h h', fun hsymbol hlater => generate_lt h h' hsymbol hlater suffix suffix'⟩

/-- A symbol with hyphens of its own, in the last leap second and in the microsecond after. -/
theorem generate_readBack_leapSecond :
    let now : Instant := ⟨1483228799, 1999998000⟩
    let later : Instant := ⟨1483228799, 1999999000⟩
    let id := generate ⟨"btc-jpy"⟩ now [0xde, 0xad, 0xbe, 0xef]
    id.text = "live-BTCJPY-20161231235960999998-deadbeef" ∧
      (∃ stamp random, id.fields = ["live".toList, "BTCJPY".toList, stamp, random] ∧
        Instant.ofCompact? stamp = some now) ∧
      id.text < (generate .standard later [0, 0, 0, 0]).text := by
  have hnow : Instant.IsCivil ⟨1483228799, 1999998000⟩ := by decide
  have hlater : Instant.IsCivil ⟨1483228799, 1999999000⟩ := by decide
  have hsuffix : ([0xde, 0xad, 0xbe, 0xef] : List UInt8).length = 4 := rfl
  obtain ⟨⟨stamp, random, hfields, -, -, -, -, hstamp, -⟩, -, hless⟩ :=
    generate_readBack hnow hlater hsuffix ⟨"btc-jpy"⟩ .standard [0, 0, 0, 0]
  exact ⟨by decide +kernel, ⟨stamp, random, hfields, hstamp⟩, hless (by decide) (by decide)⟩

end ClientOrderId

end LiveTrader
