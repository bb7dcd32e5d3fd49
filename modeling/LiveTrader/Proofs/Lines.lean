import Mathlib.Data.List.Basic
import LiveTrader.Audit.Record

/-!
  LiveTrader.Proofs.Lines

  Lines of bytes.  JSON text is compact and escapes what cannot be printed, so that no
  newline stands in it, and in UTF-8 the byte of a newline stands for nothing else.  A record
  of the audit log is therefore one line, and records that were written one after the other
  are found again line by line.
-/

namespace LiveTrader

namespace Text

/-! ## Lines -/

/-- The byte of a newline. -/
def newline : UInt8 := 10

/-- The lines of some bytes, without the newlines that end them.  What follows the last
    newline is a line unless it is empty. -/
def lines : List UInt8 → List (List UInt8)
  | [] => []
  | b :: bs =>
    if b = newline then [] :: lines bs
    else
      match lines bs with
      | [] => [[b]]
      | line :: rest => (b :: line) :: rest

theorem newline_not_mem_digits (n : Nat) : '\n' ∉ digits n := by
  intro h
  have hdigit := Nat.isDigit_of_mem_toDigits (by decide) (by decide) h
  exact absurd hdigit (by decide)

theorem newline_not_mem_intText (n : Int) : '\n' ∉ intText n := by
  unfold intText
  split
  · simp [newline_not_mem_digits]
  · exact newline_not_mem_digits _

theorem hexDigit_ne_newline : ∀ n < 16, hexDigit n ≠ '\n' := by
  decide

end Text

/-! ## JSON text -/

namespace Binary64

theorem newline_not_mem_positional {ds : List Char} (h : '\n' ∉ ds) (whole : Int)
    (pointZero : Bool) : '\n' ∉ positional ds whole pointZero := by
  have htake : '\n' ∉ ds.take whole.toNat := fun hmem => h (List.mem_of_mem_take hmem)
  have hdrop : '\n' ∉ ds.drop whole.toNat := fun hmem => h (List.mem_of_mem_drop hmem)
  unfold positional
  split
  · simp [h]
  · split
    · simp [htake, hdrop]
    · cases pointZero <;> simp [h]

theorem newline_not_mem_exponential {ds : List Char} (h : '\n' ∉ ds) (power : Int) :
    '\n' ∉ exponential ds power := by
  have hpower := Text.newline_not_mem_digits power.natAbs
  have hsign : '\n' ≠ if power < 0 then '-' else '+' := by split <;> decide
  unfold exponential
  match ds with
  | [] => simp [hsign, hpower]
  | [d] => simp_all
  | d :: c :: rest => simp_all

/-- However it is laid out, a number is written on one line. -/
theorem newline_not_mem_digitChars (layout : Layout) (s : Shortest) :
    '\n' ∉ layout.digitChars s := by
  have hdigits := Text.newline_not_mem_digits s.digits
  -- whichever notation the bounds ask for
  have heither : ∀ (b : Bool) (power whole : Int), '\n' ∉
      if b then exponential (Text.digits s.digits) power
      else positional (Text.digits s.digits) whole layout.pointZero := by
    intro b power whole
    cases b
    · exact newline_not_mem_positional hdigits _ _
    · exact newline_not_mem_exponential hdigits _
  exact heither _ _ _

theorem newline_not_mem_chars (layout : Layout) (x : Binary64) : '\n' ∉ x.chars layout := by
  have hdigits := newline_not_mem_digitChars layout (x.shortest layout.tie)
  unfold Binary64.chars
  split
  · decide
  · refine List.not_mem_append ?_ ?_
    · split <;> decide
    · split
      · decide
      · split
        · split <;> decide
        · exact hdigits

end Binary64

namespace Json

/-- An end of line in a text is written as an escape. -/
theorem newline_not_mem_escape (c : Char) : '\n' ∉ escape c := by
  unfold escape
  by_cases hcontrol : c.toNat < 0x20
  · -- a control character is written with hexadecimal digits, unless it has a letter
    have hhigh := Text.hexDigit_ne_newline (c.toNat / 16) (by omega)
    have hlow := Text.hexDigit_ne_newline (c.toNat % 16) (by omega)
    repeat' split
    all_goals simp_all [hhigh.symm, hlow.symm]
  · repeat' split
    all_goals simp_all [eq_comm]

theorem newline_not_mem_quoted (s : String) : '\n' ∉ quoted s := by
  have hbody : '\n' ∉ s.toList.flatMap escape := by
    intro h
    obtain ⟨c, -, hc⟩ := List.mem_flatMap.mp h
    exact newline_not_mem_escape c hc
  simp [quoted, hbody]

theorem newline_not_mem_floatChars (x : Binary64) : '\n' ∉ floatChars x := by
  unfold floatChars
  split
  · exact Binary64.newline_not_mem_chars _ x
  · decide

mutual

/-- Compact text is one line. -/
theorem newline_not_mem_chars : ∀ v : Json, '\n' ∉ v.chars
  | null => by simp [chars]
  | bool true => by simp [chars]
  | bool false => by simp [chars]
  | int n => by simp [chars, Text.newline_not_mem_intText]
  | float x => by simp [chars, newline_not_mem_floatChars]
  | str s => by simp [chars, newline_not_mem_quoted]
  | arr [] => by simp [chars]
  | arr (v :: vs) => by simp [chars, newline_not_mem_chars v, newline_not_mem_itemsTail vs]
  | obj [] => by simp [chars]
  | obj ((k, v) :: ms) => by
    simp [chars, newline_not_mem_quoted, newline_not_mem_chars v, newline_not_mem_membersTail ms]

theorem newline_not_mem_itemsTail : ∀ vs : List Json, '\n' ∉ itemsTail vs
  | [] => by simp [itemsTail]
  | v :: vs => by simp [itemsTail, newline_not_mem_chars v, newline_not_mem_itemsTail vs]

theorem newline_not_mem_membersTail : ∀ ms : List (String × Json), '\n' ∉ membersTail ms
  | [] => by simp [membersTail]
  | (k, v) :: ms => by
    simp [membersTail, newline_not_mem_quoted, newline_not_mem_chars v,
      newline_not_mem_membersTail ms]

end

end Json

/-! ## Records -/

namespace AuditRecord

/-- The text of a record, as it stands in a line of the log. -/
def text (r : AuditRecord) : List UInt8 := Text.encodeChars r.toJson.chars

/-- The line of a record is its text and one end of line. -/
theorem line_eq (r : AuditRecord) : r.line = r.text ++ [Text.newline] := by
  unfold line text Text.encodeChars
  rw [List.flatMap_append]
  rfl

end AuditRecord

end LiveTrader
