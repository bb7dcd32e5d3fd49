import Mathlib.Data.List.Forall2
import LiveTrader.Json.Printing
import LiveTrader.Json.Reading
import LiveTrader.Proofs.Digits

/-!
  LiveTrader.Proofs.JsonText

  A value is read back from its text if it holds no floating-point numbers, its whole numbers are
  of the 64-bit ranges, its members are in order and it is not nested too deep.  The text is
  followed from left to right: what is written for a value takes the reader past one value,
  wherever one may stand.
-/

namespace LiveTrader.Json

/-! ## Strings -/

/-- A text inside a string is one piece, which stands for the character. -/
structure IsPieceOf (c : Char) (text : List Char) (piece : Piece) : Prop where
  scanned : ∀ rest, scanString? (text.map some ++ rest) =
    (scanString? rest).map fun (pieces, rest) => (piece :: pieces, rest)
  joined : ∀ pieces, joinPieces? (piece :: pieces) = (joinPieces? pieces).map (c :: ·)

/-- A character that has a letter of its own is written as that letter behind a backslash. -/
theorem isPieceOf_letter {c letter : Char} (h : escaped? letter = some c) :
    IsPieceOf c ['\\', letter] (.char c) where
  scanned rest := by
    have hu : letter ≠ 'u' := by
      rintro rfl
      cases h
    change scanString? (some '\\' :: some letter :: rest) = _
    rw [scanString?]
    · rw [h]
      cases scanString? rest <;> rfl
    · exact fun _ _ _ _ _ _ hletter => hu hletter
  joined pieces := by rw [joinPieces?]

/-- A unit that is no half of a pair is a character by itself. -/
theorem joinPieces?_unit {n : Nat} (h : n < 0xD800) (pieces : List Piece) :
    joinPieces? (.unit n :: pieces) = (joinPieces? pieces).map (Char.ofNat n :: ·) := by
  -- nothing is asked of the next piece unless this one is a surrogate
  have hhigh : ¬ (0xD800 ≤ n ∧ n < 0xDC00) := by omega
  have hlow : ¬ (0xDC00 ≤ n ∧ n < 0xE000) := by omega
  have hneither : ¬ (0xD800 ≤ n ∧ n < 0xE000) := by omega
  cases pieces with
  | nil => simp only [joinPieces?, hneither, if_false]
  | cons piece pieces =>
    cases piece with
    | unit m => rw [joinPieces?, if_neg hhigh, if_neg hlow]
    | char c => simp only [joinPieces?, hneither, if_false]
    | broken => simp only [joinPieces?, hneither, if_false]

/-- Other control characters are written as units of four digits. -/
theorem isPieceOf_control {c : Char} (h : c.toNat < 0x20) :
    IsPieceOf c ['\\', 'u', '0', '0', Text.hexDigit (c.toNat / 16), Text.hexDigit (c.toNat % 16)]
      (.unit c.toNat) where
  scanned rest := by
    have hhex : ∀ n < 0x20,
        hex4? '0' '0' (Text.hexDigit (n / 16)) (Text.hexDigit (n % 16)) = some n := by decide
    change scanString? (some '\\' :: some 'u' :: some '0' :: some '0' :: _ :: _ :: rest) = _
    rw [scanString?, hhex _ h]
    cases scanString? rest <;> rfl
  joined pieces := by
    rw [joinPieces?_unit (by omega), Char.ofNat_toNat]

theorem isPieceOf_plain {c : Char} (hquote : c ≠ '"') (hslash : c ≠ '\\') (h : ¬ c.toNat < 0x20) :
    IsPieceOf c [c] (.char c) where
  scanned rest := by
    change scanString? (some c :: rest) = _
    rw [scanString?]
    · rw [if_neg (not_or.mpr ⟨h, hslash⟩)]
      cases scanString? rest <;> rfl
    · exact hquote
    · exact fun _ _ _ _ _ _ hc => hslash hc
    · exact fun _ _ _ hc => hslash hc
  joined pieces := by rw [joinPieces?]

/-- What is written for a character is one piece, and stands for it. -/
theorem exists_piece (c : Char) : ∃ piece, IsPieceOf c (escape c) piece := by
  unfold escape
  split
  case isTrue h =>
    subst h
    exact ⟨_, isPieceOf_letter rfl⟩
  case isFalse hquote =>
    split
    case isTrue h =>
      subst h
      exact ⟨_, isPieceOf_letter rfl⟩
    case isFalse hslash =>
      -- the other characters with a letter of their own
      iterate 5
        split
        case isTrue h =>
          subst h
          exact ⟨_, isPieceOf_letter rfl⟩
      split
      case isTrue h => exact ⟨_, isPieceOf_control h⟩
      case isFalse h => exact ⟨_, isPieceOf_plain hquote hslash h⟩

/-- A quoted string is read back, whatever follows it. -/
theorem exists_pieces (cs : List Char) : ∃ pieces : List Piece,
    (∀ rest, scanString? ((cs.flatMap escape ++ ['"']).map some ++ rest) = some (pieces, rest)) ∧
      joinPieces? pieces = some cs := by
  induction cs with
  | nil => exact ⟨[], fun rest => by simp [scanString?], rfl⟩
  | cons c cs ih =>
    obtain ⟨pieces, hscan, hjoin⟩ := ih
    obtain ⟨piece, hpiece⟩ := exists_piece c
    refine ⟨piece :: pieces, fun rest => ?_, ?_⟩
    · rw [List.flatMap_cons, List.append_assoc, List.map_append, List.append_assoc,
        hpiece.scanned, hscan]
      rfl
    · rw [hpiece.joined, hjoin]
      rfl

/-! ## Numerals -/

/-- Where there is nothing but digits, all of it is read. -/
theorem spanDigits_digits {cs : List Char} (hcs : ∀ c ∈ cs, c.isDigit = true) :
    spanDigits cs = (cs.map Text.valueOf, []) := by
  induction cs with
  | nil => rfl
  | cons c cs ih =>
    obtain ⟨hc, hcs⟩ := List.forall_mem_cons.mp hcs
    rw [spanDigits, Text.digitValue?, if_pos hc]
    dsimp only
    rw [ih hcs]
    rfl

/-- A number below the bound is read exactly, since no step on the way passes the bound. -/
theorem foldl_digits {cs : List Char} {bound acc : Nat} (h : Nat.ofDigitChars 10 cs acc ≤ bound) :
    (cs.map Text.valueOf).foldl (fun acc d => Nat.min (acc * 10 + d) bound) acc =
      Nat.ofDigitChars 10 cs acc := by
  induction cs generalizing acc with
  | nil => rfl
  | cons c cs ih =>
    rw [Nat.ofDigitChars_cons] at h ⊢
    -- what has been read only grows, so the bound is not reached before the end
    have hle : acc * 10 + Text.valueOf c ≤ bound := by
      have hgrows := Nat.le_trans (Text.le_ofDigitChars cs _) h
      unfold Text.valueOf
      omega
    have hmin : Nat.min (acc * 10 + Text.valueOf c) bound = acc * 10 + Text.valueOf c :=
      Nat.min_eq_left hle
    rw [List.map_cons, List.foldl_cons, hmin, Nat.mul_comm]
    exact ih h

/-- The value of the digits of a number is the number, while it is small. -/
theorem digitsValue_digits {n : Nat} (h : n ≤ pow2 80) :
    digitsValue ((Text.digits n).map Text.valueOf) = n := by
  have hvalue : Nat.ofDigitChars 10 (Text.digits n) 0 = n := Nat.ofDigitChars_ten_toDigits
  exact (foldl_digits (hvalue.symm ▸ h)).trans hvalue

/-- Only the digits of zero start with a zero. -/
theorem map_digits_ne_zero_cons {n d : Nat} {ds : List Nat} :
    (Text.digits n).map Text.valueOf ≠ 0 :: d :: ds := by
  intro h
  obtain ⟨c, rest, hn, hc, hrest⟩ := List.map_eq_cons_iff.mp h
  have hne : rest ≠ [] := by
    rintro rfl
    cases hrest
  have hdigits : ∀ e ∈ rest, e.isDigit = true := fun e he =>
    Text.isDigit_of_mem_digits (n := n) (hn ▸ List.mem_cons_of_mem c he)
  have hvalue : Nat.ofDigitChars 10 rest 0 = n := by
    have hread : Nat.ofDigitChars 10 (Text.digits n) 0 = n := Nat.ofDigitChars_ten_toDigits
    have hzero : 10 * 0 + (c.toNat - '0'.toNat) = 0 := by simpa [Text.valueOf] using hc
    rwa [hn, Nat.ofDigitChars_cons, hzero] at hread
  -- the digits behind it would be enough for the number
  obtain ⟨zeros, hzeros⟩ := Text.exists_zeros hne hdigits
  have hlength := congrArg List.length hzeros
  rw [hvalue, hn, List.length_append, List.length_cons] at hlength
  omega

/-- The numeral of a number that is written without fraction and exponent. -/
def plainNumeral (negative : Bool) (n : Nat) : Numeral :=
  ⟨negative, (Text.digits n).map Text.valueOf, none, none⟩

/-- What is written of a whole number is read as a numeral without fraction and exponent. -/
theorem scanNumeral?_written (negative : Bool) (n : Nat) :
    scanNumeral? ((if negative then ['-'] else []) ++ Text.digits n) =
      some (plainNumeral negative n, []) := by
  obtain ⟨c, cs, hcs⟩ := List.exists_cons_of_ne_nil (Nat.toDigits_ne_nil (b := 10) (n := n))
  change Text.digits n = c :: cs at hcs
  have hdigits : ∀ d ∈ c :: cs, d.isDigit = true := fun d hd =>
    Text.isDigit_of_mem_digits (n := n) (hcs ▸ hd)
  have hminus : c ≠ '-' := by
    rintro rfl
    cases hdigits _ List.mem_cons_self
  unfold scanNumeral? plainNumeral
  split
  rename_i sign body hsign
  -- digits are left, whether or not a sign was split off
  have hbody : sign = negative ∧ body = c :: cs := by
    rw [hcs] at hsign
    cases negative with
    | true =>
      cases hsign
      exact ⟨rfl, rfl⟩
    | false =>
      dsimp at hsign
      split at hsign
      · rename_i h
        exact absurd (List.cons.inj h).1 hminus
      · cases hsign
        exact ⟨rfl, rfl⟩
  obtain ⟨rfl, rfl⟩ := hbody
  rw [← hcs, spanDigits_digits fun _ => Text.isDigit_of_mem_digits]
  dsimp only
  split
  case h_1 hnil => exact absurd (List.map_eq_nil_iff.mp hnil) Nat.toDigits_ne_nil
  case h_2 hzero => exact absurd hzero map_digits_ne_zero_cons
  case h_3 => rfl

/-- A numeral of at most 64 bits is the whole number that it spells. -/
theorem value?_plainNumeral {n : Nat} (h : n < pow2 64) :
    (plainNumeral false n).value? = some (.int n) := by
  have hpow : pow2 64 ≤ pow2 80 := by decide
  have hsize : digitsValue (plainNumeral false n).whole = n := digitsValue_digits (by omega)
  unfold Numeral.value?
  rw [hsize]
  exact if_pos (by simp [plainNumeral, h])

theorem value?_plainNumeral_neg {n : Nat} (hpos : 0 < n) (h : n ≤ pow2 63) :
    (plainNumeral true n).value? = some (.int (-(n : Int))) := by
  have hpow : pow2 63 ≤ pow2 80 := by decide
  have hsize : digitsValue (plainNumeral true n).whole = n := digitsValue_digits (by omega)
  unfold Numeral.value?
  rw [hsize]
  exact (if_neg (by simp [plainNumeral])).trans (if_pos (by simp [plainNumeral, hpos, h]))

/-- A number of the 64-bit ranges is read back from its text. -/
theorem exists_numeral {n : Int} (hlow : -(pow2 63 : Int) ≤ n) (hhigh : n < pow2 64) :
    ∃ numeral, scanNumeral? (Text.intText n) = some (numeral, []) ∧
      numeral.value? = some (.int n) := by
  by_cases hneg : n < 0
  · have htext : Text.intText n = '-' :: Text.digits n.natAbs := if_pos hneg
    have hvalue : -(n.natAbs : Int) = n := by omega
    refine ⟨plainNumeral true n.natAbs, ?_, ?_⟩
    · rw [htext]
      exact scanNumeral?_written true n.natAbs
    · rw [value?_plainNumeral_neg (by omega) (by omega), hvalue]
  · have htext : Text.intText n = Text.digits n.natAbs := if_neg hneg
    have hvalue : (n.natAbs : Int) = n := by omega
    refine ⟨plainNumeral false n.natAbs, ?_, ?_⟩
    · rw [htext]
      exact scanNumeral?_written false n.natAbs
    · rw [value?_plainNumeral (by omega), hvalue]

/-! ## Tokens -/

/-- A text has these tokens. -/
def Lexes (text : List (Option Char)) (tokens : List Token) : Prop :=
  ∀ fuel, text.length ≤ fuel → tokensWithin fuel text = some tokens

theorem Lexes.nil : Lexes [] [] := fun _ _ => by rw [tokensWithin]

/-- A token is read at the front of a text, and the rest as before. -/
theorem Lexes.cons {c : Char} {text rest : List (Option Char)} {token : Token}
    {tokens : List Token} (h : Lexes rest tokens) (hspace : isSpace c = false)
    (hscan : scanToken? c text = some (token, rest)) (hle : rest.length ≤ text.length) :
    Lexes (some c :: text) (token :: tokens) := by
  intro fuel hfuel
  cases fuel with
  | zero => cases hfuel
  | succ fuel =>
    have hrest : rest.length ≤ fuel := Nat.le_trans hle (Nat.le_of_succ_le_succ hfuel)
    rw [tokensWithin, if_neg (by simp [hspace]), hscan, Option.bind_eq_bind, Option.bind_some]
    dsimp only
    rw [h fuel hrest]
    rfl

/-- A text in quotes is read as one token, whatever follows. -/
theorem Lexes.quoted {rest : List (Option Char)} {tokens : List Token} (h : Lexes rest tokens)
    (s : String) : Lexes ((Json.quoted s).map some ++ rest) (.str (some s) :: tokens) := by
  obtain ⟨pieces, hscan, hjoin⟩ := exists_pieces s.toList
  have htext : (Json.quoted s).map some ++ rest =
      some '"' :: ((s.toList.flatMap escape ++ ['"']).map some ++ rest) := rfl
  rw [htext]
  refine h.cons rfl ?_ ?_
  · change ((scanString? _).map fun (pieces, rest) =>
      (Token.str ((joinPieces? pieces).map String.ofList), rest)) = _
    rw [hscan, Option.map_some]
    dsimp only
    rw [hjoin, Option.map_some, String.ofList_toList]
  · rw [List.length_append]
    exact Nat.le_add_left _ _

/-- What follows a word: nothing, or what is no part of it. -/
def EndsWord : List (Option Char) → Prop
  | some c :: _ => isWordChar c = false
  | _ => True

/-- A word ends where something follows that no word has in it. -/
theorem spanWord_append {word : List Char} {rest : List (Option Char)}
    (hword : ∀ c ∈ word, isWordChar c = true) (hrest : EndsWord rest) :
    spanWord (word.map some ++ rest) = (word, rest) := by
  induction word with
  | nil =>
    cases rest with
    | nil => rfl
    | cons c rest =>
      cases c with
      | none => rfl
      | some c =>
        have hc : isWordChar c = false := hrest
        change spanWord (some c :: rest) = _
        rw [spanWord, if_neg (by simp [hc])]
  | cons c word ih =>
    obtain ⟨hc, hword⟩ := List.forall_mem_cons.mp hword
    change spanWord (some c :: (word.map some ++ rest)) = _
    rw [spanWord, if_pos hc, ih hword]

/-- A word is one token. -/
theorem Lexes.word {rest : List (Option Char)} {tokens : List Token} (h : Lexes rest tokens)
    {word : List Char} {token : Token} (hne : word ≠ []) (hword : ∀ c ∈ word, isWordChar c = true)
    (htoken : Token.ofWord? word = some token) (hrest : EndsWord rest) :
    Lexes (word.map some ++ rest) (token :: tokens) := by
  obtain ⟨c, cs, rfl⟩ := List.exists_cons_of_ne_nil hne
  have hc := hword c List.mem_cons_self
  -- neither a space nor another token starts with a character of words
  have hother : ∀ d, isWordChar d = false → c ≠ d := by
    rintro d hd rfl
    simp [hc] at hd
  have hspace : isSpace c = false := by
    simp [isSpace, hother ' ' rfl, hother '\n' rfl, hother '\t' rfl, hother '\r' rfl]
  have htext : (c :: cs).map some ++ rest = some c :: (cs.map some ++ rest) := rfl
  have hspan : spanWord (some c :: (cs.map some ++ rest)) = (c :: cs, rest) :=
    spanWord_append hword hrest
  rw [htext]
  refine h.cons hspace ?_ ?_
  · unfold scanToken?
    rw [if_neg (hother '[' rfl), if_neg (hother ']' rfl), if_neg (hother '\x7b' rfl),
      if_neg (hother '\x7d' rfl), if_neg (hother ',' rfl), if_neg (hother ':' rfl),
      if_neg (hother '"' rfl), hspan]
    dsimp only
    rw [htoken]
    rfl
  · rw [List.length_append]
    exact Nat.le_add_left _ _

/-- The text of a whole number within 64 bits is the word for it. -/
theorem ofWord?_intText {n : Int} (hlow : -(pow2 63 : Int) ≤ n) (hhigh : n < pow2 64) :
    Token.ofWord? (Text.intText n) = some (.leaf (some (.int n))) := by
  obtain ⟨numeral, hscan, hvalue⟩ := exists_numeral hlow hhigh
  -- a literal has letters
  have hne : ∀ (word : List Char) (c : Char), c ∈ word → c ≠ '-' → c.isDigit = false →
      Text.intText n ≠ word := by
    rintro word c hc hminus hdigit rfl
    rcases Text.mem_intText hc with h | h
    · exact hminus h
    · simp [hdigit] at h
  unfold Token.ofWord?
  rw [if_neg (hne _ 't' (by decide) (by decide) (by decide)),
    if_neg (hne _ 'f' (by decide) (by decide) (by decide)),
    if_neg (hne _ 'n' (by decide) (by decide) (by decide)), hscan]
  dsimp only
  rw [hvalue]

theorem isWordChar_of_mem_intText {n : Int} {c : Char} (h : c ∈ Text.intText n) :
    isWordChar c = true := by
  rcases Text.mem_intText h with rfl | h
  · rfl
  · simp [isWordChar, Char.isAlphanum, h]

/-! ## Documents -/

/-- A text takes the reader of tokens from one state to another, in front of what does not go on
    with its last word. -/
structure Takes (p : Progress) (text : List Char) (q : Progress) : Prop where
  exists_tokens : ∃ tokens : List Token, tokens.foldlM Progress.step? p = some q ∧
    ∀ rest more, EndsWord rest → Lexes rest more → Lexes (text.map some ++ rest) (tokens ++ more)

section Takes

variable {p q r : Progress} {text more : List Char}

theorem Takes.nil : Takes p [] p :=
  ⟨[], rfl, fun _ _ _ h => h⟩

/-- A text goes on with what does not go on with its last word. -/
theorem Takes.append (h : Takes p text q) (hmore : Takes q more r)
    (hends : ∀ rest, EndsWord (more.map some ++ rest)) : Takes p (text ++ more) r := by
  obtain ⟨tokens, hsteps, hlex⟩ := h
  obtain ⟨tokens', hsteps', hlex'⟩ := hmore
  refine ⟨tokens ++ tokens', ?_, fun rest after hrest hafter => ?_⟩
  · rw [List.foldlM_append, hsteps]
    exact hsteps'
  · rw [List.map_append, List.append_assoc, List.append_assoc]
    exact hlex _ _ (hends rest) (hlex' rest after hrest hafter)

/-- A token that needs nothing behind it. -/
theorem Takes.apart {token : Token} (hstep : p.step? token = some q)
    (hlex : ∀ {rest tokens}, Lexes rest tokens → Lexes (text.map some ++ rest) (token :: tokens))
    (h : Takes q more r) : Takes p (text ++ more) r := by
  obtain ⟨tokens, hsteps, hmore⟩ := h
  refine ⟨token :: tokens, ?_, fun rest after hrest hafter => ?_⟩
  · rw [List.foldlM_cons, hstep]
    exact hsteps
  · rw [List.map_append, List.append_assoc]
    exact hlex (hmore rest after hrest hafter)

theorem Takes.quoted {s : String} (hstep : p.step? (.str (some s)) = some q) (h : Takes q more r) :
    Takes p (Json.quoted s ++ more) r :=
  h.apart hstep fun hrest => hrest.quoted s

/-- A character that is a token by itself. -/
theorem Takes.mark {c : Char} (token : Token) (hstep : p.step? token = some q)
    (hspace : isSpace c = false) (hscan : ∀ rest, scanToken? c rest = some (token, rest))
    (h : Takes q more r) : Takes p (c :: more) r := by
  have htext : c :: more = [c] ++ more := rfl
  rw [htext]
  exact h.apart hstep fun hrest => hrest.cons hspace (hscan _) (Nat.le_refl _)

theorem Takes.word {token : Token} (hstep : p.step? token = some q) (hne : text ≠ [])
    (hword : ∀ c ∈ text, isWordChar c = true) (htoken : Token.ofWord? text = some token) :
    Takes p text q :=
  ⟨[token], by rw [List.foldlM_cons, hstep]; rfl,
    fun _ _ hrest hafter => hafter.word hne hword htoken hrest⟩

end Takes

/-- A value may come next, and goes into the outer containers. -/
def AwaitsValue (p : Progress) (outer : List Frame) : Prop :=
  ∀ token, token ≠ .closeArr → p.step? token = Progress.start? outer token

theorem awaitsValue_value (outer : List Frame) : AwaitsValue (.value outer) outer :=
  fun _ _ => rfl

theorem awaitsValue_firstItem (outer : List Frame) :
    AwaitsValue (.firstItem outer) (.arr [] :: outer) := by
  intro token htoken
  cases token with
  | closeArr => exact absurd rfl htoken
  | _ => rfl

/-- A document is read from the text of a value, and has this value. -/
structure ReadsAs (room : Nat) (v : Json) (w : Written) : Prop where
  takes : ∀ {p outer}, AwaitsValue p outer → Takes p v.chars (Progress.finish w outer)
  value : w.value? room = some v

theorem readsAs_word {room : Nat} {v : Json} {text : List Char} (hchars : v.chars = text)
    (hne : text ≠ []) (hword : ∀ c ∈ text, isWordChar c = true)
    (htoken : Token.ofWord? text = some (.leaf (some v))) :
    ReadsAs room v (.leaf (some v)) where
  takes h := by
    rw [hchars]
    exact .word (h _ (by simp)) hne hword htoken
  value := by rw [Written.value?]

theorem readsAs_str (room : Nat) (s : String) : ReadsAs room (.str s) (.leaf (some (.str s))) where
  takes {p outer} h := by
    have htext : (Json.str s).chars = Json.quoted s ++ [] := (List.append_nil _).symm
    rw [htext]
    exact .quoted (h (.str (some s)) (by simp)) .nil
  value := by rw [Written.value?]

/-- Documents of values, one after the other. -/
def ItemsReadAs (room : Nat) : List Json → List Written → Prop :=
  List.Forall₂ (ReadsAs room)

/-- A member is written under its key. -/
inductive MemberReadsAs (room : Nat) : String × Json → Option String × Written → Prop
  | of (k : String) {v : Json} {w : Written} (h : ReadsAs room v w) :
      MemberReadsAs room (k, v) (some k, w)

/-- Documents of members, one after the other. -/
def MembersReadAs (room : Nat) : List (String × Json) → List (Option String × Written) → Prop :=
  List.Forall₂ (MemberReadsAs room)

theorem endsWord_itemsTail (vs : List Json) (rest : List (Option Char)) :
    EndsWord ((itemsTail vs).map some ++ rest) := by
  cases vs <;> rfl

theorem endsWord_membersTail (ms : List (String × Json)) (rest : List (Option Char)) :
    EndsWord ((membersTail ms).map some ++ rest) := by
  cases ms <;> rfl

/-- The items behind the first complete their array. -/
theorem takes_itemsTail {room : Nat} {vs : List Json} {ws done : List Written}
    {outer : List Frame} (h : ItemsReadAs room vs ws) :
    Takes (.next (.arr done) outer) (itemsTail vs)
      (Progress.finish (.arr (done.reverse ++ ws)) outer) := by
  induction h generalizing done with
  | nil =>
    rw [List.append_nil]
    exact .mark .closeArr rfl rfl (fun _ => rfl) .nil
  | @cons v w vs ws hv _ ih =>
    rw [List.append_cons, ← List.reverse_cons]
    refine .mark .comma rfl rfl (fun _ => rfl) ?_
    exact (hv.takes (awaitsValue_value _)).append ih (endsWord_itemsTail vs)

/-- A member goes into its object. -/
theorem takes_member {room : Nat} {p : Progress} {k : String} {v : Json} {w : Written}
    {done : List (Option String × Written)} {outer : List Frame} {more : List Char} {q : Progress}
    (hkey : p.step? (.str (some k)) = some (.colon done (some k) outer)) (hv : ReadsAs room v w)
    (hends : ∀ rest, EndsWord (more.map some ++ rest))
    (h : Takes (.next (.obj ((some k, w) :: done) none) outer) more q) :
    Takes p (Json.quoted k ++ ':' :: v.chars ++ more) q := by
  rw [List.append_assoc]
  refine .quoted hkey ?_
  refine .mark .colon rfl rfl (fun _ => rfl) ?_
  exact (hv.takes (awaitsValue_value _)).append h hends

/-- The members behind the first complete their object. -/
theorem takes_membersTail {room : Nat} {ms : List (String × Json)}
    {ws done : List (Option String × Written)} {outer : List Frame} (h : MembersReadAs room ms ws) :
    Takes (.next (.obj done none) outer) (membersTail ms)
      (Progress.finish (.obj (done.reverse ++ ws)) outer) := by
  induction h generalizing done with
  | nil =>
    rw [List.append_nil]
    exact .mark .closeObj rfl rfl (fun _ => rfl) .nil
  | @cons m w ms ws hm _ ih =>
    obtain ⟨k, hv⟩ := hm
    rw [List.append_cons, ← List.reverse_cons]
    refine .mark .comma rfl rfl (fun _ => rfl) ?_
    exact takes_member rfl hv (endsWord_membersTail ms) ih

theorem ItemsReadAs.values {room : Nat} {vs : List Json} {ws : List Written}
    (h : ItemsReadAs room vs ws) : Written.valueItems? room ws = some vs := by
  induction h with
  | nil => rw [Written.valueItems?]
  | cons hv _ ih => rw [Written.valueItems?, hv.value, ih]

theorem MembersReadAs.values {room : Nat} {ms : List (String × Json)}
    {ws : List (Option String × Written)} (h : MembersReadAs room ms ws) :
    Written.valueMembers? room ws = some ms := by
  induction h with
  | nil => rw [Written.valueMembers?]
  | cons hm _ ih =>
    obtain ⟨k, hv⟩ := hm
    unfold Written.valueMembers?
    simp only [hv.value, ih]

/-- An array is read back if its items are. -/
theorem readsAs_arr {room : Nat} {vs : List Json} {ws : List Written}
    (h : ItemsReadAs room vs ws) : ReadsAs (room + 1) (.arr vs) (.arr ws) where
  takes {p outer} hp := by
    have hopen : p.step? .openArr = some (.firstItem outer) := hp _ (by simp)
    cases h with
    | nil =>
      refine .mark .openArr hopen rfl (fun _ => rfl) ?_
      exact .mark .closeArr rfl rfl (fun _ => rfl) .nil
    | @cons v w vs ws hv hvs =>
      refine .mark .openArr hopen rfl (fun _ => rfl) ?_
      exact (hv.takes (awaitsValue_firstItem outer)).append (takes_itemsTail hvs)
        (endsWord_itemsTail vs)
  value := by
    rw [Written.value?, h.values]
    rfl

/-- Members complete an object, in whatever order they are. -/
theorem takes_obj {room : Nat} {ms : List (String × Json)} {ws : List (Option String × Written)}
    {p : Progress} {outer : List Frame} (h : MembersReadAs room ms ws) (hp : AwaitsValue p outer) :
    Takes p (Json.obj ms).chars (Progress.finish (.obj ws) outer) := by
  have hopen : p.step? .openObj = some (.firstKey outer) := hp _ (by simp)
  cases h with
  | nil =>
    refine .mark .openObj hopen rfl (fun _ => rfl) ?_
    exact .mark .closeObj rfl rfl (fun _ => rfl) .nil
  | @cons m w ms ws hm hms =>
    obtain ⟨k, hv⟩ := hm
    refine .mark .openObj hopen rfl (fun _ => rfl) ?_
    exact takes_member rfl hv (endsWord_membersTail ms) (takes_membersTail hms)

/-- An object whose members are in order is read back if their values are. -/
theorem readsAs_obj {room : Nat} {ms : List (String × Json)} {ws : List (Option String × Written)}
    (h : MembersReadAs room ms ws) (hsorted : object ms = .obj ms) :
    ReadsAs (room + 1) (.obj ms) (.obj ws) where
  takes hp := takes_obj h hp
  value := by
    rw [Written.value?, h.values, Option.map_some, hsorted]

/-! ## Values -/

/-- Members are in the order of their keys, each key once. -/
def InOrder (members : List (String × Json)) : Prop :=
  members.Pairwise fun m m' => m.1 < m'.1

/-- A member whose key comes after all others is put behind them. -/
theorem insertMember_append {key : String} {value : Json} {members : List (String × Json)}
    (h : ∀ m ∈ members, m.1 < key) :
    insertMember key value members = members ++ [(key, value)] := by
  induction members with
  | nil => rfl
  | cons m rest ih =>
    obtain ⟨k, v⟩ := m
    obtain ⟨hk, hrest⟩ := List.forall_mem_cons.mp h
    have hne : key ≠ k := by
      rintro rfl
      exact String.lt_irrefl _ hk
    rw [insertMember, if_neg hne, if_neg (String.lt_asymm hk), ih hrest]
    rfl

/-- Members that are in order stay as they are when they are sorted in. -/
theorem foldl_insertMember {members sorted : List (String × Json)}
    (h : InOrder (sorted ++ members)) :
    members.foldl (fun sorted (k, v) => insertMember k v sorted) sorted = sorted ++ members := by
  induction members generalizing sorted with
  | nil => exact (List.append_nil sorted).symm
  | cons m rest ih =>
    obtain ⟨k, v⟩ := m
    have hbefore : ∀ m ∈ sorted, m.1 < k := fun m hm =>
      (List.pairwise_append.mp h).2.2 m hm (k, v) List.mem_cons_self
    -- the next key is behind all that are sorted, and is put there
    rw [List.append_cons] at h ⊢
    rw [List.foldl_cons]
    dsimp only
    rw [insertMember_append hbefore, ih h]

/-- Members in order are the members of their object. -/
theorem object_of_inOrder {members : List (String × Json)} (h : InOrder members) :
    object members = .obj members :=
  congrArg obj (foldl_insertMember h)

theorem mem_insertMember {key : String} {value : Json} {members : List (String × Json)}
    {m : String × Json} (h : m ∈ insertMember key value members) :
    m = (key, value) ∨ m ∈ members := by
  induction members with
  | nil => exact .inl (List.mem_singleton.mp h)
  | cons member rest ih =>
    unfold insertMember at h
    split at h
    case isTrue => exact (List.mem_cons.mp h).imp_right (List.mem_cons_of_mem _)
    case isFalse =>
      split at h
      · exact List.mem_cons.mp h
      · rcases List.mem_cons.mp h with rfl | h
        · exact .inr List.mem_cons_self
        · exact (ih h).imp_right (List.mem_cons_of_mem _)

/-- Members stay in order when one is put in. -/
theorem InOrder.insertMember {members : List (String × Json)} (h : InOrder members) (key : String)
    (value : Json) : InOrder (insertMember key value members) := by
  induction members with
  | nil => exact List.pairwise_singleton _ _
  | cons member rest ih =>
    obtain ⟨k, v⟩ := member
    obtain ⟨hfirst, hrest⟩ := List.pairwise_cons.mp h
    unfold Json.insertMember
    split
    case isTrue hkey =>
      subst hkey
      exact List.pairwise_cons.mpr ⟨hfirst, hrest⟩
    case isFalse hne =>
      split
      case isTrue hlt =>
        -- the new member goes first, and comes before the old first one and all behind that
        refine List.pairwise_cons.mpr ⟨fun m hm => ?_, h⟩
        rcases List.mem_cons.mp hm with rfl | hm
        · exact hlt
        · exact String.lt_trans hlt (hfirst m hm)
      case isFalse hge =>
        refine List.pairwise_cons.mpr ⟨fun m hm => ?_, ih hrest⟩
        -- keys that are neither equal nor in this order are in the other
        rcases mem_insertMember hm with rfl | hm
        · refine Decidable.byContradiction fun hlt => hne ?_
          exact String.le_antisymm (String.not_lt.mp hlt) (String.not_lt.mp hge)
        · exact hfirst m hm

/-- Sorting members keeps what holds of each, and puts them in order. -/
theorem sortMembers_keeps {P : String × Json → Prop} {members : List (String × Json)}
    (h : ∀ m ∈ members, P m) :
    InOrder (sortMembers members) ∧ ∀ m ∈ sortMembers members, P m := by
  unfold sortMembers
  refine List.foldlRecOn (motive := fun sorted => InOrder sorted ∧ ∀ m ∈ sorted, P m) members _
    ⟨.nil, fun _ hm => absurd hm List.not_mem_nil⟩ fun sorted hsorted m hm => ?_
  refine ⟨hsorted.1.insertMember _ _, fun m' hm' => ?_⟩
  rcases mem_insertMember hm' with rfl | hm'
  · exact h m hm
  · exact hsorted.2 m' hm'

/-- Choices that can be made for each item can be made for all at once. -/
theorem exists_forall₂ {α β : Type} {r : α → β → Prop} {as : List α}
    (h : ∀ a ∈ as, ∃ b, r a b) : ∃ bs, List.Forall₂ r as bs := by
  induction as with
  | nil => exact ⟨[], .nil⟩
  | cons a as ih =>
    obtain ⟨⟨b, hb⟩, has⟩ := List.forall_mem_cons.mp h
    obtain ⟨bs, hbs⟩ := ih has
    exact ⟨b :: bs, .cons hb hbs⟩

/-- A value that is read back: its members are in order, its whole numbers are of the 64-bit
    ranges, it has no other numbers and is nested at most `room` deep. -/
inductive Readable : Nat → Json → Prop
  | null {room : Nat} : Readable room null
  | bool {room : Nat} (b : Bool) : Readable room (bool b)
  | int {room : Nat} {n : Int} (hlow : -(pow2 63 : Int) ≤ n) (hhigh : n < pow2 64) :
      Readable room (int n)
  | str {room : Nat} (s : String) : Readable room (str s)
  | arr {room : Nat} {items : List Json} (hitems : ∀ v ∈ items, Readable room v) :
      Readable (room + 1) (arr items)
  | obj {room : Nat} {members : List (String × Json)} (hsorted : InOrder members)
      (hmembers : ∀ m ∈ members, Readable room m.2) : Readable (room + 1) (obj members)

/-- An object is read back if its members are. -/
theorem Readable.object {room : Nat} {members : List (String × Json)}
    (h : ∀ m ∈ members, Readable room m.2) : Readable (room + 1) (Json.object members) :=
  have hkeeps := sortMembers_keeps (P := fun m => Readable room m.2) h
  .obj hkeeps.1 hkeeps.2

/-- A value that may be missing is readable, since a missing one is null. -/
theorem Readable.ofOption {α : Type} {encode : α → Json} {room : Nat}
    (h : ∀ a, Readable room (encode a)) (a : Option α) : Readable room (ofOption encode a) := by
  cases a with
  | none => exact .null
  | some a => exact h a

/-- Members that are read back are so together. -/
theorem exists_membersReadAs {room : Nat} {members : List (String × Json)}
    (h : ∀ m ∈ members, ∃ w, ReadsAs room m.2 w) : ∃ ws, MembersReadAs room members ws :=
  exists_forall₂ fun m hm =>
    have ⟨_, hw⟩ := h m hm
    ⟨_, .of m.1 hw⟩

/-- The text of a value is that of a document with this value. -/
theorem Readable.exists_readsAs {room : Nat} {v : Json} (h : Readable room v) :
    ∃ w, ReadsAs room v w := by
  -- one case for each kind of value; words need no room, nested values one level less
  induction h with
  | null => exact ⟨_, readsAs_word rfl (List.cons_ne_nil _ _) (List.all_eq_true.mp rfl) rfl⟩
  | bool b =>
    cases b with
    | true => exact ⟨_, readsAs_word rfl (List.cons_ne_nil _ _) (List.all_eq_true.mp rfl) rfl⟩
    | false => exact ⟨_, readsAs_word rfl (List.cons_ne_nil _ _) (List.all_eq_true.mp rfl) rfl⟩
  | int hlow hhigh =>
    exact ⟨_, readsAs_word rfl (Text.intText_ne_nil _) (fun _ => isWordChar_of_mem_intText)
      (ofWord?_intText hlow hhigh)⟩
  | str s => exact ⟨_, readsAs_str _ s⟩
  | arr _ ih =>
    obtain ⟨ws, hws⟩ := exists_forall₂ ih
    exact ⟨_, readsAs_arr hws⟩
  | @obj room members hsorted _ ih =>
    obtain ⟨ws, hws⟩ := exists_membersReadAs ih
    exact ⟨_, readsAs_obj hws (object_of_inOrder hsorted)⟩

/-- A text that takes the reader from its start to its end is that of the document. -/
theorem Takes.ofText? {text : List Char} {w : Written}
    (h : Takes (.value []) text (Progress.finish w [])) :
    Written.ofText? (text.map some) = some w := by
  obtain ⟨tokens, hsteps, hlex⟩ := h
  -- the text is all there is, so it ends with its last word
  have htokens : tokens? (text.map some) = some tokens := by
    have hall := hlex [] [] trivial .nil
    rw [List.append_nil, List.append_nil] at hall
    exact hall _ (Nat.le_refl _)
  rw [Written.ofText?, htokens, Option.bind_some, Written.ofTokens?, hsteps]
  rfl

/-- **A value is read back from its text**, if it is of the kind that can be read. -/
theorem Readable.ofText?_toText {v : Json} (h : Readable depthLimit v) :
    ofText? v.toText = some v := by
  obtain ⟨w, hw⟩ := h.exists_readsAs
  rw [ofText?, toText, String.toList_ofList, ofChars?, (hw.takes (awaitsValue_value [])).ofText?,
    Option.bind_some, hw.value]

/-- No two such values have the same text. -/
theorem Readable.toText_inj {v w : Json} (hv : Readable depthLimit v) (hw : Readable depthLimit w) :
    v.toText = w.toText ↔ v = w := by
  refine ⟨fun h => ?_, fun h => h ▸ rfl⟩
  have hread := hw.ofText?_toText
  rw [← h, hv.ofText?_toText] at hread
  exact Option.some.inj hread

end LiveTrader.Json
