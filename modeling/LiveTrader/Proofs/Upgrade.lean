import Mathlib.Data.List.Infix
import Mathlib.Data.List.TakeWhile
import Mathlib.Data.Nat.Find
import LiveTrader.Proofs.Frames
import LiveTrader.WebSocket.Session

/-!
  LiveTrader.Proofs.Upgrade

  What an upgrade makes of the bytes that the peer sends, in whatever parts they arrive.  The
  head of the response is found in the bytes alone (`ResponseHead`): it ends with the first blank
  line, or with the last byte if there are too few, and a head that is too long is no head.  The
  loop that reads it takes one byte at a time, so what it takes is the head and nothing after it.
-/

namespace LiveTrader.WebSocket

/-! ## One byte at a time -/

namespace Source

variable {σ : Type} [Source σ] {source : σ}

theorem read_one_of_cons {b : UInt8} {rest : List UInt8} (h : bytes source = b :: rest) :
    ∃ left, read 1 source = ([b], left) ∧ bytes left = rest := by
  have happend := read_append 1 source
  have hroom := length_read 1 source
  -- a source may give less than was asked for, but nothing only at its end
  match hread : read 1 source with
  | ([], left) =>
    have hend := bytes_of_read_eq_nil 1 source Nat.one_pos (congrArg Prod.fst hread)
    rw [h] at hend
    cases hend
  | ([c], left) =>
    rw [hread, h] at happend
    obtain ⟨rfl, hleft⟩ := List.cons.inj happend
    exact ⟨left, rfl, hleft⟩
  | (c :: d :: more, left) =>
    rw [hread] at hroom
    simp only [List.length_cons] at hroom
    omega

theorem read_one_of_nil (h : bytes source = []) :
    ∃ left, read 1 source = ([], left) ∧ bytes left = [] := by
  have happend := read_append 1 source
  rw [h] at happend
  obtain ⟨hread, hleft⟩ := List.append_eq_nil_iff.mp happend
  exact ⟨(read 1 source).2, Prod.ext hread rfl, hleft⟩

end Source

/-! ## Heads of responses -/

/-- The end of a line and an empty line. -/
def blankLine : List UInt8 := [13, 10, 13, 10]

/-- The search ends where the blank line has been read. -/
theorem endsWithBlankLine_iff {read : List UInt8} :
    endsWithBlankLine read = true ↔ blankLine <:+ read.reverse := by
  have hreverse : blankLine <:+ read.reverse ↔ [10, 13, 10, 13] <+: read := by
    rw [← List.reverse_prefix, List.reverse_reverse]
    rfl
  rw [hreverse]
  unfold endsWithBlankLine
  split
  case h_1 before => exact iff_of_true rfl ⟨before, rfl⟩
  case h_2 hother =>
    refine iff_of_false Bool.false_ne_true ?_
    rintro ⟨before, rfl⟩
    exact hother before rfl

/-- What stands at the front of a stream that answers a request for an upgrade, and what follows
    it. -/
inductive ResponseHead (stream : List UInt8) :
    Except SocketError (List UInt8) → List UInt8 → Prop
  /-- The head ends with the first blank line. -/
  | complete (head rest : List UInt8) (h : stream = head ++ rest) (hle : head.length ≤ maxHead)
      (hends : blankLine <:+ head) (hfirst : ¬ blankLine <:+: head.dropLast) :
      ResponseHead stream (.ok head) rest
  /-- The stream ends before the head does, and is taken for all of it. -/
  | cutShort (hne : stream ≠ []) (hlt : stream.length < maxHead)
      (hnone : ¬ blankLine <:+: stream) : ResponseHead stream (.ok stream) []
  | closed (h : stream = []) : ResponseHead stream (.error .connectionClosed) []
  /-- There is no blank line among as many bytes as a head may have. -/
  | tooLarge (head rest : List UInt8) (h : stream = head ++ rest)
      (hlength : head.length = maxHead) (hnone : ¬ blankLine <:+: head) :
      ResponseHead stream (.error (.handshake "response head too large")) rest

theorem ResponseHead.ne_nil {stream head rest : List UInt8}
    (h : ResponseHead stream (.ok head) rest) : head ≠ [] := by
  cases h with
  | complete _ _ _ _ hends =>
    rintro rfl
    exact absurd hends.length_le (by decide)
  | cutShort hne => exact hne

/-- A blank line in the front of a stream ends somewhere in it. -/
theorem exists_take_of_infix {stream front : List UInt8} (hfront : front <+: stream)
    (h : blankLine <:+: front) : ∃ n ≤ front.length, blankLine <:+ stream.take n := by
  obtain ⟨before, after, rfl⟩ := h
  have hupTo : before ++ blankLine <+: stream := (List.prefix_append _ after).trans hfront
  refine ⟨(before ++ blankLine).length, ?_, ?_⟩
  · exact (List.prefix_append (before ++ blankLine) after).length_le
  · rw [← List.prefix_iff_eq_take.mp hupTo]
    exact List.suffix_append before blankLine

/-- Every stream has a head, or a reason for having none. -/
theorem exists_responseHead (stream : List UInt8) :
    ∃ head rest, ResponseHead stream head rest := by
  by_cases hblank : ∃ n, n ≤ maxHead ∧ blankLine <:+ stream.take n
  · classical
    obtain ⟨hle, hends⟩ := Nat.find_spec hblank
    have hleast := fun m => Nat.find_min hblank (m := m)
    generalize Nat.find hblank = n at hle hends hleast
    refine ⟨_, stream.drop n, .complete (stream.take n) _ (List.take_append_drop n stream).symm
      (Nat.le_trans (List.length_take_le n stream) hle) hends ?_⟩
    -- a blank line that ends before the last byte would have ended the head there
    intro hearlier
    obtain ⟨m, hm, hends'⟩ := exists_take_of_infix
      ((List.dropLast_prefix _).trans (List.take_prefix n stream)) hearlier
    have hfour : 4 ≤ (stream.take n).length := hends.length_le
    have hlt : m < n := by
      have := List.length_take_le n stream
      rw [List.length_dropLast] at hm
      omega
    exact hleast m hlt ⟨Nat.le_trans (Nat.le_of_lt hlt) hle, hends'⟩
  -- a blank line anywhere in the front would end in it
  have hnone : ∀ front, front <+: stream → front.length ≤ maxHead → ¬ blankLine <:+: front := by
    intro front hfront hlength hinfix
    obtain ⟨n, hn, hends⟩ := exists_take_of_infix hfront hinfix
    exact hblank ⟨n, Nat.le_trans hn hlength, hends⟩
  by_cases hlt : stream.length < maxHead
  · by_cases hempty : stream = []
    · exact ⟨_, _, .closed hempty⟩
    · exact ⟨_, _, .cutShort hempty hlt (hnone _ (List.prefix_refl _) (Nat.le_of_lt hlt))⟩
  · have hlength : (stream.take maxHead).length = maxHead :=
      List.length_take_of_le (Nat.le_of_not_lt hlt)
    exact ⟨_, stream.drop maxHead, .tooLarge _ _ (List.take_append_drop _ _).symm hlength
      (hnone _ (List.take_prefix _ _) (Nat.le_of_eq hlength))⟩

section Reading

variable {σ : Type} [Source σ] {source : σ}

/-- The loop reads on over bytes among which no blank line ends. -/
theorem receiveHeadFrom_append (read front rest : List UInt8) (room : Nat)
    (hbytes : Source.bytes source = front ++ rest)
    (hno : ∀ part, part <+: front → part ≠ front → ¬ blankLine <:+ read.reverse ++ part) :
    ∃ left, Source.bytes left = rest ∧ receiveHeadFrom read (front.length + room) source =
      receiveHeadFrom (front.reverse ++ read) room left := by
  -- on the bytes that come before the end is seen; `hno` says that it is not seen among them
  induction front generalizing read source with
  | nil =>
    refine ⟨source, hbytes, ?_⟩
    rw [List.length_nil, Nat.zero_add]
    rfl
  | cons b front ih =>
    obtain ⟨left, hread, hleft⟩ := Source.read_one_of_cons hbytes
    have hgoesOn : ¬ endsWithBlankLine read = true := by
      rw [endsWithBlankLine_iff, ← List.append_nil read.reverse]
      exact hno [] List.nil_prefix (List.cons_ne_nil _ _).symm
    obtain ⟨last, hlast, heq⟩ := ih (b :: read) hleft (by
      intro part hpart hne
      rw [List.reverse_cons, List.append_assoc]
      exact hno (b :: part) (List.cons_prefix_cons.mpr ⟨rfl, hpart⟩) (by simpa using hne))
    refine ⟨last, hlast, ?_⟩
    rw [List.length_cons, Nat.succ_add, receiveHeadFrom, if_neg hgoesOn, hread]
    dsimp only
    rw [heq, List.reverse_cons, List.append_assoc]
    rfl

/-- A head is complete once its blank line has been read. -/
theorem receiveHeadFrom_blankLine (read : List UInt8) (room : Nat)
    (h : blankLine <:+ read.reverse) :
    receiveHeadFrom read room source = (.ok read.reverse, source) := by
  have hends := endsWithBlankLine_iff.mpr h
  cases room with
  | zero => exact if_pos hends
  | succ room => exact if_pos hends

theorem receiveHeadFrom_ended (read : List UInt8) (room : Nat) (h : ¬ blankLine <:+ read.reverse)
    (hbytes : Source.bytes source = []) :
    ∃ left, Source.bytes left = [] ∧ receiveHeadFrom read (room + 1) source =
      (if read.isEmpty then .error .connectionClosed else .ok read.reverse, left) := by
  obtain ⟨left, hread, hleft⟩ := Source.read_one_of_nil hbytes
  refine ⟨left, hleft, ?_⟩
  rw [receiveHeadFrom, if_neg (mt endsWithBlankLine_iff.mp h), hread]

theorem isPrefix_dropLast {part front : List UInt8} (h : part <+: front) (hne : part ≠ front) :
    part <+: front.dropLast := by
  obtain ⟨more, rfl⟩ := h
  have hmore : more ≠ [] := by
    rintro rfl
    exact hne (List.append_nil part).symm
  rw [List.dropLast_append_of_ne_nil hmore]
  exact List.prefix_append part _

/-- From the start on, the loop reads everything up to the end of the first blank line. -/
theorem receiveHead_append (front rest : List UInt8)
    (hbytes : Source.bytes source = front ++ rest) (hle : front.length ≤ maxHead)
    (hfirst : ¬ blankLine <:+: front.dropLast) :
    ∃ left, Source.bytes left = rest ∧
      receiveHead source = receiveHeadFrom front.reverse (maxHead - front.length) left := by
  have hno : ∀ part, part <+: front → part ≠ front → ¬ blankLine <:+ part := by
    intro part hpart hne hends
    exact hfirst (hends.isInfix.trans (isPrefix_dropLast hpart hne).isInfix)
  obtain ⟨left, hleft, heq⟩ :=
    receiveHeadFrom_append [] front rest (maxHead - front.length) hbytes hno
  rw [Nat.add_sub_cancel' hle, List.append_nil] at heq
  exact ⟨left, hleft, heq⟩

/-- **The loop finds the head, and takes nothing that follows it.** -/
theorem receiveHead_of_responseHead {head : Except SocketError (List UInt8)} {rest : List UInt8}
    (h : ResponseHead (Source.bytes source) head rest) :
    ∃ left, Source.bytes left = rest ∧ receiveHead source = (head, left) := by
  have hdropLast : ∀ front : List UInt8, ¬ blankLine <:+: front →
      ¬ blankLine <:+: front.dropLast :=
    fun front => mt fun h => h.trans (List.dropLast_prefix front).isInfix
  have hends : ∀ front : List UInt8, ¬ blankLine <:+: front →
      ¬ blankLine <:+ front.reverse.reverse := by
    intro front hnone h
    rw [List.reverse_reverse] at h
    exact hnone h.isInfix
  cases h with
  | complete head _ hbytes hle hends hfirst =>
    obtain ⟨left, hleft, heq⟩ := receiveHead_append head rest hbytes hle hfirst
    rw [receiveHeadFrom_blankLine _ _ (by rwa [List.reverse_reverse]), List.reverse_reverse] at heq
    exact ⟨left, hleft, heq⟩
  | cutShort hne hlt hnone =>
    obtain ⟨mid, hmid, heq⟩ := receiveHead_append _ [] (List.append_nil _).symm
      (Nat.le_of_lt hlt) (hdropLast _ hnone)
    -- there is room for another byte, and none comes
    obtain ⟨room, hroom⟩ := Nat.exists_eq_add_one.mpr (Nat.sub_pos_of_lt hlt)
    obtain ⟨left, hleft, hlast⟩ := receiveHeadFrom_ended _ room (hends _ hnone) hmid
    rw [hroom, hlast, if_neg (by simpa using hne), List.reverse_reverse] at heq
    exact ⟨left, hleft, heq⟩
  | closed hempty =>
    exact receiveHeadFrom_ended [] (maxHead - 1) (by simp [blankLine]) hempty
  | tooLarge front _ hbytes hlength hnone =>
    obtain ⟨left, hleft, heq⟩ := receiveHead_append front rest hbytes (Nat.le_of_eq hlength)
      (hdropLast front hnone)
    rw [hlength, Nat.sub_self, receiveHeadFrom,
      if_neg (mt endsWithBlankLine_iff.mp (hends front hnone))] at heq
    exact ⟨left, hleft, heq⟩

/-- The head is what the stream has at its front, and there is one way to say what that is. -/
theorem responseHead_iff {head : Except SocketError (List UInt8)} {rest : List UInt8} :
    ResponseHead (Source.bytes source) head rest ↔
      head = (receiveHead source).1 ∧ rest = Source.bytes (receiveHead source).2 := by
  constructor
  · intro h
    obtain ⟨left, hleft, heq⟩ := receiveHead_of_responseHead h
    rw [heq]
    exact ⟨rfl, hleft.symm⟩
  · rintro ⟨rfl, rfl⟩
    obtain ⟨head, rest, h⟩ := exists_responseHead (Source.bytes source)
    obtain ⟨left, rfl, heq⟩ := receiveHead_of_responseHead h
    rw [heq]
    exact h

end Reading

/-! ## Status lines -/

/-- The first line of a text, without the line break that ends it. -/
structure FirstLine (text line : List Char) : Prop where
  begins : line <+: text
  unbroken : '\n' ∉ line
  ends : line = text ∨ line ++ ['\n'] <+: text

/-- A status line that says that the protocol is switched: its first two words are a version of
    HTTP and the number for that. -/
def Switches (line : List Char) : Prop :=
  ∃ version more, Text.words line = version :: "101".toList :: more ∧ "HTTP/".toList <+: version

theorem firstLine_iff {text line : List Char} :
    FirstLine text line ↔ line = text.takeWhile (· != '\n') := by
  constructor
  · rintro ⟨-, hunbroken, hends⟩
    have hall : ∀ c ∈ line, (c != '\n') = true := by
      intro c hc
      rw [bne_iff_ne]
      rintro rfl
      exact hunbroken hc
    rcases hends with rfl | ⟨more, rfl⟩
    · exact (List.takeWhile_eq_self_iff.mpr hall).symm
    · rw [List.append_assoc, List.takeWhile_append_of_pos hall]
      exact (List.append_nil line).symm
  · rintro rfl
    have hsplit := List.takeWhile_append_dropWhile (p := (· != '\n')) (l := text)
    refine ⟨List.takeWhile_prefix _, fun hmem => ?_, ?_⟩
    · have := List.mem_takeWhile_imp hmem
      simp at this
    · match hdrop : text.dropWhile (· != '\n') with
      | [] =>
        rw [hdrop, List.append_nil] at hsplit
        exact .inl hsplit
      | c :: more =>
        -- what stopped the line is a line feed
        have hc : ¬ (c != '\n') = true := by
          have := List.head_dropWhile_not (· != '\n') (l := text) (by simp [hdrop])
          simpa [hdrop] using this
        have hc : c = '\n' := by simpa using hc
        refine .inr ⟨more, ?_⟩
        rw [hdrop, hc] at hsplit
        rw [List.append_assoc]
        exact hsplit

/-- The status line is accepted if and only if it switches the protocol. -/
theorem switchesProtocol_iff {line : List Char} :
    switchesProtocol line = true ↔ Switches line := by
  unfold switchesProtocol Switches isHttpVersion
  split
  case h_1 version status more hwords =>
    rw [hwords, Bool.and_eq_true, List.isPrefixOf_iff_prefix, beq_iff_eq]
    constructor
    · rintro ⟨hversion, rfl⟩
      exact ⟨version, more, rfl, hversion⟩
    · rintro ⟨_, _, hwords', hversion⟩
      obtain ⟨rfl, htail⟩ := List.cons.inj hwords'
      exact ⟨hversion, (List.cons.inj htail).1⟩
  case h_2 hother =>
    refine iff_of_false Bool.false_ne_true ?_
    rintro ⟨version, more, hwords, -⟩
    exact hother version _ more hwords

theorem judgeStatusLine_eq_ok_iff {line : List Char} :
    judgeStatusLine line = .ok () ↔ Switches line := by
  rw [← switchesProtocol_iff]
  unfold judgeStatusLine
  cases switchesProtocol line <;> simp

/-- Any other status line is refused, with its text. -/
theorem judgeStatusLine_eq_error_iff {line : List Char} {e : SocketError} :
    judgeStatusLine line = .error e ↔
      ¬ Switches line ∧ e = .handshake (String.ofList (Text.trimChars line)) := by
  rw [← switchesProtocol_iff]
  unfold judgeStatusLine
  cases switchesProtocol line <;> simp [eq_comm]

/-- The first line of a head; bytes that are no UTF-8 are replaced. -/
def IsStatusLine (head : List UInt8) (line : List Char) : Prop :=
  FirstLine (Text.decodeLossy head).toList line

theorem isStatusLine_iff {head : List UInt8} {line : List Char} :
    IsStatusLine head line ↔ line = statusLine head :=
  firstLine_iff

/-! ## Upgrades -/

section Upgrade

variable {σ : Type} [Source σ] {source left : σ}

theorem receiveUpgrade_of_error {e : SocketError} (h : receiveHead source = (.error e, left)) :
    receiveUpgrade source = (.error e, left) :=
  receive_bind_error h

theorem receiveUpgrade_of_ok {head : List UInt8} (h : receiveHead source = (.ok head, left)) :
    receiveUpgrade source = (judgeStatusLine (statusLine head), left) := by
  refine (receive_bind_ok h).trans ?_
  cases judgeStatusLine (statusLine head) <;> rfl

/-- **An upgrade writes its request, takes the head of the response and nothing after it, and
    judges the status line.**  What the head is depends on the bytes that arrive, and not on the
    parts in which they do: it is the one in `head`, and what is left to read is the rest.  The
    upgrade is granted if the first line of the head switches the protocol.  Otherwise that line
    is the reason, or the lack of a head is. -/
theorem upgrade_takes_head (host path key : String) (incoming : σ) :
    let run := (Session.upgrade host path key).run (.start incoming)
    run.2.writes = [Text.bytesOf (upgradeRequest host path key)] ∧
      ∃ head, (∀ head' rest, ResponseHead (Source.bytes incoming) head' rest ↔
          head' = head ∧ rest = Source.bytes run.2.unread) ∧
        (run.1 = .ok () ↔ ∃ bytes line, head = .ok bytes ∧ bytes ≠ [] ∧
          IsStatusLine bytes line ∧ Switches line) ∧
        ∀ e, run.1 = .error e ↔ head = .error e ∨
          ∃ bytes line, head = .ok bytes ∧ IsStatusLine bytes line ∧ ¬ Switches line ∧
            e = .handshake (String.ofList (Text.trimChars line)) := by
  intro run
  have hrun : run = ((receiveUpgrade incoming).1,
      ⟨(receiveUpgrade incoming).2, [Text.bytesOf (upgradeRequest host path key)]⟩) := rfl
  -- what the head is does not depend on the source, so both cases below are about one list of bytes
  have hiff : ∀ head rest, ResponseHead (Source.bytes incoming) head rest ↔
      head = (receiveHead incoming).1 ∧ rest = Source.bytes (receiveHead incoming).2 :=
    fun head rest => responseHead_iff
  match hhead : receiveHead incoming with
  | (.error e, left) =>
    rw [receiveUpgrade_of_error hhead] at hrun
    rw [hhead] at hiff
    rw [hrun]
    exact ⟨rfl, .error e, hiff, by simp, by simp⟩
  | (.ok head, left) =>
    rw [receiveUpgrade_of_ok hhead] at hrun
    rw [hhead] at hiff
    rw [hrun]
    -- the whole head has come, and its first line is judged
    have hne : head ≠ [] := ((hiff _ _).mpr ⟨rfl, rfl⟩).ne_nil
    refine ⟨rfl, .ok head, hiff, ?_, fun e => ?_⟩
    · rw [judgeStatusLine_eq_ok_iff]
      constructor
      · intro hswitches
        exact ⟨head, _, rfl, hne, isStatusLine_iff.mpr rfl, hswitches⟩
      · rintro ⟨_, line, hbytes, -, hline, hswitches⟩
        cases hbytes
        rwa [← isStatusLine_iff.mp hline]
    · rw [judgeStatusLine_eq_error_iff]
      constructor
      · rintro ⟨hswitches, rfl⟩
        exact .inr ⟨head, _, rfl, isStatusLine_iff.mpr rfl, hswitches, rfl⟩
      · rintro (hbytes | ⟨_, line, hbytes, hline, hswitches, rfl⟩)
        · cases hbytes
        · cases hbytes
          rw [← isStatusLine_iff.mp hline]
          exact ⟨hswitches, rfl⟩

/-- A response in two parts, with a frame behind it: the frame is left. -/
example :
    let arrivals : Arrivals := ["HTTP/1.1 10".toUTF8.toList, "1 OK\r\n\r".toUTF8.toList,
      [10, 0x81, 0]]
    let run := (Session.upgrade "h" "/ws" "k").run (.start arrivals)
    run.1 = .ok () ∧ run.2.unread = [[0x81, 0]] := by
  decide +kernel

end Upgrade

end LiveTrader.WebSocket
