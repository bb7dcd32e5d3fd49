import LiveTrader.Gmo.Streams
import LiveTrader.Proofs.Frames

/-!
  LiveTrader.Proofs.Subscription

  What a subscription makes of the bytes that its peer sends.  After the upgrade the bytes are
  frames (`ReadsTo`) up to the one that ends the session (`EndsAt`).  The messages among the
  frames before that are yielded, the pings among them are answered, both in order, and the end is
  yielded once.  Two loops read the frames, one for the next text and one for the messages in the
  texts; each has one lemma that says which frames it takes.
-/

namespace LiveTrader.WebSocket

/-! ## Frames of a subscription -/

/-- The reason for which a message refuses the subscription. -/
def refusal? (message : Json) : Option String :=
  (message.get? "error").bind Json.asText?

namespace Frame

/-- The text of a text frame. -/
def text? (f : Frame) : Option String :=
  if f.opcode = .text then Text.decode? f.payload else none

/-- The JSON in a text frame. -/
def json? (f : Frame) : Option Json := f.text?.bind Json.ofText?

/-- The message in a text frame, unless it refuses the subscription. -/
def message? (f : Frame) : Option Json := f.json?.filter fun v => (refusal? v).isNone

/-- The payload of a ping. -/
def ping? (f : Frame) : Option (List UInt8) := if f.opcode = .ping then some f.payload else none

/-- The failure with which a frame ends the session. -/
def failure? (f : Frame) : Option SocketError :=
  if f.opcode = .close then some .connectionClosed
  else if f.opcode = .text ∧ (Text.decode? f.payload).isNone then some .utf8
  else (f.json?.bind refusal?).map .rejected

end Frame

/-- What is written in answer to these frames: a pong for each ping, with its payload. -/
def answers (frames : List Frame) : List (List UInt8) :=
  (frames.filterMap Frame.ping?).map fun payload => encodeFrame .pong payload none

/-- The session ends with this failure at the front of these bytes: at the frame there, or because
    there is none. -/
inductive EndsAt (bytes : List UInt8) : SocketError → Prop
  | frame (f : Frame) (rest : List UInt8) (e : SocketError)
      (h : receiveFrame bytes = (.ok f, rest)) (hf : f.failure? = some e) : EndsAt bytes e
  | noFrame (rest : List UInt8) (h : receiveFrame bytes = (.error (frameFailure bytes), rest)) :
      EndsAt bytes (frameFailure bytes)

/-- Frames are read behind those that are read before them. -/
theorem ReadsTo.append {bytes mid tail : List UInt8} {before after : List Frame}
    (h : ReadsTo bytes before mid) (h' : ReadsTo mid after tail) :
    ReadsTo bytes (before ++ after) tail := by
  induction h with
  | nil => exact h'
  | cons hf hrest ih => exact .cons hf (ih h')

theorem answers_append (before after : List Frame) :
    answers (before ++ after) = answers before ++ answers after := by
  rw [answers, List.filterMap_append, List.map_append]
  rfl

/-! ## The next text -/

/-- What the next text comes to at the front of these bytes, and what it leaves of them. -/
inductive NextText (bytes : List UInt8) : Except SocketError String → List UInt8 → Prop
  | text (f : Frame) (rest : List UInt8) (text : String)
      (h : receiveFrame bytes = (.ok f, rest)) (htext : f.text? = some text) :
      NextText bytes (.ok text) rest
  | failed (e : SocketError) (unread : List UInt8) (h : EndsAt bytes e) :
      NextText bytes (.error e) unread

namespace Session

section Steps

variable {α β : Type} {s : Session} {rest : List UInt8}

/-- What an action leaves is where the next begins. -/
theorem run_bind (act : StateM Session α) (next : α → StateM Session β) :
    (act >>= next).run s = (next (act.run s).1).run (act.run s).2 :=
  rfl

/-- What is read is taken from the unread bytes, and nothing is written. -/
theorem run_read {r : Receive α} {result : Except SocketError α}
    (h : r s.unread = (result, rest)) : (read r).run s = (result, ⟨rest, s.writes⟩) := by
  show ((r s.unread).1, ({ s with unread := (r s.unread).2 } : Session)) = _
  rw [h]

variable (frames : Nat)

/-- Where there is no frame, there is no text. -/
theorem nextTextWithin_noFrame {e : SocketError} (h : receiveFrame s.unread = (.error e, rest)) :
    (nextTextWithin (frames + 1)).run s = (.error e, ⟨rest, s.writes⟩) := by
  unfold nextTextWithin
  rw [run_bind, run_read h]
  rfl

variable {f : Frame} (h : receiveFrame s.unread = (.ok f, rest))
include h

theorem nextTextWithin_text (hop : f.opcode = .text) :
    (nextTextWithin (frames + 1)).run s =
      (match Text.decode? f.payload with
        | some text => .ok text
        | none => .error .utf8, ⟨rest, s.writes⟩) := by
  unfold nextTextWithin
  rw [run_bind, run_read h]
  simp only [hop]
  cases Text.decode? f.payload <;> rfl

/-- A frame that closes the connection ends the search for a text. -/
theorem nextTextWithin_close (hop : f.opcode = .close) :
    (nextTextWithin (frames + 1)).run s = (.error .connectionClosed, ⟨rest, s.writes⟩) := by
  unfold nextTextWithin
  rw [run_bind, run_read h]
  simp only [hop]
  rfl

/-- A ping is answered, and then the next text is looked for. -/
theorem nextTextWithin_ping (hop : f.opcode = .ping) :
    (nextTextWithin (frames + 1)).run s =
      (nextTextWithin frames).run ⟨rest, encodeFrame .pong f.payload none :: s.writes⟩ := by
  conv_lhs => unfold nextTextWithin
  rw [run_bind, run_read h]
  simp only [hop]
  rfl

/-- Any other frame is passed over. -/
theorem nextTextWithin_other (htext : f.opcode ≠ .text) (hclose : f.opcode ≠ .close)
    (hping : f.opcode ≠ .ping) :
    (nextTextWithin (frames + 1)).run s = (nextTextWithin frames).run ⟨rest, s.writes⟩ := by
  conv_lhs => unfold nextTextWithin
  rw [run_bind, run_read h]
  cases hop : f.opcode <;> simp_all

end Steps

/-- **The next text is that of the first frame with a text**, after frames without one that do not
    end the session. -/
theorem nextTextWithin_reads (frames : Nat) (s : Session) (h : s.unread.length < frames) :
    ∃ skipped tail, ReadsTo s.unread skipped tail ∧
      (∀ f ∈ skipped, f.text? = none ∧ f.failure? = none) ∧
      NextText tail ((nextTextWithin frames).run s).1 ((nextTextWithin frames).run s).2.unread ∧
      ((nextTextWithin frames).run s).2.writes = (answers skipped).reverse ++ s.writes := by
  induction frames generalizing s with
  | zero => exact absurd h (Nat.not_lt_zero _)
  | succ frames ih =>
    match hf : receiveFrame s.unread with
    | (.error e, rest) =>
      obtain rfl := eq_frameFailure hf
      rw [nextTextWithin_noFrame frames hf]
      exact ⟨[], s.unread, .nil _, by simp, .failed _ _ (.noFrame rest hf), rfl⟩
    | (.ok f, rest) =>
      have hlt : rest.length < frames := by
        have := length_of_receiveFrame hf
        omega
      by_cases htext : f.opcode = .text
      · rw [nextTextWithin_text frames hf htext]
        refine ⟨[], s.unread, .nil _, by simp, ?_, rfl⟩
        cases hd : Text.decode? f.payload with
        | some text => exact .text f rest text hf (by rw [Frame.text?, if_pos htext, hd])
        | none => exact .failed _ _ (.frame f rest _ hf (by simp [Frame.failure?, htext, hd]))
      by_cases hclose : f.opcode = .close
      · rw [nextTextWithin_close frames hf hclose]
        refine ⟨[], s.unread, .nil _, by simp, ?_, rfl⟩
        exact .failed _ _ (.frame f rest _ hf (by simp [Frame.failure?, hclose]))
      -- the frame is neither a text nor the end: the search goes on behind it
      have hnone : f.text? = none ∧ f.failure? = none := by
        simp [Frame.failure?, Frame.json?, Frame.text?, htext, hclose]
      by_cases hping : f.opcode = .ping
      · rw [nextTextWithin_ping frames hf hping]
        obtain ⟨skipped, tail, hreads, hskipped, hnext, hwrites⟩ :=
          ih ⟨rest, encodeFrame .pong f.payload none :: s.writes⟩ hlt
        refine ⟨f :: skipped, tail, .cons hf hreads, by simpa [hnone] using hskipped, hnext, ?_⟩
        rw [hwrites]
        simp [answers, Frame.ping?, hping]
      · rw [nextTextWithin_other frames hf htext hclose hping]
        obtain ⟨skipped, tail, hreads, hskipped, hnext, hwrites⟩ := ih ⟨rest, s.writes⟩ hlt
        refine ⟨f :: skipped, tail, .cons hf hreads, by simpa [hnone] using hskipped, hnext, ?_⟩
        rw [hwrites]
        simp [answers, Frame.ping?, hping]

end Session

/-! ## Messages -/

/-- No frame gives bytes back. -/
theorem ReadsTo.length_le {bytes tail : List UInt8} {frames : List Frame}
    (h : ReadsTo bytes frames tail) : tail.length ≤ bytes.length := by
  induction h with
  | nil => exact Nat.le_refl _
  | cons hf hrest ih =>
    have := length_of_receiveFrame hf
    omega

theorem Frame.opcode_of_text {f : Frame} {text : String} (h : f.text? = some text) :
    f.opcode = .text := by
  by_contra hop
  rw [text?, if_neg hop] at h
  cases h

/-- A text is not answered. -/
theorem answers_of_text {f : Frame} {text : String} (h : f.text? = some text) :
    answers [f] = [] := by
  simp [answers, Frame.ping?, Frame.opcode_of_text h]

theorem Frame.message?_of_text {f : Frame} (h : f.text? = none) : f.message? = none := by
  simp [message?, json?, h]

/-- What a text says is what its frame is to the subscription: nothing, a message, or the end. -/
theorem Frame.said {f : Frame} {text : String} (h : f.text? = some text) :
    (messageOf? text = none ∧ f.message? = none ∧ f.failure? = none) ∨
      (∃ message, messageOf? text = some (.ok message) ∧ f.message? = some message ∧
        f.failure? = none) ∨
      ∃ error, messageOf? text = some (.error (.rejected error)) ∧
        f.failure? = some (.rejected error) := by
  have hop := opcode_of_text h
  have hdecode : Text.decode? f.payload = some text := by rwa [text?, if_pos hop] at h
  have hjson : f.json? = Json.ofText? text := by rw [json?, h, Option.bind_some]
  have hfailure : f.failure? = (f.json?.bind refusal?).map .rejected := by
    simp [failure?, hop, hdecode]
  have hsaid : messageOf? text = f.json?.map fun message =>
      match refusal? message with
      | some error => .error (.rejected error)
      | none => .ok message := by rw [hjson]; rfl
  -- all three are read off the JSON of the text, and off what it says about an error
  rw [hsaid, hfailure, message?]
  cases hv : f.json? with
  | none => exact .inl ⟨rfl, rfl, rfl⟩
  | some message =>
    cases hr : refusal? message with
    | none => exact .inr (.inl ⟨message, by simp [hr], by simp [hr], by simp [hr]⟩)
    | some error => exact .inr (.inr ⟨error, by simp [hr], by simp [hr]⟩)

/-- What comes of a session that hears the frames `heard`, and ends with the failure `e` in front
    of `tail`. -/
structure Listens (s s' : Session) (items : List (Except SocketError Json)) (heard : List Frame)
    (tail : List UInt8) (e : SocketError) : Prop where
  reads : ReadsTo s.unread heard tail
  goesOn : ∀ f ∈ heard, f.failure? = none
  ends : EndsAt tail e
  items_eq : items = (heard.filterMap Frame.message?).map .ok ++ [.error e]
  writes_eq : s'.writes = (answers heard).reverse ++ s.writes

/-- Frames before those that a session hears. -/
theorem Listens.behind {s mid s' : Session} {items : List (Except SocketError Json)}
    {before heard : List Frame} {tail : List UInt8} {e : SocketError}
    (h : Listens mid s' items heard tail e) (hreads : ReadsTo s.unread before mid.unread)
    (hbefore : ∀ f ∈ before, f.failure? = none)
    (hwrites : mid.writes = (answers before).reverse ++ s.writes) :
    Listens s s' ((before.filterMap Frame.message?).map .ok ++ items) (before ++ heard) tail e where
  reads := hreads.append h.reads
  goesOn f hf := (List.mem_append.mp hf).elim (hbefore f) (h.goesOn f)
  ends := h.ends
  items_eq := by
    rw [h.items_eq, List.filterMap_append, List.map_append, List.append_assoc]
  writes_eq := by
    rw [h.writes_eq, hwrites, answers_append, List.reverse_append, List.append_assoc]

section Steps

variable {s s' : Session} (texts : Nat)

theorem messagesWithin_failed {e : SocketError} (h : Session.nextText.run s = (.error e, s')) :
    (messagesWithin (texts + 1)).run s = ([.error e], s') := by
  unfold messagesWithin
  rw [Session.run_bind, h]
  rfl

variable {text : String} (h : Session.nextText.run s = (.ok text, s'))
include h

/-- A text that is no message is passed over. -/
theorem messagesWithin_silent (hsaid : messageOf? text = none) :
    (messagesWithin (texts + 1)).run s = (messagesWithin texts).run s' := by
  conv_lhs => unfold messagesWithin
  rw [Session.run_bind, h]
  simp only [hsaid]

theorem messagesWithin_refused {e : SocketError} (hsaid : messageOf? text = some (.error e)) :
    (messagesWithin (texts + 1)).run s = ([.error e], s') := by
  unfold messagesWithin
  rw [Session.run_bind, h]
  simp only [hsaid]
  rfl

theorem messagesWithin_message {message : Json} (hsaid : messageOf? text = some (.ok message)) :
    (messagesWithin (texts + 1)).run s =
      (.ok message :: ((messagesWithin texts).run s').1, ((messagesWithin texts).run s').2) := by
  conv_lhs => unfold messagesWithin
  rw [Session.run_bind, h]
  simp only [hsaid]
  rfl

end Steps

/-- **The messages are those of the frames before the end, which comes last.** -/
theorem messagesWithin_listens (texts : Nat) (s : Session) (h : s.unread.length < texts) :
    ∃ heard tail e, Listens s ((messagesWithin texts).run s).2 ((messagesWithin texts).run s).1
      heard tail e := by
  induction texts generalizing s with
  | zero => exact absurd h (Nat.not_lt_zero _)
  | succ texts ih =>
    obtain ⟨skipped, tail, hreads, hskipped, hnext, hwrites⟩ :=
      Session.nextTextWithin_reads (s.unread.length + 1) s (Nat.lt_succ_self _)
    have hgoesOn : ∀ f ∈ skipped, f.failure? = none := fun f hf => (hskipped f hf).2
    -- the frames that were skipped hold no message
    have hsilent : skipped.filterMap Frame.message? = [] :=
      List.filterMap_eq_nil_iff.mpr fun f hf => Frame.message?_of_text (hskipped f hf).1
    -- the text, or the failure, decides whether the session goes on
    match hrun : Session.nextText.run s with
    | (reply, s') =>
      have hrun' : (Session.nextTextWithin (s.unread.length + 1)).run s = (reply, s') := hrun
      rw [hrun'] at hnext hwrites
      dsimp only at hnext hwrites
      generalize hu : s'.unread = rest at hnext
      cases hnext with
      | failed e _ hends =>
        rw [messagesWithin_failed texts hrun]
        refine ⟨skipped, tail, e, hreads, hgoesOn, hends, ?_, hwrites⟩
        rw [hsilent]
        rfl
      | text f _ text hf htext =>
        have hwrites' : s'.writes = (answers (skipped ++ [f])).reverse ++ s.writes := by
          rw [answers_append, answers_of_text htext, List.append_nil, hwrites]
        have hreads' : ReadsTo s.unread (skipped ++ [f]) s'.unread := by
          rw [hu]
          exact hreads.append (.cons hf (.nil rest))
        have hlt : s'.unread.length < texts := by
          have := length_of_receiveFrame hf
          have := hreads.length_le
          rw [hu]
          omega
        have hgoesOn' : f.failure? = none → ∀ f' ∈ skipped ++ [f], f'.failure? = none := by
          intro hfailure f' hf'
          rcases List.mem_append.mp hf' with hf' | hf'
          · exact hgoesOn f' hf'
          · rw [List.mem_singleton.mp hf']
            exact hfailure
        obtain ⟨heard, tail', e, hlistens⟩ := ih s' hlt
        rcases Frame.said htext with hsilentText | hmessageText | hrefused
        · obtain ⟨hsaid, hmessage, hfailure⟩ := hsilentText
          rw [messagesWithin_silent texts hrun hsaid]
          have := hlistens.behind hreads' (hgoesOn' hfailure) hwrites'
          rw [List.filterMap_append, hsilent, List.filterMap_cons_none hmessage] at this
          exact ⟨_, tail', e, this⟩
        · obtain ⟨message, hsaid, hmessage, hfailure⟩ := hmessageText
          rw [messagesWithin_message texts hrun hsaid]
          have := hlistens.behind hreads' (hgoesOn' hfailure) hwrites'
          rw [List.filterMap_append, hsilent, List.filterMap_cons_some hmessage] at this
          exact ⟨_, tail', e, this⟩
        · -- the text is the end, whatever comes behind it
          obtain ⟨error, hsaid, hfailure⟩ := hrefused
          rw [messagesWithin_refused texts hrun hsaid]
          refine ⟨skipped, tail, _, hreads, hgoesOn, .frame f rest _ hf hfailure, ?_, hwrites⟩
          rw [hsilent]
          rfl

/-! ## Subscriptions -/

/-- What a subscription yields, and what it writes after the request for the upgrade, given what
    comes of that and the bytes behind it.  A refused upgrade is the only item and nothing is
    written.  Otherwise the bytes are frames: the messages in those before the end are yielded,
    and then the end; the command is written, and then a pong for each of the pings. -/
def Converses (command : Json) (mask : MaskKey) (items : List (Except SocketError Json))
    (written : List UInt8) : Except SocketError Unit × List UInt8 → Prop
  | (.error e, _) => items = [.error e] ∧ written = []
  | (.ok (), incoming) => ∃ heard tail e, ReadsTo incoming heard tail ∧
      (∀ f ∈ heard, f.failure? = none) ∧ EndsAt tail e ∧
      items = (heard.filterMap Frame.message?).map .ok ++ [.error e] ∧
      written = encodeFrame .text (Text.bytesOf command.toText) (some mask) ++
        (answers heard).flatten

section Subscribe

variable (host path key : String) (mask : MaskKey) (command : Json) (incoming : List UInt8)

theorem upgrade_run :
    (Session.upgrade host path key).run (.start incoming) =
      ((receiveUpgrade incoming).1,
        ⟨(receiveUpgrade incoming).2, [Text.bytesOf (upgradeRequest host path key)]⟩) :=
  rfl

/-- What is written is the request for an upgrade, and behind it what the conversation asks for. -/
theorem subscribe_converses :
    ∃ written, ((subscribe host path key mask command).run (.start incoming)).2.written =
        Text.bytesOf (upgradeRequest host path key) ++ written ∧
      Converses command mask ((subscribe host path key mask command).run (.start incoming)).1
        written (receiveUpgrade incoming) := by
  have hupgrade := upgrade_run host path key incoming
  unfold subscribe
  rw [Session.run_bind]
  match hup : receiveUpgrade incoming with
  | (.error e, rest) =>
    rw [hup] at hupgrade
    rw [hupgrade]
    exact ⟨[], rfl, rfl, rfl⟩
  | (.ok (), rest) =>
    rw [hup] at hupgrade
    rw [hupgrade]
    -- the session that the loop starts from: upgraded, with the command written
    let sent : Session := ⟨rest,
      [encodeFrame .text (Text.bytesOf command.toText) (some mask),
        Text.bytesOf (upgradeRequest host path key)]⟩
    obtain ⟨heard, tail, e, hlistens⟩ :=
      messagesWithin_listens (rest.length + 1) sent (Nat.lt_succ_self _)
    refine ⟨_, ?_, heard, tail, e, hlistens.reads, hlistens.goesOn, hlistens.ends,
      hlistens.items_eq, rfl⟩
    show ((messagesWithin (rest.length + 1)).run sent).2.written = _
    rw [Session.written, hlistens.writes_eq]
    simp [sent]

end Subscribe

end LiveTrader.WebSocket

namespace LiveTrader.Gmo

open WebSocket

/-- **A connection over a socket yields the messages of its frames up to the first end, and answers
    the pings on the way**, whatever the peer sends. -/
theorem socketConnection_converses (credentials : Credentials) (timestamp : String)
    (channel : Channel) (host path key : String) (mask : MaskKey) (incoming : List UInt8) :
    let run := (socketConnection credentials timestamp channel host path key mask).run
      (.start incoming)
    ∃ written, run.2.written = Text.bytesOf (upgradeRequest host path key) ++ written ∧
      Converses (subscribeMessage channel.name (some (credentials, timestamp))) mask run.1 written
        (receiveUpgrade incoming) :=
  subscribe_converses host path key mask _ incoming

end LiveTrader.Gmo
