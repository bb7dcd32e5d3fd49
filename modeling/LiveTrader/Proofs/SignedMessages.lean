import LiveTrader.Gmo.Streams
import LiveTrader.Proofs.Payloads
import LiveTrader.Proofs.Requests

/-!
  LiveTrader.Proofs.SignedMessages

  What a signature is of.  The signed text is the time, the verb, the target and the body with
  nothing in between, yet it tells them apart: a time ends before the verb's first letter, and
  what follows begins in one of six ways, none of which begins another.  So a signature that is
  right for two messages is right for one content, or it shows a collision of the digest.
-/

namespace LiveTrader

/-! ## Times -/

namespace Text

theorem intText_inj {m n : Int} : intText m = intText n ↔ m = n := by
  have hdigits : ∀ k l : Nat, digits k = digits l ↔ k = l := fun k l => by
    simpa [padded] using @padded_inj 0 k l
  -- a sign is no digit, so numbers with and without one differ in their texts
  have hsign : ∀ k l : Nat, digits k ≠ '-' :: digits l := fun k l h => by
    have hdigit : ('-').isDigit = true := isDigit_of_mem_digits (h ▸ List.mem_cons_self)
    cases hdigit
  unfold intText
  split <;> split <;> grind

/-- A character of a time stamp. -/
def inTimestamp (c : Char) : Bool :=
  c == '-' || c.isDigit

/-- A time stamp ends where a character follows that is in none. -/
theorem takeWhile_inTimestamp (n : Int) {rest : List Char}
    (hrest : rest.head?.any inTimestamp = false) :
    (intText n ++ rest).takeWhile inTimestamp = intText n := by
  have hin : ∀ c ∈ intText n, inTimestamp c = true := fun c hc => by
    simpa [inTimestamp] using mem_intText hc
  have hout : rest.takeWhile inTimestamp = [] := by
    cases rest with
    | nil => rfl
    | cons c cs => exact List.takeWhile_cons_of_neg (by simpa using hrest)
  rw [List.takeWhile_append_of_pos hin, hout, List.append_nil]

theorem intText_append_inj {m n : Int} {cs ds : List Char} (hcs : cs.head?.any inTimestamp = false)
    (hds : ds.head?.any inTimestamp = false) (h : intText m ++ cs = intText n ++ ds) :
    m = n ∧ cs = ds := by
  have htime : intText m = intText n := by
    rw [← takeWhile_inTimestamp m hcs, h, takeWhile_inTimestamp n hds]
  rw [htime] at h
  exact ⟨intText_inj.mp htime, List.append_cancel_left h⟩

end Text

/-- Two different texts have one keyed digest. -/
def Signature.Collide (secret text text' : String) : Prop :=
  text ≠ text' ∧ hmacHex secret text = hmacHex secret text'

namespace Gmo

/-! ## Messages -/

/-- The verb, the target and the body of a call as they are signed. -/
def Adapter.Call.signedChars (c : Adapter.Call) : List Char :=
  c.method.name.toList ++ Request.targetChars c.path c.query ++ (c.body.getD "").toList

/-- What is signed after the time starts with a letter. -/
theorem Adapter.Call.head_signedChars (c : Adapter.Call) :
    c.signedChars.head?.any Text.inTimestamp = false := by
  have hverb : ∀ verb : HttpMethod, verb.name.toList ≠ [] ∧
      verb.name.toList.head?.any Text.inTimestamp = false := by
    intro verb
    cases verb <;> decide +kernel
  obtain ⟨hne, hhead⟩ := hverb c.method
  rw [signedChars, List.append_assoc, List.head?_append_of_ne_nil _ hne]
  exact hhead

/-- A message that is signed: a request, or a subscription to a stream. -/
inductive SignedMessage
  | request (operation : PrivateOperation) (millis : Int)
  | subscription (channel : Channel) (millis : Int)

namespace SignedMessage

/-- The time at which a message is signed. -/
def millis : SignedMessage → Int
  | request _ millis => millis
  | subscription _ millis => millis

/-- What is signed besides the time: a subscription is signed as a request for the path of the
    streams. -/
def call : SignedMessage → Adapter.Call
  | request operation _ => operation.call
  | subscription _ _ => ⟨.get, Signature.subscriptionPath, [], none⟩

/-- The text that is signed. -/
def text (m : SignedMessage) : String :=
  Signature.signedText (Signature.timestampText m.millis) m.call.method.name
    (String.ofList (Request.targetChars m.call.path m.call.query)) (m.call.body.getD "")

/-- The signature of a message. -/
def signature (m : SignedMessage) (secret : String) : String :=
  Signature.hmacHex secret m.text

theorem toList_text (m : SignedMessage) :
    m.text.toList = Text.intText m.millis ++ m.call.signedChars := by
  simp [text, Signature.signedText, Signature.timestampText, Adapter.Call.signedChars]

/-! ## Forms -/

/-- The forms that messages have.  Messages of one form differ in a text at the end. -/
inductive Form
  | balances
  | positions
  | fetch
  | place
  | cancel
  | subscription

/-- The call of a form with a text. -/
def Form.call (ending : String) : Form → Adapter.Call
  | .balances => ⟨.get, "/private/v1/account/assets", [], none⟩
  | .positions => ⟨.get, "/private/v1/openPositions", [("symbol", ending)], none⟩
  | .fetch => ⟨.get, "/private/v1/orders", [("orderId", ending)], none⟩
  | .place => ⟨.post, "/private/v1/order", [], some ending⟩
  | .cancel => ⟨.post, "/private/v1/cancelOrder", [], some ending⟩
  | .subscription => ⟨.get, "/ws", [], none⟩

/-- How the signed text of a form goes on after the time. -/
def Form.start (f : Form) : List Char :=
  (f.call "").signedChars

theorem exists_form (m : SignedMessage) :
    ∃ (f : Form) (ending : String), m.call = f.call ending := by
  cases m with
  | subscription => exact ⟨.subscription, "", rfl⟩
  | request operation =>
    cases operation with
    | balances => exact ⟨.balances, "", rfl⟩
    | positions symbol => exact ⟨.positions, symbol, rfl⟩
    | order operation =>
      cases operation with
      | place order => exact ⟨.place, (orderBody order).toText, rfl⟩
      | cancel orderId => exact ⟨.cancel, (cancelBody orderId).toText, rfl⟩
      | fetch orderId => exact ⟨.fetch, orderId, rfl⟩

namespace Form

variable {f f' : Form} {ending ending' : String}

theorem begins_signedChars (f : Form) (ending : String) :
    f.start <+: (f.call ending).signedChars := by
  cases f <;> simp [start, call, Adapter.Call.signedChars, Request.targetChars, Request.queryChars]

/-- No form starts as another one does and then goes on. -/
theorem eq_of_begins (h : f.start <+: f'.start) : f = f' := by
  -- thirty pairs of different forms, each of two literals
  cases f <;> cases f' <;> first | rfl | exact absurd h (by decide +kernel)

theorem call_eq_of_signedChars_eq
    (h : (f.call ending).signedChars = (f.call ending').signedChars) :
    f.call ending = f.call ending' := by
  cases f with
  | balances | subscription => rfl
  | positions | fetch | place | cancel =>
    have hending : ending = ending' := String.toList_inj.mp <| by
      simpa [call, Adapter.Call.signedChars, Request.targetChars, Request.queryChars] using h
    rw [hending]

/-- The verb, the target and the body of messages are told apart. -/
theorem signedChars_inj :
    (f.call ending).signedChars = (f'.call ending').signedChars ↔
      f.call ending = f'.call ending' := by
  refine ⟨fun h => ?_, congrArg _⟩
  have hstart : f'.start <+: (f.call ending).signedChars := h ▸ f'.begins_signedChars ending'
  -- both forms start what is signed, so one start begins the other
  have hform : f = f' := by
    rcases List.prefix_or_prefix_of_prefix (f.begins_signedChars ending) hstart with hle | hle
    · exact eq_of_begins hle
    · exact (eq_of_begins hle).symm
  subst hform
  exact call_eq_of_signedChars_eq h

end Form

/-- Messages have the same time, verb, path, query and body. -/
def SameContent (m m' : SignedMessage) : Prop :=
  m.millis = m'.millis ∧ m.call = m'.call

/-- What is signed tells messages apart. -/
theorem text_eq_iff {m m' : SignedMessage} : m.text = m'.text ↔ m.SameContent m' := by
  obtain ⟨f, ending, hcall⟩ := m.exists_form
  obtain ⟨f', ending', hcall'⟩ := m'.exists_form
  rw [← String.toList_inj, toList_text, toList_text, SameContent, hcall, hcall']
  constructor
  · intro h
    -- the time ends where the verb begins
    obtain ⟨htime, hrest⟩ := Text.intText_append_inj (Adapter.Call.head_signedChars _)
      (Adapter.Call.head_signedChars _) h
    exact ⟨htime, Form.signedChars_inj.mp hrest⟩
  · rintro ⟨htime, hcontent⟩
    rw [htime, hcontent]

/-! ## Signatures -/

/-- A request has the content of a message, the time at which that is signed, and a signature. -/
structure IsSent (m : SignedMessage) (r : Request) (signature : String) : Prop where
  content : m.call.IsOf r
  timestamp : r.headers.lookup "API-TIMESTAMP" = some (Signature.timestampText m.millis)
  signature : r.headers.lookup "API-SIGN" = some signature

/-- A command subscribes at the time at which a message is signed, with a signature. -/
structure IsCommanded (m : SignedMessage) (command : Json) (signature : String) : Prop where
  timestamp : command.get? "timestamp" = some (.str (Signature.timestampText m.millis))
  signature : command.get? "signature" = some (.str signature)

theorem isSent_sign (op : PrivateOperation) (credentials : Credentials) (millis : Int) :
    (request op millis).IsSent (op.call.sign credentials (Signature.timestampText millis))
      ((request op millis).signature credentials.apiSecret) :=
  ⟨op.call.isOf_sign _ _, rfl, rfl⟩

theorem isCommanded_subscribeMessage (channel : Channel) (credentials : Credentials)
    (millis : Int) :
    (subscription channel millis).IsCommanded
      (subscribeMessage channel.name (some (credentials, Signature.timestampText millis)))
      ((subscription channel millis).signature credentials.apiSecret) := by
  -- the target is the path alone, and there is no body
  have htext : (subscription channel millis).text =
      Signature.signedText (Signature.timestampText millis) "GET" Signature.subscriptionPath "" :=
    congrArg (Signature.signedText _ "GET" · "") String.ofList_toList
  refine ⟨rfl, ?_⟩
  rw [signature, htext]
  rfl

/-- A signature is valid for a message if it is the message's own. -/
theorem IsSent.isValid_iff {m : SignedMessage} {r : Request} {signature : String}
    (h : m.IsSent r signature) (secret : String) :
    Signature.isValid secret r = true ↔ signature = m.signature secret := by
  have htext : r.pathAndQuery = String.ofList (Request.targetChars m.call.path m.call.query) := by
    rw [Request.pathAndQuery, h.content.path, h.content.query]
  rw [Signature.isValid, h.timestamp, h.signature, h.content.method, h.content.body, htext]
  exact beq_iff_eq

/-- The signature of a message shows what the message is. -/
structure IsToldFrom (m m' : SignedMessage) : Prop where
  texts : m.text = m'.text ↔ m.SameContent m'
  signatures : ∀ secret, m.signature secret = m'.signature secret →
    m.SameContent m' ∨ Signature.Collide secret m.text m'.text
  /-- A request with the content and the time of `m'` is not valid with the signature of `m`. -/
  requests : ∀ secret r, m'.IsSent r (m.signature secret) → Signature.isValid secret r = true →
    m.SameContent m' ∨ Signature.Collide secret m.text m'.text

theorem isToldFrom (m m' : SignedMessage) : m.IsToldFrom m' := by
  have hsignatures : ∀ secret, m.signature secret = m'.signature secret →
      m.SameContent m' ∨ Signature.Collide secret m.text m'.text := fun secret hsame => by
    by_cases htext : m.text = m'.text
    · exact .inl (text_eq_iff.mp htext)
    · exact .inr ⟨htext, hsame⟩
  exact ⟨text_eq_iff, hsignatures, fun secret r hsent hvalid =>
    hsignatures secret ((hsent.isValid_iff secret).mp hvalid)⟩

/-- **A signature says what was signed.**  What an adapter signs are messages: the requests of its
    private operations and its subscriptions.  Messages with the same signed text have the same
    time, verb, path, query and body, so that a signature is not valid for another message unless
    it shows a collision. -/
theorem signatures_unambiguous :
    (∀ (σ : Type) (a : Adapter (StateM σ)) (op : PrivateOperation) (s : σ),
      ∀ r ∈ sent ((a.traced.perform op).run ⟨s, []⟩).2.trace, ∃ credentials millis,
        a.credentials = some credentials ∧
          (request op millis).IsSent r ((request op millis).signature credentials.apiSecret)) ∧
    (∀ (channel : Channel) (credentials : Credentials) (millis : Int),
      (subscription channel millis).IsCommanded
        (subscribeMessage channel.name (some (credentials, Signature.timestampText millis)))
        ((subscription channel millis).signature credentials.apiSecret)) ∧
    ∀ m m' : SignedMessage, m.IsToldFrom m' := by
  refine ⟨fun σ a op s r hr => ?_, isCommanded_subscribeMessage, isToldFrom⟩
  obtain ⟨outcome, hcourse, -⟩ := (a.perform_ends op s).run
  obtain ⟨credentials, millis, hcredentials, rfl⟩ := hcourse.exists_sign hr
  exact ⟨credentials, millis, hcredentials, isSent_sign op credentials millis⟩

end SignedMessage

end Gmo

end LiveTrader
