import Mathlib.Data.List.DropRight
import LiveTrader.Gmo.Events
import LiveTrader.Proofs.JsonText
import LiveTrader.Proofs.Payloads
import LiveTrader.Proofs.WrittenTimes

/-!
  LiveTrader.Proofs.StreamEvents

  Events of the private streams that were read once.  An event is written with names and words of
  its own, which the reader of the exchange's messages knows as well, so an event is read back from
  its record as it was.
-/

namespace LiveTrader

/-! ## Words in lower case -/

namespace Text

theorem isBlank_of_toNat {c : Char} (hlow : 65 ≤ c.toNat) (hhigh : c.toNat ≤ 122) :
    isBlank c = false := by
  rw [← Bool.not_eq_true]
  simp only [isBlank, Bool.or_eq_true, Bool.and_eq_true, decide_eq_true_eq, beq_iff_eq]
  omega

/-- A letter is no blank in either case, and all else stays as it is. -/
theorem isBlank_toLower (c : Char) : isBlank c.toLower = isBlank c := by
  have hsmall := toNat_toLower c
  split at hsmall
  case isTrue =>
    -- neither a capital nor its small letter is a blank
    rw [isBlank_of_toNat (c := c.toLower) (by omega) (by omega),
      isBlank_of_toNat (by omega) (by omega)]
  case isFalse => rw [Char.toNat_inj.mp hsmall]

theorem trimChars_map_toLower (cs : List Char) :
    trimChars (cs.map Char.toLower) = (trimChars cs).map Char.toLower := by
  have hblank : isBlank ∘ Char.toLower = isBlank := funext isBlank_toLower
  unfold trimChars
  rw [List.dropWhile_map, hblank, ← List.map_reverse, List.dropWhile_map, hblank, List.map_reverse]

/-- What is trimmed once is trimmed. -/
theorem trimChars_trimChars (cs : List Char) : trimChars (trimChars cs) = trimChars cs := by
  have hbegins : trimChars cs <+: cs.dropWhile isBlank := List.rdropWhile_prefix _ _
  -- what is kept begins with the first character that is not blank
  have hleft : (trimChars cs).dropWhile isBlank = trimChars cs := by
    cases hkept : trimChars cs with
    | nil => rfl
    | cons c rest =>
      rw [hkept] at hbegins
      have hhead := List.head_dropWhile_not isBlank (hbegins.ne_nil (List.cons_ne_nil c rest))
      rw [← hbegins.head (List.cons_ne_nil c rest), List.head_cons] at hhead
      rw [List.dropWhile_cons_of_neg (by simp [hhead])]
  calc trimChars (trimChars cs)
      = ((trimChars cs).dropWhile isBlank).rdropWhile isBlank := rfl
    _ = ((cs.dropWhile isBlank).rdropWhile isBlank).rdropWhile isBlank := by rw [hleft]; rfl
    _ = trimChars cs := List.rdropWhile_idempotent _ _

/-- A word that was trimmed is still trimmed in small letters. -/
theorem trim_asciiLower_trim (s : String) :
    trim (asciiLower (trim s)) = asciiLower (trim s) := by
  unfold trim asciiLower
  simp only [String.toList_ofList]
  rw [trimChars_map_toLower, trimChars_trimChars]

end Text

namespace Gmo

/-- The case of a word and the blanks around it do not tell statuses apart. -/
theorem statusWord_asciiLower_trim (raw : String) :
    statusWord (Text.asciiLower (Text.trim raw)) = statusWord raw := by
  unfold statusWord
  rw [Text.trim_asciiLower_trim, Text.asciiUpper_asciiLower, Text.asciiLower_asciiLower]

/-- **A word that stands for a status stands for itself from then on.** -/
theorem statusWord_statusWord (raw : String) : statusWord (statusWord raw) = statusWord raw := by
  have hword : statusWord raw ∈ [OrderStatus.accepted, OrderStatus.active, OrderStatus.cancelled,
      OrderStatus.filled, OrderStatus.expired] ∨
        statusWord raw = Text.asciiLower (Text.trim raw) := by
    unfold statusWord
    dsimp only
    repeat' split
    all_goals simp
  rcases hword with hknown | hkept
  · have hfixed : ∀ word ∈ [OrderStatus.accepted, OrderStatus.active, OrderStatus.cancelled,
        OrderStatus.filled, OrderStatus.expired], statusWord word = word := by decide +kernel
    exact hfixed _ hknown
  · calc statusWord (statusWord raw)
        = statusWord (Text.asciiLower (Text.trim raw)) := by rw [hkept]
      _ = statusWord raw := statusWord_asciiLower_trim raw

/-! ## Fields of a record -/

/-- A text is read as it is, unless it is empty. -/
theorem scalarText?_str_iff {s t : String} : scalarText? (.str s) = some t ↔ s ≠ "" ∧ s = t := by
  simp [scalarText?]

/-- A text that may be missing is read back, unless it is empty. -/
theorem scalarText?_ofOption_iff {a : Option String} :
    scalarText? (.ofOption .str a) = a ↔ a ≠ some "" := by
  cases a <;> simp [Json.ofOption, scalarText?]

/-- A word that may be missing is read back, unless it is empty or has capitals. -/
theorem lowerText_ofOption_iff {a : Option String} :
    (scalarText? (.ofOption .str a)).map Text.asciiLower = a ↔
      a ≠ some "" ∧ a.map Text.asciiLower = a := by
  by_cases h : a = some ""
  · simp [h, Json.ofOption, scalarText?]
  · rw [scalarText?_ofOption_iff.mpr h]
    exact (and_iff_right h).symm

/-- A decimal is read from a record with the digits it was written with. -/
theorem decimal_ofOption (a : Option Decimal) :
    (scalarText? (.ofOption Decimal.toJson a)).bind Decimal.ofText? = a := by
  cases a with
  | none => rfl
  | some a =>
    have hread := Decimal.ofText?_toText a
    have hne : a.toText ≠ "" := by
      intro hempty
      rw [hempty] at hread
      cases hread
    rw [Json.ofOption, Decimal.toJson, scalarText?, if_neg hne]
    exact hread

/-- A time is read from a record if its year has four digits. -/
theorem time_ofOption_iff {a : Option Instant} :
    (scalarText? (.ofOption Instant.toJson a)).bind timeOfText? = a ↔
      ∀ t, a = some t → t.IsCivil := by
  cases a with
  | none => simp [Json.ofOption, scalarText?]
  | some t =>
    have hne : t.toRfc3339 ≠ "" := by
      rw [Instant.toRfc3339, Ne, ← String.toList_inj, String.toList_ofList]
      exact List.append_ne_nil_of_right_ne_nil _ (List.cons_ne_nil 'Z' [])
    rw [Json.ofOption, Instant.toJson, scalarText?, if_neg hne, Option.bind_some,
      timeOfText?_toRfc3339]
    simp

/-! ## Events -/

end Gmo

open Gmo

/-- An update as it is read from a message: identified and with a status, words spelled as the
    reader spells them, and a time that can be written with a year of four digits. -/
structure OrderEvent.IsNormal (e : OrderEvent) : Prop where
  orderId : e.orderId ≠ ""
  status : e.status ≠ ""
  statusWord : statusWord e.status = e.status
  symbol : e.symbol ≠ some ""
  side : e.side ≠ some ""
  sideLower : e.side.map Text.asciiLower = e.side
  timestamp : ∀ t, e.timestamp = some t → t.IsCivil

structure AccountEvent.IsNormal (e : AccountEvent) : Prop where
  eventType : e.eventType ≠ ""
  eventTypeLower : Text.asciiLower e.eventType = e.eventType
  asset : e.asset ≠ some ""
  timestamp : ∀ t, e.timestamp = some t → t.IsCivil

/-! ## Reading a record as a message -/

namespace Gmo

section Fields

variable {fields : List (String × Json)} (absent : List String) {name : String} {field : Json}

/-- A record that has only the last of a field's names is read by that name. -/
theorem findSome?_object {α : Type} (read : Option Json → Option α) (hnone : read none = none)
    (habsent : ∀ other ∈ absent, fields.reverse.lookup other = none)
    (h : fields.reverse.lookup name = some field) :
    (absent ++ [name]).findSome? (fun name => read ((Json.object fields).get? name)) =
      read (some field) := by
  simp only [Json.get?_object]
  rw [List.findSome?_append, List.findSome?_singleton, h,
    List.findSome?_eq_none_iff.mpr fun other hother => by rw [habsent other hother, hnone],
    Option.none_or]

/-- A text is found under the last of its names if the others are not there. -/
theorem textField?_object (habsent : ∀ other ∈ absent, fields.reverse.lookup other = none)
    (h : fields.reverse.lookup name = some field) :
    textField? (.object fields) (absent ++ [name]) = scalarText? field :=
  findSome?_object absent (·.bind scalarText?) rfl habsent h

theorem decimalField?_object (habsent : ∀ other ∈ absent, fields.reverse.lookup other = none)
    (h : fields.reverse.lookup name = some field) :
    decimalField? (.object fields) (absent ++ [name]) =
      (scalarText? field).bind Decimal.ofText? :=
  findSome?_object absent (fun field => (field.bind scalarText?).bind Decimal.ofText?) rfl habsent h

theorem timeField?_object (habsent : ∀ other ∈ absent, fields.reverse.lookup other = none)
    (h : fields.reverse.lookup name = some field) :
    timeField? (.object fields) (absent ++ [name]) = (scalarText? field).bind timeOfText? :=
  findSome?_object absent (fun field => (field.bind scalarText?).bind timeOfText?) rfl habsent h

end Fields

/-- The exchange's own names are not among those of an order's record. -/
theorem orderEvent?_toJson (productType : ProductType) (e : OrderEvent) :
    orderEvent? productType e.toJson =
      (scalarText? (.str e.orderId)).bind fun orderId =>
        (scalarText? (.str e.status)).bind fun status => some {
          orderId := orderId
          status := statusWord status
          symbol := scalarText? (.ofOption .str e.symbol)
          side := (scalarText? (.ofOption .str e.side)).map Text.asciiLower
          qty := (scalarText? (.ofOption Decimal.toJson e.qty)).bind Decimal.ofText?
          productType := productType
          timestamp := (scalarText? (.ofOption Instant.toJson e.timestamp)).bind timeOfText? } := by
  have horderId : textField? e.toJson ["orderId", "order_id"] = scalarText? (.str e.orderId) :=
    textField?_object ["orderId"] (by simp [List.lookup_cons]) rfl
  have hstatus : textField? e.toJson ["orderStatus", "status"] = scalarText? (.str e.status) :=
    textField?_object ["orderStatus"] (by simp [List.lookup_cons]) rfl
  have hsymbol : textField? e.toJson ["symbol"] = scalarText? (.ofOption .str e.symbol) :=
    textField?_object [] nofun rfl
  have hside : textField? e.toJson ["side"] = scalarText? (.ofOption .str e.side) :=
    textField?_object [] nofun rfl
  have hqty : decimalField? e.toJson ["size", "orderSize", "qty"] =
      (scalarText? (.ofOption Decimal.toJson e.qty)).bind Decimal.ofText? :=
    decimalField?_object ["size", "orderSize"] (by simp [List.lookup_cons]) rfl
  have htimestamp : timeField? e.toJson ["orderTimestamp", "timestamp"] =
      (scalarText? (.ofOption Instant.toJson e.timestamp)).bind timeOfText? :=
    timeField?_object ["orderTimestamp"] (by simp [List.lookup_cons]) rfl
  rw [orderEvent?, horderId, hstatus, hsymbol, hside, hqty, htimestamp]
  rfl

/-- What is read of the record of an account event. -/
theorem accountEvent?_toJson (productType : ProductType) (e : AccountEvent) :
    accountEvent? productType e.toJson =
      (scalarText? (.str e.eventType)).bind fun eventType => some {
        eventType := Text.asciiLower eventType
        asset := scalarText? (.ofOption .str e.asset)
        balance := (scalarText? (.ofOption Decimal.toJson e.balance)).bind Decimal.ofText?
        available := (scalarText? (.ofOption Decimal.toJson e.available)).bind Decimal.ofText?
        productType := productType
        timestamp := (scalarText? (.ofOption Instant.toJson e.timestamp)).bind timeOfText? } := by
  have heventType : textField? e.toJson ["msgType", "event_type"] =
      scalarText? (.str e.eventType) :=
    textField?_object ["msgType"] (by simp [List.lookup_cons]) rfl
  have hasset : textField? e.toJson ["symbol", "asset"] = scalarText? (.ofOption .str e.asset) :=
    textField?_object ["symbol"] (by simp [List.lookup_cons]) rfl
  have hbalance : decimalField? e.toJson ["sumPositionQuantity", "balance"] =
      (scalarText? (.ofOption Decimal.toJson e.balance)).bind Decimal.ofText? :=
    decimalField?_object ["sumPositionQuantity"] (by simp [List.lookup_cons]) rfl
  have havailable : decimalField? e.toJson ["available"] =
      (scalarText? (.ofOption Decimal.toJson e.available)).bind Decimal.ofText? :=
    decimalField?_object [] nofun rfl
  have htimestamp : timeField? e.toJson ["timestamp"] =
      (scalarText? (.ofOption Instant.toJson e.timestamp)).bind timeOfText? :=
    timeField?_object [] nofun rfl
  rw [accountEvent?, heventType, hasset, hbalance, havailable, htimestamp]
  rfl

/-- An update of an order is read back from its record just if it is spelled as the reader
    spells it. -/
theorem orderEvent?_toJson_iff {e : OrderEvent} :
    orderEvent? e.productType e.toJson = some e ↔ e.IsNormal := by
  rw [orderEvent?_toJson]
  constructor
  · intro h
    -- each field that is read back equal says of its own value that it is in normal form
    obtain ⟨orderId, horderId, h⟩ := Option.bind_eq_some_iff.mp h
    obtain ⟨status, hstatus, h⟩ := Option.bind_eq_some_iff.mp h
    obtain ⟨horder, rfl⟩ := scalarText?_str_iff.mp horderId
    obtain ⟨hne, rfl⟩ := scalarText?_str_iff.mp hstatus
    have hread := Option.some.inj h
    have hword := congrArg OrderEvent.status hread
    have hsymbol := congrArg OrderEvent.symbol hread
    have hside := congrArg OrderEvent.side hread
    have htime := congrArg OrderEvent.timestamp hread
    dsimp only at hword hsymbol hside htime
    obtain ⟨hside, hlower⟩ := lowerText_ofOption_iff.mp hside
    exact ⟨horder, hne, hword, scalarText?_ofOption_iff.mp hsymbol, hside, hlower,
      time_ofOption_iff.mp htime⟩
  · intro h
    rw [scalarText?_str_iff.mpr ⟨h.orderId, rfl⟩, scalarText?_str_iff.mpr ⟨h.status, rfl⟩,
      Option.bind_some, Option.bind_some, h.statusWord, scalarText?_ofOption_iff.mpr h.symbol,
      lowerText_ofOption_iff.mpr ⟨h.side, h.sideLower⟩, decimal_ofOption,
      time_ofOption_iff.mpr h.timestamp]

/-- An account event is read back if and only if it is normal. -/
theorem accountEvent?_toJson_iff {e : AccountEvent} :
    accountEvent? e.productType e.toJson = some e ↔ e.IsNormal := by
  rw [accountEvent?_toJson]
  constructor
  · intro h
    obtain ⟨eventType, heventType, h⟩ := Option.bind_eq_some_iff.mp h
    obtain ⟨hne, rfl⟩ := scalarText?_str_iff.mp heventType
    have hread := Option.some.inj h
    have hlower := congrArg AccountEvent.eventType hread
    have hasset := congrArg AccountEvent.asset hread
    have htime := congrArg AccountEvent.timestamp hread
    dsimp only at hlower hasset htime
    exact ⟨hne, hlower, scalarText?_ofOption_iff.mp hasset, time_ofOption_iff.mp htime⟩
  · intro h
    rw [scalarText?_str_iff.mpr ⟨h.eventType, rfl⟩, Option.bind_some, h.eventTypeLower,
      scalarText?_ofOption_iff.mpr h.asset, decimal_ofOption, decimal_ofOption,
      time_ofOption_iff.mpr h.timestamp]

end Gmo

/-! ## Records as texts -/

/-- The record of an order event is read back from its text. -/
theorem OrderEvent.readable_toJson (e : OrderEvent) : Json.Readable Json.depthLimit e.toJson := by
  refine .object ?_
  simp only [List.forall_mem_cons]
  exact ⟨.str _, .str _, .ofOption .str _, .ofOption .str _, .ofOption (fun _ => .str _) _, .str _,
    .ofOption (fun _ => .str _) _, nofun⟩

theorem AccountEvent.readable_toJson (e : AccountEvent) :
    Json.Readable Json.depthLimit e.toJson := by
  refine .object ?_
  simp only [List.forall_mem_cons]
  exact ⟨.str _, .ofOption .str _, .ofOption (fun _ => .str _) _, .ofOption (fun _ => .str _) _,
    .str _, .ofOption (fun _ => .str _) _, nofun⟩

/-- **Events are read back from their records.**  A record is read back from its text, and as a
    message it is the event it was made of just if that is spelled as the reader spells it; to
    spell a status once more does not change it. -/
theorem readBack_events :
    (∀ e : OrderEvent, Json.ofText? e.toJson.toText = some e.toJson ∧
      (orderEvent? e.productType e.toJson = some e ↔ e.IsNormal)) ∧
    (∀ e : AccountEvent, Json.ofText? e.toJson.toText = some e.toJson ∧
      (accountEvent? e.productType e.toJson = some e ↔ e.IsNormal)) ∧
    ∀ raw, statusWord (statusWord raw) = statusWord raw :=
  ⟨fun e => ⟨e.readable_toJson.ofText?_toText, orderEvent?_toJson_iff⟩,
    fun e => ⟨e.readable_toJson.ofText?_toText, accountEvent?_toJson_iff⟩,
    statusWord_statusWord⟩

example : orderEvent? .spot (.object [("order_id", .str "7"), ("status", .str " Executed "),
    ("side", .str "BUY"), ("orderTimestamp", .int 0)]) =
      some ⟨"7", "filled", none, some "buy", none, .spot, some ⟨0, 0⟩⟩ := by
  decide +kernel

end LiveTrader
