import LiveTrader.Gmo.OrderBody
import LiveTrader.Proofs.JsonText
import LiveTrader.Proofs.Payloads
import LiveTrader.Proofs.PlainDecimals

/-!
  LiveTrader.Proofs.OrderTerms

  What the body of an order says.  The terms of an order are what it asks an exchange for, with
  amounts as numbers.  They are read back from the body's text, and nothing else is in it: orders
  have the same body if and only if they have the same terms.
-/

namespace LiveTrader

/-- A field that may be missing is read back if it is there where it was written, and nothing is
    written as `null`. -/
theorem Json.optional?_of_get? {α β : Type} {v : Json} {key : String} {encode : α → Json}
    {decode? : Json → Option β} {f : α → β} {a : Option α} (h : v.get? key = a.map encode)
    (hdecode : ∀ a, decode? (encode a) = some (f a)) (hnull : ∀ a, encode a ≠ null) :
    v.optional? decode? key = some (a.map f) := by
  cases a with
  | none =>
    rw [optional?, h]
    rfl
  | some a =>
    rw [optional?_of_some h (hnull a), hdecode]
    rfl

namespace Gmo

/-! ## Terms -/

/-- What an order asks for.  Amounts are numbers, whatever the scale they are given at. -/
structure OrderTerms where
  symbol : String
  side : OrderSide
  orderType : OrderType
  timeInForce : Option String
  reduceOnly : Option Bool
  qty : ℚ
  price : Option ℚ
  deriving DecidableEq

namespace OrderTerms

/-- The terms of an order. -/
def of (o : Order) : OrderTerms where
  symbol := o.symbol.text
  side := o.side
  orderType := o.orderType
  timeInForce := o.timeInForce
  reduceOnly := o.reduceOnly
  qty := o.qty.value.value
  price := o.price.map fun p => p.value.value

/-- The side that a word of the exchange names. -/
def side? (v : Json) : Option OrderSide :=
  v.asText?.bind fun word =>
    if word = "BUY" then some .buy
    else if word = "SELL" then some .sell
    else none

/-- The type that a word of the exchange names. -/
def orderType? (v : Json) : Option OrderType :=
  v.asText?.bind fun word =>
    if word = "MARKET" then some .market
    else if word = "LIMIT" then some .limit
    else none

/-- The number that a text is. -/
def amount? (v : Json) : Option ℚ :=
  (v.asText?.bind Decimal.ofText?).map Decimal.value

/-- The terms that a body says. -/
def ofBody? (body : Json) : Option OrderTerms := do
  return {
    symbol := ← body.required? Json.asText? "symbol"
    side := ← body.required? side? "side"
    orderType := ← body.required? orderType? "executionType"
    timeInForce := ← body.optional? Json.asText? "timeInForce"
    reduceOnly := ← body.optional? Json.asBool? "reduceOnly"
    qty := ← body.required? amount? "size"
    price := ← body.optional? amount? "price" }

/-- The word for a side is read back. -/
theorem side?_wireName (s : OrderSide) : side? (.str s.wireName) = some s := by
  cases s <;> rfl

theorem orderType?_executionType (t : OrderType) :
    orderType? (.str (executionType t)) = some t := by
  cases t <;> rfl

/-- An amount is read back as the number that it is. -/
theorem amount?_normalized (d : Decimal) :
    amount? (.str d.normalized.toText) = some d.value := by
  have hread : (Json.str d.normalized.toText).asText?.bind Decimal.ofText? = some d.normalized :=
    Decimal.ofText?_toText d.normalized
  rw [amount?, hread, Option.map_some, Decimal.value_normalized]

end OrderTerms

/-! ## Bodies -/

/-- The members of the body of an order. -/
structure HasMembers (body : Json) (o : Order) : Prop where
  symbol : body.get? "symbol" = some (.str o.symbol.text)
  side : body.get? "side" = some (.str o.side.wireName)
  orderType : body.get? "executionType" = some (.str (executionType o.orderType))
  size : body.get? "size" = some (.str o.qty.value.normalized.toText)
  price : body.get? "price" = o.price.map fun p => .str p.value.normalized.toText
  timeInForce : body.get? "timeInForce" = o.timeInForce.map .str
  reduceOnly : body.get? "reduceOnly" = o.reduceOnly.map .bool

theorem hasMembers_orderBody (o : Order) : HasMembers (orderBody o) o := by
  have hget : ∀ key, (orderBody o).get? key =
      (commonMembers o ++ specificMembers o).reverse.lookup key := Json.get?_object _
  obtain ⟨exchange, product, symbol, side, orderType, timeInForce, qty, price, id⟩ := o
  -- a member that an order does not have shifts those behind it
  cases price <;> cases timeInForce <;> cases product <;> constructor <;> exact (hget _).trans rfl

/-- The terms of an order are read back from its body. -/
theorem HasMembers.terms {body : Json} {o : Order} (h : HasMembers body o) :
    OrderTerms.ofBody? body = some (.of o) := by
  unfold OrderTerms.ofBody? Json.required?
  rw [h.symbol, h.side, h.orderType, h.size,
    Json.optional?_of_get? (f := id) h.timeInForce (fun _ => rfl) nofun,
    Json.optional?_of_get? (f := id) h.reduceOnly (fun _ => rfl) nofun,
    Json.optional?_of_get? h.price (fun p => OrderTerms.amount?_normalized p.value) nofun]
  simp [OrderTerms.side?_wireName, OrderTerms.orderType?_executionType,
    OrderTerms.amount?_normalized, OrderTerms.of, Json.asText?]

theorem readable_orderBody (o : Order) : Json.Readable Json.depthLimit (orderBody o) := by
  refine .object fun m hm => ?_
  -- every member is a text or a flag
  simp only [commonMembers, specificMembers, List.mem_append, List.mem_cons, List.not_mem_nil,
    or_false, Option.mem_toList, Option.map_eq_some_iff] at hm
  rcases hm with (rfl | rfl | rfl | rfl) | (⟨p, -, rfl⟩ | ⟨word, -, rfl⟩) | ⟨flag, -, rfl⟩
  case inr.inr => exact .bool flag
  all_goals exact .str _

/-- The body depends on the terms alone. -/
theorem orderBody_eq_of_terms {o o' : Order} (h : OrderTerms.of o = .of o') :
    orderBody o = orderBody o' := by
  simp only [OrderTerms.of, OrderTerms.mk.injEq] at h
  obtain ⟨hsymbol, hside, htype, htif, hreduce, hqty, hprice⟩ := h
  -- amounts are written normalized, so that equal values are written alike
  have hsize := Decimal.normalized_eq_iff.mpr hqty
  have hprices : (o.price.map fun p => ("price", Json.str p.value.normalized.toText)) =
      o'.price.map fun p => ("price", Json.str p.value.normalized.toText) := by
    cases hp : o.price with
    | none =>
      rw [hp] at hprice
      rw [Option.map_eq_none_iff.mp hprice.symm]
    | some p =>
      rw [hp] at hprice
      obtain ⟨p', hp', hvalue⟩ := Option.map_eq_some_iff.mp hprice.symm
      rw [hp', Option.map_some, Option.map_some, Decimal.normalized_eq_iff.mpr hvalue]
  unfold orderBody commonMembers specificMembers
  rw [hsymbol, hside, htype, hsize, hprices, htif, hreduce]

/-- What a body says of an order. -/
structure Says (body : Json) (o : Order) : Prop where
  terms : OrderTerms.ofBody? body = some (.of o)
  size : ∃ text, body.get? "size" = some (.str text) ∧ Decimal.IsPlain text o.qty.value.value
  /-- There is a price if the order has one. -/
  price_iff : (body.get? "price").isSome = true ↔ o.price.isSome = true
  price : ∀ p, o.price = some p →
    ∃ text, body.get? "price" = some (.str text) ∧ Decimal.IsPlain text p.value.value
  timeInForce_iff : (body.get? "timeInForce").isSome = true ↔ o.timeInForce.isSome = true
  /-- Only leveraged orders have the flag. -/
  reduceOnly_iff : (body.get? "reduceOnly").isSome = true ↔ o.productType = .leverage
  reduceOnly : ∀ flag, o.product = .leverage flag → body.get? "reduceOnly" = some (.bool flag)

theorem HasMembers.meaning {body : Json} {o : Order} (h : HasMembers body o) : Says body o where
  terms := h.terms
  size := ⟨_, h.size, o.qty.value.isPlain_normalized⟩
  price_iff := by rw [h.price, Option.isSome_map]
  price p hp := ⟨_, by rw [h.price, hp]; rfl, p.value.isPlain_normalized⟩
  timeInForce_iff := by rw [h.timeInForce, Option.isSome_map]
  reduceOnly_iff := by
    rw [h.reduceOnly, Option.isSome_map]
    unfold Order.reduceOnly Order.productType
    cases o.product <;> simp [OrderProduct.reduceOnly, OrderProduct.productType]
  reduceOnly flag hflag := by
    rw [h.reduceOnly, Order.reduceOnly, hflag]
    rfl

/-- **The body of an order says its terms and nothing else.**  They are read back from the text of
    the body, in which amounts are in plain notation, and orders have the same text if and only if
    they have the same terms. -/
theorem orderBody_tells_terms (o : Order) :
    (∃ body, Json.ofText? (orderBody o).toText = some body ∧ Says body o) ∧
      ∀ o' : Order, (orderBody o').toText = (orderBody o).toText ↔
        OrderTerms.of o' = OrderTerms.of o := by
  refine ⟨⟨orderBody o, (readable_orderBody o).ofText?_toText, (hasMembers_orderBody o).meaning⟩,
    fun o' => ?_⟩
  rw [(readable_orderBody o').toText_inj (readable_orderBody o)]
  refine ⟨fun h => ?_, orderBody_eq_of_terms⟩
  have hread := (hasMembers_orderBody o').terms
  rw [h, (hasMembers_orderBody o).terms] at hread
  exact (Option.some.inj hread).symm

end Gmo

end LiveTrader
