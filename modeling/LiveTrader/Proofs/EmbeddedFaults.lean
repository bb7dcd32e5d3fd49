import Mathlib.Data.List.Nodup
import LiveTrader.Proofs.JsonText
import LiveTrader.Proofs.StoredValues

/-!
  LiveTrader.Proofs.EmbeddedFaults

  Failures that states of orders carry.  A failure is written by hand into a state's payload, and by
  the rules for records where it is stored by itself; both ways to write it agree, and both ways to
  read it give it back, also from the text of the state and whatever the order of the members there.
-/

namespace LiveTrader

/-! ## Records in texts -/

namespace Json

section

variable {room : Nat} {ms : List (String × Json)} {ws : List (Option String × Written)}

theorem MembersReadAs.key_isSome (h : MembersReadAs room ms ws) :
    (ws.any fun (k, _) => k.isNone) = false := by
  induction h with
  | nil => rfl
  | cons hm _ ih =>
    obtain ⟨k, hv⟩ := hm
    exact ih

theorem MembersReadAs.filter_eq_nil (h : MembersReadAs room ms ws) {key : String}
    (hkey : key ∉ ms.map Prod.fst) : ws.filter (fun (k, _) => k == some key) = [] := by
  induction h with
  | nil => rfl
  | cons hm _ ih =>
    obtain ⟨k, hv⟩ := hm
    rw [List.map_cons, List.mem_cons, not_or] at hkey
    rw [List.filter_cons_of_neg (by simpa using Ne.symm hkey.1)]
    exact ih hkey.2

/-- Of members with different keys each is found under its own. -/
theorem MembersReadAs.exists_filter (h : MembersReadAs room ms ws)
    (hkeys : (ms.map Prod.fst).Nodup) {m : String × Json} (hm : m ∈ ms) :
    ∃ w, ws.filter (fun (k, _) => k == some m.1) = [(some m.1, w)] ∧
      w.value? room = some m.2 := by
  induction h with
  | nil => cases hm
  | cons hfirst hrest ih =>
    obtain ⟨k, hv⟩ := hfirst
    obtain ⟨hkey, hkeys⟩ := List.nodup_cons.mp hkeys
    rcases List.mem_cons.mp hm with rfl | hlater
    · refine ⟨_, ?_, hv.value⟩
      rw [List.filter_cons_of_pos (by simp), MembersReadAs.filter_eq_nil hrest hkey]
    · have hne : k ≠ m.1 := by
        rintro rfl
        exact hkey (List.mem_map.mpr ⟨m, hlater, rfl⟩)
      rw [List.filter_cons_of_neg (by simpa using hne)]
      exact ih hkeys hlater

/-- The members of a record are read in the order in which it knows them. -/
theorem memberValues?_anything (h : ∀ m ∈ ms, ∃ w, ws.filter (fun (k, _) => k == some m.1) =
      [(some m.1, w)] ∧ w.value? room = some m.2) :
    Shape.memberValues? (ms.map fun m => (m.1, .anything)) room ws = some ms := by
  induction ms with
  | nil => rw [List.map_nil, Shape.memberValues?]
  | cons m ms ih =>
    obtain ⟨⟨w, hfound, hvalue⟩, hrest⟩ := List.forall_mem_cons.mp h
    rw [List.map_cons, Shape.memberValues?, ih hrest]
    simp [hfound, Shape.value?, hvalue]

end

/-- **A record is read from its text** if each of its members can be, in whatever order they are
    written. -/
theorem ofNames_ofChars?_obj {room : Nat} (hroom : room + 1 = depthLimit) (required : Nat)
    {ms written : List (String × Json)} (hperm : written.Perm ms)
    (hkeys : (ms.map Prod.fst).Nodup) (h : ∀ m ∈ ms, Readable room m.2) :
    (Shape.ofNames required (ms.map Prod.fst)).ofChars? (obj written).chars =
      some (object ms) := by
  obtain ⟨ws, hws⟩ := exists_membersReadAs fun m hm => (h m (hperm.mem_iff.mp hm)).exists_readsAs
  have hkeys' := (hperm.map Prod.fst).nodup_iff.mpr hkeys
  have hmembers := memberValues?_anything fun m hm =>
    hws.exists_filter hkeys' (hperm.mem_iff.mpr hm)
  rw [Shape.ofChars?, (takes_obj hws (awaitsValue_value [])).ofText?, Option.bind_some, ← hroom,
    Shape.ofNames, List.map_map, Shape.value?, hws.key_isSome, if_neg Bool.false_ne_true]
  exact congrArg (Option.map object) hmembers

end Json

/-! ## Records of failures -/

/-- A name in camel case as a word: in lower case, with an underscore before every capital but the
    first letter. -/
def snakeCase (name : String) : String :=
  match name.toList with
  | [] => ""
  | first :: rest => String.ofList (first.toLower ::
      rest.flatMap fun c => if c.isUpper then ['_', c.toLower] else [c.toLower])

/-- The name that a class is declared under. -/
def FaultClass.declared : FaultClass → String
  | auth => "Auth"
  | rateLimit => "RateLimit"
  | validation => "Validation"
  | network => "Network"
  | exchange => "Exchange"

theorem FaultClass.name_eq_snakeCase (c : FaultClass) : c.name = snakeCase c.declared := by
  cases c <;> decide +kernel

/-- A failure by the rules for records: its members under their names, a class by the word for the
    name it is declared under, and `null` for a code that is missing. -/
def Fault.recordJson (f : Fault) : Json :=
  .object [
    ("category", .str (snakeCase f.category.declared)),
    ("retryable", .bool f.retryable),
    ("source_code", f.sourceCode.elim .null .str),
    ("message", .str f.message)]

/-- The record of a failure is in the format of records. -/
theorem Fault.toJson_eq_recordJson (f : Fault) : f.toJson = f.recordJson := by
  have hcode : Json.ofOption .str f.sourceCode = f.sourceCode.elim .null .str := by
    cases f.sourceCode <;> rfl
  rw [toJson, hcode, f.category.name_eq_snakeCase]
  rfl

theorem Fault.readable_toJson {room : Nat} (f : Fault) : Json.Readable (room + 1) f.toJson := by
  refine .object ?_
  simp only [List.forall_mem_cons]
  exact ⟨.str _, .bool _, .ofOption .str _, .str _, nofun⟩

/-! ## States -/

theorem ProductType.ofJson?_toJson (p : ProductType) : ofJson? p.toJson = some p := by
  cases p <;> decide +kernel

namespace OrderState

/-- The members of a state in the order of its declaration. -/
def members (s : OrderState) : List (String × Json) := [
  ("order_id", .str s.orderId),
  ("status", .str s.status),
  ("symbol", .ofOption .str s.symbol),
  ("side", .ofOption .str s.side),
  ("order_type", .ofOption .str s.orderType),
  ("qty", .ofOption Decimal.toJson s.qty),
  ("price", .ofOption Decimal.toJson s.price),
  ("product_type", s.productType.toJson),
  ("reduce_only", .ofOption .bool s.reduceOnly),
  ("raw", s.raw)]

theorem toJson_eq_object (s : OrderState) : s.toJson = .object s.members := rfl

/-- A state is read back from its record. -/
theorem ofJson?_toJson (s : OrderState) : ofJson? s.toJson = some s := by
  have hid : s.toJson.required? Json.asText? "order_id" = some s.orderId :=
    Json.required?_object.trans rfl
  have hstatus : s.toJson.required? Json.asText? "status" = some s.status :=
    Json.required?_object.trans rfl
  have hsymbol : s.toJson.optional? Json.asText? "symbol" = some s.symbol :=
    Json.optional?_object Json.str rfl (fun _ => rfl) nofun
  have hside : s.toJson.optional? Json.asText? "side" = some s.side :=
    Json.optional?_object Json.str rfl (fun _ => rfl) nofun
  have htype : s.toJson.optional? Json.asText? "order_type" = some s.orderType :=
    Json.optional?_object Json.str rfl (fun _ => rfl) nofun
  have hqty : s.toJson.optional? Decimal.ofJson? "qty" = some s.qty :=
    Json.optional?_object Decimal.toJson rfl Decimal.ofJson?_toJson nofun
  have hprice : s.toJson.optional? Decimal.ofJson? "price" = some s.price :=
    Json.optional?_object Decimal.toJson rfl Decimal.ofJson?_toJson nofun
  have hproduct : s.toJson.required? ProductType.ofJson? "product_type" = some s.productType :=
    Json.required?_object.trans s.productType.ofJson?_toJson
  have hreduce : s.toJson.optional? Json.asBool? "reduce_only" = some s.reduceOnly :=
    Json.optional?_object Json.bool rfl (fun _ => rfl) nofun
  have hraw : s.toJson.get? "raw" = some s.raw := (Json.get?_object _ _).trans rfl
  have hmembers : shape.members? s.toJson = some s.toJson := rfl
  unfold ofJson?
  rw [hmembers, Option.bind_eq_bind, Option.bind_some, hid, hstatus, hsymbol, hside, htype, hqty,
    hprice, hproduct, hreduce, hraw]
  rfl

theorem readable_members {room : Nat} {s : OrderState} (hraw : Json.Readable room s.raw) :
    ∀ m ∈ s.members, Json.Readable room m.2 := by
  have hdecimal (a : Option Decimal) : Json.Readable room (.ofOption Decimal.toJson a) :=
    .ofOption (fun _ => .str _) a
  simp only [members, List.forall_mem_cons]
  exact ⟨.str _, .str _, .ofOption .str _, .ofOption .str _, .ofOption .str _, hdecimal _,
    hdecimal _, .str _, .ofOption .bool _, hraw, nofun⟩

/-- A state whose payload can be read is read back from its text, in whatever order the members
    are. -/
theorem ofChars?_members {s : OrderState} (hraw : Json.Readable 126 s.raw)
    {written : List (String × Json)} (h : written.Perm s.members) :
    (shape.ofChars? (Json.obj written).chars).bind ofJson? = some s := by
  have hkeys : (s.members.map Prod.fst).Nodup := by
    change ["order_id", "status", "symbol", "side", "order_type", "qty", "price", "product_type",
      "reduce_only", "raw"].Nodup
    decide
  have hshape : shape = Json.Shape.ofNames 10 (s.members.map Prod.fst) := rfl
  rw [hshape, Json.ofNames_ofChars?_obj rfl 10 h hkeys (readable_members hraw), Option.bind_some,
    ← toJson_eq_object, s.ofJson?_toJson]

/-- A state is read back from its text, if its raw part is. -/
theorem ofText?_toJson {s : OrderState} (hraw : Json.Readable 126 s.raw) :
    (Json.ofText? s.toJson.toText).bind ofJson? = some s := by
  have hreadable : Json.Readable Json.depthLimit s.toJson := .object (readable_members hraw)
  rw [hreadable.ofText?_toText, Option.bind_some, s.ofJson?_toJson]

theorem readable_raw_ofFault (orderId : String) (productType : ProductType) (fault : Fault) :
    Json.Readable 126 (ofFault orderId productType fault).raw := by
  refine .object fun m hm => ?_
  obtain rfl := List.mem_singleton.mp hm
  exact fault.readable_toJson

end OrderState

/-- **Failures are recovered from where they are embedded.**  What is written of a failure is what
    the rules for records write, and is read back by either reader.  A state that carries a failure
    gives it back, and is itself read back from its text, be that read as a value first or as a
    state at once, and then with the members in whatever order.  A state whose status is another
    word than that for failures carries none. -/
theorem recovered_embedded :
    (∀ f : Fault, Fault.ofRaw? f.toJson = some f ∧ f.toJson = f.recordJson ∧
      Fault.ofJson? f.toJson = some f) ∧
    (∀ (orderId : String) (productType : ProductType) (f : Fault),
      let s := OrderState.ofFault orderId productType f
      s.fault? = some f ∧
      (Json.ofText? s.toJson.toText).bind OrderState.ofJson? = some s ∧
      ∀ written : List (String × Json), written.Perm s.members →
        (OrderState.shape.ofChars? (Json.obj written).chars).bind OrderState.ofJson? = some s) ∧
    ∀ s : OrderState, s.status ≠ OrderStatus.error → s.fault? = none := by
  refine ⟨fun f => ⟨f.ofRaw?_toJson, f.toJson_eq_recordJson, f.ofJson?_toJson⟩,
    fun orderId productType f => ?_, fun s hstatus => ?_⟩
  · have hraw := OrderState.readable_raw_ofFault orderId productType f
    exact ⟨OrderState.fault?_ofFault orderId productType f, OrderState.ofText?_toJson hraw,
      fun _ h => OrderState.ofChars?_members hraw h⟩
  · have herror : s.isError = false := beq_eq_false_iff_ne.mpr hstatus
    rw [OrderState.fault?, herror, if_neg Bool.false_ne_true]

end LiveTrader
