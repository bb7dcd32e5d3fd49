import LiveTrader.CycleInputs
import LiveTrader.Market.Amount
import LiveTrader.Market.Readings
import LiveTrader.Market.Symbol
import LiveTrader.Proofs.Digits
import LiveTrader.Proofs.Payloads
import LiveTrader.Proofs.Rounding

/-!
  LiveTrader.Proofs.StoredValues

  What decoders do with the invariants of values.  Every value is read back from what was written
  of it, so an invariant that held still holds.  Decoders do not check any: a value that no
  constructor builds is read just as well.
-/

namespace LiveTrader

/-! ## Records -/

namespace Json

@[simp] theorem members?_object (required : Nat) (members : List (String × Shape))
    (fields : List (String × Json)) :
    (Shape.record required members).members? (object fields) = some (object fields) :=
  rfl

@[simp] theorem ofNames_members?_object (required : Nat) (names : List String)
    (fields : List (String × Json)) :
    (Shape.ofNames required names).members? (object fields) = some (object fields) :=
  rfl

variable {α : Type} {decode? : Json → Option α} {key : String} {fields : List (String × Json)}

/-- A required field is read from the last of its name. -/
theorem required?_object :
    (object fields).required? decode? key = (fields.reverse.lookup key).bind decode? := by
  rw [required?, get?_object]

/-- A field that is there is read, whatever stands in for a missing one. -/
theorem defaulted?_object {default : α} {field : Json}
    (h : fields.reverse.lookup key = some field) :
    (object fields).defaulted? default decode? key = decode? field := by
  rw [defaulted?, get?_object, h]

/-- A field that may be missing is read back if nothing is written as `null` but its absence. -/
theorem optional?_object (encode : α → Json) {a : Option α}
    (h : fields.reverse.lookup key = some (ofOption encode a))
    (hdecode : ∀ a, decode? (encode a) = some a) (hnull : ∀ a, encode a ≠ null) :
    (object fields).optional? decode? key = some a := by
  cases a with
  | none =>
    rw [optional?, get?_object, h]
    rfl
  | some a =>
    have hfield : (object fields).get? key = some (encode a) := (get?_object fields key).trans h
    rw [optional?_of_some hfield (hnull a), hdecode]
    rfl

/-- Items that are read back one by one are read back together. -/
theorem mapM_map_encode (encode : α → Json) (h : ∀ a, decode? (encode a) = some a)
    (items : List α) : (items.map encode).mapM decode? = some items := by
  induction items with
  | nil => rfl
  | cons a rest ih =>
    rw [List.map_cons, List.mapM_cons, h, ih]
    rfl

end Json

theorem Decimal.ofJson?_toJson (a : Decimal) : ofJson? a.toJson = some a :=
  ofText?_toText a

theorem Fault.ofJson?_toJson (f : Fault) : ofJson? f.toJson = some f := by
  have hclass := f.category.ofName?_name
  unfold ofJson? toJson shape
  rw [Json.ofNames_members?_object, Option.bind_eq_bind, Option.bind_some,
    Json.optional?_object Json.str rfl (fun _ => rfl) nofun]
  simp [Json.required?_object, List.lookup_cons, Json.asWord?, Json.asText?, Json.asBool?, hclass]

/-- A listing is read back if its items are, with items or a failure or both. -/
theorem Listing.ofJson?_toJson {α : Type} {encode : α → Json} {decode? : Json → Option α}
    (h : ∀ a, decode? (encode a) = some a) (l : Listing α) :
    ofJson? decode? (l.toJson encode) = some l := by
  unfold ofJson? toJson shape
  rw [Json.ofNames_members?_object, Option.bind_eq_bind, Option.bind_some,
    Json.optional?_object Fault.toJson rfl Fault.ofJson?_toJson nofun]
  simp [Json.required?_object, List.lookup_cons, Json.asItems?, Json.mapM_map_encode encode h]

theorem DecisionAction.ofJson?_name (a : DecisionAction) : ofJson? (.str a.name) = some a := by
  cases a <;> decide +kernel

/-- A decision is read back as it was, whatever its confidence. -/
theorem Decision.ofJson?_toJson (d : Decision) : ofJson? d.toJson = some d := by
  have haction := d.action.ofJson?_name
  have hreasons : (Json.texts d.reasonCodes).asTexts? = some d.reasonCodes :=
    Json.mapM_map_encode Json.str (fun _ => rfl) d.reasonCodes
  unfold ofJson? toJson shape
  rw [Json.members?_object, Option.bind_eq_bind, Option.bind_some, Json.defaulted?_object rfl]
  simp [Json.required?_object, List.lookup_cons, Json.asFloat?, haction, hreasons]

theorem RiskSnapshot.ofJson?_toJson (s : RiskSnapshot) : ofJson? s.toJson = some s := by
  unfold ofJson? toJson shape
  rw [Json.ofNames_members?_object, Option.bind_eq_bind, Option.bind_some]
  dsimp only
  rw [Json.defaulted?_object rfl, Json.defaulted?_object rfl, Json.defaulted?_object rfl,
    Json.defaulted?_object rfl, Json.defaulted?_object rfl, Json.defaulted?_object rfl]
  simp [Decimal.ofJson?_toJson, RiskSnapshot.current]

theorem CycleInputs.ofJson?_toJson (i : CycleInputs) : ofJson? i.toJson = some i := by
  unfold ofJson? toJson shape
  rw [Json.members?_object, Option.bind_eq_bind, Option.bind_some, Json.defaulted?_object rfl,
    Json.optional?_object Decimal.toJson rfl Decimal.ofJson?_toJson nofun]
  simp [Json.required?_object, List.lookup_cons, RiskSnapshot.ofJson?_toJson,
    Decision.ofJson?_toJson, Decimal.ofJson?_toJson]

/-! ## Constructors -/

theorem Decimal.isPositive_iff_zero_lt {a : Decimal} : a.isPositive = true ↔ zero < a := by
  rw [isPositive_iff, lt_iff_value, value_zero]

theorem guarded_eq_ok_iff {ε α : Type} {p : Prop} [Decidable p] {e : ε} {a b : α} :
    (if p then Except.ok b else .error e) = .ok a ↔ p ∧ b = a := by
  split <;> simp [*]

/-- The constructor makes the prices above zero. -/
theorem Price.exists_of_iff {p : Price} : (∃ a, Price.of a = .ok p) ↔ Decimal.zero < p.value := by
  rw [← Decimal.isPositive_iff_zero_lt]
  constructor
  · rintro ⟨a, ha⟩
    obtain ⟨hpos, rfl⟩ := guarded_eq_ok_iff.mp ha
    exact hpos
  · exact fun hpos => ⟨p.value, if_pos hpos⟩

theorem Quantity.exists_of_iff {q : Quantity} :
    (∃ a, Quantity.of a = .ok q) ↔ Decimal.zero < q.value := by
  rw [← Decimal.isPositive_iff_zero_lt]
  constructor
  · rintro ⟨a, ha⟩
    obtain ⟨hpos, rfl⟩ := guarded_eq_ok_iff.mp ha
    exact hpos
  · exact fun hpos => ⟨q.value, if_pos hpos⟩

/-- The constructor makes the names that are not blank. -/
theorem Symbol.exists_of_iff {s : Symbol} :
    (∃ text, Symbol.of text = .ok s) ↔ Text.isBlankText s.text = false := by
  constructor
  · rintro ⟨text, htext⟩
    unfold Symbol.of at htext
    split at htext
    case isTrue => cases htext
    case isFalse hblank =>
      cases htext
      exact Bool.eq_false_iff.mpr hblank
  · exact fun hblank => ⟨s.text, if_neg (Bool.eq_false_iff.mp hblank)⟩

/-- A confidence is between zero and one. -/
def InUnitRange (x : Binary64) : Prop :=
  Binary64.zero.le x = true ∧ x.le .one = true

/-- A confidence between zero and one stays as it is. -/
theorem Decision.clampConfidence_of_inUnitRange {x : Binary64} (h : InUnitRange x) :
    clampConfidence x = x := by
  obtain ⟨hzero, hone⟩ := h
  simp only [Binary64.le, Bool.and_eq_true, Bool.not_eq_true', decide_eq_true_eq] at hzero hone
  have hlow : x.lt .zero = false := by
    simp only [Binary64.lt, Bool.and_eq_false_iff, decide_eq_false_iff_not]
    exact .inr (not_lt.mpr hzero.2)
  have hhigh : Binary64.one.lt x = false := by
    simp only [Binary64.lt, Bool.and_eq_false_iff, decide_eq_false_iff_not]
    exact .inr (not_lt.mpr hone.2)
  unfold clampConfidence
  rw [hone.1.1, hlow, hhigh]
  rfl

/-- Whatever the confidence, what is kept of it is between zero and one. -/
theorem Decision.inUnitRange_clampConfidence (x : Binary64) : InUnitRange (clampConfidence x) := by
  unfold clampConfidence
  split
  case isTrue => exact ⟨by decide, by decide⟩
  case isFalse hnumber =>
    split
    case isTrue => exact ⟨by decide, by decide⟩
    case isFalse hlow =>
      split
      case isTrue => exact ⟨by decide, by decide⟩
      case isFalse hhigh =>
        have hzero : Binary64.zero.isNaN = false := by decide
        have hone : Binary64.one.isNaN = false := by decide
        -- it is kept as it is: a number that neither comparison has caught
        have hx : x.isNaN = false := Bool.eq_false_iff.mpr hnumber
        simp only [Binary64.lt, hx, hzero, hone, Bool.not_false, Bool.true_and,
          decide_eq_true_eq, not_lt] at hlow hhigh
        constructor
        · simpa only [Binary64.le, hx, hzero, Bool.not_false, Bool.true_and, decide_eq_true_eq]
        · simpa only [Binary64.le, hx, hone, Bool.not_false, Bool.true_and, decide_eq_true_eq]

/-- The constructor builds a decision. -/
def Decision.IsBuilt (d : Decision) : Prop :=
  ∃ action confidence reasons, Decision.of action confidence reasons = d

/-- The constructor makes the decisions with a confidence between zero and one. -/
theorem Decision.isBuilt_iff {d : Decision} : d.IsBuilt ↔ InUnitRange d.confidence := by
  constructor
  · rintro ⟨action, confidence, reasons, rfl⟩
    exact inUnitRange_clampConfidence confidence
  · refine fun h => ⟨d.action, d.confidence, d.reasonCodes, ?_⟩
    rw [Decision.of, clampConfidence_of_inUnitRange h]

/-- The constructors make the listings without items besides a failure. -/
theorem Listing.exists_iff {α : Type} {l : Listing α} :
    ((∃ items, Listing.ok items = l) ∨ ∃ e, Listing.failed e = l) ↔
      ∀ e, l.error = some e → l.items = [] := by
  constructor
  · rintro (⟨items, rfl⟩ | ⟨e, rfl⟩)
    · exact fun e he => nomatch he
    · exact fun _ _ => rfl
  · intro h
    obtain ⟨items, error⟩ := l
    cases error with
    | none => exact .inl ⟨items, rfl⟩
    | some e =>
      cases h e rfl
      exact .inr ⟨e, rfl⟩

/-! ## Decoders -/

/-- Inputs are what the decoder makes of the document in a file, or nothing is to be done where no
    file is. -/
theorem CycleInputs.ofSource_eq_ok_iff {path : String} {source : Source} {i : CycleInputs} :
    ofSource path source = .ok i ↔ (source = .missing ∧ i = noSetup) ∨
      ∃ bytes v, source = .file bytes ∧ shape.ofBytes? bytes = some v ∧ ofJson? v = some i := by
  cases source with
  | missing => simp [ofSource, eq_comm]
  | unreadable detail => simp [ofSource]
  | file bytes =>
    have hread : ofSource path (.file bytes) = .ok i ↔
        (shape.ofBytes? bytes).bind ofJson? = some i := by
      cases hinputs : (shape.ofBytes? bytes).bind ofJson? <;> simp [ofSource, hinputs]
    simp [hread, Option.bind_eq_some_iff]

/-- What a decoder makes of documents.  `Written` are the values that a document can hold, `Built`
    those that the constructors of the type build, and `Valid` those with its invariant. -/
structure TakesAll {α : Type} (encode : α → Json) (decode? : Json → Option α)
    (Written Built Valid : α → Prop) : Prop where
  /-- A constructor builds a value if and only if it has the invariant. -/
  built_iff : ∀ a, Built a ↔ Valid a
  /-- Every value is read back from what is written of it, whether it has the invariant or not. -/
  reads : ∀ a, Written a → decode? (encode a) = some a

/-- **Decoders check none of the invariants that constructors establish.**  A price or quantity is
    above zero, a name is not blank, a confidence is between zero and one, also within the inputs
    of a cycle, and a listing has no items besides an error, if and only if a constructor builds
    it; but a record of it is read as it is in any case, and a file of inputs is taken for what
    the decoder makes of it. -/
theorem decoders_takeAll {α : Type} {encode : α → Json} {decode? : Json → Option α}
    (h : ∀ a, decode? (encode a) = some a) (path : String) (source : CycleInputs.Source) :
    TakesAll (fun p => p.value.toJson) Price.ofJson? (fun _ => True)
        (fun p => ∃ a, Price.of a = .ok p) (fun p => Decimal.zero < p.value) ∧
    TakesAll (fun q => q.value.toJson) Quantity.ofJson? (fun _ => True)
        (fun q => ∃ a, Quantity.of a = .ok q) (fun q => Decimal.zero < q.value) ∧
    TakesAll (fun s => .str s.text) Symbol.ofJson? (fun _ => True)
        (fun s => ∃ text, Symbol.of text = .ok s) (fun s => Text.isBlankText s.text = false) ∧
    TakesAll Decision.toJson Decision.ofJson? (fun d => d.confidence.isFinite = true)
        Decision.IsBuilt (fun d => InUnitRange d.confidence) ∧
    TakesAll CycleInputs.toJson CycleInputs.ofJson?
        (fun i => i.decision.confidence.isFinite = true)
        (fun i => i.decision.IsBuilt) (fun i => InUnitRange i.decision.confidence) ∧
    (∀ i, CycleInputs.ofSource path source = .ok i ↔ (source = .missing ∧ i = .noSetup) ∨
      ∃ bytes v, source = .file bytes ∧ CycleInputs.shape.ofBytes? bytes = some v ∧
        CycleInputs.ofJson? v = some i) ∧
    TakesAll (Listing.toJson encode) (Listing.ofJson? decode?) (fun _ => True)
        (fun l => (∃ items, Listing.ok items = l) ∨ ∃ e, Listing.failed e = l)
        (fun l => ∀ e, l.error = some e → l.items = []) := by
  refine ⟨⟨fun _ => Price.exists_of_iff, ?_⟩, ⟨fun _ => Quantity.exists_of_iff, ?_⟩,
    ⟨fun _ => Symbol.exists_of_iff, fun _ _ => rfl⟩,
    ⟨fun _ => Decision.isBuilt_iff, fun d _ => d.ofJson?_toJson⟩,
    ⟨fun _ => Decision.isBuilt_iff, fun i _ => i.ofJson?_toJson⟩,
    fun _ => CycleInputs.ofSource_eq_ok_iff,
    ⟨fun _ => Listing.exists_iff, fun l _ => l.ofJson?_toJson h⟩⟩
  · intro p _
    rw [Price.ofJson?, Decimal.ofJson?_toJson]
    rfl
  · intro q _
    rw [Quantity.ofJson?, Decimal.ofJson?_toJson]
    rfl

/-- Listings of texts are read back, those with items besides an error too. -/
theorem texts_takeAll :
    (∀ s, Json.asText? (.str s) = some s) ∧
    TakesAll (Listing.toJson Json.str) (Listing.ofJson? Json.asText?) (fun _ => True)
      (fun l => (∃ items, Listing.ok items = l) ∨ ∃ e, Listing.failed e = l)
      (fun l => ∀ e, l.error = some e → l.items = []) := by
  have htext : ∀ s, Json.asText? (.str s) = some s := fun _ => rfl
  refine ⟨htext, ?_⟩
  obtain ⟨-, -, -, -, -, -, hlisting⟩ := decoders_takeAll htext "inputs.json" .missing
  exact hlisting

/-- Each kind of value has a document that is read as one no constructor builds; the last is a
    file of cycle inputs whose confidence is above one. -/
theorem decoded_unbuilt :
    (∃ p, Price.ofJson? (.str "0") = some p ∧ ¬ Decimal.zero < p.value) ∧
    (∃ q, Quantity.ofJson? (.str "-1") = some q ∧ ¬ Decimal.zero < q.value) ∧
    (∃ s, Symbol.ofJson? (.str " ") = some s ∧ Text.isBlankText s.text = true) ∧
    (∃ l, Listing.ofJson? Json.asText?
        (Listing.toJson Json.str ⟨["a"], some .retryExhausted⟩) = some l ∧
      l.error.isSome = true ∧ l.items ≠ []) ∧
    ∃ i, CycleInputs.ofSource "inputs.json" (.file (
        "\x7b\"decision\": \x7b\"action\": \"buy\", \"confidence\": 1.5\x7d,".toUTF8.toList ++
        "\"close\": \"1\", \"atr\": \"1\"\x7d".toUTF8.toList)) = .ok i ∧
      Binary64.one.lt i.decision.confidence = true := by
  have htext : ∀ s, Json.asText? (.str s) = some s := fun _ => rfl
  refine ⟨⟨⟨.zero⟩, by decide +kernel, by decide⟩,
    ⟨⟨⟨-1, 0, by decide, by decide⟩⟩, by decide +kernel, by decide⟩,
    ⟨⟨" "⟩, rfl, by decide +kernel⟩, ⟨_, Listing.ofJson?_toJson htext _, rfl, nofun⟩, ?_⟩
  -- the document is read once, and only its confidence is looked at
  generalize hread : CycleInputs.ofSource _ _ = read
  have habove : (read.toOption.map fun i => Binary64.one.lt i.decision.confidence) = some true := by
    rw [← hread]
    decide +kernel
  cases read with
  | error e => cases habove
  | ok i => exact ⟨i, rfl, Option.some.inj habove⟩

end LiveTrader
