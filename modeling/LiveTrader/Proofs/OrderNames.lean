import LiveTrader.Gmo.Streams
import LiveTrader.Proofs.JsonText
import LiveTrader.Proofs.Requests

/-!
  LiveTrader.Proofs.OrderNames

  The names that orders go by in requests.  A request to read an order has its id in the query as
  it is.  A request to cancel it has a number in the body wherever the id spells one of 64 bits,
  and that is read back as the digits of the number: ids that spell the same number cancel the same
  order.
-/

namespace LiveTrader.Gmo

/-! ## Ids in bodies -/

/-- An id spells this number of 64 bits. -/
def SpellsNumber (id : String) (n : Nat) : Prop :=
  Text.Spells n id.toList ∧ n < pow2 64

theorem idValue_of_spellsNumber {id : String} {n : Nat} (h : SpellsNumber id n) :
    idValue id = .int n := by
  unfold idValue
  rw [Text.unsignedBelow?_eq_some_iff.mpr h]

/-- An id is put into a body as the number that it spells, or as it is. -/
theorem idValue_cases (id : String) :
    (∃ n, SpellsNumber id n ∧ idValue id = .int n) ∨
      (∀ n, ¬ SpellsNumber id n) ∧ idValue id = .str id := by
  by_cases hid : ∃ n, SpellsNumber id n
  · obtain ⟨n, hn⟩ := hid
    exact .inl ⟨n, hn, idValue_of_spellsNumber hn⟩
  · have hnone : Text.unsignedBelow? (pow2 64) id.toList = none :=
      Option.eq_none_iff_forall_ne_some.mpr fun n hn =>
        hid ⟨n, Text.unsignedBelow?_eq_some_iff.mp hn⟩
    refine .inr ⟨not_exists.mp hid, ?_⟩
    unfold idValue
    rw [hnone]

theorem SpellsNumber.unique {id : String} {n m : Nat} (hn : SpellsNumber id n)
    (hm : SpellsNumber id m) : n = m := by
  have hread := Text.unsignedBelow?_eq_some_iff.mpr hn
  rw [Text.unsignedBelow?_eq_some_iff.mpr hm] at hread
  exact (Option.some.inj hread).symm

/-- Two ids are put into a body as the same value if they are the same, or spell the same
    number. -/
theorem idValue_eq_iff {id other : String} :
    idValue id = idValue other ↔ id = other ∨ ∃ n, SpellsNumber id n ∧ SpellsNumber other n := by
  constructor
  · intro h
    -- a number and a text are never the same value
    rcases idValue_cases id with ⟨n, hn, hv⟩ | ⟨-, hv⟩
    · rcases idValue_cases other with ⟨m, hm, hw⟩ | ⟨-, hw⟩
      · rw [hv, hw] at h
        have heq : (n : Int) = m := Json.int.inj h
        obtain rfl : n = m := Int.ofNat.inj heq
        exact .inr ⟨n, hn, hm⟩
      · rw [hv, hw] at h
        cases h
    · rcases idValue_cases other with ⟨m, hm, hw⟩ | ⟨-, hw⟩
      · rw [hv, hw] at h
        cases h
      · rw [hv, hw] at h
        exact .inl (Json.str.inj h)
  · rintro (rfl | ⟨n, hn, hm⟩)
    · rfl
    · rw [idValue_of_spellsNumber hn, idValue_of_spellsNumber hm]

/-- An id is kept in a body: it is not empty, and if it spells a number then by its digits.  An
    empty text is not read as an id. -/
structure IsKept (id : String) : Prop where
  nonempty : id ≠ ""
  plain : ∀ n, SpellsNumber id n → id.toList = Text.digits n

/-- An id is read back from its value if and only if it is kept. -/
theorem scalarText?_idValue_iff {id : String} : scalarText? (idValue id) = some id ↔ IsKept id := by
  -- what is sent as a number comes back in plain digits, and anything else as it is unless empty
  rcases idValue_cases id with ⟨n, hn, hv⟩ | ⟨hnone, hv⟩
  · have htext : scalarText? (idValue id) = some (String.ofList (Text.digits n)) := by
      rw [hv]
      rfl
    rw [htext, Option.some.injEq]
    constructor
    · intro h
      have hdigits : id.toList = Text.digits n := by rw [← h, String.toList_ofList]
      refine ⟨?_, fun m hm => hn.unique hm ▸ hdigits⟩
      rintro rfl
      exact Nat.toDigits_ne_nil hdigits.symm
    · intro hkept
      rw [← hkept.plain n hn, String.ofList_toList]
  · have htext : scalarText? (idValue id) = if id = "" then none else some id := by
      rw [hv]
      rfl
    rw [htext]
    constructor
    · intro h
      refine ⟨?_, fun n hn => absurd hn (hnone n)⟩
      rintro rfl
      cases h
    · intro hkept
      exact if_neg hkept.nonempty

theorem readable_idValue (room : Nat) (id : String) : Json.Readable room (idValue id) := by
  rcases idValue_cases id with ⟨n, hn, hv⟩ | ⟨-, hv⟩
  · have hlt := hn.2
    rw [hv]
    exact .int (by omega) (by omega)
  · rw [hv]
    exact .str id

/-- The body that cancels an order is read back from its text. -/
theorem readable_cancelBody (id : String) : Json.Readable Json.depthLimit (cancelBody id) := by
  refine .obj (List.pairwise_singleton _ _) fun m hm => ?_
  obtain rfl := List.mem_singleton.mp hm
  exact readable_idValue _ id

/-! ## Requests -/

/-- The id that a request names in its body. -/
def cancelledId? (r : Request) : Option String :=
  r.bodyJson?.bind fun body => textField? body ["orderId"]

theorem textField?_cancelBody (id : String) :
    textField? (cancelBody id) ["orderId"] = scalarText? (idValue id) := by
  have hmember : (cancelBody id).get? "orderId" = some (idValue id) := rfl
  unfold textField?
  rw [List.findSome?_singleton, hmember, Option.bind_some]

theorem cancelBody_eq_iff {id other : String} :
    cancelBody id = cancelBody other ↔ idValue id = idValue other := by
  have hbody : ∀ id, cancelBody id = .obj [("orderId", idValue id)] := fun _ => rfl
  simp [hbody]

namespace Adapter

variable {σ : Type}

/-- A request to cancel an order names it by what is read back of its id. -/
theorem Call.IsOf.cancelledId?_eq {id : String} {r : Request} (h : (cancelCall id).IsOf r) :
    cancelledId? r = scalarText? (idValue id) := by
  have hbody : r.body = some (cancelBody id).toText := h.body
  unfold cancelledId? Request.bodyJson?
  rw [hbody, Option.bind_some, (readable_cancelBody id).ofText?_toText, Option.bind_some,
    textField?_cancelBody]

theorem Call.IsOf.body_eq_iff {id other : String} {r r' : Request} (h : (cancelCall id).IsOf r)
    (h' : (cancelCall other).IsOf r') :
    r.body = r'.body ↔ id = other ∨ ∃ n, SpellsNumber id n ∧ SpellsNumber other n := by
  have hbody : r.body = some (cancelBody id).toText := h.body
  have hbody' : r'.body = some (cancelBody other).toText := h'.body
  rw [hbody, hbody', Option.some.injEq,
    (readable_cancelBody id).toText_inj (readable_cancelBody other), cancelBody_eq_iff,
    idValue_eq_iff]

theorem performOrder_isOf (a : Adapter (StateM σ)) (op : OrderOperation) (s : σ) :
    ∀ r ∈ sent ((a.traced.performOrder op).run ⟨s, []⟩).2.trace, op.call.IsOf r := by
  intro r hr
  obtain ⟨outcome, hcourse, -⟩ := (a.performOrder_ends op s).run
  exact hcourse.isOf hr

/-- **Fetch and cancel name the same order if its id is kept in a body.**  Of an id that spells a
    number a request to cancel names its digits, and two such requests have the same body if the
    ids are the same or spell the same number. -/
theorem cancelled_as_fetched (a : Adapter (StateM σ)) (id : String) (s : σ) :
    let fetched := (a.traced.fetchOrder id).run ⟨s, []⟩
    let cancelled := (a.traced.cancelOrder id).run ⟨s, []⟩
    (fetched.1, fetched.2.state) = (a.fetchOrder id).run s ∧
      (cancelled.1, cancelled.2.state) = (a.cancelOrder id).run s ∧
      (∀ r ∈ sent fetched.2.trace, r.query = [("orderId", id)] ∧ r.body = none) ∧
      (∀ r ∈ sent cancelled.2.trace, r.query = [] ∧
        (cancelledId? r = some id ↔ IsKept id) ∧
        ∀ n, SpellsNumber id n → cancelledId? r = some (String.ofList (Text.digits n))) ∧
      ∀ (other : String) (s' : σ), ∀ r ∈ sent cancelled.2.trace,
        ∀ r' ∈ sent ((a.traced.cancelOrder other).run ⟨s', []⟩).2.trace,
          (r.body = r'.body ↔
            id = other ∨ ∃ n, SpellsNumber id n ∧ SpellsNumber other n) := by
  intro fetched cancelled
  have hfetched : ∀ r ∈ sent fetched.2.trace, (fetchCall id).IsOf r :=
    a.performOrder_isOf (.fetch id) s
  have hcancelled : ∀ r ∈ sent cancelled.2.trace, (cancelCall id).IsOf r :=
    a.performOrder_isOf (.cancel id) s
  refine ⟨a.performOrder_erases (.fetch id) _, a.performOrder_erases (.cancel id) _,
    fun r hr => ⟨(hfetched r hr).query, (hfetched r hr).body⟩, fun r hr => ?_, ?_⟩
  · have hnamed := (hcancelled r hr).cancelledId?_eq
    refine ⟨(hcancelled r hr).query, ?_, fun n hn => ?_⟩
    · rw [hnamed, scalarText?_idValue_iff]
    · rw [hnamed, idValue_of_spellsNumber hn]
      rfl
  · intro other s' r hr r' hr'
    have hother : (cancelCall other).IsOf r' := a.performOrder_isOf (.cancel other) s' r' hr'
    exact (hcancelled r hr).body_eq_iff hother

/-- Ids that differ in zeros in front cancel the same order. -/
theorem zeros_dropped :
    let script := ScriptedGateway.of [] (.ok (.object [("status", .int 0), ("data", .null)])) [] 0
    let bodies (id : String) :=
      (sent ((scriptedAdapter.traced.cancelOrder id).run ⟨script, []⟩).2.trace).map (·.body)
    bodies "007" = [some "\x7b\"orderId\":7\x7d"] ∧ bodies "7" = bodies "007" ∧
      textField? (cancelBody "007") ["orderId"] = some "7" ∧
      (fetchCall "007").query = [("orderId", "007")] := by
  intro script bodies
  exact ⟨by decide +kernel, by decide +kernel, by decide +kernel, rfl⟩

end Adapter

end LiveTrader.Gmo
