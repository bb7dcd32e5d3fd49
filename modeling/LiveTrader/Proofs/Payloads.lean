import LiveTrader.Order.State

/-!
  LiveTrader.Proofs.Payloads

  What is put into an object is found there under its key.  So a failure is read back from the
  payload of the order state that reports it.
-/

namespace LiveTrader

/-! ## Members of objects -/

namespace Json

theorem lookup_member (key k : String) (v : Json) (rest : List (String × Json)) :
    ((k, v) :: rest).lookup key = if key = k then some v else rest.lookup key := by
  rw [List.lookup_cons]
  by_cases h : key = k
  · rw [if_pos h, beq_iff_eq.mpr h]
  · rw [if_neg h, beq_eq_false_iff_ne.mpr h]

theorem lookup_insertMember (key other : String) (value : Json) (members : List (String × Json)) :
    (insertMember key value members).lookup other =
      if other = key then some value else members.lookup other := by
  induction members with
  | nil => exact lookup_member other key value []
  | cons member rest ih =>
    obtain ⟨k, v⟩ := member
    unfold insertMember
    split
    case isTrue h =>
      subst h
      rw [lookup_member, lookup_member]
      split <;> rfl
    case isFalse h =>
      split
      · exact lookup_member other key value _
      · rw [lookup_member, lookup_member, ih]
        by_cases hk : other = k
        · subst hk
          rw [if_pos rfl, if_neg (Ne.symm h), if_pos rfl]
        · rw [if_neg hk, if_neg hk]

theorem lookup_foldl_insertMember (members sorted : List (String × Json)) (key : String) :
    (members.foldl (fun sorted (k, v) => insertMember k v sorted) sorted).lookup key =
      (members.reverse.lookup key).or (sorted.lookup key) := by
  induction members generalizing sorted with
  | nil => rfl
  | cons member rest ih =>
    obtain ⟨k, v⟩ := member
    rw [List.foldl_cons, ih, List.reverse_cons, List.lookup_append, lookup_insertMember,
      Option.or_assoc, lookup_member]
    split <;> rfl

/-- Of a repeated key the last member is found. -/
@[simp] theorem get?_object (members : List (String × Json)) (key : String) :
    (object members).get? key = members.reverse.lookup key := by
  calc (sortMembers members).lookup key
      = (members.reverse.lookup key).or none := lookup_foldl_insertMember members [] key
    _ = members.reverse.lookup key := Option.or_none

/-- A field that is there and not `null` is decoded. -/
theorem optional?_of_some {α : Type} {decode? : Json → Option α} {key : String} {v field : Json}
    (h : v.get? key = some field) (hnull : field ≠ null) :
    v.optional? decode? key = (decode? field).map some := by
  unfold optional?
  rw [h]
  split
  case h_1 hfield => cases hfield
  case h_2 hfield => exact absurd (Option.some.inj hfield) hnull
  case h_3 other hfield => rw [Option.some.inj hfield]

end Json

/-! ## Failures -/

theorem FaultClass.ofName?_name (c : FaultClass) : ofName? c.name = some c := by
  cases c <;> decide +kernel

theorem Fault.ofRaw?_toJson (f : Fault) : ofRaw? f.toJson = some f := by
  obtain ⟨category, retryable, sourceCode, message⟩ := f
  have hclass := category.ofName?_name
  cases sourceCode <;>
    simp [ofRaw?, toJson, List.lookup_cons, Json.asText?, Json.asBool?, Json.ofOption, hclass]

namespace OrderState

@[simp] theorem isError_ofFault (orderId : String) (productType : ProductType) (fault : Fault) :
    (ofFault orderId productType fault).isError = true :=
  beq_self_eq_true _

/-- **The failure that a state was made for is read back from it.** -/
theorem fault?_ofFault (orderId : String) (productType : ProductType) (fault : Fault) :
    (ofFault orderId productType fault).fault? = some fault := by
  have hraw : (ofFault orderId productType fault).raw.get? "error" = some fault.toJson :=
    Json.get?_object [("error", fault.toJson)] "error"
  unfold fault?
  rw [isError_ofFault, if_pos rfl, hraw]
  exact Fault.ofRaw?_toJson fault

end OrderState

end LiveTrader
