import Mathlib.Data.List.DropRight
import LiveTrader.Order.Journal

/-!
  LiveTrader.Proofs.Journal

  What the operations of the journal do to the ids that it remembers.
-/

namespace LiveTrader

namespace Journal

/-- The remembered ids, oldest first. -/
def ids (j : Journal) : List ClientOrderId := j.attempts.map OrderAttempt.clientOrderId

/-- An attempt is found under an id if and only if the journal knows the id. -/
theorem isSome_get?_iff {j : Journal} {id : ClientOrderId} :
    (j.get? id).isSome = true ↔ id ∈ j.ids := by
  simp only [get?, ids, List.find?_isSome, beq_iff_eq, List.mem_map]

theorem mem_of_get? {j : Journal} {id : ClientOrderId} {a : OrderAttempt}
    (h : j.get? id = some a) : a ∈ j.attempts ∧ a.clientOrderId = id := by
  unfold get? at h
  have hid := List.find?_some h
  exact ⟨List.mem_of_find?_eq_some h, beq_iff_eq.mp hid⟩

/-! ## Making room -/

/-- The queue and the attempts hold the same ids in the same order, each of them once. -/
structure InStep (j : Journal) : Prop where
  ids_eq : j.ids = j.queue
  nodup : j.queue.Nodup

theorem inStep_empty (capacity : Nat) : (empty capacity).InStep where
  ids_eq := rfl
  nodup := List.nodup_nil

theorem capacity_forgetOldest (j : Journal) : j.forgetOldest.capacity = j.capacity := by
  unfold forgetOldest
  split <;> rfl

/-- The oldest id is the one that is forgotten. -/
theorem queue_forgetOldest (j : Journal) : j.forgetOldest.queue = j.queue.drop 1 := by
  unfold forgetOldest
  split
  case h_1 hnil => rw [hnil]; rfl
  case h_2 hcons => rw [hcons]; rfl

theorem mem_attempts_forgetOldest {j : Journal} {a : OrderAttempt}
    (h : a ∈ j.forgetOldest.attempts) : a ∈ j.attempts := by
  unfold forgetOldest at h
  split at h
  case h_1 => exact h
  case h_2 => exact List.mem_of_mem_filter h

/-- The attempt that goes is the one whose id goes. -/
theorem InStep.forgetOldest {j : Journal} (h : j.InStep) : j.forgetOldest.InStep := by
  obtain ⟨hids, hnodup⟩ := h
  refine ⟨?_, by rw [queue_forgetOldest]; exact hnodup.sublist (List.drop_sublist 1 _)⟩
  unfold Journal.forgetOldest
  split
  case h_1 => exact hids
  case h_2 oldest later hcons =>
    rw [hcons, List.nodup_cons] at hnodup
    have hfilter : (j.attempts.filter fun a => a.clientOrderId ≠ oldest).map
        OrderAttempt.clientOrderId = j.ids.filter fun id => id ≠ oldest := by
      rw [ids, List.filter_map]
      rfl
    have hlater : (later.filter fun id => id ≠ oldest) = later := by
      -- the oldest id is in the queue once, so filtering takes away its head only
      rw [List.filter_eq_self]
      intro id hid
      exact decide_eq_true (ne_of_mem_of_not_mem hid hnodup.1)
    show (j.attempts.filter fun a => a.clientOrderId ≠ oldest).map OrderAttempt.clientOrderId =
      later
    rw [hfilter, hids, hcons, List.filter_cons_of_neg (by simp), hlater]

/-- While a journal is full its oldest attempts are forgotten one by one. -/
theorem makeRoom_of_isFull {j : Journal} (h : j.isFull = true) :
    j.makeRoom = j.forgetOldest.makeRoom := by
  rw [makeRoom, if_pos h]

theorem makeRoom_of_not_isFull {j : Journal} (h : ¬ j.isFull = true) : j.makeRoom = j := by
  rw [makeRoom, if_neg h]

/-- Whatever holds of a journal and is kept where its oldest attempt goes holds where there is
    room. -/
theorem makeRoom_induction {P : Journal → Prop} (hstep : ∀ j, P j → P j.forgetOldest)
    (j : Journal) (h : P j) : P j.makeRoom := by
  induction j using makeRoom.induct with
  | case1 j hfull ih =>
    rw [makeRoom_of_isFull hfull]
    exact ih (hstep j h)
  | case2 j hroom =>
    rw [makeRoom_of_not_isFull hroom]
    exact h

theorem InStep.makeRoom {j : Journal} (h : j.InStep) : j.makeRoom.InStep :=
  makeRoom_induction (P := InStep) (fun _ => InStep.forgetOldest) j h

theorem capacity_makeRoom (j : Journal) : j.makeRoom.capacity = j.capacity :=
  makeRoom_induction (P := fun j' => j'.capacity = j.capacity)
    (fun j' h => (capacity_forgetOldest j').trans h) j rfl

theorem mem_attempts_makeRoom {j : Journal} {a : OrderAttempt} (h : a ∈ j.makeRoom.attempts) :
    a ∈ j.attempts :=
  makeRoom_induction (P := fun j' => a ∈ j'.attempts → a ∈ j.attempts)
    (fun _ hkept hmem => hkept (mem_attempts_forgetOldest hmem)) j id h

/-- As many ids go as are too many with one more. -/
theorem queue_makeRoom (j : Journal) :
    j.makeRoom.queue = j.queue.drop (j.queue.length + 1 - j.capacity) := by
  induction j using makeRoom.induct with
  | case1 j hfull ih =>
    have hle : j.capacity ≤ j.queue.length := of_decide_eq_true hfull
    have hpos := j.capacity_pos
    rw [makeRoom_of_isFull hfull, ih, queue_forgetOldest, capacity_forgetOldest, List.drop_drop,
      List.length_drop]
    congr 1
    omega
  | case2 j hroom =>
    have hlt : ¬ j.capacity ≤ j.queue.length := fun hle => hroom (decide_eq_true hle)
    have hnone : j.queue.length + 1 - j.capacity = 0 := by omega
    rw [makeRoom_of_not_isFull hroom, hnone, List.drop_zero]

/-! ## Recording -/

theorem InStep.add {j : Journal} {id : ClientOrderId} (h : j.InStep) (hid : id ∉ j.queue) :
    (j.add id).InStep where
  ids_eq := by
    rw [ids, Journal.add, List.map_append]
    show j.ids ++ [id] = j.queue ++ [id]
    rw [h.ids_eq]
  nodup := by
    show (j.queue ++ [id]).Nodup
    rw [List.nodup_append]
    exact ⟨h.nodup, List.pairwise_singleton _ id,
      by simpa using fun x hx => ne_of_mem_of_not_mem hx hid⟩

/-- An id is refused because it is remembered, and for no other reason. -/
theorem record_eq_error_iff {j : Journal} {id : ClientOrderId} {e : JournalError} :
    j.record id = .error e ↔ id ∈ j.ids ∧ e = .alreadySubmitted id.text := by
  unfold record
  split
  case isTrue h => simp [isSome_get?_iff.mp h, eq_comm]
  case isFalse h => simp [mt isSome_get?_iff.mpr h]

/-- An attempt is recorded if and only if its id is not known. -/
theorem record_eq_ok_iff {j j' : Journal} {id : ClientOrderId} :
    j.record id = .ok j' ↔ id ∉ j.ids ∧ j' = j.makeRoom.add id := by
  unfold record
  split
  case isTrue h => simp [isSome_get?_iff.mp h]
  case isFalse h => simp [mt isSome_get?_iff.mpr h, eq_comm]

theorem capacity_of_record {j j' : Journal} {id : ClientOrderId} (h : j.record id = .ok j') :
    j'.capacity = j.capacity := by
  obtain ⟨-, rfl⟩ := record_eq_ok_iff.mp h
  exact capacity_makeRoom j

/-- The latest ids are kept, and the new one is the last of them. -/
theorem queue_of_record {j j' : Journal} {id : ClientOrderId} (h : j.record id = .ok j') :
    j'.queue = j.queue.drop (j.queue.length + 1 - j.capacity) ++ [id] := by
  obtain ⟨-, rfl⟩ := record_eq_ok_iff.mp h
  show j.makeRoom.queue ++ [id] = _
  rw [queue_makeRoom]

/-- Recording keeps the ids and the attempts in step. -/
theorem InStep.of_record {j j' : Journal} {id : ClientOrderId} (hj : j.InStep)
    (h : j.record id = .ok j') : j'.InStep := by
  obtain ⟨hnew, rfl⟩ := record_eq_ok_iff.mp h
  rw [hj.ids_eq] at hnew
  refine hj.makeRoom.add fun hmem => hnew ?_
  rw [queue_makeRoom] at hmem
  exact List.mem_of_mem_drop hmem

/-! ## Completing -/

/-- An attempt is completed if and only if its id is known. -/
theorem complete_eq_ok_iff {j j' : Journal} {id : ClientOrderId} {status : String} :
    j.complete id status = .ok j' ↔ id ∈ j.ids ∧
      j' = { j with attempts := j.attempts.map fun a =>
        if a.clientOrderId = id then { a with finalStatus := some status } else a } := by
  unfold complete
  split
  case isTrue h => simp [isSome_get?_iff.mp h, eq_comm]
  case isFalse h => simp [mt isSome_get?_iff.mpr h]

/-- An id cannot be completed because it is not remembered, and for no other reason. -/
theorem complete_eq_error_iff {j : Journal} {id : ClientOrderId} {status : String}
    {e : JournalError} :
    j.complete id status = .error e ↔ id ∉ j.ids ∧ e = .unknownAttempt id.text := by
  unfold complete
  split
  case isTrue h => simp [isSome_get?_iff.mp h]
  case isFalse h => simp [mt isSome_get?_iff.mpr h, eq_comm]

/-- Completing an attempt neither adds nor forgets an id. -/
theorem ids_of_complete {j j' : Journal} {id : ClientOrderId} {status : String}
    (h : j.complete id status = .ok j') : j'.ids = j.ids := by
  obtain ⟨-, rfl⟩ := complete_eq_ok_iff.mp h
  simp only [ids, List.map_map]
  refine List.map_congr_left fun a _ => ?_
  simp only [Function.comp_apply]
  split <;> rfl

theorem queue_of_complete {j j' : Journal} {id : ClientOrderId} {status : String}
    (h : j.complete id status = .ok j') : j'.queue = j.queue := by
  obtain ⟨-, rfl⟩ := complete_eq_ok_iff.mp h
  rfl

theorem capacity_of_complete {j j' : Journal} {id : ClientOrderId} {status : String}
    (h : j.complete id status = .ok j') : j'.capacity = j.capacity := by
  obtain ⟨-, rfl⟩ := complete_eq_ok_iff.mp h
  rfl

theorem InStep.of_complete {j j' : Journal} {id : ClientOrderId} {status : String} (hj : j.InStep)
    (h : j.complete id status = .ok j') : j'.InStep where
  ids_eq := by rw [ids_of_complete h, queue_of_complete h, hj.ids_eq]
  nodup := queue_of_complete h ▸ hj.nodup

/-- An attempt that was just recorded can be completed. -/
theorem exists_complete_of_record {j j' : Journal} {id : ClientOrderId} (status : String)
    (h : j.record id = .ok j') : ∃ j'', j'.complete id status = .ok j'' := by
  obtain ⟨-, rfl⟩ := record_eq_ok_iff.mp h
  refine ⟨_, complete_eq_ok_iff.mpr ⟨?_, rfl⟩⟩
  rw [ids, add, List.map_append]
  exact List.mem_append_right _ (List.mem_singleton_self id)

/-- What an attempt leaves once it was recorded and completed: the attempt itself, and others
    that were there before. -/
theorem mem_attempts_of_complete {j j₁ j₂ : Journal} {id : ClientOrderId} {status : String}
    (h₁ : j.record id = .ok j₁) (h₂ : j₁.complete id status = .ok j₂) {a : OrderAttempt}
    (ha : a ∈ j₂.attempts) :
    a = ⟨id, some status⟩ ∨ a ∈ j.attempts ∧ a.clientOrderId ≠ id := by
  obtain ⟨hnew, rfl⟩ := record_eq_ok_iff.mp h₁
  obtain ⟨-, rfl⟩ := complete_eq_ok_iff.mp h₂
  obtain ⟨b, hb, rfl⟩ := List.mem_map.mp ha
  rcases List.mem_append.mp hb with hkept | hlast
  · have hmem : b ∈ j.attempts := mem_attempts_makeRoom hkept
    have hid : b.clientOrderId ≠ id := fun h => hnew (h ▸ List.mem_map_of_mem hmem)
    rw [if_neg hid]
    exact .inr ⟨hmem, hid⟩
  · rw [List.mem_singleton.mp hlast, if_pos rfl]
    exact .inl rfl

/-! ## What is remembered -/

/-- The last of the last items are the last ones of all. -/
theorem rtake_rtake_succ {α : Type} (xs : List α) (n : Nat) :
    (xs.rtake (n + 1)).rtake n = xs.rtake n := by
  unfold List.rtake
  rw [List.drop_drop, List.length_drop]
  congr 1
  omega

/-- The journal remembers the ids that were recorded last, as many as it has room for. -/
theorem queue_eq_rtake {j j' : Journal} {id : ClientOrderId} {recorded : List ClientOrderId}
    (hj : j.queue = recorded.rtake j.capacity) (h : j.record id = .ok j') :
    j'.queue = (recorded ++ [id]).rtake j'.capacity := by
  obtain ⟨n, hn⟩ : ∃ n, j.capacity = n + 1 := ⟨j.capacity - 1, by have := j.capacity_pos; omega⟩
  have hroom : j.queue.length + 1 - (n + 1) = j.queue.length - n := by omega
  have hkept : j.queue.drop (j.queue.length - n) = recorded.rtake n := by
    rw [hj, hn]
    exact rtake_rtake_succ recorded n
  rw [queue_of_record h, capacity_of_record h, hn, hroom, hkept, List.rtake_concat_succ]

/-- Between two entries of an id there are at least so many of others. -/
def Spaced (n : Nat) (ids : List ClientOrderId) : Prop :=
  ∀ id before mid after, ids = before ++ id :: mid ++ id :: after →
    n ≤ (mid.filter fun x => x ≠ id).length

theorem spaced_nil (n : Nat) : Spaced n [] := by
  intro id before mid after h
  simp at h

/-- After any entry of an id that is not among the last `n` there are `n` entries of others. -/
theorem le_length_filter_of_not_mem_rtake {n : Nat} {id : ClientOrderId}
    (before mid : List ClientOrderId) (h : id ∉ (before ++ id :: mid).rtake n) :
    n ≤ (mid.filter fun x => x ≠ id).length := by
  by_cases hmem : id ∈ mid
  · -- a later entry has fewer entries after it
    obtain ⟨mid₁, mid₂, rfl⟩ := List.append_of_mem hmem
    have hlater := le_length_filter_of_not_mem_rtake (before ++ id :: mid₁) mid₂ (by simpa using h)
    have hsub : (mid₂.filter fun x => x ≠ id).Sublist
        ((mid₁ ++ id :: mid₂).filter fun x => x ≠ id) :=
      ((List.sublist_cons_self id mid₂).trans (List.sublist_append_right _ _)).filter _
    exact hlater.trans hsub.length_le
  · have hfilter : (mid.filter fun x => x ≠ id) = mid := by
      rw [List.filter_eq_self]
      intro x hx
      exact decide_eq_true (ne_of_mem_of_not_mem hx hmem)
    rw [hfilter]
    by_contra hlt
    refine h ?_
    unfold List.rtake
    have hdrop : (before ++ id :: mid).length - n ≤ before.length := by
      simp only [List.length_append, List.length_cons]
      omega
    rw [List.drop_append_of_le_length hdrop]
    simp
termination_by mid.length

/-- Ids stay apart if the new one is not among the last ones. -/
theorem Spaced.concat {n : Nat} {ids : List ClientOrderId} {id : ClientOrderId}
    (h : Spaced n ids) (hid : id ∉ ids.rtake n) : Spaced n (ids ++ [id]) := by
  intro id' before mid after hsplit
  rcases List.eq_nil_or_concat after with rfl | ⟨after', last, rfl⟩
  · obtain ⟨rfl, hlast⟩ := List.append_inj' hsplit rfl
    obtain rfl : id = id' := by simpa using hlast
    exact le_length_filter_of_not_mem_rtake before mid hid
  · have hsplit' : ids ++ [id] = (before ++ id' :: mid ++ id' :: after') ++ [last] := by
      simpa using hsplit
    obtain ⟨hids, -⟩ := List.append_inj' hsplit' rfl
    exact h id' before mid after' hids

end Journal

end LiveTrader
