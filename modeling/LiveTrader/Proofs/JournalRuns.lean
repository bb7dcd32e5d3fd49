import Mathlib.Logic.Function.Iterate
import LiveTrader.Proofs.Journal

/-!
  LiveTrader.Proofs.JournalRuns

  A journal after any calls.  A call is one step, so the calls of several callers are one list,
  in the order in which they came.  Which ids the journal refuses, finds and completes next is
  told by that list alone: they are the ids that were recorded last, as many as there is room for
  (`Remembers`).  The invariant behind it (`Kept`) has the queue as those ids, the attempts in
  step with the queue, and each attempt with the status that the calls have given it.
-/

namespace LiveTrader

/-! ## Calls and what they have told -/

/-- A call of a journal. -/
inductive JournalCall
  | record (id : ClientOrderId)
  | complete (id : ClientOrderId) (finalStatus : String)
  | get (id : ClientOrderId)

/-- A call of a journal and the reply to it. -/
inductive JournalEvent
  | record (id : ClientOrderId) (reply : Except JournalError Unit)
  | complete (id : ClientOrderId) (finalStatus : String) (reply : Except JournalError Unit)
  | get (id : ClientOrderId) (reply : Option OrderAttempt)

namespace JournalEvent

/-- The id that was recorded, unless it was refused. -/
def recorded? : JournalEvent → Option ClientOrderId
  | record id (.ok ()) => some id
  | _ => none

/-- The status that a call has for this id. -/
def statusFor? (id : ClientOrderId) : JournalEvent → Option String
  | complete id' finalStatus _ => if id' = id then some finalStatus else none
  | _ => none

end JournalEvent

/-- The ids that were recorded last, so many of them at most. -/
def lastRecorded (room : Nat) (events : List JournalEvent) : List ClientOrderId :=
  (events.filterMap JournalEvent.recorded?).rtake room

/-- The last status for an id since it was recorded last; none if there was no call with one. -/
def StatusSince (events : List JournalEvent) (id : ClientOrderId) (status : Option String) : Prop :=
  ∃ before after, events = before ++ .record id (.ok ()) :: after ∧
    .record id (.ok ()) ∉ after ∧
    status = (after.filterMap (JournalEvent.statusFor? id)).getLast?

/-- An attempt that was just recorded has no status yet. -/
theorem statusSince_record (events : List JournalEvent) (id : ClientOrderId) :
    StatusSince (events ++ [.record id (.ok ())]) id none :=
  ⟨events, [], rfl, List.not_mem_nil, rfl⟩

/-- A further call counts if it has a status for the id. -/
theorem StatusSince.concat {events : List JournalEvent} {id : ClientOrderId}
    {status : Option String} (h : StatusSince events id status) {e : JournalEvent}
    (he : e.recorded? ≠ some id) :
    StatusSince (events ++ [e]) id ((e.statusFor? id).or status) := by
  obtain ⟨before, after, rfl, hlater, rfl⟩ := h
  have hne : e ≠ .record id (.ok ()) := fun h => he (h ▸ rfl)
  refine ⟨before, after ++ [e], by simp, ?_, ?_⟩
  · rw [List.mem_append, List.mem_singleton, not_or]
    exact ⟨hlater, hne.symm⟩
  · rw [List.filterMap_append]
    cases hs : e.statusFor? id with
    | none => rw [List.filterMap_cons_none hs, List.filterMap_nil, List.append_nil, Option.none_or]
    | some s => rw [List.filterMap_cons_some hs, List.filterMap_nil, List.getLast?_concat,
        Option.some_or]

/-- What records nothing does not change which ids came last. -/
theorem lastRecorded_quiet {room : Nat} {events : List JournalEvent} {e : JournalEvent}
    (he : e.recorded? = none) : lastRecorded room (events ++ [e]) = lastRecorded room events := by
  unfold lastRecorded
  rw [List.filterMap_append, List.filterMap_cons_none he, List.filterMap_nil, List.append_nil]

/-! ## Runs -/

namespace Journal

/-- Makes a call. -/
def answer (j : Journal) : JournalCall → JournalEvent × Journal
  | .record id =>
    let (reply, j') := (access.record id).run j
    (.record id reply, j')
  | .complete id finalStatus =>
    let (reply, j') := (access.complete id finalStatus).run j
    (.complete id finalStatus reply, j')
  | .get id => (.get id (j.get? id), j)

section Answers

variable {j j' : Journal} {id : ClientOrderId} {finalStatus : String} {e : JournalError}

theorem run_apply_ok {change : Journal → Except JournalError Journal} (h : change j = .ok j') :
    (apply change).run j = (.ok (), j') := by
  show apply change j = _
  unfold apply
  rw [h]

theorem run_apply_error {change : Journal → Except JournalError Journal} (h : change j = .error e) :
    (apply change).run j = (.error e, j) := by
  show apply change j = _
  unfold apply
  rw [h]

theorem answer_record_ok (h : j.record id = .ok j') :
    j.answer (.record id) = (.record id (.ok ()), j') := by
  rw [answer, access, run_apply_ok h]

/-- A record that fails leaves the journal as it was. -/
theorem answer_record_error (h : j.record id = .error e) :
    j.answer (.record id) = (.record id (.error e), j) := by
  rw [answer, access, run_apply_error h]

theorem answer_complete_ok (h : j.complete id finalStatus = .ok j') :
    j.answer (.complete id finalStatus) = (.complete id finalStatus (.ok ()), j') := by
  rw [answer, access, run_apply_ok h]

theorem answer_complete_error (h : j.complete id finalStatus = .error e) :
    j.answer (.complete id finalStatus) = (.complete id finalStatus (.error e), j) := by
  rw [answer, access, run_apply_error h]

end Answers

/-- The loop that makes room has gone through so many rounds when there is room. -/
structure EndsAfter (j : Journal) (rounds : Nat) : Prop where
  full : ∀ k < rounds, (forgetOldest^[k] j).isFull = true
  room : (forgetOldest^[rounds] j).isFull = false
  makeRoom_eq : j.makeRoom = forgetOldest^[rounds] j

/-- A journal that holds no more than it has room for has to forget one attempt at most. -/
theorem exists_endsAfter {j : Journal} (h : j.queue.length ≤ j.capacity) :
    ∃ rounds ≤ 1, j.EndsAfter rounds := by
  cases hfull : j.isFull with
  | false =>
    have hsame : j.makeRoom = j := makeRoom_of_not_isFull (by simp [hfull])
    exact ⟨0, Nat.zero_le 1, fun k hk => absurd hk (Nat.not_lt_zero k), hfull, hsame⟩
  | true =>
    have hpos := j.capacity_pos
    have hroom : j.forgetOldest.isFull = false := by
      -- the queue was no longer than the capacity, so one round makes room
      unfold isFull
      rw [queue_forgetOldest, capacity_forgetOldest, List.length_drop, decide_eq_false_iff_not]
      omega
    refine ⟨1, Nat.le_refl 1, fun k hk => ?_, hroom, ?_⟩
    · rw [Nat.lt_one_iff.mp hk]
      exact hfull
    · rw [makeRoom_of_isFull hfull, makeRoom_of_not_isFull (by simp [hroom])]
      rfl

end Journal

/-- A journal after some calls. -/
structure JournalRun where
  events : List JournalEvent
  journal : Journal

namespace JournalRun

/-- A further call. -/
def step (run : JournalRun) (call : JournalCall) : JournalRun :=
  let (event, journal) := run.journal.answer call
  ⟨run.events ++ [event], journal⟩

/-- These calls of a journal that was empty before. -/
def of (capacity : Nat) (calls : List JournalCall) : JournalRun :=
  calls.foldl step ⟨[], .empty capacity⟩

theorem step_eq {run : JournalRun} {call : JournalCall} {e : JournalEvent} {j : Journal}
    (h : run.journal.answer call = (e, j)) : run.step call = ⟨run.events ++ [e], j⟩ := by
  rw [step, h]

/-! ## The invariant -/

/-- What calls keep of a journal with room for so many attempts. -/
structure Kept (run : JournalRun) (room : Nat) : Prop where
  capacity : run.journal.capacity = room
  inStep : run.journal.InStep
  queue_eq : run.journal.queue = lastRecorded room run.events
  status : ∀ a ∈ run.journal.attempts, StatusSince run.events a.clientOrderId a.finalStatus

namespace Kept

variable {run : JournalRun} {room : Nat}

/-- An empty journal remembers all of nothing. -/
theorem start (capacity : Nat) : Kept ⟨[], .empty capacity⟩ (Nat.max capacity 1) where
  capacity := rfl
  inStep := Journal.inStep_empty capacity
  queue_eq := by simp [lastRecorded, Journal.empty]
  status a ha := absurd ha List.not_mem_nil

/-- The ids of a journal are those that were recorded last. -/
theorem ids_eq (h : run.Kept room) : run.journal.ids = lastRecorded room run.events :=
  h.inStep.ids_eq.trans h.queue_eq

/-- A call that changes nothing, and has no status for an id that is remembered. -/
theorem quiet (h : run.Kept room) {e : JournalEvent} (hrecorded : e.recorded? = none)
    (hstatus : ∀ id ∈ run.journal.ids, e.statusFor? id = none) :
    Kept ⟨run.events ++ [e], run.journal⟩ room where
  capacity := h.capacity
  inStep := h.inStep
  queue_eq := h.queue_eq.trans (lastRecorded_quiet hrecorded).symm
  status a ha := by
    have hsince := (h.status a ha).concat (e := e) (by rw [hrecorded]; exact nofun)
    rwa [hstatus _ (List.mem_map_of_mem ha), Option.none_or] at hsince

/-- A record keeps the journal at what was recorded last. -/
theorem record (h : run.Kept room) {id : ClientOrderId} {j : Journal}
    (hj : run.journal.record id = .ok j) :
    Kept ⟨run.events ++ [.record id (.ok ())], j⟩ room where
  capacity := (Journal.capacity_of_record hj).trans h.capacity
  inStep := h.inStep.of_record hj
  queue_eq := by
    have hqueue : run.journal.queue =
        (run.events.filterMap JournalEvent.recorded?).rtake run.journal.capacity := by
      rw [h.capacity]
      exact h.queue_eq
    have hnext := Journal.queue_eq_rtake hqueue hj
    rw [Journal.capacity_of_record hj, h.capacity] at hnext
    show j.queue = lastRecorded room (run.events ++ [.record id (.ok ())])
    rw [hnext, lastRecorded, List.filterMap_append]
    rfl
  status a ha := by
    obtain ⟨hnew, rfl⟩ := Journal.record_eq_ok_iff.mp hj
    rcases List.mem_append.mp ha with hkept | hlast
    · -- an attempt of another id, whose status is as it was
      have hmem : a ∈ run.journal.attempts := Journal.mem_attempts_makeRoom hkept
      have hother : a.clientOrderId ≠ id := fun hid => hnew (hid ▸ List.mem_map_of_mem hmem)
      exact (h.status a hmem).concat fun hsame => hother (Option.some.inj hsame).symm
    · rw [List.mem_singleton.mp hlast]
      exact statusSince_record run.events id

theorem complete (h : run.Kept room) {id : ClientOrderId} {finalStatus : String} {j : Journal}
    (hj : run.journal.complete id finalStatus = .ok j) :
    Kept ⟨run.events ++ [.complete id finalStatus (.ok ())], j⟩ room where
  capacity := (Journal.capacity_of_complete hj).trans h.capacity
  inStep := h.inStep.of_complete hj
  queue_eq := by
    show j.queue = lastRecorded room (run.events ++ [.complete id finalStatus (.ok ())])
    rw [Journal.queue_of_complete hj, lastRecorded_quiet rfl, h.queue_eq]
  status a ha := by
    obtain ⟨-, rfl⟩ := Journal.complete_eq_ok_iff.mp hj
    obtain ⟨b, hb, rfl⟩ := List.mem_map.mp ha
    have hsince := (h.status b hb).concat (e := .complete id finalStatus (.ok ())) nofun
    by_cases hid : b.clientOrderId = id
    · rw [JournalEvent.statusFor?, if_pos hid.symm, Option.some_or] at hsince
      rw [if_pos hid]
      exact hsince
    · rw [JournalEvent.statusFor?, if_neg (Ne.symm hid), Option.none_or] at hsince
      rw [if_neg hid]
      exact hsince

/-- **Every call keeps the invariant.** -/
theorem step (h : run.Kept room) (call : JournalCall) : (run.step call).Kept room := by
  cases call with
  | record id =>
    cases hj : run.journal.record id with
    | ok j =>
      rw [step_eq (Journal.answer_record_ok hj)]
      exact h.record hj
    | error e =>
      rw [step_eq (Journal.answer_record_error hj)]
      exact h.quiet rfl fun _ _ => rfl
  | complete id finalStatus =>
    cases hj : run.journal.complete id finalStatus with
    | ok j =>
      rw [step_eq (Journal.answer_complete_ok hj)]
      exact h.complete hj
    | error e =>
      rw [step_eq (Journal.answer_complete_error hj)]
      refine h.quiet rfl fun id' hid' => ?_
      -- the id of a refused call is not remembered
      have hunknown : id ∉ run.journal.ids := (Journal.complete_eq_error_iff.mp hj).1
      have hother : id ≠ id' := fun hsame => hunknown (hsame ▸ hid')
      exact if_neg hother
  | get id =>
    rw [step_eq (e := .get id (run.journal.get? id)) rfl]
    exact h.quiet rfl fun _ _ => rfl

end Kept

/-- However it is called, a journal keeps what was recorded last. -/
theorem of_kept (capacity : Nat) (calls : List JournalCall) :
    (of capacity calls).Kept (Nat.max capacity 1) := by
  unfold of
  generalize hstart : (⟨[], .empty capacity⟩ : JournalRun) = run
  have hkept : run.Kept (Nat.max capacity 1) := hstart ▸ .start capacity
  clear hstart
  induction calls generalizing run with
  | nil => exact hkept
  | cons call calls ih => exact ih (run.step call) (hkept.step call)

/-! ## What a journal tells -/

/-- What a journal with room for so many attempts holds and replies after its calls. -/
structure Remembers (run : JournalRun) (room : Nat) : Prop where
  /-- An id is recorded unless it is one of those that were recorded last. -/
  records_iff : ∀ id, (run.journal.answer (.record id)).1 = .record id (.ok ()) ↔
    id ∉ lastRecorded room run.events
  /-- These are refused, and nothing changes. -/
  refuses : ∀ id ∈ lastRecorded room run.events, run.journal.answer (.record id) =
    (.record id (.error (.alreadySubmitted id.text)), run.journal)
  /-- They alone can be completed. -/
  completes_iff : ∀ id finalStatus, (run.journal.answer (.complete id finalStatus)).1 =
    .complete id finalStatus (.ok ()) ↔ id ∈ lastRecorded room run.events
  /-- Other ids are unknown, and nothing changes. -/
  unknown : ∀ id ∉ lastRecorded room run.events, ∀ finalStatus,
    run.journal.answer (.complete id finalStatus) =
      (.complete id finalStatus (.error (.unknownAttempt id.text)), run.journal)
  /-- They alone are found. -/
  finds_iff : ∀ id, (run.journal.get? id).isSome = true ↔ id ∈ lastRecorded room run.events
  /-- What is found has the id and its last status. -/
  found : ∀ id attempt, run.journal.get? id = some attempt →
    attempt.clientOrderId = id ∧ StatusSince run.events id attempt.finalStatus
  /-- As many are remembered as were recorded and there is room for. -/
  size_eq : run.journal.size = min room (run.events.filterMap JournalEvent.recorded?).length
  /-- The queue and the attempts have the same ids, each of them once. -/
  inStep : run.journal.InStep
  /-- Room for another attempt is made in one round at most. -/
  makesRoom : ∃ rounds ≤ 1, run.journal.EndsAfter rounds

/-- As many ids are kept as there is room for, if as many were recorded. -/
theorem length_lastRecorded (room : Nat) (events : List JournalEvent) :
    (lastRecorded room events).length =
      min room (events.filterMap JournalEvent.recorded?).length := by
  unfold lastRecorded List.rtake
  rw [List.length_drop]
  omega

/-- What is kept is enough to answer by. -/
theorem Kept.remembers {run : JournalRun} {room : Nat} (h : run.Kept room) :
    run.Remembers room := by
  have hids := h.ids_eq
  have hlength : run.journal.queue.length =
      min room (run.events.filterMap JournalEvent.recorded?).length := by
    rw [h.queue_eq, length_lastRecorded]
  -- the journal answers by the ids in it, which by `hids` are those recorded last
  have hrefuses : ∀ id ∈ lastRecorded room run.events, run.journal.answer (.record id) =
      (.record id (.error (.alreadySubmitted id.text)), run.journal) := by
    intro id hid
    exact Journal.answer_record_error (Journal.record_eq_error_iff.mpr ⟨hids ▸ hid, rfl⟩)
  have hunknown : ∀ id ∉ lastRecorded room run.events, ∀ finalStatus,
      run.journal.answer (.complete id finalStatus) =
        (.complete id finalStatus (.error (.unknownAttempt id.text)), run.journal) := by
    intro id hid finalStatus
    exact Journal.answer_complete_error (Journal.complete_eq_error_iff.mpr ⟨hids ▸ hid, rfl⟩)
  refine
    { records_iff := fun id => ⟨fun hok hid => ?_, fun hid => ?_⟩
      refuses := hrefuses
      completes_iff := fun id finalStatus => ⟨fun hok => ?_, fun hid => ?_⟩
      unknown := hunknown
      finds_iff := fun id => by rw [Journal.isSome_get?_iff, hids]
      found := fun id attempt hfound => ?_
      size_eq := hlength
      inStep := h.inStep
      makesRoom := Journal.exists_endsAfter ?_ }
  · rw [hrefuses id hid] at hok
    cases hok
  · rw [Journal.answer_record_ok (Journal.record_eq_ok_iff.mpr ⟨hids ▸ hid, rfl⟩)]
  · by_contra hid
    rw [hunknown id hid finalStatus] at hok
    cases hok
  · rw [Journal.answer_complete_ok (Journal.complete_eq_ok_iff.mpr ⟨hids ▸ hid, rfl⟩)]
  · obtain ⟨hmem, rfl⟩ := Journal.mem_of_get? hfound
    exact ⟨rfl, h.status attempt hmem⟩
  · rw [hlength, h.capacity]
    exact Nat.min_le_left _ _

/-- **A journal remembers the attempts that were recorded last**, as many as it has room for, each
    with the status that it was completed with last. -/
theorem of_remembers (capacity : Nat) (calls : List JournalCall) :
    (of capacity calls).Remembers (Nat.max capacity 1) :=
  (of_kept capacity calls).remembers

/-- With room for one attempt, an id that was forgotten is recorded again, without the status that
    it had, and without the one that came while it was unknown. -/
example :
    (of 0 [.record ⟨"a"⟩, .complete ⟨"a"⟩ "filled", .record ⟨"b"⟩, .complete ⟨"a"⟩ "cancelled",
      .record ⟨"a"⟩]).journal.get? ⟨"a"⟩ = some ⟨⟨"a"⟩, none⟩ := by
  decide +kernel

end JournalRun

end LiveTrader
