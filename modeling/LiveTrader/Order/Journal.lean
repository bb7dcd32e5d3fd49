import LiveTrader.Order.Basic

/-!
  LiveTrader.Order.Journal

  The journal of order attempts.  An attempt is recorded under its client order id
  before the exchange is called, and an id that the journal remembers is refused, so
  that a repeated cycle cannot send an order twice.  The oldest attempts are
  forgotten once the journal is full: their ids are kept in a queue beside them.
-/

namespace LiveTrader

/-- A refused entry of the journal. -/
inductive JournalError
  /-- The id is among the remembered ones. -/
  | alreadySubmitted (id : String)
  /-- The id is not among the remembered ones. -/
  | unknownAttempt (id : String)
  deriving DecidableEq

/-- The word for a kind of error. -/
def JournalError.kind : JournalError → String
  | alreadySubmitted _ => "AlreadySubmitted"
  | unknownAttempt _ => "UnknownAttempt"

/-- The error in one line. -/
def JournalError.message : JournalError → String
  | alreadySubmitted id => "Order already submitted: " ++ id
  | unknownAttempt id => "Unknown order attempt: " ++ id

/-- One order attempt. -/
structure OrderAttempt where
  clientOrderId : ClientOrderId
  /-- The order's last status, once it is no longer followed. -/
  finalStatus : Option String
  deriving DecidableEq

/-- Whether the order is no longer followed. -/
def OrderAttempt.isComplete (a : OrderAttempt) : Bool :=
  a.finalStatus.isSome

/-- An attempt as a record. -/
def OrderAttempt.toJson (a : OrderAttempt) : Json :=
  .object [
    ("client_order_id", .str a.clientOrderId.text),
    ("final_status", .ofOption .str a.finalStatus),
    ("is_complete", .bool a.isComplete)]

/-- The remembered attempts. -/
structure Journal where
  /-- How many attempts are remembered. -/
  capacity : Nat
  capacity_pos : 0 < capacity
  /-- The ids of the remembered attempts, oldest first. -/
  queue : List ClientOrderId
  /-- The remembered attempts, each under its id. -/
  attempts : List OrderAttempt
  deriving DecidableEq

namespace Journal

/-- How many attempts are remembered unless said otherwise. -/
abbrev defaultCapacity : Nat := 1024

/-- An empty journal for at least one attempt. -/
def empty (capacity : Nat) : Journal :=
  ⟨Nat.max capacity 1, Nat.le_max_right capacity 1, [], []⟩

/-- The attempt with this id. -/
def get? (j : Journal) (id : ClientOrderId) : Option OrderAttempt :=
  j.attempts.find? fun a => a.clientOrderId == id

/-! ## Making room -/

/-- Whether there is no room for another attempt. -/
def isFull (j : Journal) : Bool := j.capacity ≤ j.queue.length

/-- Forgets the attempt that was recorded first. -/
def forgetOldest (j : Journal) : Journal :=
  match j.queue with
  | [] => j
  | oldest :: later =>
    { j with
      queue := later
      attempts := j.attempts.filter fun a => a.clientOrderId ≠ oldest }

theorem length_queue_forgetOldest {j : Journal} (h : j.isFull = true) :
    j.forgetOldest.queue.length < j.queue.length := by
  unfold forgetOldest
  split
  case h_1 hnil =>
    -- there is always room in an empty journal
    have hle : j.capacity ≤ j.queue.length := of_decide_eq_true h
    have hpos : 0 < j.capacity := j.capacity_pos
    rw [hnil, List.length_nil] at hle
    omega
  case h_2 hcons => simp [hcons]

/-- Forgets the oldest attempts until there is room for another one. -/
def makeRoom (j : Journal) : Journal :=
  if j.isFull then j.forgetOldest.makeRoom else j
termination_by j.queue.length
decreasing_by exact length_queue_forgetOldest ‹_›

/-! ## Entries -/

/-- Remembers an attempt under a new id. -/
def add (j : Journal) (id : ClientOrderId) : Journal :=
  { j with
    queue := j.queue ++ [id]
    attempts := j.attempts ++ [⟨id, none⟩] }

/-- Records an attempt, forgetting the oldest ones where there is no room. -/
def record (j : Journal) (id : ClientOrderId) : Except JournalError Journal :=
  if (j.get? id).isSome then .error (.alreadySubmitted id.text)
  else .ok (j.makeRoom.add id)

/-- Notes the last status of an attempt. -/
def complete (j : Journal) (id : ClientOrderId) (finalStatus : String) :
    Except JournalError Journal :=
  if (j.get? id).isSome then
    .ok { j with attempts := j.attempts.map fun a =>
      if a.clientOrderId = id then { a with finalStatus := some finalStatus } else a }
  else .error (.unknownAttempt id.text)

/-- The number of remembered attempts. -/
def size (j : Journal) : Nat := j.queue.length

end Journal

/-! ## Operations -/

/-- The operations of a journal, with effects of `m`. -/
structure JournalAccess (m : Type → Type) where
  /-- Records an attempt under this id. -/
  record : ClientOrderId → m (Except JournalError Unit)
  /-- Notes the last status of the attempt under this id. -/
  complete : ClientOrderId → String → m (Except JournalError Unit)

/-- The same operations where more effects are possible. -/
def JournalAccess.lift {m n : Type → Type} (lift : {α : Type} → m α → n α)
    (j : JournalAccess m) : JournalAccess n where
  record id := lift (j.record id)
  complete id finalStatus := lift (j.complete id finalStatus)

namespace Journal

/-- Takes what a change makes of the journal in the state.  A refused change leaves it as
    it is. -/
def apply (change : Journal → Except JournalError Journal) :
    StateM Journal (Except JournalError Unit) := fun j =>
  match change j with
  | .ok j => (.ok (), j)
  | .error e => (.error e, j)

/-- The operations on a journal that is kept in the state. -/
def access : JournalAccess (StateM Journal) where
  record id := apply fun j => j.record id
  complete id finalStatus := apply fun j => j.complete id finalStatus

end Journal

end LiveTrader
