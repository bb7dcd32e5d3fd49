import LiveTrader.Audit.Directory
import LiveTrader.Cycle.Scripted

/-!
  LiveTrader.Proofs.Redaction

  What masking leaves of a payload.  A member whose key marks a secret holds the mask, at any
  depth, and where no such key is on the way everything is as it was.  So payloads that differ
  only in their secrets make the same record, whichever sink writes it.
-/

namespace LiveTrader

/-! ## Parts of values -/

namespace Json

/-- A step into a value. -/
inductive Step where
  | item (index : Nat)
  | member (key : String)

/-- A step leads from a value to a part of it. -/
def HasPart : Step → Json → Json → Prop
  | .item index, .arr items, part => items[index]? = some part
  | .member key, .obj members, part => (key, part) ∈ members
  | _, _, _ => False

/-- The steps of a path lead from a value to what stands at the end of it. -/
def HoldsAt : List Step → Json → Json → Prop
  | [], v, part => part = v
  | step :: path, v, part => ∃ between, HasPart step v between ∧ HoldsAt path between part

/-- A value without the parts that steps lead to. -/
inductive Outline where
  | array (length : Nat)
  | object (keys : List String)
  | scalar (v : Json)

/-- The length of an array, the keys of an object, and any other value as it is. -/
def outline : Json → Outline
  | .arr items => .array items.length
  | .obj members => .object (members.map Prod.fst)
  | v => .scalar v

end Json

namespace Audit

open Json (Step HasPart HoldsAt)

/-! ## Keys -/

/-- A key has a marker in it once it is in lower case. -/
def MarksSecret (key : String) : Prop :=
  ∃ marker ∈ secretMarkers, marker.toList <:+: (Text.lower key).toList

/-- The search finds a part wherever it stands. -/
theorem occursIn_iff (part whole : List Char) : occursIn part whole = true ↔ part <:+: whole := by
  induction whole with
  | nil => simp [occursIn]
  | cons c rest ih =>
    rw [occursIn, Bool.or_eq_true, List.isPrefixOf_iff_prefix, ih, List.infix_cons_iff]

/-- A key is taken for a secret's if and only if a marker is in it, in any case. -/
theorem isSecretKey_iff (key : String) : isSecretKey key = true ↔ MarksSecret key := by
  simp only [isSecretKey, List.any_eq_true, occursIn_iff, MarksSecret]

/-! ## One level -/

/-- A member with its secrets masked. -/
def redactMember (member : String × Json) : String × Json :=
  (member.1, if isSecretKey member.1 then .str mask else redact member.2)

theorem redactItems_eq_map (items : List Json) : redactItems items = items.map redact := by
  induction items with
  | nil => rw [redactItems, List.map_nil]
  | cons v rest ih => rw [redactItems, List.map_cons, ih]

theorem redactMembers_eq_map (members : List (String × Json)) :
    redactMembers members = members.map redactMember := by
  induction members with
  | nil => rw [redactMembers, List.map_nil]
  | cons member rest ih => rw [redactMembers, List.map_cons, ih, redactMember]

@[simp] theorem redact_arr (items : List Json) : redact (.arr items) = .arr (items.map redact) := by
  rw [redact, redactItems_eq_map]

@[simp] theorem redact_obj (members : List (String × Json)) :
    redact (.obj members) = .obj (members.map redactMember) := by
  rw [redact, redactMembers_eq_map]

/-- Masking a value keeps its length, its keys, or all of it. -/
theorem outline_redact (v : Json) : (redact v).outline = v.outline := by
  cases v with
  | arr items => rw [redact_arr, Json.outline, Json.outline, List.length_map]
  | obj members =>
    have hkeys : (members.map redactMember).map Prod.fst = members.map Prod.fst := by
      rw [List.map_map]
      rfl
    rw [redact_obj, Json.outline, Json.outline, hkeys]
  | _ => rfl

/-- Under a key that marks a secret stands the mask. -/
theorem eq_mask_of_marksSecret {members : List (String × Json)} {key : String} {part : Json}
    (hpart : (key, part) ∈ members.map redactMember) (hkey : MarksSecret key) :
    part = .str mask := by
  obtain ⟨member, -, hmember⟩ := List.mem_map.mp hpart
  obtain ⟨rfl, rfl⟩ := Prod.mk.inj hmember
  exact if_pos ((isSecretKey_iff member.1).mpr hkey)

/-- A step does not go under a key that marks a secret. -/
def IsOpenStep : Step → Prop
  | .item _ => True
  | .member key => ¬ MarksSecret key

/-- A step to a key that marks no secret leads to the masked part. -/
theorem hasPart_redact_iff {step : Step} (hstep : IsOpenStep step) (v part : Json) :
    HasPart step (redact v) part ↔ ∃ u, HasPart step v u ∧ part = redact u := by
  -- by the step and by what it is taken in: an item is only in an array, a member only in an object
  cases step with
  | item index =>
    cases v with
    | arr items =>
      rw [redact_arr, HasPart, List.getElem?_map, Option.map_eq_some_iff]
      simp only [HasPart, eq_comm]
    | obj members => simp [HasPart]
    | _ => simp [redact, HasPart]
  | member key =>
    cases v with
    | arr items => simp [HasPart]
    | obj members =>
      have hkey : isSecretKey key = false := by
        -- members are masked one by one, and under this key the value is only descended into
        rw [Bool.eq_false_iff, Ne, isSecretKey_iff]
        exact hstep
      simp only [redact_obj, HasPart, List.mem_map, redactMember]
      constructor
      · rintro ⟨⟨k, u⟩, hmember, heq⟩
        obtain ⟨rfl, rfl⟩ := Prod.mk.inj heq
        exact ⟨u, hmember, by simp [hkey]⟩
      · rintro ⟨u, hmember, rfl⟩
        exact ⟨(key, u), hmember, by simp [hkey]⟩
    | _ => simp [redact, HasPart]

/-- Whatever a step into a masked value leads to is masked itself. -/
theorem exists_redact_of_hasPart {step : Step} {v part : Json}
    (hpart : HasPart step (redact v) part) : ∃ u, part = redact u := by
  by_cases hstep : IsOpenStep step
  · obtain ⟨u, -, rfl⟩ := (hasPart_redact_iff hstep v part).mp hpart
    exact ⟨u, rfl⟩
  · cases step with
    | item index => exact absurd trivial hstep
    | member key =>
      cases v with
      | obj members =>
        rw [redact_obj] at hpart
        -- under a secret key stands the mask, which masking leaves as it is
        exact ⟨.str mask, eq_mask_of_marksSecret hpart (Classical.not_not.mp hstep)⟩
      | _ => simp [redact, HasPart] at hpart

/-! ## Any depth -/

/-- No key on a path marks a secret. -/
def IsOpen (path : List Step) : Prop :=
  ∀ step ∈ path, IsOpenStep step

/-- Whatever a path leads to is masked itself. -/
theorem exists_redact_of_holdsAt {path : List Step} {v part : Json}
    (hpart : HoldsAt path (redact v) part) : ∃ u, part = redact u := by
  induction path generalizing v with
  | nil => exact ⟨v, hpart⟩
  | cons step path ih =>
    obtain ⟨between, hstep, hrest⟩ := hpart
    obtain ⟨u, rfl⟩ := exists_redact_of_hasPart hstep
    exact ih hrest

/-- A path without secrets leads to the masked part, at any depth. -/
theorem holdsAt_redact_iff {path : List Step} (hpath : IsOpen path) (v part : Json) :
    HoldsAt path (redact v) part ↔ ∃ u, HoldsAt path v u ∧ part = redact u := by
  induction path generalizing v with
  | nil => simp [HoldsAt]
  | cons step path ih =>
    have hstep : IsOpenStep step := hpath step List.mem_cons_self
    have hrest : IsOpen path := fun s hs => hpath s (List.mem_cons_of_mem step hs)
    simp only [HoldsAt, hasPart_redact_iff hstep]
    constructor
    · rintro ⟨_, ⟨between, hbetween, rfl⟩, hpart⟩
      obtain ⟨u, hu, rfl⟩ := (ih hrest between).mp hpart
      exact ⟨u, ⟨between, hbetween, hu⟩, rfl⟩
    · rintro ⟨u, ⟨between, hbetween, hu⟩, rfl⟩
      exact ⟨redact between, ⟨between, hbetween, rfl⟩, (ih hrest between).mpr ⟨u, hu, rfl⟩⟩

/-- A value with its secrets masked: nothing else of it is hidden or changed. -/
structure IsRedaction (v masked : Json) : Prop where
  /-- Objects hold the mask under each key that marks a secret. -/
  hides : ∀ path members key part, HoldsAt path masked (.obj members) →
    (key, part) ∈ members → MarksSecret key → part = .str mask
  /-- Elsewhere scalars, the lengths of arrays and the keys of objects are the same. -/
  keeps : ∀ path, IsOpen path → ∀ outline,
    (∃ part, HoldsAt path masked part ∧ part.outline = outline) ↔
      ∃ part, HoldsAt path v part ∧ part.outline = outline

theorem isRedaction_redact (v : Json) : IsRedaction v (redact v) where
  hides path members key part hobject hmember hkey := by
    -- the path may lead anywhere: wherever an object stands it was made from one by masking
    obtain ⟨u, hu⟩ := exists_redact_of_holdsAt hobject
    cases u with
    | obj members' =>
      rw [redact_obj, Json.obj.injEq] at hu
      subst hu
      exact eq_mask_of_marksSecret hmember hkey
    | _ => simp [redact] at hu
  keeps path hpath outline := by
    simp only [holdsAt_redact_iff hpath]
    constructor
    · rintro ⟨_, ⟨u, hu, rfl⟩, houtline⟩
      exact ⟨u, hu, (outline_redact u).symm.trans houtline⟩
    · rintro ⟨u, hu, houtline⟩
      exact ⟨redact u, ⟨u, hu, rfl⟩, (outline_redact u).trans houtline⟩

/-! ## Values that differ in their secrets -/

mutual

/-- Two values differ at most under keys that mark secrets. -/
inductive Agree : Json → Json → Prop
  | same (v : Json) : Agree v v
  | arr {items items' : List Json} (h : AgreeItems items items') :
    Agree (.arr items) (.arr items')
  | obj {members members' : List (String × Json)} (h : AgreeMembers members members') :
    Agree (.obj members) (.obj members')

/-- Two lists of values differ at most under keys that mark secrets. -/
inductive AgreeItems : List Json → List Json → Prop
  | nil : AgreeItems [] []
  | cons {v v' : Json} {items items' : List Json} (h : Agree v v')
    (hrest : AgreeItems items items') : AgreeItems (v :: items) (v' :: items')

/-- Two lists of members differ at most under keys that mark secrets. -/
inductive AgreeMembers : List (String × Json) → List (String × Json) → Prop
  | nil : AgreeMembers [] []
  | shown {v v' : Json} {members members' : List (String × Json)} (key : String)
    (h : Agree v v') (hrest : AgreeMembers members members') :
    AgreeMembers ((key, v) :: members) ((key, v') :: members')
  | secret {members members' : List (String × Json)} (key : String) (hkey : MarksSecret key)
    (v v' : Json) (hrest : AgreeMembers members members') :
    AgreeMembers ((key, v) :: members) ((key, v') :: members')

end

mutual

theorem Agree.redact_eq {v w : Json} : Agree v w → redact v = redact w
  | .same _ => rfl
  | .arr h => by rw [redact, redact, h.redactItems_eq]
  | .obj h => by rw [redact, redact, h.redactMembers_eq]

theorem AgreeItems.redactItems_eq {items items' : List Json} :
    AgreeItems items items' → redactItems items = redactItems items'
  | .nil => rfl
  | .cons h hrest => by rw [redactItems, redactItems, h.redact_eq, hrest.redactItems_eq]

theorem AgreeMembers.redactMembers_eq {members members' : List (String × Json)} :
    AgreeMembers members members' → redactMembers members = redactMembers members'
  | .nil => rfl
  | .shown key h hrest => by
    rw [redactMembers, redactMembers, h.redact_eq, hrest.redactMembers_eq]
  | .secret key hkey v v' hrest => by
    have hsecret : isSecretKey key = true := (isSecretKey_iff key).mpr hkey
    rw [redactMembers, redactMembers, if_pos hsecret, if_pos hsecret, hrest.redactMembers_eq]

end

mutual

/-- Masking changes nothing but secrets. -/
theorem agree_redact : (v : Json) → Agree v (redact v)
  | .obj members => by
    rw [redact]
    exact .obj (agreeMembers_redactMembers members)
  | .arr items => by
    rw [redact]
    exact .arr (agreeItems_redactItems items)
  | .null => .same _
  | .bool _ => .same _
  | .int _ => .same _
  | .float _ => .same _
  | .str _ => .same _

theorem agreeItems_redactItems : (items : List Json) → AgreeItems items (redactItems items)
  | [] => .nil
  | v :: rest => .cons (agree_redact v) (agreeItems_redactItems rest)

theorem agreeMembers_redactMembers :
    (members : List (String × Json)) → AgreeMembers members (redactMembers members)
  | [] => .nil
  | (key, v) :: rest => by
    rw [redactMembers]
    split
    case isTrue hkey =>
      exact .secret key ((isSecretKey_iff key).mp hkey) _ _ (agreeMembers_redactMembers rest)
    case isFalse => exact .shown key (agree_redact v) (agreeMembers_redactMembers rest)

end

theorem redact_redact (v : Json) : redact (redact v) = redact v :=
  (agree_redact v).redact_eq.symm

/-! ## Records -/

/-- Two payloads leave the same traces in an audit log. -/
structure WrittenAlike (v w : Json) : Prop where
  /-- Their records are the same but for the id and the time. -/
  records : ∀ id time id' time' eventType,
    (AuditRecord.of id time eventType v).event = (AuditRecord.of id' time' eventType w).event
  /-- The same line is appended to a log, through whatever operations its files have. -/
  files : ∀ (m : Type → Type) [Monad m] (files : FileOperations m) policy id time eventType,
    AuditLog.appendTo files policy (AuditRecord.of id time eventType v).line =
      AuditLog.appendTo files policy (AuditRecord.of id time eventType w).line
  /-- The same is kept in memory. -/
  memory : ∀ (σ : Type) eventType,
    @ScriptedSurroundings.audit σ eventType v = ScriptedSurroundings.audit eventType w

/-- Only the masked payload goes into records, files and memory. -/
theorem writtenAlike_of_redact_eq {v w : Json} (h : redact v = redact w) : WrittenAlike v w where
  records id time id' time' eventType := by
    simp only [AuditRecord.of, AuditRecord.event, h]
  files m _ files policy id time eventType := by
    simp only [AuditRecord.of, h]
  memory σ eventType := by
    funext s
    simp only [ScriptedSurroundings.audit, h]

/-- **A log shows all of a payload but its secrets.**  Masking puts the mask in the place of
    each secret, at any depth, and keeps everything else; a second time it changes nothing.
    Payloads that differ only in their secrets cannot be told apart by what is written of them. -/
theorem redact_hides_secrets_only (v : Json) :
    IsRedaction v (redact v) ∧ redact (redact v) = redact v ∧
      ∀ w, Agree v w → redact v = redact w ∧ WrittenAlike v w := by
  refine ⟨isRedaction_redact v, redact_redact v, fun w hagree => ?_⟩
  have hsame : redact v = redact w := hagree.redact_eq
  exact ⟨hsame, writtenAlike_of_redact_eq hsame⟩

end Audit

end LiveTrader
