import Mathlib.Data.List.Induction
import LiveTrader.Audit.Directory
import LiveTrader.Proofs.Lines

/-!
  LiveTrader.Proofs.Rotation

  Rotation of the audit log.  The files of a log are its generations: the current file,
  and after it the rotated ones by their index.  The moves of a rotation shift the
  generations up by one and drop the last, whichever of them exist.

  A log is then a list of groups of records, one for each file, the newest first.  That the
  directory holds such groups is kept by every append, and everything else about the log is
  read off the groups: which files there are, how long they are, and that their lines are
  those of the latest records.
-/

namespace LiveTrader

/-! ## Generations -/

namespace AuditLog

/-- The names of the files, the newest file first. -/
def generation : Nat → String
  | 0 => fileName
  | index + 1 => rotatedName (index + 1)

theorem rotatedName_inj {i j : Nat} (h : rotatedName i = rotatedName j) : i = j := by
  have hdigits : Text.digits i = Text.digits j := by
    have hchars := String.ofList_injective h
    simpa using hchars
  unfold Text.digits at hdigits
  calc i = Nat.ofDigitChars 10 (Nat.toDigits 10 i) 0 := Nat.ofDigitChars_ten_toDigits.symm
    _ = j := by rw [hdigits, Nat.ofDigitChars_ten_toDigits]

/-- No rotated file has the name of the current one. -/
theorem rotatedName_ne_fileName (index : Nat) : rotatedName index ≠ fileName := by
  intro h
  have hlength := congrArg (fun name => name.toList.length) h
  simp [rotatedName] at hlength

theorem generation_inj {i j : Nat} (h : generation i = generation j) : i = j := by
  cases i with
  | zero =>
    cases j with
    | zero => rfl
    | succ j => exact absurd h.symm (rotatedName_ne_fileName _)
  | succ i =>
    cases j with
    | zero => exact absurd h (rotatedName_ne_fileName _)
    | succ j => exact rotatedName_inj h

/-- A rotation removes the oldest generation and renames the others, from the oldest on. -/
theorem moves_eq (retention : Nat) :
    moves retention = .remove (generation retention) ::
      (List.range retention).reverse.map fun i => .rename (generation i) (generation (i + 1)) := by
  cases retention with
  | zero => rfl
  | succ n =>
    -- the current file is generation zero, and has a name of its own
    have hindexes : List.range (n + 1) = 0 :: List.range' 1 n := by
      rw [List.range_eq_range', List.range'_succ]
    rw [moves, if_neg (Nat.succ_ne_zero n), hindexes, List.reverse_cons, List.map_append]
    dsimp only
    have hrotated : ∀ i ∈ (List.range' 1 n).reverse,
        Move.rename (rotatedName i) (rotatedName (i + 1)) =
          .rename (generation i) (generation (i + 1)) := by
      intro i hi
      obtain ⟨j, rfl⟩ : ∃ j, i = j + 1 := by
        rw [List.mem_reverse, List.mem_range'_1] at hi
        exact ⟨i - 1, by omega⟩
      rfl
    rw [Nat.add_sub_cancel, List.map_congr_left hrotated]
    rfl

example : moves 2 = [.remove "audit_events.jsonl.2",
    .rename "audit_events.jsonl.1" "audit_events.jsonl.2",
    .rename "audit_events.jsonl" "audit_events.jsonl.1"] := by
  decide

end AuditLog

namespace Directory

open AuditLog (generation generation_inj)

/-! ## Moves -/

section Moves

variable {d d' : Directory} {n k : Nat}

theorem file?_put (d : Directory) (name : String) (file : Option (List UInt8)) (n : String) :
    (d.put name file).file? n = if n = name then file else d.file? n :=
  rfl

/-- The generations from `k` on, the last of which is `n`, have been shifted. -/
structure Shifted (n k : Nat) (d d' : Directory) : Prop where
  below : ∀ i < k, d'.file? (generation i) = d.file? (generation i)
  gap : d'.file? (generation k) = none
  above : ∀ i, k ≤ i → i < n → d'.file? (generation (i + 1)) = d.file? (generation i)
  others : ∀ name, (∀ i ≤ n, name ≠ generation i) → d'.file? name = d.file? name

/-- Removing the oldest file leaves room for the one before it. -/
theorem shifted_remove (n : Nat) (d : Directory) :
    Shifted n n d (d.move (.remove (generation n))) where
  below i hi := by
    have hne : generation i ≠ generation n := fun h => by have := generation_inj h; omega
    rw [move, file?_put, if_neg hne]
  gap := by rw [move, file?_put, if_pos rfl]
  above i hle hlt := absurd hlt (Nat.not_lt.mpr hle)
  others name hname := by rw [move, file?_put, if_neg (hname n (Nat.le_refl n))]

/-- A file that does not exist leaves a gap as one that is moved does. -/
theorem Shifted.rename (h : Shifted n (k + 1) d d') (hk : k < n) :
    Shifted n k d (d'.move (.rename (generation k) (generation (k + 1)))) := by
  -- all that is asked below follows from what is read under any name after the move
  have hread : ∀ name, (d'.move (.rename (generation k) (generation (k + 1)))).file? name =
      if name = generation (k + 1) then d.file? (generation k)
      else if name = generation k then none else d'.file? name := by
    intro name
    rw [← h.below k (Nat.lt_succ_self k)]
    cases hfile : d'.file? (generation k) with
    | none =>
      simp only [move, hfile]
      split
      case isTrue heq => rw [heq, h.gap]
      case isFalse =>
        split
        case isTrue heq => rw [heq, hfile]
        case isFalse => rfl
    | some bytes => simp only [move, hfile, file?_put]
  have hne : ∀ {i j : Nat}, i ≠ j → generation i ≠ generation j := fun hij he =>
    hij (generation_inj he)
  constructor
  case below =>
    intro i hi
    rw [hread, if_neg (hne (by omega)), if_neg (hne (by omega))]
    exact h.below i (by omega)
  case gap => rw [hread, if_neg (hne (by omega)), if_pos rfl]
  case above =>
    intro i hle hlt
    by_cases hi : i = k
    · rw [hread, hi, if_pos rfl]
    · rw [hread, if_neg (hne (by omega)), if_neg (hne (by omega))]
      exact h.above i (by omega) hlt
  case others =>
    intro name hname
    rw [hread, if_neg (hname _ hk), if_neg (hname _ (Nat.le_of_lt hk))]
    exact h.others name hname

/-- **A rotation shifts all generations.** -/
theorem shifted_moves (n : Nat) (d : Directory) :
    Shifted n 0 d ((AuditLog.moves n).foldl move d) := by
  rw [AuditLog.moves_eq, List.foldl_cons]
  -- the generations are renamed from the oldest on, so that each finds a gap above it
  have hrenames : ∀ k ≤ n, ∀ d', Shifted n k d d' → Shifted n 0 d
      (((List.range k).reverse.map fun i => .rename (generation i) (generation (i + 1))).foldl
        move d') := by
    intro k
    induction k with
    | zero => exact fun _ d' h => h
    | succ k ih =>
      intro hk d' h
      rw [List.range_succ, List.reverse_append, List.reverse_singleton, List.singleton_append,
        List.map_cons, List.foldl_cons]
      exact ih (Nat.le_of_lt hk) _ (h.rename hk)
  exact hrenames n (Nat.le_refl n) _ (shifted_remove n d)

end Moves

/-! ## Groups of records -/

variable {policy : RotationPolicy} {groups : List (List AuditRecord)} {d : Directory} {n : Nat}

/-- What a file with these records consists of. -/
def bytesOf (records : List AuditRecord) : List UInt8 := records.flatMap AuditRecord.line

/-- The records of the files once another is appended, the newest file first. -/
def regroup (policy : RotationPolicy) (groups : List (List AuditRecord)) (r : AuditRecord) :
    List (List AuditRecord) :=
  match groups with
  | [] => [[r]]
  | newest :: older =>
    if policy.maxBytes < (bytesOf newest).length + r.line.length then
      [r] :: (newest :: older).take policy.retention
    else (newest ++ [r]) :: older

/-- What is known of the records of the files: no file is empty, there are not too many, and
    none grows past the limit except by its first record. -/
structure Allowed (policy : RotationPolicy) (groups : List (List AuditRecord)) : Prop where
  nonempty : ∀ g ∈ groups, g ≠ []
  count : groups.length ≤ policy.retention + 1
  bounded : ∀ g ∈ groups, (bytesOf g).length ≤ policy.maxBytes ∨ ∃ r, g = [r]

/-- The files of a directory, the newest first, hold these records, and there are no others. -/
structure Holds (groups : List (List AuditRecord)) (d : Directory) : Prop where
  file : ∀ i, d.file? (generation i) = groups[i]?.map bytesOf
  others : ∀ name, (∀ i, name ≠ generation i) → d.file? name = none

theorem bytesOf_concat (g : List AuditRecord) (r : AuditRecord) :
    bytesOf (g ++ [r]) = bytesOf g ++ r.line := by
  simp [bytesOf]

theorem length_bytesOf_pos {g : List AuditRecord} (h : g ≠ []) : 0 < (bytesOf g).length := by
  obtain ⟨r, rs, rfl⟩ := List.exists_cons_of_ne_nil h
  have hline : 0 < r.line.length := by
    rw [AuditRecord.line_eq, List.length_append]
    exact Nat.succ_pos _
  rw [bytesOf, List.flatMap_cons, List.length_append]
  omega

/-- The moves of a rotation are made one after the other. -/
theorem run_moves (moves : List AuditLog.Move) (d : Directory) :
    ((moves.forM operations.move).run d).2 = moves.foldl move d := by
  induction moves generalizing d with
  | nil => rfl
  | cons m ms ih => exact ih (d.move m)

/-- A record is appended behind a rotation, if one is due. -/
theorem append_eq (policy : RotationPolicy) (d : Directory) (r : AuditRecord) :
    d.append policy r =
      (if (⟨d.file? AuditLog.fileName, []⟩ : AuditLog).isFullFor policy r.line then
        (AuditLog.moves policy.retention).foldl move d else d).extend AuditLog.fileName r.line := by
  -- the current file is read first, which changes nothing
  change ((if (⟨d.file? AuditLog.fileName, []⟩ : AuditLog).isFullFor policy r.line then _
    else _ : StateM Directory Unit).run d).2 = _
  rw [← run_moves]
  split
  · rfl
  · rfl

/-! ## Appends -/

section Appends

variable {newest : List AuditRecord} {older : List (List AuditRecord)} {r : AuditRecord}

/-- A record that does not fit begins a new newest group, and only so many older ones are kept. -/
theorem regroup_full (h : policy.maxBytes < (bytesOf newest).length + r.line.length) :
    regroup policy (newest :: older) r = [r] :: (newest :: older).take policy.retention :=
  if_pos h

/-- A record that fits joins the newest group. -/
theorem regroup_fits (h : ¬ policy.maxBytes < (bytesOf newest).length + r.line.length) :
    regroup policy (newest :: older) r = (newest ++ [r]) :: older :=
  if_neg h

/-- A file with records is full as soon as the next line does not fit. -/
theorem isFullFor_iff {log : AuditLog} (hcurrent : log.current = some (bytesOf newest))
    (hnonempty : newest ≠ []) (line : List UInt8) :
    log.isFullFor policy line ↔ policy.maxBytes < (bytesOf newest).length + line.length := by
  have hsize : log.size = (bytesOf newest).length := by
    rw [AuditLog.size, hcurrent, Option.getD_some]
  rw [AuditLog.isFullFor, hsize, Bool.and_eq_true, decide_eq_true_iff, decide_eq_true_iff]
  exact and_iff_right (length_bytesOf_pos hnonempty)

/-- Appending keeps files to their size and to their number. -/
theorem Allowed.regroup (h : Allowed policy groups) (r : AuditRecord) :
    Allowed policy (regroup policy groups r) := by
  have hmem : ∀ g ∈ groups.take policy.retention, g ∈ groups := fun g => List.mem_of_mem_take
  cases groups with
  | nil => exact ⟨by simp [Directory.regroup], by simp [Directory.regroup],
      by simp [Directory.regroup]⟩
  | cons newest older =>
    -- a record that does not fit begins a group, and the oldest group gives way to it
    by_cases hfull : policy.maxBytes < (bytesOf newest).length + r.line.length
    · rw [regroup_full hfull]
      refine ⟨?_, ?_, ?_⟩
      · exact List.forall_mem_cons.mpr ⟨List.cons_ne_nil _ _, fun g hg => h.nonempty g (hmem g hg)⟩
      · rw [List.length_cons, List.length_take]
        omega
      · exact List.forall_mem_cons.mpr ⟨.inr ⟨r, rfl⟩, fun g hg => h.bounded g (hmem g hg)⟩
    · rw [regroup_fits hfull]
      have hnonempty := List.forall_mem_cons.mp h.nonempty
      have hbounded := List.forall_mem_cons.mp h.bounded
      refine ⟨?_, h.count, ?_⟩
      · exact List.forall_mem_cons.mpr ⟨by simp, hnonempty.2⟩
      · refine List.forall_mem_cons.mpr ⟨.inl ?_, hbounded.2⟩
        rw [bytesOf_concat, List.length_append]
        omega

theorem generation_succ_ne (i : Nat) : generation (i + 1) ≠ AuditLog.fileName :=
  AuditLog.rotatedName_ne_fileName (i + 1)

/-- Once a line is written, the current file holds another record. -/
theorem holds_extend (hcurrent : (d.file? AuditLog.fileName).getD [] ++ r.line = bytesOf newest)
    (hrotated : ∀ i, d.file? (generation (i + 1)) = older[i]?.map bytesOf)
    (hothers : ∀ name, (∀ i, name ≠ generation i) → d.file? name = none) :
    Holds (newest :: older) (d.extend AuditLog.fileName r.line) := by
  constructor
  case file =>
    intro i
    cases i with
    | zero =>
      rw [extend, file?_put, hcurrent]
      exact if_pos rfl
    | succ i =>
      rw [extend, file?_put, if_neg (generation_succ_ne i)]
      exact hrotated i
  case others =>
    intro name hname
    have hne : name ≠ AuditLog.fileName := hname 0
    rw [extend, file?_put, if_neg hne]
    exact hothers name hname

/-- After a rotation the groups have moved up, and there is no place for one that would come
    after the last index. -/
theorem Holds.rotated {d' : Directory} (h : Holds groups d) (hcount : groups.length ≤ n + 1)
    (hshift : Shifted n 0 d d') (i : Nat) :
    d'.file? (generation (i + 1)) = (groups.take n)[i]?.map bytesOf := by
  by_cases hi : i < n
  · rw [hshift.above i (Nat.zero_le i) hi, h.file, List.getElem?_take_of_lt hi]
  · have hother : ∀ j ≤ n, generation (i + 1) ≠ generation j := fun j hj he => by
      have := generation_inj he
      omega
    have htake : (groups.take n).length ≤ i := by
      rw [List.length_take]
      omega
    rw [hshift.others _ hother, h.file, List.getElem?_eq_none htake,
      List.getElem?_eq_none (by omega)]

/-- **Every append regroups the records.** -/
theorem Holds.append (h : Holds groups d) (hallowed : Allowed policy groups) (r : AuditRecord) :
    Holds (Directory.regroup policy groups r) (d.append policy r) := by
  have hcurrent : d.file? AuditLog.fileName = groups[0]?.map bytesOf := h.file 0
  rw [append_eq]
  cases groups with
  | nil =>
    -- an empty file is never rotated, however long the line is
    have hfits : ¬ (⟨d.file? AuditLog.fileName, []⟩ : AuditLog).isFullFor policy r.line := by
      simp [AuditLog.isFullFor, AuditLog.size, hcurrent]
    rw [if_neg hfits]
    exact holds_extend (by simp [hcurrent, bytesOf]) (fun i => h.file (i + 1)) h.others
  | cons newest older =>
    have hiff : (⟨d.file? AuditLog.fileName, []⟩ : AuditLog).isFullFor policy r.line ↔
        policy.maxBytes < (bytesOf newest).length + r.line.length :=
      isFullFor_iff hcurrent (hallowed.nonempty newest List.mem_cons_self) r.line
    by_cases hfull : policy.maxBytes < (bytesOf newest).length + r.line.length
    · -- the moves leave a gap, where the line makes a new file
      have hshift := shifted_moves policy.retention d
      have hgap : ((AuditLog.moves policy.retention).foldl move d).file? AuditLog.fileName = none :=
        hshift.gap
      rw [if_pos (hiff.mpr hfull), regroup_full hfull]
      refine holds_extend (by simp [hgap, bytesOf]) (h.rotated hallowed.count hshift) ?_
      intro name hname
      rw [hshift.others name fun i _ => hname i]
      exact h.others name hname
    · rw [if_neg (mt hiff.mp hfull), regroup_fits hfull]
      refine holds_extend ?_ (fun i => h.file (i + 1)) h.others
      rw [hcurrent, bytesOf_concat]
      rfl

/-- The records of the files once all these were appended. -/
def groupsOf (policy : RotationPolicy) (records : List AuditRecord) : List (List AuditRecord) :=
  records.foldl (regroup policy) []

theorem of_concat (policy : RotationPolicy) (records : List AuditRecord) (r : AuditRecord) :
    Directory.of policy (records ++ [r]) = (Directory.of policy records).append policy r :=
  List.foldl_concat ..

theorem groupsOf_concat (policy : RotationPolicy) (records : List AuditRecord)
    (r : AuditRecord) :
    groupsOf policy (records ++ [r]) = regroup policy (groupsOf policy records) r :=
  List.foldl_concat ..

/-- However many records there are, files keep to their size and to their number. -/
theorem allowed_groupsOf (policy : RotationPolicy) (records : List AuditRecord) :
    Allowed policy (groupsOf policy records) := by
  induction records using List.reverseRecOn with
  | nil => exact ⟨by simp [groupsOf], by simp [groupsOf], by simp [groupsOf]⟩
  | append_singleton records r ih =>
    rw [groupsOf_concat]
    exact ih.regroup r

theorem holds_of (policy : RotationPolicy) (records : List AuditRecord) :
    Holds (groupsOf policy records) (Directory.of policy records) := by
  induction records using List.reverseRecOn with
  | nil => exact ⟨fun _ => rfl, fun _ _ => rfl⟩
  | append_singleton records r ih =>
    rw [of_concat, groupsOf_concat]
    exact ih.append (allowed_groupsOf policy records) r

end Appends

/-! ## Kept records -/

end Directory

/-! ## Logs as lists of files -/

namespace AuditLog

open Directory (Holds Allowed bytesOf regroup groupsOf)

variable {policy : RotationPolicy} {groups : List (List AuditRecord)} {d : Directory}

/-- The log whose files hold these records. -/
def ofGroups (groups : List (List AuditRecord)) : AuditLog where
  current := groups.head?.map bytesOf
  rotated := (groups.tail.zipIdx 1).map fun file => (file.2, bytesOf file.1)

/-- Files whose indexes are in use move up; there is none for what would come after the last. -/
theorem filterMap_shift (groups : List (List AuditRecord)) {n k : Nat} (hk : 1 ≤ k)
    (hcount : groups.length + k ≤ n + 1) :
    ((groups.zipIdx k).map fun file => (file.2, bytesOf file.1)).filterMap (shift n) =
      ((groups.take (n - k)).zipIdx (k + 1)).map fun file => (file.2, bytesOf file.1) := by
  -- on the groups; the one with the last number is dropped, and it is the last of the list
  induction groups generalizing k with
  | nil => simp
  | cons g gs ih =>
    rw [List.length_cons] at hcount
    rw [List.zipIdx_cons, List.map_cons, List.filterMap_cons]
    by_cases hlast : k = n
    · obtain rfl : gs = [] := List.eq_nil_of_length_eq_zero (by omega)
      simp [shift, hlast]
    · have hshift : shift n (k, bytesOf g) = some (k + 1, bytesOf g) := by
        rw [shift, if_neg hlast, if_pos ⟨hk, by omega⟩]
      obtain ⟨m, hm⟩ : ∃ m, n - k = m + 1 := ⟨n - k - 1, by omega⟩
      have hrest : n - (k + 1) = m := by omega
      rw [ih (by omega) (by omega), hm, hrest, List.take_succ_cons, List.zipIdx_cons,
        List.map_cons]
      simp only [hshift]

/-- On groups a rotation moves every file up by one and drops the oldest. -/
theorem rotate_ofGroups {newest : List AuditRecord} {older : List (List AuditRecord)} {n : Nat}
    (hcount : older.length ≤ n) :
    rotate n (ofGroups (newest :: older)) =
      ⟨none, (((newest :: older).take n).zipIdx 1).map fun file => (file.2, bytesOf file.1)⟩ := by
  cases n with
  | zero =>
    obtain rfl : older = [] := List.eq_nil_of_length_eq_zero (by omega)
    rfl
  | succ n =>
    have hshift := filterMap_shift older (Nat.le_refl 1) (Nat.succ_le_succ hcount)
    rw [rotate, if_neg (Nat.succ_ne_zero n), List.take_succ_cons, List.zipIdx_cons, List.map_cons]
    exact congrArg (AuditLog.mk none) (congrArg (_ :: ·) hshift)

/-- On groups an append is a regrouping. -/
theorem append_ofGroups (hallowed : Allowed policy groups) (r : AuditRecord) :
    (ofGroups groups).append policy r.line = ofGroups (regroup policy groups r) := by
  cases groups with
  | nil => simp [append, isFullFor, size, write, ofGroups, regroup, bytesOf]
  | cons newest older =>
    have hiff : (ofGroups (newest :: older)).isFullFor policy r.line ↔
        policy.maxBytes < (bytesOf newest).length + r.line.length :=
      Directory.isFullFor_iff rfl (hallowed.nonempty newest List.mem_cons_self) r.line
    unfold append
    by_cases hfull : policy.maxBytes < (bytesOf newest).length + r.line.length
    · rw [if_pos (hiff.mpr hfull), Directory.regroup_full hfull,
        rotate_ofGroups (Nat.le_of_succ_le_succ hallowed.count)]
      simp [write, ofGroups, bytesOf]
    · rw [if_neg (mt hiff.mp hfull), Directory.regroup_fits hfull]
      simp [write, ofGroups, Directory.bytesOf_concat]

/-- However many records are appended, the log is that of their groups. -/
theorem foldl_append_eq (policy : RotationPolicy) (records : List AuditRecord) :
    records.foldl (fun log r => log.append policy r.line) empty =
      ofGroups (groupsOf policy records) := by
  induction records using List.reverseRecOn with
  | nil => rfl
  | append_singleton records r ih =>
    rw [List.foldl_concat, ih, Directory.groupsOf_concat]
    exact append_ofGroups (Directory.allowed_groupsOf policy records) r

theorem lookup_zipIdx {n k : Nat} (groups : List (List AuditRecord)) :
    ((groups.zipIdx k).map fun file => (generation file.2, bytesOf file.1)).lookup
      (generation (k + n)) = groups[n]?.map bytesOf := by
  induction groups generalizing k n with
  | nil => rfl
  | cons g gs ih =>
    rw [List.zipIdx_cons, List.map_cons]
    cases n with
    | zero => simp
    | succ n =>
      have hne : generation (k + (n + 1)) ≠ generation k := fun he => by
        have := generation_inj he
        omega
      have hindex : k + (n + 1) = k + 1 + n := by omega
      rw [List.lookup_cons, beq_false_of_ne hne, hindex]
      exact ih

theorem files_ofGroups (groups : List (List AuditRecord)) : (ofGroups groups).files =
    (groups.zipIdx 0).map fun file => (generation file.2, bytesOf file.1) := by
  cases groups with
  | nil => rfl
  | cons g gs =>
    have hrotated : ∀ k, 1 ≤ k →
        ((gs.zipIdx k).map fun file => (file.2, bytesOf file.1)).map
          (fun file => (rotatedName file.1, file.2)) =
        (gs.zipIdx k).map fun file => (generation file.2, bytesOf file.1) := by
      intro k hk
      rw [List.map_map]
      refine List.map_congr_left ?_
      rintro ⟨g, index⟩ hmem
      obtain ⟨m, rfl⟩ : ∃ m, index = m + 1 := by
        have := List.le_snd_of_mem_zipIdx hmem
        exact ⟨index - 1, by omega⟩
      rfl
    rw [files, List.zipIdx_cons, List.map_cons]
    exact congrArg _ (hrotated 1 (Nat.le_refl 1))

/-- **The log as a list of files is the directory**: it has the same files. -/
theorem lookup_files_append (policy : RotationPolicy) (records : List AuditRecord)
    (name : String) :
    (records.foldl (fun log r => log.append policy r.line) empty).files.lookup name =
      (Directory.of policy records).file? name := by
  have h := Directory.holds_of policy records
  rw [foldl_append_eq, files_ofGroups]
  by_cases hname : ∃ i, name = generation i
  · obtain ⟨i, rfl⟩ := hname
    have hlookup := lookup_zipIdx (n := i) (k := 0) (groupsOf policy records)
    rw [Nat.zero_add] at hlookup
    rw [hlookup, h.file]
  · rw [h.others name fun i hi => hname ⟨i, hi⟩, List.lookup_eq_none_iff]
    intro file hfile
    obtain ⟨⟨g, index⟩, -, rfl⟩ := List.mem_map.mp hfile
    exact bne_iff_ne.mpr fun he => hname ⟨index, he⟩

end AuditLog

end LiveTrader
