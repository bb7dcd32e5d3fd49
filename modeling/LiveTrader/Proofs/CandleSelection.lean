import Mathlib.Data.List.Dedup
import Mathlib.Data.List.Sort
import LiveTrader.Gmo.Candles

/-!
  LiveTrader.Proofs.CandleSelection

  Which of the received candles are kept.  Sorting by time leaves candles of the same time in the
  order in which they came, so the first of neighbours is the first that came for its time.  Of
  the times within the window the latest are kept, as many as were asked for.
-/

namespace LiveTrader

/-! ## Order of time -/

namespace Instant

variable {t u v : Instant}

theorem ne_of_lt (h : t.lt u = true) : t ≠ u := by
  rintro rfl
  rw [lt_iff] at h
  omega

theorem not_lt_of_lt (h : t.lt u = true) : ¬ u.lt t = true := by
  rw [lt_iff] at *
  omega

theorem lt_or_eq_of_not_lt (h : ¬ u.lt t = true) : t.lt u = true ∨ t = u := by
  obtain ⟨seconds, nanos⟩ := t
  obtain ⟨seconds', nanos'⟩ := u
  rw [lt_iff, Instant.mk.injEq] at *
  dsimp only at *
  omega

theorem lt_of_lt_of_not_lt (h : t.lt u = true) (h' : ¬ v.lt u = true) : t.lt v = true := by
  rw [lt_iff] at *
  omega

theorem not_lt_of_not_lt (h : ¬ u.lt t = true) (h' : ¬ v.lt u = true) : ¬ v.lt t = true := by
  rw [lt_iff] at *
  omega

end Instant

namespace Gmo

/-! ## Sorting -/

/-- A candle is of an earlier time than another. -/
def Earlier (k k' : Kline) : Prop := k.timestamp.lt k'.timestamp = true

instance : DecidableRel Earlier := fun _ _ => inferInstanceAs (Decidable (_ = true))

instance : Std.Irrefl Earlier := ⟨fun _ h => Instant.ne_of_lt h rfl⟩

instance : Std.Antisymm Earlier := ⟨fun _ _ h h' => absurd h' (Instant.not_lt_of_lt h)⟩

/-- Whether a candle may stand before another once they are sorted. -/
def notLater (k k' : Kline) : Bool := !k'.timestamp.lt k.timestamp

/-- Whether a candle is of a time. -/
def isAt (t : Instant) (k : Kline) : Bool := k.timestamp = t

theorem notLater_iff {k k' : Kline} :
    notLater k k' = true ↔ ¬ k'.timestamp.lt k.timestamp = true := by
  simp [notLater]

theorem notLater_trans (a b c : Kline) (hab : notLater a b = true) (hbc : notLater b c = true) :
    notLater a c = true :=
  notLater_iff.mpr (Instant.not_lt_of_not_lt (notLater_iff.mp hab) (notLater_iff.mp hbc))

/-- Of two candles one may stand before the other. -/
theorem notLater_total (a b : Kline) : (notLater a b || notLater b a) = true := by
  rw [Bool.or_eq_true, notLater_iff, notLater_iff, Classical.or_iff_not_imp_left]
  exact fun h => Instant.not_lt_of_lt (Classical.not_not.mp h)

theorem sortByTime_perm (ks : List Kline) : (sortByTime ks).Perm ks :=
  List.mergeSort_perm ks notLater

/-- Sorted candles are in the order of time. -/
theorem pairwise_sortByTime (ks : List Kline) :
    (sortByTime ks).Pairwise fun k k' => notLater k k' = true :=
  List.pairwise_mergeSort notLater_trans notLater_total ks

/-- Candles of the same time stay in the order in which they came. -/
theorem filter_sortByTime (t : Instant) (ks : List Kline) :
    (sortByTime ks).filter (isAt t) = ks.filter (isAt t) := by
  have hsame : ∀ k k', isAt t k = true → isAt t k' = true → notLater k k' = true :=
    fun k k' hk hk' => by
      rw [notLater_iff, of_decide_eq_true hk, of_decide_eq_true hk']
      exact fun h => Instant.ne_of_lt h rfl
  have hsorted : (ks.filter (isAt t)).Pairwise fun k k' => notLater k k' = true :=
    List.pairwise_of_forall_mem_list fun k hk k' hk' =>
      hsame k k' (List.of_mem_filter hk) (List.of_mem_filter hk')
  -- what is in order already is still in that order after sorting
  have hsub : (ks.filter (isAt t)).Sublist (sortByTime ks) :=
    List.sublist_mergeSort notLater_trans notLater_total hsorted List.filter_sublist
  have hsub' : (ks.filter (isAt t)).Sublist ((sortByTime ks).filter (isAt t)) :=
    List.sublist_filter_iff.mpr ⟨_, hsub, by simp⟩
  have hlength := ((sortByTime_perm ks).filter (isAt t)).length_eq
  exact (hsub'.eq_of_length hlength.symm).symm

/-- Sorting does not change which candle is the first of its time. -/
theorem find?_sortByTime (t : Instant) (ks : List Kline) :
    (sortByTime ks).find? (isAt t) = ks.find? (isAt t) := by
  rw [← List.head?_filter, filter_sortByTime, List.head?_filter]

/-! ## Distinct times -/

/-- The first candle of each time, in order of time. -/
structure FirstsOf (ks firsts : List Kline) : Prop where
  increasing : firsts.Pairwise Earlier
  first : ∀ k ∈ firsts, ks.find? (isAt k.timestamp) = some k
  every : ∀ k ∈ ks, ∃ k' ∈ firsts, k'.timestamp = k.timestamp

namespace FirstsOf

variable {k k' : Kline} {ks firsts : List Kline}

theorem nil : FirstsOf [] [] :=
  ⟨.nil, fun _ h => absurd h List.not_mem_nil, fun _ h => absurd h List.not_mem_nil⟩

theorem mem (h : FirstsOf ks firsts) (hk : k ∈ firsts) : k ∈ ks :=
  List.mem_of_find?_eq_some (h.first k hk)

/-- A candle of the same time as one before it is no first one. -/
theorem repeated (h : FirstsOf (k :: ks) firsts) (htime : k'.timestamp = k.timestamp) :
    FirstsOf (k :: k' :: ks) firsts where
  increasing := h.increasing
  first x hx := by
    have hfind := h.first x hx
    -- whatever is looked for is found at `k` or at neither
    have hsame : isAt x.timestamp k' = isAt x.timestamp k := by rw [isAt, htime, isAt]
    rw [List.find?_cons] at hfind ⊢
    split at hfind
    · exact hfind
    · rename_i hk
      rw [List.find?_cons, hsame, hk]
      exact hfind
  every x hx := by
    rcases List.mem_cons.mp hx with rfl | hx
    · exact h.every x List.mem_cons_self
    · rcases List.mem_cons.mp hx with rfl | hx
      · rw [htime]
        exact h.every k List.mem_cons_self
      · exact h.every x (List.mem_cons_of_mem _ hx)

/-- A candle before all others is the first of its time. -/
theorem cons (h : FirstsOf ks firsts) (hearlier : ∀ x ∈ ks, Earlier k x) :
    FirstsOf (k :: ks) (k :: firsts) where
  increasing := .cons (fun x hx => hearlier x (h.mem hx)) h.increasing
  first x hx := by
    rcases List.mem_cons.mp hx with rfl | hx
    · exact List.find?_cons_of_pos (decide_eq_true rfl)
    · have hne : ¬ isAt x.timestamp k = true := fun hk =>
        Instant.ne_of_lt (hearlier x (h.mem hx)) (of_decide_eq_true hk)
      rw [List.find?_cons_of_neg hne]
      exact h.first x hx
  every x hx := by
    rcases List.mem_cons.mp hx with rfl | hx
    · exact ⟨x, List.mem_cons_self, rfl⟩
    · obtain ⟨y, hy, heq⟩ := h.every x hx
      exact ⟨y, List.mem_cons_of_mem _ hy, heq⟩

/-- The first candles of one list are among those of the other. -/
theorem subset {firsts' : List Kline} (h : FirstsOf ks firsts) (h' : FirstsOf ks firsts') :
    firsts ⊆ firsts' := by
  intro k hk
  obtain ⟨k', hk', htime⟩ := h'.every k (h.mem hk)
  -- the search for the time finds both
  have hfound := h'.first k' hk'
  rw [htime, h.first k hk] at hfound
  exact Option.some.inj hfound ▸ hk'

/-- Which candles are the first ones, and their order, is determined by those that came. -/
theorem unique {firsts' : List Kline} (h : FirstsOf ks firsts) (h' : FirstsOf ks firsts') :
    firsts = firsts' :=
  h.increasing.eq_of_mem_iff h'.increasing fun _ =>
    ⟨fun hk => h.subset h' hk, fun hk => h'.subset h hk⟩

end FirstsOf

/-- Of sorted candles the first of neighbours is the first of its time. -/
theorem firstsOf_go {k : Kline} {rest : List Kline}
    (h : (k :: rest).Pairwise fun k k' => notLater k k' = true) :
    FirstsOf (k :: rest) (k :: firstOfEachTime.go k.timestamp rest) := by
  induction rest generalizing k with
  | nil => exact .cons .nil fun x hx => absurd hx List.not_mem_nil
  | cons k' rest ih =>
    obtain ⟨hk, hrest⟩ := List.pairwise_cons.mp h
    rw [firstOfEachTime.go]
    split
    case isTrue htime =>
      -- the candle that is skipped is of the same time, so it is compared with the next one too
      have hskip : (k :: rest).Pairwise fun k k' => notLater k k' = true :=
        h.sublist (.cons_cons k (List.sublist_cons_self k' rest))
      exact (ih hskip).repeated htime
    case isFalse htime =>
      have hnext : Earlier k k' :=
        (Instant.lt_or_eq_of_not_lt (notLater_iff.mp (hk k' List.mem_cons_self))).resolve_right
          (Ne.symm htime)
      refine (ih hrest).cons fun x hx => ?_
      rcases List.mem_cons.mp hx with rfl | hx
      · exact hnext
      · exact Instant.lt_of_lt_of_not_lt hnext
          (notLater_iff.mp (List.rel_of_pairwise_cons hrest hx))

theorem firstsOf_firstOfEachTime {ks : List Kline}
    (h : ks.Pairwise fun k k' => notLater k k' = true) :
    FirstsOf ks (firstOfEachTime ks) := by
  cases ks with
  | nil => exact .nil
  | cons k rest => exact firstsOf_go h

/-- Sorting and dropping neighbours of the same time keeps the first candle of each. -/
theorem firstsOf_sortByTime (ks : List Kline) : FirstsOf ks (firstOfEachTime (sortByTime ks)) where
  increasing := (firstsOf_firstOfEachTime (pairwise_sortByTime ks)).increasing
  first k hk := by
    rw [← find?_sortByTime]
    exact (firstsOf_firstOfEachTime (pairwise_sortByTime ks)).first k hk
  every k hk :=
    (firstsOf_firstOfEachTime (pairwise_sortByTime ks)).every k
      ((sortByTime_perm ks).mem_iff.mpr hk)

/-- Assembled are the last of the first candles, however these are found. -/
theorem FirstsOf.assemble_eq {ks firsts : List Kline} (h : FirstsOf ks firsts) (limit : Nat) :
    assemble limit ks = firsts.drop (firsts.length - limit) := by
  rw [assemble, (firstsOf_sortByTime ks).unique h]

/-! ## The latest -/

/-- The different times of candles. -/
def timesOf (ks : List Kline) : List Instant := (ks.map Kline.timestamp).dedup

/-- There are as many first candles as different times. -/
theorem FirstsOf.length_eq {ks firsts : List Kline} (h : FirstsOf ks firsts) :
    firsts.length = (timesOf ks).length := by
  have hnodup : (firsts.map Kline.timestamp).Nodup :=
    List.pairwise_map.mpr (h.increasing.imp Instant.ne_of_lt)
  have hmem : ∀ t, t ∈ firsts.map Kline.timestamp ↔ t ∈ timesOf ks := fun t => by
    rw [timesOf, List.mem_dedup, List.mem_map, List.mem_map]
    constructor
    · rintro ⟨k, hk, rfl⟩
      exact ⟨k, h.mem hk, rfl⟩
    · rintro ⟨k, hk, rfl⟩
      exact h.every k hk
  have hperm := (List.perm_ext_iff_of_nodup hnodup (List.nodup_dedup _)).mpr hmem
  calc firsts.length
      = (firsts.map Kline.timestamp).length := (List.length_map _).symm
    _ = (timesOf ks).length := hperm.length_eq

/-- Of the candles received, the first of each of the latest times within a window. -/
structure Selects (start finish : Instant) (limit : Nat) (received kept : List Kline) : Prop where
  increasing : kept.Pairwise Earlier
  within : ∀ k ∈ kept, ¬ k.timestamp.lt start = true ∧ ¬ finish.lt k.timestamp = true
  /-- The candle that came first for its time. -/
  first : ∀ k ∈ kept, received.find? (isAt k.timestamp) = some k
  length : kept.length = min limit (timesOf (received.filter (inWindow start finish))).length
  /-- No time within the window that is later than one of those kept is left out. -/
  latest : ∀ k ∈ kept, ∀ t ∈ timesOf (received.filter (inWindow start finish)),
    k.timestamp.lt t = true → ∃ k' ∈ kept, k'.timestamp = t

/-- The window does not change which candle within it is the first of its time. -/
theorem find?_filter_inWindow {start finish : Instant} {k : Kline}
    (hk : inWindow start finish k = true) (ks : List Kline) :
    (ks.filter (inWindow start finish)).find? (isAt k.timestamp) =
      ks.find? (isAt k.timestamp) := by
  have hwithin : ∀ k', isAt k.timestamp k' = true → inWindow start finish k' = true :=
    fun k' hk' => by
      rw [inWindow, of_decide_eq_true hk']
      exact hk
  rw [List.find?_filter]
  congr 1
  funext k'
  by_cases hk' : isAt k.timestamp k' = true
  · simp [hk', hwithin k' hk']
  · simp [hk']

/-- The last of the first candles within a window are a selection. -/
theorem FirstsOf.selects {start finish : Instant} {received firsts : List Kline}
    (h : FirstsOf (received.filter (inWindow start finish)) firsts) (limit : Nat) :
    Selects start finish limit received (firsts.drop (firsts.length - limit)) := by
  have hdrop : ∀ n, ∀ k ∈ firsts.drop n, k ∈ received.filter (inWindow start finish) :=
    fun n k hk => h.mem (List.mem_of_mem_drop hk)
  exact {
    increasing := h.increasing.drop
    within := fun k hk => by
      simpa [inWindow] using List.of_mem_filter (hdrop _ k hk)
    first := fun k hk => by
      rw [← find?_filter_inWindow (List.of_mem_filter (hdrop _ k hk))]
      exact h.first k (List.mem_of_mem_drop hk)
    length := by
      rw [List.length_drop, ← h.length_eq]
      omega
    latest := fun k hk t ht hlater => by
      obtain ⟨k₀, hk₀, rfl⟩ := List.mem_map.mp (List.mem_dedup.mp ht)
      obtain ⟨k', hk', htime⟩ := h.every k₀ hk₀
      refine ⟨k', ?_, htime⟩
      -- a candle that was dropped is of an earlier time than those kept
      have hsplit := h.increasing
      rw [← List.take_append_drop (firsts.length - limit) firsts] at hsplit hk'
      refine (List.mem_append.mp hk').resolve_left fun hdropped => ?_
      have hearlier := (List.pairwise_append.mp hsplit).2.2 k' hdropped k hk
      rw [Earlier, htime] at hearlier
      exact Instant.not_lt_of_lt hearlier hlater }

/-- Assembling selects the latest candles of the window. -/
theorem selects_assemble (start finish : Instant) (limit : Nat) (received : List Kline) :
    Selects start finish limit received
      (assemble limit (received.filter (inWindow start finish))) := by
  have h := firstsOf_sortByTime (received.filter (inWindow start finish))
  rw [h.assemble_eq limit]
  exact h.selects limit

end Gmo

end LiveTrader
