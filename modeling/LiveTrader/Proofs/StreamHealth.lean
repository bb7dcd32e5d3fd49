import Mathlib.Data.List.Perm.Basic
import LiveTrader.Proofs.CycleReports

/-!
  LiveTrader.Proofs.StreamHealth

  What the health of a cycle depends on.  `Shows` says what health and what reason go with a
  verdict, given whether a stream has failed for good and whether one has failed for now.  The
  health that is derived from probes is the one shown, so that nothing counts of them but which
  kinds of failures are among them; and a cycle that reports derives it from what each of both
  streams does first.
-/

namespace LiveTrader

/-! ## From good to bad -/

/-- How bad a status is. -/
def MonitorStatus.severity : MonitorStatus → Nat
  | active => 0
  | reconnecting => 1
  | degraded => 2

/-- The health and the stream reason that go with a verdict, if streams have failed for good
    (`permanent`) or for now (`transient`).  The verdict has no part in the reason. -/
structure Shows (verdict : GuardStatus) (permanent transient : Prop) (status : MonitorStatus)
    (reason : Option ReasonCode) : Prop where
  degraded_iff : status = .degraded ↔ verdict ≠ .success ∨ permanent
  reconnecting_iff : status = .reconnecting ↔ ¬ (verdict ≠ .success ∨ permanent) ∧ transient
  active_iff : status = .active ↔ ¬ (verdict ≠ .success ∨ permanent) ∧ ¬ transient
  streamDegraded_iff : reason = some .streamDegraded ↔ permanent
  streamReconnecting_iff : reason = some .streamReconnecting ↔ ¬ permanent ∧ transient
  none_iff : reason = none ↔ ¬ permanent ∧ ¬ transient

namespace Shows

variable {verdict : GuardStatus} {p p' t t' : Prop} {status status' : MonitorStatus}
  {reason reason' : Option ReasonCode}

/-- Health and reason are determined by what they go with. -/
theorem unique (h : Shows verdict p t status reason) (h' : Shows verdict p' t' status' reason')
    (hp : p ↔ p') (ht : t ↔ t') : status = status' ∧ reason = reason' := by
  obtain rfl := propext hp
  obtain rfl := propext ht
  constructor
  · cases hs : status with
    | degraded => exact (h'.degraded_iff.mpr (h.degraded_iff.mp hs)).symm
    | reconnecting => exact (h'.reconnecting_iff.mpr (h.reconnecting_iff.mp hs)).symm
    | active => exact (h'.active_iff.mpr (h.active_iff.mp hs)).symm
  · -- which of the three reasons it is, the failures tell
    by_cases hperm : p
    · rw [h.streamDegraded_iff.mpr hperm, h'.streamDegraded_iff.mpr hperm]
    · by_cases htrans : t
      · rw [h.streamReconnecting_iff.mpr ⟨hperm, htrans⟩,
          h'.streamReconnecting_iff.mpr ⟨hperm, htrans⟩]
      · rw [h.none_iff.mpr ⟨hperm, htrans⟩, h'.none_iff.mpr ⟨hperm, htrans⟩]

/-- With more failures the health is no better. -/
theorem severity_le (h : Shows verdict p t status reason)
    (h' : Shows verdict p' t' status' reason') (hp : p → p') (ht : t → t') :
    status.severity ≤ status'.severity := by
  cases hs : status with
  | active => exact Nat.zero_le _
  | reconnecting =>
    obtain ⟨-, htrans⟩ := h.reconnecting_iff.mp hs
    cases hs' : status' with
    | active => exact absurd (ht htrans) (h'.active_iff.mp hs').2
    | reconnecting | degraded => decide
  | degraded =>
    have hbad := (h.degraded_iff.mp hs).imp_right hp
    rw [h'.degraded_iff.mpr hbad]

end Shows

/-! ## Probes -/

/-- A failure of this kind is among the probes. -/
def HasFault (retryable : Bool) (probes : List Probe) : Prop :=
  ∃ f, .fault f ∈ probes ∧ f.retryable = retryable

variable {probes probes' : List Probe} {verdict : GuardStatus}

theorem mem_filterMap_fault? {f : Fault} :
    f ∈ probes.filterMap Probe.fault? ↔ .fault f ∈ probes := by
  rw [List.mem_filterMap]
  constructor
  · rintro ⟨p, hp, h⟩
    cases p <;> simp only [Probe.fault?, reduceCtorEq, Option.some.injEq] at h
    case fault f' =>
      subst h
      exact hp
  · intro h
    exact ⟨_, h, rfl⟩

/-- The health of streams with these failures, without a verdict against it. -/
theorem streamHealth_shows (faults : List Fault) :
    Shows .success (∃ f ∈ faults, f.retryable = false) (∃ f ∈ faults, f.retryable = true)
      (streamHealth faults).1 (streamHealth faults).2 := by
  unfold streamHealth
  split
  case isTrue h =>
    have hperm : ∃ f ∈ faults, f.retryable = false := by simpa using h
    constructor <;> simp [hperm]
  case isFalse h =>
    have hnone : ¬ ∃ f ∈ faults, f.retryable = false := by simpa using h
    cases faults with
    | nil => constructor <;> simp
    | cons f fs =>
      -- there are failures, and none of them is for good
      have htrans : ∃ g ∈ f :: fs, g.retryable = true := by
        refine ⟨f, List.mem_cons_self, ?_⟩
        by_contra hf
        exact hnone ⟨f, List.mem_cons_self, Bool.eq_false_iff.mpr hf⟩
      rw [List.isEmpty_cons, if_neg Bool.false_ne_true, eq_false hnone, eq_true htrans]
      constructor <;> simp

/-- A verdict against it makes any health a degraded one, and leaves the reason. -/
theorem Shows.judged {p t : Prop} {status : MonitorStatus} {reason : Option ReasonCode}
    (h : Shows .success p t status reason) (verdict : GuardStatus) :
    Shows verdict p t (if verdict = .success then status else .degraded) reason := by
  by_cases hv : verdict = .success
  · subst hv
    exact h
  · rw [if_neg hv]
    exact ⟨by simp [hv], by simp [hv], by simp [hv], h.streamDegraded_iff,
      h.streamReconnecting_iff, h.none_iff⟩

/-- **The health derived from probes is the one that goes with the failures among them.** -/
theorem deriveStatus_shows (probes : List Probe) (verdict : GuardStatus) :
    Shows verdict (HasFault false probes) (HasFault true probes)
      (deriveStatus probes verdict).1 (deriveStatus probes verdict).2 := by
  have h := (streamHealth_shows (probes.filterMap Probe.fault?)).judged verdict
  simp only [mem_filterMap_fault?] at h
  exact h

/-- Probes with failures of the same kinds show the same. -/
theorem deriveStatus_congr
    (h : ∀ retryable, HasFault retryable probes ↔ HasFault retryable probes') :
    deriveStatus probes verdict = deriveStatus probes' verdict := by
  obtain ⟨hstatus, hreason⟩ := (deriveStatus_shows probes verdict).unique
    (deriveStatus_shows probes' verdict) (h false) (h true)
  exact Prod.ext hstatus hreason

theorem hasFault_congr (h : ∀ f, .fault f ∈ probes ↔ .fault f ∈ probes') (retryable : Bool) :
    HasFault retryable probes ↔ HasFault retryable probes' :=
  exists_congr fun f => and_congr_left' (h f)

/-- A probe among others, wherever it stands. -/
theorem mem_insert_iff {xs ys : List Probe} {p q : Probe} :
    q ∈ xs ++ p :: ys ↔ q = p ∨ q ∈ xs ++ ys := by
  simp only [List.mem_append, List.mem_cons]
  exact or_left_comm

/-- Nothing counts of probes but the failures, and of these not the order or the number. -/
structure CountsFaultsOnly (verdict : GuardStatus) : Prop where
  perm : ∀ {xs ys : List Probe}, xs.Perm ys → deriveStatus xs verdict = deriveStatus ys verdict
  /-- What was seen already changes nothing. -/
  again : ∀ {xs ys : List Probe} {p : Probe}, p ∈ xs ++ ys →
    deriveStatus (xs ++ p :: ys) verdict = deriveStatus (xs ++ ys) verdict
  /-- Nor does what is no failure. -/
  harmless : ∀ (xs ys : List Probe) {p : Probe}, p = .event ∨ p = .ended ∨ p = .quiet →
    deriveStatus (xs ++ p :: ys) verdict = deriveStatus (xs ++ ys) verdict
  /-- A failure makes nothing better. -/
  worse : ∀ (xs ys : List Probe) (f : Fault),
    (deriveStatus (xs ++ ys) verdict).1.severity ≤
      (deriveStatus (xs ++ .fault f :: ys) verdict).1.severity

theorem countsFaultsOnly (verdict : GuardStatus) : CountsFaultsOnly verdict where
  perm h := deriveStatus_congr (hasFault_congr fun _ => h.mem_iff)
  again h := by
    refine deriveStatus_congr (hasFault_congr fun f => ?_)
    rw [mem_insert_iff, or_iff_right_of_imp]
    rintro rfl
    exact h
  harmless xs ys p hp := by
    refine deriveStatus_congr (hasFault_congr fun f => ?_)
    rw [mem_insert_iff, or_iff_right]
    rcases hp with rfl | rfl | rfl <;> exact nofun
  worse xs ys f := by
    have hmore : ∀ retryable, HasFault retryable (xs ++ ys) →
        HasFault retryable (xs ++ .fault f :: ys) := by
      rintro retryable ⟨g, hg, hkind⟩
      exact ⟨g, mem_insert_iff.mpr (.inr hg), hkind⟩
    exact (deriveStatus_shows _ verdict).severity_le (deriveStatus_shows _ verdict) (hmore false)
      (hmore true)

/-! ## What streams do first -/

/-- What both streams do first, each within the time that it is waited for. -/
abbrev FirstEvents := Arrival OrderEvent × Arrival AccountEvent

/-- The first item of a stream is a failure of this kind. -/
def Arrival.Fails {α : Type} (retryable : Bool) (a : Arrival α) : Prop :=
  ∃ f, a = .item (.error f) ∧ f.retryable = retryable

/-- The first item of one of the streams is a failure of this kind. -/
def FirstFails (retryable : Bool) (seen : FirstEvents) : Prop :=
  seen.1.Fails retryable ∨ seen.2.Fails retryable

theorem probe_eq_fault_iff {α : Type} {a : Arrival α} {f : Fault} :
    .fault f = a.probe ↔ a = .item (.error f) := by
  cases a with
  | item value =>
    cases value with
    | error g =>
      rw [Arrival.probe, Probe.fault.injEq, Arrival.item.injEq, Except.error.injEq]
      exact eq_comm
    | ok event => exact iff_of_false nofun nofun
  | ended | quiet => exact iff_of_false nofun nofun

theorem hasFault_probes_iff {retryable : Bool} {seen : FirstEvents} :
    HasFault retryable [seen.1.probe, seen.2.probe] ↔ FirstFails retryable seen := by
  simp only [HasFault, List.mem_pair, probe_eq_fault_iff, or_and_right, exists_or, FirstFails,
    Arrival.Fails]

/-! ## Reports -/

/-- The codes of a report before those of the streams. -/
def CycleReport.earlierCodes (report : CycleReport) : List String :=
  ({ report with streamReason := none } : CycleReport).reasonCodes

/-- The code for the streams comes last, unless it is there already. -/
theorem CycleReport.reasonCodes_eq (report : CycleReport) :
    report.reasonCodes = report.streamReason.elim report.earlierCodes fun r =>
      if r.text ∈ report.earlierCodes then report.earlierCodes
      else report.earlierCodes ++ [r.text] := by
  cases h : report.streamReason with
  | none =>
    rw [Option.elim_none, earlierCodes, ← h]
  | some r =>
    have hcodes : report.earlierCodes =
        (report.guard.reasonCodes ++ (if report.order.isDecided then report.decision.reasonCodes
          else []) ++ report.order.reasons.map ReasonCode.text).eraseDups := by
      simp [earlierCodes, reasonCodes]
    have hall : report.reasonCodes =
        ((report.guard.reasonCodes ++ (if report.order.isDecided then report.decision.reasonCodes
          else []) ++ report.order.reasons.map ReasonCode.text) ++ [r.text]).eraseDups := by
      simp [reasonCodes, h]
    rw [hall, eraseDups_concat, Option.elim_some, hcodes]
    simp only [List.mem_eraseDups]

namespace CycleRecord

/-- A cycle that reports has been judged so, and has last of all looked at the streams, for as
    long as configured, and seen this. -/
structure Watched (config : Config) (c : CycleRecord) (verdict : GuardStatus)
    (seen : FirstEvents) (report : CycleReport) : Prop where
  result : c.result = .ok report
  judged : ∃ inputs, .inputs (.ok inputs) ∈ c.events ∧
    (evaluateRisk config.risk inputs.snapshot).status = verdict
  probed : c.events.getLast? = some (.streams config.execution.streamProbeTimeout seen)

variable {config : Config} {c : CycleRecord} {seen : FirstEvents} {report : CycleReport}

/-- A cycle that reports has read inputs once, has looked at the streams last, and its report is
    made of these. -/
theorem IsCourse.of_report (h : c.IsCourse config) (hreport : c.result = .ok report) :
    ∃ runId inputs order seen,
      (∀ reply, .inputs reply ∈ c.events ↔ reply = .ok inputs) ∧
      c.events.getLast? = some (.streams config.execution.streamProbeTimeout seen) ∧
      report = Cycle.reportOf config runId inputs c.reconnectCount order
        [seen.1.probe, seen.2.probe] := by
  rcases h.deals_or with ⟨_, _, cause, -, hr, -⟩ | ⟨runId, inputs, calls, outcome, hdeals⟩
  · rw [hr] at hreport
    cases hreport
  · have hcloses := hdeals.closes
    cases outcome with
    | error cause =>
      rw [hcloses.2] at hreport
      cases hreport
    | ok order =>
      obtain ⟨seen, he, hr⟩ := hcloses
      refine ⟨runId, inputs, order, seen, fun _ => hdeals.inputs_mem_iff, ?_, ?_⟩
      · rw [he, List.getLast?_concat]
      · rw [hr, Except.ok.injEq] at hreport
        exact hreport.symm

theorem IsCourse.exists_watched (h : c.IsCourse config) (hreport : c.result = .ok report) :
    ∃ verdict seen, c.Watched config verdict seen report := by
  obtain ⟨_, inputs, _, seen, hinputs, hlast, -⟩ := h.of_report hreport
  exact ⟨_, seen, hreport, ⟨inputs, (hinputs _).mpr rfl, rfl⟩, hlast⟩

theorem IsCourse.shows (h : c.IsCourse config) (hw : c.Watched config verdict seen report) :
    Shows verdict (FirstFails false seen) (FirstFails true seen) report.monitorStatus
      report.streamReason := by
  obtain ⟨runId, inputs, order, seen', hinputs, hlast, rfl⟩ := h.of_report hw.result
  -- the inputs and what was seen are those that the report is made of
  obtain ⟨inputs', hjudged, rfl⟩ := hw.judged
  obtain rfl : inputs' = inputs := Except.ok.inj ((hinputs _).mp hjudged)
  rw [hw.probed, Option.some.injEq, CycleEvent.streams.injEq] at hlast
  obtain ⟨-, rfl⟩ := hlast
  have hshows := deriveStatus_shows [seen.1.probe, seen.2.probe]
    (evaluateRisk config.risk inputs'.snapshot).status
  simp only [hasFault_probes_iff] at hshows
  exact hshows

end CycleRecord

/-- Every report of the run shows the health that goes with the verdict and with what the streams
    did first. -/
def CycleRun.IsMonitored {σ : Type} (config : Config) (run : CycleRun σ) : Prop :=
  ∀ c ∈ run.cycles, ∀ report, c.result = .ok report →
    ∃ verdict seen, c.Watched config verdict seen report ∧
      Shows verdict (FirstFails false seen) (FirstFails true seen) report.monitorStatus
        report.streamReason ∧
      report.reasonCodes = report.streamReason.elim report.earlierCodes fun r =>
        if r.text ∈ report.earlierCodes then report.earlierCodes
        else report.earlierCodes ++ [r.text]

/-- Cycles of both runs with the same verdict, and with streams that first fail alike, show the
    same. -/
def CycleRun.MonitoredAlike {σ τ : Type} (config config' : Config) (run : CycleRun σ)
    (run' : CycleRun τ) : Prop :=
  ∀ c ∈ run.cycles, ∀ c' ∈ run'.cycles, ∀ verdict seen seen' report report',
    c.Watched config verdict seen report → c'.Watched config' verdict seen' report' →
    (∀ retryable, FirstFails retryable seen ↔ FirstFails retryable seen') →
    report.monitorStatus = report'.monitorStatus ∧ report.streamReason = report'.streamReason

/-- **The health of a cycle depends on the verdict and on what the streams do first**, in every
    run of cycles and whatever else differs between two of them; and what is derived from probes
    on the failures among them. -/
theorem run_isMonitored {σ τ : Type} (s : Surroundings (StateM σ)) (config : Config) (world : σ)
    (reconnectCounts : List Nat) (s' : Surroundings (StateM τ)) (config' : Config) (world' : τ)
    (reconnectCounts' : List Nat) :
    let run := CycleRun.of s config world reconnectCounts
    let run' := CycleRun.of s' config' world' reconnectCounts'
    run.IsMonitored config ∧ CycleRun.MonitoredAlike config config' run run' ∧
      ∀ verdict, CountsFaultsOnly verdict := by
  intro run run'
  refine ⟨fun c hc report hreport => ?_, ?_, countsFaultsOnly⟩
  · have hcourse := CycleRun.isCourse_of_mem s config world reconnectCounts c hc
    obtain ⟨verdict, seen, hw⟩ := hcourse.exists_watched hreport
    exact ⟨verdict, seen, hw, hcourse.shows hw, report.reasonCodes_eq⟩
  · intro c hc c' hc' verdict seen seen' report report' hw hw' halike
    have hcourse := CycleRun.isCourse_of_mem s config world reconnectCounts c hc
    have hcourse' := CycleRun.isCourse_of_mem s' config' world' reconnectCounts' c' hc'
    exact (hcourse.shows hw).unique (hcourse'.shows hw') (halike false) (halike true)

end LiveTrader
