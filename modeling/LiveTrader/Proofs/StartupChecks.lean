import Mathlib.Data.List.TakeWhile
import LiveTrader.Config.Startup
import LiveTrader.Gmo.Streams
import LiveTrader.Proofs.Requests

/-!
  LiveTrader.Proofs.StartupChecks

  What the checks before the start are worth.  They complain of exactly those variables for an
  exchange's credentials that are not given, and only if orders go out over the network.  Where
  they complain of none the adapter finds its credentials for as long as these variables stay as
  they are: every private operation sends a request, and if it fails the exchange has said so.
-/

namespace LiveTrader

/-! ## Given variables -/

namespace Text

/-- Trimming leaves nothing of blanks only. -/
theorem trimChars_eq_nil_iff {cs : List Char} : trimChars cs = [] ↔ ∀ c ∈ cs, isBlank c = true := by
  unfold trimChars
  rw [List.reverse_eq_nil_iff, List.dropWhile_eq_nil_iff]
  constructor
  · intro h
    rw [← List.dropWhile_eq_nil_iff]
    by_contra hne
    -- the first character that is kept on the left is not blank, and is kept on the right
    have hkept := List.head_dropWhile_not isBlank hne
    have hblank := h _ (List.mem_reverse.mpr (List.head_mem hne))
    rw [hblank] at hkept
    cases hkept
  · intro h
    rw [List.dropWhile_eq_nil_iff.mpr h]
    exact fun c hc => absurd hc List.not_mem_nil

/-- Nothing is left of a text by a trim if it is blank. -/
theorem trim_eq_empty_iff {s : String} : trim s = "" ↔ isBlankText s = true := by
  unfold trim isBlankText
  rw [List.all_eq_true, ← trimChars_eq_nil_iff, ← String.toList_inj, String.toList_ofList]
  rfl

end Text

/-- A variable is given if it has a value, and not of white space only. -/
def Lookup.Gives (lookup : Lookup) (name : String) : Prop :=
  ∃ value, lookup name = some value ∧ Text.trim value ≠ ""

section Variables

variable {lookup : Lookup} {name exchange : String}

theorem Credentials.present?_eq_some_iff {value : String} :
    present? lookup name = some value ↔ lookup name = some value ∧ Text.trim value ≠ "" := by
  unfold present?
  rw [Option.filter_eq_some_iff, Ne, Text.trim_eq_empty_iff]
  simp

/-- A variable counts if it is given with more than blanks. -/
theorem Credentials.isSome_present?_iff : (present? lookup name).isSome ↔ lookup.Gives name := by
  rw [Option.isSome_iff_exists]
  exact exists_congr fun _ => present?_eq_some_iff

theorem Credentials.isNone_present?_iff :
    (present? lookup name).isNone = true ↔ ¬ lookup.Gives name := by
  rw [← isSome_present?_iff, Option.not_isSome_iff_eq_none, Option.isNone_iff_eq_none]

instance : Decidable (lookup.Gives name) := decidable_of_iff _ Credentials.isSome_present?_iff

/-- There are credentials if both variables are given, and they are the values of these. -/
theorem Credentials.ofLookup?_eq_some_iff {c : Credentials} :
    ofLookup? exchange lookup = some c ↔
      present? lookup (keyVariable exchange) = some c.apiKey ∧
        present? lookup (secretVariable exchange) = some c.apiSecret := by
  unfold ofLookup?
  cases c
  cases present? lookup (keyVariable exchange) <;>
    cases present? lookup (secretVariable exchange) <;> simp

/-- There are credentials if and only if both variables are given. -/
theorem Credentials.exists_ofLookup?_iff :
    (∃ c, ofLookup? exchange lookup = some c) ↔
      lookup.Gives (keyVariable exchange) ∧ lookup.Gives (secretVariable exchange) := by
  rw [← isSome_present?_iff, ← isSome_present?_iff, Option.isSome_iff_exists,
    Option.isSome_iff_exists]
  constructor
  · rintro ⟨c, hc⟩
    obtain ⟨hkey, hsecret⟩ := ofLookup?_eq_some_iff.mp hc
    exact ⟨⟨_, hkey⟩, ⟨_, hsecret⟩⟩
  · rintro ⟨⟨key, hkey⟩, ⟨secret, hsecret⟩⟩
    exact ⟨⟨key, secret⟩, ofLookup?_eq_some_iff.mpr ⟨hkey, hsecret⟩⟩

/-- Only the two variables of an exchange count for its credentials. -/
theorem Credentials.ofLookup?_congr {later : Lookup}
    (h : ∀ name ∈ requiredVariables exchange, later name = lookup name) :
    ofLookup? exchange later = ofLookup? exchange lookup := by
  have hkey := h (keyVariable exchange) (by simp [requiredVariables])
  have hsecret := h (secretVariable exchange) (by simp [requiredVariables])
  unfold ofLookup? present?
  rw [hkey, hsecret]

end Variables

/-! ## Complaints -/

/-- The complaint about a variable that is not given. -/
def Lookup.complaints (lookup : Lookup) (name : String) : List String :=
  if lookup.Gives name then [] else ["missing_required_env:" ++ name]

/-- There is no complaint about a variable that is given. -/
theorem Lookup.complaints_eq_nil_iff {lookup : Lookup} {name : String} :
    lookup.complaints name = [] ↔ lookup.Gives name := by
  unfold complaints
  split <;> simp_all

/-- Whether a configuration lets orders go out over the network. -/
def Config.IsLive (c : Config) : Prop :=
  c.execution.executeOrders = true ∧ c.execution.liveHttpEnabled = true

section Checks

variable {c : Config} {lookup : Lookup}

theorem complaints_of_filter (names : List String) :
    (names.filter fun name => (Credentials.present? lookup name).isNone).map
      ("missing_required_env:" ++ ·) = names.flatMap lookup.complaints := by
  induction names with
  | nil => rfl
  | cons name rest ih =>
    rw [List.flatMap_cons, ← ih, List.filter_cons, Lookup.complaints]
    by_cases hgives : lookup.Gives name
    · rw [if_pos hgives, if_neg (by rwa [Credentials.isNone_present?_iff, not_not]),
        List.nil_append]
    · rw [if_neg hgives, if_pos (Credentials.isNone_present?_iff.mpr hgives)]
      rfl

/-- A live configuration has to have both credentials. -/
theorem fatalErrors_of_isLive (hlive : c.IsLive) :
    (checkStartup c lookup).fatalErrors =
      lookup.complaints (Credentials.keyVariable c.exchange.name) ++
        lookup.complaints (Credentials.secretVariable c.exchange.name) := by
  have hflags : (c.execution.executeOrders && c.execution.liveHttpEnabled) = true := by
    rw [hlive.1, hlive.2]
    rfl
  unfold checkStartup
  rw [if_pos hflags, complaints_of_filter]
  simp [requiredVariables]

/-- Any other configuration does without credentials. -/
theorem fatalErrors_of_not_isLive (h : ¬ c.IsLive) : (checkStartup c lookup).fatalErrors = [] := by
  unfold checkStartup
  exact if_neg fun hflags => h (Bool.and_eq_true_iff.mp hflags)

/-- The checks complain of nothing if there are credentials. -/
theorem fatalErrors_eq_nil_iff (hlive : c.IsLive) :
    (checkStartup c lookup).fatalErrors = [] ↔
      ∃ credentials, Credentials.ofLookup? c.exchange.name lookup = some credentials := by
  rw [fatalErrors_of_isLive hlive, List.append_eq_nil_iff, Lookup.complaints_eq_nil_iff,
    Lookup.complaints_eq_nil_iff, Credentials.exists_ofLookup?_iff]

theorem StartupReport.ensureOk_eq_ok_iff {r : StartupReport} :
    r.ensureOk = .ok () ↔ r.fatalErrors = [] := by
  unfold ensureOk isOk
  split <;> simp_all

end Checks

/-! ## The adapter of a configuration -/

/-- What the adapter's settings take from the configuration. -/
theorem Config.settings_of_gmoSettings? {c : Config} {settings : Gmo.Settings}
    (h : c.gmoSettings? = some settings) :
    settings.exchange = c.exchange.name ∧ settings.useHttp = c.execution.liveHttpEnabled ∧
      0 < settings.retry.maxAttempts := by
  unfold gmoSettings? RetryPolicy.ofFloatSeconds? at h
  obtain ⟨policy, hpolicy, rfl⟩ := Option.map_eq_some_iff.mp h
  obtain ⟨delay, -, rfl⟩ := Option.map_eq_some_iff.mp hpolicy
  exact ⟨rfl, rfl, Nat.lt_of_lt_of_le Nat.one_pos (Nat.le_max_right _ _)⟩

namespace Gmo.Adapter

variable {σ : Type}

/-- An adapter as it is made of a configuration, with the credentials that it then finds. -/
structure IsFor (a : Adapter (StateM σ)) (c : Config) (lookup : Lookup) : Prop where
  settings : c.gmoSettings? = some a.settings
  credentials : a.credentials = Credentials.ofLookup? a.settings.exchange lookup

/-- A private operation that goes out with these credentials. -/
structure GoesOut (a : Adapter (StateM σ)) (credentials : Credentials) (op : PrivateOperation)
    (trace : List GatewayEvent) (result : PrivateResult) : Prop where
  sends : sent trace ≠ []
  signed : ∀ r ∈ sent trace, ∃ millis,
    r = op.call.sign credentials (Signature.timestampText millis)
  /-- If the call fails, then as the last reply does, or because every attempt was made. -/
  answered : ∃ outcome, result = op.answer a.settings outcome ∧
    ∀ fault, outcome = .error fault →
      (outcomes trace).getLast? = some (.error fault) ∨
        fault = .retryExhausted ∧ (outcomes trace).length = a.settings.retry.maxAttempts

variable {a : Adapter (StateM σ)} {credentials : Credentials}

/-- With access and credentials at least one request of a call goes out. -/
theorem CallCourse.goesOut {op : PrivateOperation} {trace : List GatewayEvent}
    {outcome : Except Fault Json} (h : a.CallCourse op.name op.call trace outcome)
    (hhttp : a.settings.useHttp = true) (hcredentials : a.credentials = some credentials)
    (hattempts : 0 < a.settings.retry.maxAttempts) :
    a.GoesOut credentials op trace (op.answer a.settings outcome) where
  sends := h.sendsSigned.sends hhttp (by simp [hcredentials]) hattempts
  signed r hr := by
    obtain ⟨credentials', millis, hcredentials', hr⟩ := h.exists_sign hr
    cases hcredentials.symm.trans hcredentials'
    exact ⟨millis, hr⟩
  answered := by
    refine ⟨outcome, rfl, fun fault hfault => ?_⟩
    cases h.eq_error_iff.mp hfault with
    | disabled hoff => simp [hhttp] at hoff
    | anonymous _ hnone => simp [hcredentials] at hnone
    | refused hlast => exact .inl hlast
    | exhausted _ _ hlength => exact .inr ⟨rfl, hlength⟩

theorem opener_eq_ok (hhttp : a.settings.useHttp = true)
    (hcredentials : a.credentials = some credentials) (channel : Channel) :
    ∃ connect, a.opener channel = .ok connect := by
  unfold opener
  cases a.feed with
  | some feed => exact ⟨_, rfl⟩
  | none =>
    rw [if_pos hhttp, hcredentials]
    exact ⟨_, rfl⟩

end Gmo.Adapter

/-! ## What the checks are worth -/

/-- The checks before the start tell what the adapter will find. -/
structure Config.ChecksCredentials (c : Config) (lookup : Lookup) : Prop where
  /-- Where no orders go out over the network nothing is missed. -/
  idle : ¬ c.IsLive → (checkStartup c lookup).fatalErrors = []
  /-- What is missed is told by its name, the key before the secret. -/
  missed : c.IsLive → (checkStartup c lookup).fatalErrors =
    lookup.complaints (Credentials.keyVariable c.exchange.name) ++
      lookup.complaints (Credentials.secretVariable c.exchange.name)
  /-- Nothing is missed exactly where there are credentials, -/
  found : c.IsLive → ((checkStartup c lookup).fatalErrors = [] ↔
    ∃ credentials, Credentials.ofLookup? c.exchange.name lookup = some credentials)
  /-- by the name under which the adapter looks for them. -/
  named : ∀ settings, c.gmoSettings? = some settings → settings.exchange = c.exchange.name
  /-- After a start no private operation and no stream wants for credentials, if the two variables
      are as they were. -/
  provided : c.IsLive → (checkStartup c lookup).ensureOk = .ok () →
    ∀ later : Lookup, (∀ name ∈ requiredVariables c.exchange.name, later name = lookup name) →
    ∀ {σ : Type} (a : Gmo.Adapter (StateM σ)), a.IsFor c later →
      (∀ channel, ∃ connect, a.opener channel = .ok connect) ∧
        ∃ credentials, a.credentials = some credentials ∧
          ∀ (op : Gmo.PrivateOperation) (s : σ),
            let run := (a.traced.perform op).run ⟨s, []⟩
            (run.1, run.2.state) = (a.perform op).run s ∧
              a.GoesOut credentials op run.2.trace run.1

/-- **The checks before the start agree with the adapter**, for every configuration and whatever
    the variables are. -/
theorem checkStartup_checksCredentials (c : Config) (lookup : Lookup) :
    c.ChecksCredentials lookup where
  idle := fatalErrors_of_not_isLive
  missed := fatalErrors_of_isLive
  found := fatalErrors_eq_nil_iff
  named settings h := (Config.settings_of_gmoSettings? h).1
  provided hlive hok later hlater σ a ha := by
    obtain ⟨hexchange, hhttp, hattempts⟩ := Config.settings_of_gmoSettings? ha.settings
    obtain ⟨credentials, hfound⟩ :=
      (fatalErrors_eq_nil_iff hlive).mp (StartupReport.ensureOk_eq_ok_iff.mp hok)
    have hcredentials : a.credentials = some credentials := by
      rw [ha.credentials, hexchange, Credentials.ofLookup?_congr hlater, hfound]
    rw [hlive.2] at hhttp
    refine ⟨Gmo.Adapter.opener_eq_ok hhttp hcredentials, credentials, hcredentials,
      fun op s => ⟨a.perform_erases op _, ?_⟩⟩
    obtain ⟨outcome, hcourse, hresult⟩ := (a.perform_ends op s).run
    rw [hresult]
    exact hcourse.goesOut hhttp hcredentials hattempts

/-- A secret that is an ideographic space is no secret. -/
example :
    let lookup := Lookup.ofList [("GMO_API_KEY", "k"), ("GMO_API_SECRET", "\u3000")]
    (checkStartup .dryRun lookup).fatalErrors = ["missing_required_env:GMO_API_SECRET"] := by
  decide +kernel

end LiveTrader
