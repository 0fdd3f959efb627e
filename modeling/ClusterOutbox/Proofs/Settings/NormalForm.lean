import ClusterOutbox.Proofs.Text.Blank
import ClusterOutbox.Settings.Basic

/-!
The normal form of settings. Checking settings succeeds where they say what has no standard value,
and what it leaves is complete, says what the settings said, and passes the same check unchanged.
-/

namespace ClusterOutbox

/-- A text with a character that is not blank. -/
def Named (s : String) : Prop := ∃ c ∈ s.toList, isBlank c = false

theorem trimText_ne_empty_iff {s : String} : trimText s ≠ "" ↔ Named s := by
  rw [Ne, trimText_eq_empty_iff]
  simp only [Named, not_forall, Bool.not_eq_true, exists_prop]

/-- A text with something in it and no blank at its two ends. -/
structure Filled (s : String) : Prop extends Trimmed s where
  ne_empty : s ≠ ""

theorem filled_trimText {s : String} (h : Named s) : Filled (trimText s) :=
  ⟨trimmed_trimText s, trimText_ne_empty_iff.mpr h⟩

theorem Filled.named {s : String} (h : Filled s) : Named s := by
  rw [← trimText_ne_empty_iff, h.trimText_eq]
  exact h.ne_empty

/-- A value that is given is kept, and the standard one is supplied for one that is not. -/
structure Supplied {α : Type} (empty standard given found : α) : Prop where
  kept : given ≠ empty → found = given
  standard : given = empty → found = standard

namespace Settings

section

variable {α : Type} [DecidableEq α] {empty standard : α}

theorem orDefault_supplied (given : α) :
    Supplied empty standard given (orDefault empty standard given) :=
  ⟨fun h => if_neg h, fun h => if_pos h⟩

theorem orDefault_ne (h : standard ≠ empty) (given : α) :
    orDefault empty standard given ≠ empty := by
  by_cases hgiven : given = empty
  · rw [(orDefault_supplied given).standard hgiven]
    exact h
  · rw [(orDefault_supplied given).kept hgiven]
    exact hgiven

end

end Settings

/-- Delivery settings in which nothing is left to a standard value. -/
structure DeliverySettings.IsNormal (d : DeliverySettings) : Prop where
  host : Filled d.host
  sendInterval : d.sendInterval ≠ 0
  sendTimeout : d.sendTimeout ≠ 0
  maxBytes : d.maxBytes ≠ 0
  retries : d.retries ≠ 0
  stem : d.stem ≠ ""

/-- Storage settings in which nothing is left to a standard value. -/
structure StorageSettings.IsNormal (s : StorageSettings) : Prop where
  retention : s.retention ≠ 0
  cleanupInterval : s.cleanupInterval ≠ 0

theorem DeliverySettings.isNormal_standard : standard.IsNormal where
  host := ⟨trimmed_of_unspaced (by decide), by decide⟩
  sendInterval := by decide
  sendTimeout := by decide
  maxBytes := by decide
  retries := by decide
  stem := by decide

theorem StorageSettings.isNormal_standard : standard.IsNormal where
  retention := by decide
  cleanupInterval := by decide

/-- What delivery settings become: what they say is kept, but for the blanks around the host. -/
structure DeliverySettings.Becomes (d d' : DeliverySettings) : Prop where
  host : Supplied "" standard.host (trimText d.host) d'.host
  sendInterval : Supplied 0 standard.sendInterval d.sendInterval d'.sendInterval
  sendTimeout : Supplied 0 standard.sendTimeout d.sendTimeout d'.sendTimeout
  maxBytes : Supplied 0 standard.maxBytes d.maxBytes d'.maxBytes
  retries : Supplied 0 standard.retries d.retries d'.retries
  stem : Supplied "" standard.stem d.stem d'.stem

/-- What storage settings become: what they say is kept. -/
structure StorageSettings.Becomes (s s' : StorageSettings) : Prop where
  directory : s'.directory = s.directory
  retention : Supplied 0 standard.retention s.retention s'.retention
  cleanupInterval : Supplied 0 standard.cleanupInterval s.cleanupInterval s'.cleanupInterval

namespace Settings

namespace Delivery

variable {d : DeliverySettings}

theorem becomes_normal (d : DeliverySettings) : d.Becomes (normal d) where
  host := orDefault_supplied _
  sendInterval := orDefault_supplied _
  sendTimeout := orDefault_supplied _
  maxBytes := orDefault_supplied _
  retries := orDefault_supplied _
  stem := orDefault_supplied _

theorem isNormal_normal (d : DeliverySettings) : (normal d).IsNormal where
  host := by
    by_cases h : Named d.host
    · rw [(becomes_normal d).host.kept (trimText_ne_empty_iff.mpr h)]
      exact filled_trimText h
    · rw [(becomes_normal d).host.standard (not_ne_iff.mp (mt trimText_ne_empty_iff.mp h))]
      exact DeliverySettings.isNormal_standard.host
  sendInterval := orDefault_ne DeliverySettings.isNormal_standard.sendInterval _
  sendTimeout := orDefault_ne DeliverySettings.isNormal_standard.sendTimeout _
  maxBytes := orDefault_ne DeliverySettings.isNormal_standard.maxBytes _
  retries := orDefault_ne DeliverySettings.isNormal_standard.retries _
  stem := orDefault_ne DeliverySettings.isNormal_standard.stem _

theorem normal_eq (h : d.IsNormal) : normal d = d := by
  have hhost : orDefault "" DeliverySettings.standard.host (trimText d.host) = d.host := by
    rw [h.host.trimText_eq]
    exact if_neg h.host.ne_empty
  simp only [normal, hhost, (orDefault_supplied _).kept h.sendInterval,
    (orDefault_supplied _).kept h.sendTimeout, (orDefault_supplied _).kept h.maxBytes,
    (orDefault_supplied _).kept h.retries, (orDefault_supplied _).kept h.stem]

end Delivery

namespace Storage

variable {s : StorageSettings}

theorem becomes_normal (s : StorageSettings) : s.Becomes (normal s) where
  directory := rfl
  retention := orDefault_supplied _
  cleanupInterval := orDefault_supplied _

theorem isNormal_normal (s : StorageSettings) : (normal s).IsNormal where
  retention := orDefault_ne StorageSettings.isNormal_standard.retention _
  cleanupInterval := orDefault_ne StorageSettings.isNormal_standard.cleanupInterval _

theorem normal_eq (h : s.IsNormal) : normal s = s := by
  simp only [normal, (orDefault_supplied _).kept h.retention,
    (orDefault_supplied _).kept h.cleanupInterval]

end Storage

/-- Settings that say all that has no standard value. -/
structure Complete (s : Settings) : Prop where
  account : Named s.account
  region : Named s.region
  cluster : Named s.cluster
  keyPath : s.keyPath ≠ ""

/-- The first thing that settings do not say and that has no standard value. -/
inductive FirstMissing (s : Settings) : SettingsError → Prop
  | account (h : ¬ Named s.account) : FirstMissing s .noAccount
  | region (ha : Named s.account) (h : ¬ Named s.region) : FirstMissing s .noRegion
  | cluster (ha : Named s.account) (hr : Named s.region) (h : ¬ Named s.cluster) :
      FirstMissing s .noCluster
  | keyPath (ha : Named s.account) (hr : Named s.region) (hc : Named s.cluster)
      (h : s.keyPath = "") : FirstMissing s .noKeyPath

/-- Settings in which nothing is missing and nothing left to a standard value. -/
structure IsNormal (s : Settings) : Prop where
  account : Filled s.account
  region : Filled s.region
  cluster : Filled s.cluster
  keyPath : s.keyPath ≠ ""
  secretRefresh : s.secretRefresh ≠ 0
  delivery : s.delivery.IsNormal
  storage : s.storage.IsNormal
  port : s.port ≠ 0

/-- What settings become: what they say is kept, but for the blanks around three names and the
host. -/
structure Becomes (s s' : Settings) : Prop where
  account : s'.account = trimText s.account
  region : s'.region = trimText s.region
  cluster : s'.cluster = trimText s.cluster
  keyPath : s'.keyPath = s.keyPath
  secretRefresh : Supplied 0 standardSecretRefresh s.secretRefresh s'.secretRefresh
  delivery : s.delivery.Becomes s'.delivery
  storage : s.storage.Becomes s'.storage
  port : Supplied 0 standardPort s.port s'.port
  logLevel : s'.logLevel = s.logLevel

/-- The settings with standard values in the gaps. -/
def normal (s : Settings) : Settings :=
  { s with
    account := trimText s.account
    region := trimText s.region
    cluster := trimText s.cluster
    secretRefresh := orDefault 0 standardSecretRefresh s.secretRefresh
    delivery := Delivery.normal s.delivery
    storage := Storage.normal s.storage
    port := orDefault 0 standardPort s.port }

variable {s s' : Settings} {e : SettingsError}

theorem becomes_normal (s : Settings) : s.Becomes s.normal where
  account := rfl
  region := rfl
  cluster := rfl
  keyPath := rfl
  secretRefresh := orDefault_supplied _
  delivery := Delivery.becomes_normal s.delivery
  storage := Storage.becomes_normal s.storage
  port := orDefault_supplied _
  logLevel := rfl

theorem isNormal_normal (h : s.Complete) : s.normal.IsNormal where
  account := filled_trimText h.account
  region := filled_trimText h.region
  cluster := filled_trimText h.cluster
  keyPath := h.keyPath
  secretRefresh := orDefault_ne (by decide) _
  delivery := Delivery.isNormal_normal s.delivery
  storage := Storage.isNormal_normal s.storage
  port := orDefault_ne (by decide) _

theorem normal_eq (h : s.IsNormal) : s.normal = s := by
  simp only [normal, h.account.trimText_eq, h.region.trimText_eq, h.cluster.trimText_eq,
    (orDefault_supplied _).kept h.secretRefresh, Delivery.normal_eq h.delivery,
    Storage.normal_eq h.storage, (orDefault_supplied _).kept h.port]

theorem IsNormal.complete (h : s.IsNormal) : s.Complete :=
  ⟨h.account.named, h.region.named, h.cluster.named, h.keyPath⟩

theorem validate_of_complete (h : s.Complete) : s.validate = .ok s.normal := by
  rw [validate, if_neg (trimText_ne_empty_iff.mpr h.account),
    if_neg (trimText_ne_empty_iff.mpr h.region), if_neg (trimText_ne_empty_iff.mpr h.cluster),
    if_neg h.keyPath, normal]

theorem validate_of_firstMissing (h : s.FirstMissing e) : s.validate = .error e := by
  have blank : ∀ {t : String}, ¬ Named t → trimText t = "" := fun ht =>
    not_ne_iff.mp (mt trimText_ne_empty_iff.mp ht)
  cases h with
  | account h => rw [validate, if_pos (blank h)]
  | region ha h => rw [validate, if_neg (trimText_ne_empty_iff.mpr ha), if_pos (blank h)]
  | cluster ha hr h =>
    rw [validate, if_neg (trimText_ne_empty_iff.mpr ha), if_neg (trimText_ne_empty_iff.mpr hr),
      if_pos (blank h)]
  | keyPath ha hr hc h =>
    rw [validate, if_neg (trimText_ne_empty_iff.mpr ha), if_neg (trimText_ne_empty_iff.mpr hr),
      if_neg (trimText_ne_empty_iff.mpr hc), if_pos h]

theorem complete_or_firstMissing (s : Settings) : s.Complete ∨ ∃ e, s.FirstMissing e := by
  by_cases ha : Named s.account
  · by_cases hr : Named s.region
    · by_cases hc : Named s.cluster
      · by_cases hk : s.keyPath = ""
        · exact .inr ⟨_, .keyPath ha hr hc hk⟩
        · exact .inl ⟨ha, hr, hc, hk⟩
      · exact .inr ⟨_, .cluster ha hr hc⟩
    · exact .inr ⟨_, .region ha hr⟩
  · exact .inr ⟨_, .account ha⟩

theorem validate_eq_ok_iff : s.validate = .ok s' ↔ s.Complete ∧ s.normal = s' := by
  constructor
  · intro h
    rcases complete_or_firstMissing s with hs | ⟨e, he⟩
    · exact ⟨hs, Except.ok.inj ((validate_of_complete hs).symm.trans h)⟩
    · exact nomatch (validate_of_firstMissing he).symm.trans h
  · rintro ⟨hs, rfl⟩
    exact validate_of_complete hs

theorem validate_eq_error_iff : s.validate = .error e ↔ s.FirstMissing e := by
  refine ⟨fun h => ?_, validate_of_firstMissing⟩
  rcases complete_or_firstMissing s with hs | ⟨e', he⟩
  · exact nomatch (validate_of_complete hs).symm.trans h
  · cases (validate_of_firstMissing he).symm.trans h
    exact he

theorem validate_of_isNormal (h : s.IsNormal) : s.validate = .ok s := by
  rw [validate_of_complete h.complete, normal_eq h]

/-- Settings pass where they are complete, and else the first thing missing is told. What they
become is in normal form, keeps what they say and passes again as it is. -/
theorem validate_normalizes (s : Settings) :
    ((∃ s', s.validate = .ok s') ↔ s.Complete) ∧
    (∀ e, s.validate = .error e ↔ s.FirstMissing e) ∧
    ∀ s', s.validate = .ok s' → s'.IsNormal ∧ s.Becomes s' ∧ s'.validate = .ok s' := by
  refine ⟨⟨?_, fun h => ⟨s.normal, validate_of_complete h⟩⟩, fun e => validate_eq_error_iff, ?_⟩
  · rintro ⟨s', h⟩
    exact (validate_eq_ok_iff.mp h).1
  · intro s' h
    obtain ⟨hs, rfl⟩ := validate_eq_ok_iff.mp h
    exact ⟨isNormal_normal hs, becomes_normal s, validate_of_isNormal (isNormal_normal hs)⟩

/-- Settings with blanks of several kinds around their names, a host of blanks only, and gaps beside
values of their own. -/
def gapped : Settings where
  cluster := "\u3000Nord 1\n"
  account := "\t123\u00A0"
  region := "eu west"
  keyPath := " "
  secretRefresh := 0
  delivery := ⟨" \u2003 ", 0, 5, 0, 4294967295, ""⟩
  storage := ⟨some "", 1, 0⟩
  port := 0
  logLevel := ""

/-- The same settings as they pass. -/
def ungapped : Settings where
  cluster := "Nord 1"
  account := "123"
  region := "eu west"
  keyPath := " "
  secretRefresh := 60
  delivery := ⟨"api.cloudzero.com", 60, 5, 500000, 4294967295, "cloudzero"⟩
  storage := ⟨some "", 1, 10800⟩
  port := 8080
  logLevel := ""

theorem validate_normalizes_gapped :
    gapped.validate = .ok ungapped ∧ gapped.Complete ∧
    ungapped.IsNormal ∧ gapped.Becomes ungapped ∧ ungapped.validate = .ok ungapped := by
  have hvalidate : gapped.validate = .ok ungapped := by decide +kernel
  obtain ⟨hcomplete, -, hpasses⟩ := validate_normalizes gapped
  exact ⟨hvalidate, hcomplete.mp ⟨ungapped, hvalidate⟩, hpasses ungapped hvalidate⟩

end Settings

end ClusterOutbox
