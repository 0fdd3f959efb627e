import ClusterOutbox.Proofs.Settings.Overlay
import ClusterOutbox.Proofs.Settings.Shown

namespace ClusterOutbox

/-- The settings that say which cluster it is. -/
inductive ClusterField
  | cluster
  | account
  | region

namespace ClusterField

def key : ClusterField → String
  | cluster => "cluster_name"
  | account => "cloud_account_id"
  | region => "region"

def get : ClusterField → Settings → String
  | cluster, s => s.cluster
  | account, s => s.account
  | region, s => s.region

def set : ClusterField → String → Settings → Settings
  | cluster, t, s => { s with cluster := t }
  | account, t, s => { s with account := t }
  | region, t, s => { s with region := t }

variable {i : ClusterField} {s s' : Settings} {t : String}

theorem get_set (i : ClusterField) (t : String) (s : Settings) : i.get (i.set t s) = t := by
  cases i <;> rfl

/-- Members are looked up by name, and an entry changes what its own name gives. -/
theorem members?_withEntry {whole : Setting} {get : String → Option Setting}
    (h : whole.members? [] = some get) (key : String) (v : Setting) :
    ∃ get', (whole.withEntry key v).members? [] = some get' ∧ get' key = some v ∧
      ∀ name, name ≠ key → get' name = get name := by
  have hget : ∀ name, get name = Setting.entry? whole name := by
    cases whole with
    | table es =>
      cases h
      exact fun _ => rfl
    | list items =>
      cases h
      exact fun _ => rfl
    | null | bool b | integer n | float bits | text t => cases h
  refine ⟨_, rfl, Setting.withEntry_same whole key v, ?_⟩
  intro name hne
  rw [hget]
  exact Setting.withEntry_other hne

/-- The settings of a table with another text in the place of one that names the cluster. -/
theorem ofTable?_withEntry {whole v : Setting} (h : Settings.ofTable? whole = some s)
    (ht : v.text? = some t) : Settings.ofTable? (whole.withEntry i.key v) = some (i.set t s) := by
  cases hmembers : whole.members? [] with
  | none => simp [Settings.ofTable?, hmembers] at h
  | some get =>
    obtain ⟨get', hmembers', hkey, hothers⟩ := members?_withEntry hmembers i.key v
    simp only [Settings.ofTable?, hmembers, Option.bind_eq_bind, Option.bind_some,
      Option.bind_eq_some_iff] at h
    simp only [Settings.ofTable?, hmembers', Option.bind_eq_bind, Option.bind_some]
    obtain ⟨cluster, hcluster, account, haccount, region, hregion, keyPath, hkeyPath, refresh,
      hrefresh, delivery, hdelivery, storage, hstorage, port, hport, level, hlevel, hs⟩ := h
    cases hs
    have hfield : Settings.field Setting.text? "" (get' i.key) = some t := by rw [hkey]; exact ht
    cases i <;>
      simp only [key, ne_eq] at hfield hothers <;>
      simp [hothers, hfield, hcluster, haccount, hregion, hkeyPath, hrefresh, hdelivery, hstorage,
        hport, hlevel, set]

theorem validate_set (h : s.validate = .ok s') (ht : trimText t ≠ "") :
    (i.set t s).validate = .ok (i.set (trimText t) s') := by
  unfold Settings.validate at h
  split at h
  next => cases h
  next haccount =>
    split at h
    next => cases h
    next hregion =>
      split at h
      next => cases h
      next hcluster =>
        split at h
        next => cases h
        next hkey =>
          cases h
          cases i <;> simp [set, Settings.validate, ht, haccount, hregion, hcluster, hkey]

theorem path_key (i : ClusterField) : Setting.path i.key = [.member i.key] := by
  cases i <;> rfl

end ClusterField

namespace Settings

variable {file : SettingsFile} {environment after : List (String × String)} {s : Settings}

theorem load_eq_ok : load file environment = .ok s ↔
    ∃ entries base whole found, entries? file = some entries ∧
      Setting.layEntries entries (.table []) = some base ∧
      Setting.layVariables environment base = some whole ∧
      ofTable? whole = some found ∧ found.validate = .ok s := by
  constructor
  · intro h
    cases hentries : entries? file with
    | none => simp [load, hentries, throw, throwThe, MonadExceptOf.throw] at h
    | some entries =>
      cases hbase : Setting.layEntries entries (.table []) with
      | none => simp [load, hentries, hbase, throw, throwThe, MonadExceptOf.throw] at h
      | some base =>
        cases hwhole : Setting.layVariables environment base with
        | none => simp [load, hentries, hbase, hwhole, throw, throwThe, MonadExceptOf.throw] at h
        | some whole =>
          cases hfound : ofTable? whole with
          | none =>
            simp [load, hentries, hbase, hwhole, hfound, throw, throwThe, MonadExceptOf.throw] at h
          | some found =>
            refine ⟨entries, base, whole, found, rfl, hbase, hwhole, hfound, ?_⟩
            simpa [load, hentries, hbase, hwhole, hfound] using h
  · rintro ⟨entries, base, whole, found, hentries, hbase, hwhole, hfound, hvalid⟩
    simp [load, hentries, hbase, hwhole, hfound, hvalid]

theorem ok_of_toOption {result : Except SettingsError Settings} (h : result.toOption = some s) :
    result = .ok s := by
  cases result with
  | error e => cases h
  | ok s' => exact congrArg Except.ok (Option.some.inj h)

/-- How a setting that names the cluster arrives that a variable gives, all others being valid: it is
shown anew where it reads as a truth value or a number, and arrives as it was given, but for blanks
around it, exactly where that shows it as it is. -/
theorem load_identity (i : ClusterField) (before : List (String × String)) {name value : String}
    (hname : Setting.variablePath? name = some i.key)
    (hafter : ∀ e ∈ after, Setting.touches i.key e.1 = false)
    (hvalid : load file (before ++ (name, "x") :: after) = .ok s)
    (hvalue : ∃ c ∈ value.toList, isBlank c = false) :
    ∃ shown arrived, (Setting.ofVariable value).text? = some shown ∧
      load file (before ++ (name, value) :: after) = .ok arrived ∧
      arrived = i.set (trimText shown) s ∧
      (i.get arrived = trimText value ↔ shown = value) := by
  have hne : trimText value ≠ "" := by
    intro hempty
    obtain ⟨c, hc, hblank⟩ := hvalue
    have hnil : trimBlanks value.toList = [] := by
      simpa [trimText] using congrArg String.toList hempty
    rw [trimBlanks_eq_nil_iff.mp hnil c hc] at hblank
    cases hblank
  obtain ⟨shown, hshown, hshownNe, hiff⟩ := Setting.exists_shown hne
  obtain ⟨entries, base, whole, found, hentries, hbase, hwhole, hfound, hs⟩ := load_eq_ok.mp hvalid
  have hpath : (Setting.variablePath? name).map Setting.path = some [.member i.key] := by
    rw [hname, Option.map_some, i.path_key]
  refine ⟨shown, i.set (trimText shown) s, hshown, load_eq_ok.mpr ?_, rfl, ?_⟩
  · exact ⟨entries, base, _, _, hentries, hbase,
      Setting.layVariables_exchange hpath hafter hwhole value,
      ClusterField.ofTable?_withEntry hfound hshown, ClusterField.validate_set hs hshownNe⟩
  · rw [i.get_set]
    exact hiff

/-- The settings of a cluster but for its account, as variables. -/
def clusterVariables : List (String × String) := [
  ("INSIGHTS_CLUSTER_NAME", "prod-east"),
  ("INSIGHTS_REGION", "us-east-1"),
  ("INSIGHTS_API_KEY_PATH", "/etc/insights/api-key")]

def prodEast (account : String) : Settings where
  cluster := "prod-east"
  account := account
  region := "us-east-1"
  keyPath := "/etc/insights/api-key"
  secretRefresh := standardSecretRefresh
  delivery := .standard
  storage := .standard
  port := standardPort
  logLevel := "info"

theorem load_identity_zeroLed :
    load .none (("INSIGHTS_CLOUD_ACCOUNT_ID", "x") :: clusterVariables) = .ok (prodEast "x") ∧
    ∃ shown arrived, (Setting.ofVariable "012345678901").text? = some shown ∧
      load .none (("INSIGHTS_CLOUD_ACCOUNT_ID", "012345678901") :: clusterVariables) = .ok arrived ∧
      arrived = prodEast (trimText shown) ∧
      (arrived.account = trimText "012345678901" ↔ shown = "012345678901") := by
  have hvalid : load .none (("INSIGHTS_CLOUD_ACCOUNT_ID", "x") :: clusterVariables) =
      .ok (prodEast "x") :=
    ok_of_toOption (by decide +kernel)
  exact ⟨hvalid, load_identity .account [] (by decide +kernel) (by decide +kernel)
    hvalid ⟨'0', by decide, by decide⟩⟩

/-- An account that begins with a zero loses it in a variable, and keeps it in a file. -/
theorem zeroLed_account_changed :
    ¬ (∀ value : String, (∃ c ∈ value.toList, isBlank c = false) →
      (load .none (("INSIGHTS_CLOUD_ACCOUNT_ID", value) :: clusterVariables)).toOption.map
        (·.account) = some (trimText value)) ∧
    (load (.json "\x7b\"cloud_account_id\":\"012345678901\"\x7d") clusterVariables).toOption.map
      (·.account) = some "012345678901" := by
  refine ⟨fun h => ?_, by decide +kernel⟩
  exact absurd (h "012345678901" ⟨'0', by decide, by decide⟩) (by decide +kernel)

end Settings

end ClusterOutbox
