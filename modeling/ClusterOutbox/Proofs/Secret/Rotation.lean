import ClusterOutbox.Proofs.SortedMap
import ClusterOutbox.Secret.ApiKey

namespace ClusterOutbox

namespace KeyFile

variable {file : KeyFile} {files : List KeyFile} {key : String}

/-- The text of a file that reads. -/
def text? : KeyFile → Option String
  | missing => none
  | content bytes => ofUtf8? bytes

/-- The trimmed texts of the files that read, in their order. -/
def keys (files : List KeyFile) : List String := files.filterMap fun file => file.text?.map trimText

/-- The trimmed text of the last file that reads; `key` where none does. -/
def latest (key : String) (files : List KeyFile) : String := ((keys files).getLast?).getD key

theorem key?_of_text {text : String} (h : file.text? = some text) :
    file.key? = .ok (trimText text) := by
  cases file with
  | missing => cases h
  | content bytes =>
    simp only [text?] at h
    simp only [key?, h]

theorem key?_of_no_text (h : file.text? = none) : ∃ e, file.key? = .error e := by
  cases file with
  | missing => exact ⟨.noFile, rfl⟩
  | content bytes =>
    simp only [text?] at h
    exact ⟨.notText, by simp only [key?, h]⟩

theorem text_of_key? (h : file.key? = .ok key) : ∃ text, file.text? = some text ∧ trimText text = key := by
  cases htext : file.text? with
  | none =>
    obtain ⟨e, he⟩ := key?_of_no_text htext
    rw [he] at h
    cases h
  | some text =>
    rw [key?_of_text htext] at h
    exact ⟨text, rfl, Except.ok.inj h⟩

theorem keys_append (files more : List KeyFile) : keys (files ++ more) = keys files ++ keys more :=
  List.filterMap_append

theorem keys_cons_of_text {text : String} (h : file.text? = some text) :
    keys (file :: files) = trimText text :: keys files := by
  simp [keys, h]

theorem keys_cons_of_no_text (h : file.text? = none) : keys (file :: files) = keys files := by
  simp [keys, h]

theorem keys_concat_of_text {text : String} (h : file.text? = some text) :
    keys (files ++ [file]) = keys files ++ [trimText text] := by
  rw [keys_append, keys_cons_of_text h]
  rfl

theorem keys_concat_of_no_text (h : file.text? = none) : keys (files ++ [file]) = keys files := by
  rw [keys_append, keys_cons_of_no_text h]
  exact List.append_nil _

theorem latest_cons_of_text {text : String} (h : file.text? = some text) :
    latest key (file :: files) = latest (trimText text) files := by
  simp [latest, keys_cons_of_text h, List.getLast?_cons]

theorem latest_cons_of_no_text (h : file.text? = none) :
    latest key (file :: files) = latest key files := by
  rw [latest, keys_cons_of_no_text h, latest]

theorem latest_mem (key : String) (files : List KeyFile) : latest key files ∈ key :: keys files := by
  unfold latest
  cases hlast : (keys files).getLast? with
  | none => exact List.mem_cons_self
  | some last => exact List.mem_cons_of_mem _ (List.mem_of_getLast? hlast)

end KeyFile

namespace Secret

/-- Looks at one state of the file after another. -/
def refreshAll (s : Secret) (files : List KeyFile) : Secret :=
  files.foldl (fun s file => (s.refresh file).2) s

theorem refreshAll_watch (key : String) (files : List KeyFile) :
    (watch key).refreshAll files = watch (KeyFile.latest key files) := by
  induction files generalizing key with
  | nil => rfl
  | cons file files ih =>
    rw [refreshAll, List.foldl_cons, ← refreshAll, refresh]
    cases htext : file.text? with
    | none =>
      obtain ⟨e, he⟩ := KeyFile.key?_of_no_text htext
      rw [he, KeyFile.latest_cons_of_no_text htext]
      exact ih key
    | some text =>
      rw [KeyFile.key?_of_text htext, KeyFile.latest_cons_of_text htext]
      exact ih (trimText text)

end Secret

/-- A monitor of a key file as it runs: it remembers the key it saw last by a digest, and reports to
the health of the whole. -/
structure KeyMonitor (δ : Type) where
  key : String
  seen : Option δ
  health : Health

namespace KeyMonitor

variable {δ : Type} [DecidableEq δ]

/-- Reads the file again and reports how that went; where it does not read, key and digest stay. The
result says whether the digest of the key is not the one remembered. -/
def refresh (digest : String → δ) (path : String) (m : KeyMonitor δ) (file : KeyFile) :
    Except ReadError Bool × KeyMonitor δ :=
  let report := fun result => m.health.set Secret.component (Secret.health path result)
  match file.key? with
  | .error e => (.error e, { m with health := report (.error e) })
  | .ok key =>
    if m.seen = some (digest key) then (.ok false, { m with key, health := report (.ok false) })
    else (.ok true, ⟨key, some (digest key), report (.ok true)⟩)

/-- Refreshes at one state of the file after another. -/
def refreshAll (digest : String → δ) (path : String) (m : KeyMonitor δ) (files : List KeyFile) :
    KeyMonitor δ :=
  files.foldl (fun m file => (m.refresh digest path file).2) m

/-- A secret watched by the digest of the key seen last, instead of by that key. -/
def ofSecret (digest : String → δ) (s : Secret) (health : Health) : KeyMonitor δ :=
  ⟨s.key, some (digest s.seen), health⟩

/-- Watches a key from now on. -/
def watch (digest : String → δ) (key : String) (health : Health) : KeyMonitor δ :=
  ofSecret digest (.watch key) health

variable {digest : String → δ} {path : String}

/-- The secret remembers the key seen last itself. A digest that tells the new key from it serves as
well. -/
theorem refresh_ofSecret {s : Secret} {file : KeyFile} (health : Health)
    (hdigest : ∀ key, file.key? = .ok key → digest s.seen = digest key → s.seen = key) :
    (ofSecret digest s health).refresh digest path file = ((s.refresh file).1,
      ofSecret digest (s.refresh file).2
        (health.set Secret.component (Secret.health path (s.refresh file).1))) := by
  unfold refresh Secret.refresh
  cases hkey : file.key? with
  | error e => rfl
  | ok key =>
    by_cases hseen : s.seen = key
    · simp [ofSecret, hseen]
    · have hnew : ¬ digest s.seen = digest key := fun h => hseen (hdigest key hkey h)
      have hne : (key != s.seen) = true := by simpa using Ne.symm hseen
      simp [ofSecret, hnew, hne]

theorem refresh_unread {file : KeyFile} {e : ReadError} (digest : String → δ) (path : String)
    (m : KeyMonitor δ) (h : file.key? = .error e) : m.refresh digest path file =
      (.error e, { m with health := m.health.set Secret.component (Secret.health path (.error e)) }) := by
  rw [refresh, h]

/-- A key that reads is watched from now on, whether it is told from the last one or not. -/
theorem refresh_read {file : KeyFile} {new : String} (digest : String → δ) (path key : String)
    (health : Health) (h : file.key? = .ok new) :
    let changed := decide (digest key ≠ digest new)
    (watch digest key health).refresh digest path file = (.ok changed,
      watch digest new (health.set Secret.component (Secret.health path (.ok changed)))) := by
  intro changed
  rw [refresh, h]
  by_cases hsame : digest key = digest new <;> simp [watch, ofSecret, Secret.watch, changed, hsame]

/-- After any run of refreshes the monitor watches the key of the last file that read. -/
theorem refreshAll_watch (digest : String → δ) (path key : String) (health : Health)
    (files : List KeyFile) : ∃ reported, (watch digest key health).refreshAll digest path files =
      watch digest (KeyFile.latest key files) reported := by
  induction files generalizing key health with
  | nil => exact ⟨health, rfl⟩
  | cons file files ih =>
    rw [refreshAll, List.foldl_cons, ← refreshAll]
    cases htext : file.text? with
    | none =>
      obtain ⟨e, he⟩ := KeyFile.key?_of_no_text htext
      rw [KeyFile.latest_cons_of_no_text htext, refresh_unread digest path _ he]
      exact ih key _
    | some text =>
      rw [KeyFile.latest_cons_of_text htext,
        refresh_read digest path key health (KeyFile.key?_of_text htext)]
      exact ih (trimText text) _

/-- The digests of some texts tell them apart. -/
def TellsApart (digest : String → δ) (texts : List String) : Prop :=
  ∀ a ∈ texts, ∀ b ∈ texts, digest a = digest b → a = b

/-- Where digests tell the keys of a run apart, the monitor runs as the secret that remembers the key
itself. -/
theorem refresh_eq_secret {key : String} {files : List KeyFile} {file : KeyFile}
    (path : String) (health : Health)
    (htells : TellsApart digest (key :: KeyFile.keys (files ++ [file]))) :
    let s := (Secret.watch key).refreshAll files
    ∃ reported, ((watch digest key health).refreshAll digest path files).refresh digest path file =
      ((s.refresh file).1, ofSecret digest (s.refresh file).2 reported) := by
  intro s
  have hs : s = .watch (KeyFile.latest key files) := Secret.refreshAll_watch key files
  obtain ⟨reported, hm⟩ := refreshAll_watch digest path key health files
  have hdigest : ∀ new, file.key? = .ok new → digest (KeyFile.latest key files) = digest new →
      KeyFile.latest key files = new := by
    intro new hnew
    obtain ⟨text, htext, rfl⟩ := KeyFile.text_of_key? hnew
    rw [KeyFile.keys_concat_of_text htext] at htells
    exact htells _ (List.mem_append_left _ (KeyFile.latest_mem key files)) _ (by simp)
  rw [hm, hs]
  exact ⟨_, refresh_ofSecret reported hdigest⟩

/-- What a monitor reports of its component. -/
def status? (m : KeyMonitor δ) : Option Status :=
  (m.health.components.get? Secret.component).map (·.status)

/-- What one refresh comes to at a state of the file, where `earlier` are the states read before it. -/
structure Follows (digest : String → δ) (earlier : List KeyFile) (file : KeyFile) (m : KeyMonitor δ)
    (result : Except ReadError Bool) (m' : KeyMonitor δ) : Prop where
  key : (KeyFile.keys (earlier ++ [file])).getLast? = some m'.key
  fails_iff : (∃ e, result = .error e) ↔ file.text? = none
  unread : file.text? = none → m'.key = m.key ∧ m'.seen = m.seen
  changed : TellsApart digest (KeyFile.keys (earlier ++ [file])) → ∀ text, file.text? = some text →
    result = .ok (decide ((KeyFile.keys earlier).getLast? ≠ some (trimText text)))
  degraded_iff : m'.status? = some .degraded ↔ ∃ e, result = .error e
  healthy_iff : m'.status? = some .healthy ↔ ∃ changed, result = .ok changed

omit [DecidableEq δ] in
theorem status?_of_health {m : KeyMonitor δ} {health : Health} {c : ComponentHealth}
    (h : m.health = health.set Secret.component c) : m.status? = some c.status := by
  rw [status?, h, Health.set, SortedMap.get?_insert]
  rfl

theorem status?_refresh (digest : String → δ) (path : String) (m : KeyMonitor δ) (file : KeyFile) :
    (m.refresh digest path file).2.status? =
      some (Secret.health path (m.refresh digest path file).1).status := by
  have hset : (m.refresh digest path file).2.health =
      m.health.set Secret.component (Secret.health path (m.refresh digest path file).1) := by
    unfold refresh
    cases file.key? with
    | error e => rfl
    | ok key =>
      dsimp only
      split
      · rfl
      · rfl
  exact status?_of_health hset

/-- The component is degraded after a refresh that failed, and healthy after any other. -/
theorem status?_refresh_iff (digest : String → δ) (path : String) (m : KeyMonitor δ)
    (file : KeyFile) :
    ((m.refresh digest path file).2.status? = some .degraded ↔
      ∃ e, (m.refresh digest path file).1 = .error e) ∧
    ((m.refresh digest path file).2.status? = some .healthy ↔
      ∃ changed, (m.refresh digest path file).1 = .ok changed) := by
  rw [status?_refresh]
  cases (m.refresh digest path file).1 with
  | error e => simp [Secret.health, ComponentHealth.degraded]
  | ok changed => simp [Secret.health, ComponentHealth.healthy]

/-- A monitor that watches the key of the last state that read follows the file once more. -/
theorem follows_refresh {earlier : List KeyFile} {key : String} (digest : String → δ) (path : String)
    (health : Health) (file : KeyFile) (hlast : (KeyFile.keys earlier).getLast? = some key) :
    let m := watch digest key health
    Follows digest earlier file m (m.refresh digest path file).1 (m.refresh digest path file).2 := by
  intro m
  obtain ⟨hdegraded, hhealthy⟩ := status?_refresh_iff digest path m file
  cases htext : file.text? with
  | none =>
    obtain ⟨e, he⟩ := KeyFile.key?_of_no_text htext
    have hstep : m.refresh digest path file = _ := refresh_unread digest path m he
    have hkeys : KeyFile.keys (earlier ++ [file]) = KeyFile.keys earlier :=
      KeyFile.keys_concat_of_no_text htext
    refine ⟨?_, ?_, fun _ => ?_, fun _ text h => ?_, hdegraded, hhealthy⟩
    · rw [hkeys, hstep, hlast]
      rfl
    · rw [hstep]
      simp [htext]
    · rw [hstep]
      exact ⟨rfl, rfl⟩
    · exact absurd (htext.symm.trans h) (by simp)
  | some text =>
    have hstep : m.refresh digest path file = _ :=
      refresh_read digest path key health (KeyFile.key?_of_text htext)
    have hkeys : KeyFile.keys (earlier ++ [file]) = KeyFile.keys earlier ++ [trimText text] :=
      KeyFile.keys_concat_of_text htext
    refine ⟨?_, ?_, fun h => ?_, fun htells other h => ?_, hdegraded, hhealthy⟩
    · rw [hkeys, hstep, List.getLast?_concat]
      rfl
    · rw [hstep]
      simp [htext]
    · exact absurd (htext.symm.trans h) (by simp)
    · obtain rfl := Option.some.inj (htext.symm.trans h)
      have hearlier : key ∈ KeyFile.keys (earlier ++ [file]) := by
        rw [hkeys]
        exact List.mem_append_left _ (List.mem_of_getLast? hlast)
      have hnew : trimText text ∈ KeyFile.keys (earlier ++ [file]) := by simp [hkeys]
      have hdigest : digest key = digest (trimText text) ↔ key = trimText text :=
        ⟨htells key hearlier (trimText text) hnew, congrArg digest⟩
      rw [hstep, hlast]
      simp [hdigest]

/-- Whatever states of the file a monitor meets after a load, each refresh follows the file: the key is
that of the last state that read, a state that does not read is reported and changes neither key nor
digest, and any other one is a change exactly where its trimmed text is not that of the last state that
read before it. -/
theorem refresh_follows {loaded : KeyFile} {key : String} (digest : String → δ) (path : String)
    (health : Health) (before : List KeyFile) (file : KeyFile) (hload : loaded.key? = .ok key) :
    let m := (watch digest key health).refreshAll digest path before
    Follows digest (loaded :: before) file m (m.refresh digest path file).1
      (m.refresh digest path file).2 := by
  intro m
  obtain ⟨text, htext, rfl⟩ := KeyFile.text_of_key? hload
  have hlast : (KeyFile.keys (loaded :: before)).getLast? =
      some (KeyFile.latest (trimText text) before) := by
    rw [KeyFile.keys_cons_of_text htext, List.getLast?_cons]
    rfl
  obtain ⟨reported, hm⟩ := refreshAll_watch digest path (trimText text) health before
  change m = _ at hm
  rw [hm]
  exact follows_refresh digest path reported file hlast

/-- The digests of SHA-256 of two keys, in hexadecimal digits. -/
def sampleDigest (key : String) : String :=
  if key = "secret-one" then "ea77193cc4e6f18656f3130e296203880c4b9b3772afc855211b82fdd46e9185"
  else if key = "secret-two" then "cebdf378f2d2bd60d3e3693349e8f20f329daf11a276f849996f0a6377e2155b"
  else ""

/-- A file that has been written. -/
def written (text : String) : KeyFile := .content (utf8Bytes text)

/-- A key that is replaced, cannot be read for a while, and comes back with other blanks around it. -/
theorem refresh_follows_return :
    let loaded := written "  secret-one\n"
    let before := [written "secret-two", .missing, .content [0xff]]
    let file := written "secret-one\n\n"
    let m := (watch sampleDigest "secret-one" .empty).refreshAll sampleDigest "api-key" before
    loaded.key? = .ok "secret-one" ∧
      Follows sampleDigest (loaded :: before) file m (m.refresh sampleDigest "api-key" file).1
        (m.refresh sampleDigest "api-key" file).2 ∧
      TellsApart sampleDigest (KeyFile.keys (loaded :: before ++ [file])) ∧
      (m.refresh sampleDigest "api-key" file).1 = .ok true := by
  intro loaded before file m
  have hload : loaded.key? = .ok "secret-one" := by decide +kernel
  have hkeys : KeyFile.keys (loaded :: before ++ [file]) =
      ["secret-one", "secret-two", "secret-one"] := by decide +kernel
  have htells : TellsApart sampleDigest (KeyFile.keys (loaded :: before ++ [file])) := by
    rw [hkeys]
    unfold TellsApart
    decide +kernel
  exact ⟨hload, refresh_follows sampleDigest "api-key" .empty before file hload, htells,
    by decide +kernel⟩

end KeyMonitor

end ClusterOutbox
