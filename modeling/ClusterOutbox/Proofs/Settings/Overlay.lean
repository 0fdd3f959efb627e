import ClusterOutbox.Settings.Load

namespace ClusterOutbox.Setting

section

variable {key other : String} {v x : Setting} {es : List (String × Setting)}

theorem putEntry_putEntry (key : String) (v x : Setting) (es : List (String × Setting)) :
    putEntry key v (putEntry key x es) = putEntry key v es := by
  induction es with
  | nil => simp [putEntry]
  | cons e es ih =>
    by_cases he : e.1 = key
    · simp [putEntry, he]
    · simp [putEntry, he, ih]

/-- Entries of two keys may be put in either order where one of the keys is there already. -/
theorem putEntry_comm (hne : other ≠ key) (hkey : key ∈ es.map (·.1)) :
    putEntry other x (putEntry key v es) = putEntry key v (putEntry other x es) := by
  induction es with
  | nil => simp at hkey
  | cons e es ih =>
    by_cases he : e.1 = key
    · simp [putEntry, he, hne.symm]
    · have hrest : key ∈ es.map (·.1) := by simpa [Ne.symm he] using hkey
      by_cases ho : e.1 = other
      · simp [putEntry, ho, hne]
      · simp [putEntry, he, ho, ih hrest]

theorem lookup_putEntry (key : String) (v : Setting) (es : List (String × Setting)) :
    (putEntry key v es).lookup key = some v := by
  induction es with
  | nil => simp [putEntry]
  | cons e es ih =>
    obtain ⟨other, x⟩ := e
    by_cases he : other = key
    · simp [putEntry, he]
    · have hbeq : (key == other) = false := by simpa using Ne.symm he
      rw [putEntry, if_neg he, List.lookup_cons, hbeq]
      exact ih

theorem lookup_putEntry_of_ne (h : other ≠ key) :
    (putEntry key v es).lookup other = es.lookup other := by
  induction es with
  | nil => simp [putEntry, h]
  | cons e es ih =>
    obtain ⟨first, x⟩ := e
    by_cases he : first = key
    · have hbeq : (other == key) = false := by simpa using h
      rw [putEntry, if_pos he, List.lookup_cons, List.lookup_cons, he, hbeq]
    · rw [putEntry, if_neg he, List.lookup_cons, List.lookup_cons, ih]

theorem keys_putEntry (h : key ∈ es.map (·.1)) (other : String) (v : Setting) :
    key ∈ (putEntry other v es).map (·.1) := by
  induction es with
  | nil => simp at h
  | cons e es ih =>
    by_cases he : e.1 = other
    · rw [putEntry, if_pos he]
      simpa [he] using h
    · rw [putEntry, if_neg he]
      rcases List.mem_cons.mp h with h | h
      · exact List.mem_cons.mpr (.inl h)
      · exact List.mem_cons_of_mem _ (ih h)

theorem key_mem_putEntry (key : String) (v : Setting) (es : List (String × Setting)) :
    key ∈ (putEntry key v es).map (·.1) := by
  induction es with
  | nil => simp [putEntry]
  | cons e es ih =>
    by_cases he : e.1 = key
    · simp [putEntry, he]
    · rw [putEntry, if_neg he]
      exact List.mem_cons_of_mem _ ih

end

/-- Whether a table has an entry of a key. -/
def Has (key : String) (s : Setting) : Prop := key ∈ s.entries.map (·.1)

section

variable {s s' : Setting} {key other : String} {v x : Setting} {rest : List Step}

theorem has_withEntry (s : Setting) (key : String) (v : Setting) : (s.withEntry key v).Has key :=
  key_mem_putEntry key v s.entries

theorem Has.withEntry (h : s.Has key) (other : String) (v : Setting) :
    (s.withEntry other v).Has key :=
  keys_putEntry h other v

theorem withEntry_withEntry (s : Setting) (key : String) (v x : Setting) :
    (s.withEntry key x).withEntry key v = s.withEntry key v :=
  congrArg table (putEntry_putEntry key v x s.entries)

theorem withEntry_comm (hne : other ≠ key) (h : s.Has key) :
    (s.withEntry key v).withEntry other x = (s.withEntry other x).withEntry key v :=
  congrArg table (putEntry_comm hne h)

theorem withEntry_same (s : Setting) (key : String) (v : Setting) :
    Setting.entry? (s.withEntry key v) key = some v :=
  lookup_putEntry key v s.entries

theorem withEntry_other (hne : other ≠ key) :
    Setting.entry? (s.withEntry key v) other = Setting.entry? s other :=
  lookup_putEntry_of_ne hne

/-- What is laid at one key does not depend on the entry of another, and leaves it. -/
theorem lay_withEntry (hne : other ≠ key) (h : s.Has key) :
    lay other x (s.withEntry key v) = (lay other x s).withEntry key v := by
  cases x <;> simp only [lay, withEntry_other hne] <;> exact withEntry_comm hne h

theorem has_lay (h : s.Has key) (other : String) (x : Setting) : (lay other x s).Has key := by
  cases x <;> exact h.withEntry other _

theorem layAt_withEntry (hne : other ≠ key) (h : s.Has key) :
    layAt x (.member other :: rest) (s.withEntry key v) =
      (layAt x (.member other :: rest) s).map (·.withEntry key v) := by
  cases rest with
  | nil => exact congrArg some (lay_withEntry hne h)
  | cons step rest =>
    simp only [layAt, withEntry_other hne, Option.map_map]
    refine Option.map_congr ?_
    intro inner _
    exact withEntry_comm hne h

theorem has_layAt (h : s.Has key) (hlaid : layAt x (.member other :: rest) s = some s') :
    s'.Has key := by
  cases rest with
  | nil =>
    rw [← Option.some.inj hlaid]
    exact has_lay h other x
  | cons step rest =>
    obtain ⟨inner, -, rfl⟩ := Option.map_eq_some_iff.mp hlaid
    exact h.withEntry other inner

/-- A path begins with the key of a member. -/
theorem path_cons (s : String) : ∃ key rest, path s = .member key :: rest := by
  cases hkey : readKey s.toList with
  | none => exact ⟨s, [], by simp [path, hkey]⟩
  | some found =>
    cases hsteps : readSteps found.2.length found.2 with
    | none => exact ⟨s, [], by simp [path, hkey, hsteps]⟩
    | some steps => exact ⟨found.1, steps, by simp [path, hkey, hsteps]⟩

/-- Whether a variable changes the entry of a key, or something inside it. -/
def touches (key name : String) : Bool :=
  match (variablePath? name).map path with
  | some (.member other :: _) => other == key
  | _ => false

theorem layVariables_withEntry (h : s.Has key) {entries : List (String × String)}
    (hapart : ∀ e ∈ entries, touches key e.1 = false) :
    layVariables entries (s.withEntry key v) =
      (layVariables entries s).map (·.withEntry key v) := by
  induction entries generalizing s with
  | nil => rfl
  | cons e entries ih =>
    obtain ⟨name, value⟩ := e
    obtain ⟨hfirst, hrest⟩ := List.forall_mem_cons.mp hapart
    cases hname : variablePath? name with
    | none =>
      simp only [layVariables, hname]
      exact ih h hrest
    | some p =>
      obtain ⟨other, rest, hpath⟩ := path_cons p
      have hne : other ≠ key := by simpa [touches, hname, hpath] using hfirst
      simp only [layVariables, hname, hpath, layAt_withEntry hne h]
      cases hlaid : layAt (ofVariable value) (.member other :: rest) s with
      | none => rfl
      | some s' => exact ih (has_layAt h hlaid) hrest

theorem layVariables_append (before after : List (String × String)) (s : Setting) :
    layVariables (before ++ after) s = (layVariables before s).bind (layVariables after) := by
  induction before generalizing s with
  | nil => rfl
  | cons e before ih =>
    obtain ⟨name, value⟩ := e
    rw [List.cons_append]
    cases hname : variablePath? name with
    | none =>
      simp only [layVariables, hname]
      exact ih s
    | some p =>
      simp only [layVariables, hname, Option.bind_assoc]
      exact congrArg _ (funext ih)

/-- The value of a variable is no table. -/
theorem lay_ofVariable (key value : String) (s : Setting) :
    lay key (ofVariable value) s = s.withEntry key (ofVariable value) := by
  unfold ofVariable
  dsimp only
  split
  · rfl
  · split
    · rfl
    · split
      · rfl
      · split <;> rfl

/-- Another value of a variable changes the entry of its key and nothing else, as long as no later
variable touches the key. -/
theorem layVariables_exchange {before after : List (String × String)} {name : String}
    (hname : (variablePath? name).map path = some [.member key])
    (hafter : ∀ e ∈ after, touches key e.1 = false) {value : String} {whole : Setting}
    (hwhole : layVariables (before ++ (name, value) :: after) s = some whole) (other : String) :
    layVariables (before ++ (name, other) :: after) s =
      some (whole.withEntry key (ofVariable other)) := by
  obtain ⟨p, hp, hpath⟩ := Option.map_eq_some_iff.mp hname
  have hstep : ∀ value base, layVariables ((name, value) :: after) base =
      layVariables after (base.withEntry key (ofVariable value)) := by
    intro value base
    simp only [layVariables, hp, hpath, layAt, lay_ofVariable, Option.bind_some]
  rw [layVariables_append] at hwhole ⊢
  obtain ⟨base, hbase, hlaid⟩ := Option.bind_eq_some_iff.mp hwhole
  rw [hstep] at hlaid
  rw [hbase, Option.bind_some, hstep, ← withEntry_withEntry base key _ (ofVariable value),
    layVariables_withEntry (has_withEntry ..) hafter, hlaid, Option.map_some]

end

end ClusterOutbox.Setting
