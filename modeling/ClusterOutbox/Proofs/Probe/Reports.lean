import ClusterOutbox.Probe.Routes
import ClusterOutbox.Proofs.SortedMap
import ClusterOutbox.Proofs.Text.ByteOrder

/-!
Health over whole runs. A component is as it was last reported, and the status of the whole, its
readiness and the answers to probes all follow from the last reports and the last declaration.
-/

namespace ClusterOutbox

namespace Status

/-- A status is the worst of some, and healthy where there are none. -/
structure IsWorst (among : Status → Prop) (worst : Status) : Prop where
  bound : ∀ s, among s → s.rank ≤ worst.rank
  attained : (∃ s, among s) → among worst
  alone : (¬ ∃ s, among s) → worst = .healthy

theorem rank_injective {a b : Status} (h : a.rank = b.rank) : a = b := by
  cases a <;> cases b <;> first | rfl | exact absurd h (by decide)

theorem rank_worse (a b : Status) : (a.worse b).rank = max a.rank b.rank := by
  unfold worse
  split <;> omega

theorem worse_eq (a b : Status) : a.worse b = a ∨ a.worse b = b := by
  unfold worse
  split
  · exact .inr rfl
  · exact .inl rfl

theorem rank_le_foldl_worse {l : List Status} {a s : Status} (h : s ∈ a :: l) :
    s.rank ≤ (l.foldl worse a).rank := by
  induction l generalizing a s with
  | nil =>
    rw [List.mem_singleton.mp h]
    exact le_refl _
  | cons b l ih =>
    have hstart : (a.worse b).rank ≤ (l.foldl worse (a.worse b)).rank := ih List.mem_cons_self
    have hrank := rank_worse a b
    rcases List.mem_cons.mp h with rfl | h
    · exact le_trans (by omega) hstart
    · rcases List.mem_cons.mp h with rfl | h
      · exact le_trans (by omega) hstart
      · exact ih (List.mem_cons_of_mem _ h)

theorem foldl_worse_mem (l : List Status) (a : Status) : l.foldl worse a ∈ a :: l := by
  induction l generalizing a with
  | nil => exact List.mem_singleton.mpr rfl
  | cons b l ih =>
    rcases List.mem_cons.mp (ih (a.worse b)) with h | h
    · rcases worse_eq a b with hw | hw
      · exact List.mem_cons.mpr (.inl (h.trans hw))
      · exact List.mem_cons_of_mem _ (List.mem_cons.mpr (.inl (h.trans hw)))
    · exact List.mem_cons_of_mem _ (List.mem_cons_of_mem _ h)

/-- Going through statuses from the best one on finds the worst. -/
theorem isWorst_foldl (l : List Status) : IsWorst (· ∈ l) (l.foldl worse .healthy) where
  bound := fun s hs => rank_le_foldl_worse (List.mem_cons_of_mem _ hs)
  attained := by
    rintro ⟨s, hs⟩
    rcases List.mem_cons.mp (foldl_worse_mem l .healthy) with h | h
    · -- Nothing is worse than the best, so that all are.
      have hle := rank_le_foldl_worse (a := .healthy) (List.mem_cons_of_mem _ hs)
      rw [h] at hle ⊢
      rwa [← rank_injective (Nat.le_antisymm hle (Nat.zero_le _))]
    · exact h
  alone := by
    intro hnone
    have hnil : l = [] := List.eq_nil_iff_forall_not_mem.mpr fun s hs => hnone ⟨s, hs⟩
    rw [hnil]
    rfl

theorem IsWorst.eq_unhealthy_iff {among : Status → Prop} {worst : Status}
    (h : IsWorst among worst) : worst = .unhealthy ↔ among .unhealthy := by
  constructor
  · rintro rfl
    by_contra hnot
    by_cases hsome : ∃ s, among s
    · exact hnot (h.attained hsome)
    · exact nomatch h.alone hsome
  · intro hamong
    have hle := h.bound .unhealthy hamong
    cases worst with
    | unhealthy => rfl
    | healthy => exact absurd hle (by decide)
    | degraded => exact absurd hle (by decide)

end Status

namespace Health

variable {h : Health} {name : String}

/-- A status that some component has. -/
def Shows (h : Health) (s : Status) : Prop :=
  ∃ name c, h.components.get? name = some c ∧ c.status = s

/-- A component is unhealthy. -/
def Fails (h : Health) (name : String) : Prop :=
  ∃ c, h.components.get? name = some c ∧ c.status = .unhealthy

theorem isWorst_status (h : Health) : Status.IsWorst h.Shows h.status := by
  have hshows : h.Shows = (· ∈ h.components.entries.map fun e => e.2.status) := by
    funext s
    refine propext ⟨?_, fun hs => ?_⟩
    · rintro ⟨name, c, hc, rfl⟩
      exact List.mem_map.mpr ⟨(name, c), SortedMap.mem_entries_iff.mpr hc, rfl⟩
    · obtain ⟨e, he, rfl⟩ := List.mem_map.mp hs
      exact ⟨e.1, e.2, SortedMap.mem_entries_iff.mp he, rfl⟩
  rw [hshows]
  exact Status.isWorst_foldl _

theorem status_eq_unhealthy_iff : h.status = .unhealthy ↔ ∃ name, h.Fails name :=
  h.isWorst_status.eq_unhealthy_iff

theorem mem_failing_iff : name ∈ h.failing ↔ h.Fails name := by
  constructor
  · intro hname
    obtain ⟨e, he, rfl⟩ := List.mem_map.mp hname
    obtain ⟨hmem, hstatus⟩ := List.mem_filter.mp he
    exact ⟨e.2, SortedMap.mem_entries_iff.mp hmem, beq_iff_eq.mp hstatus⟩
  · rintro ⟨c, hc, hstatus⟩
    exact List.mem_map.mpr ⟨(name, c),
      List.mem_filter.mpr ⟨SortedMap.mem_entries_iff.mpr hc, beq_iff_eq.mpr hstatus⟩, rfl⟩

theorem failing_increasing (h : Health) :
    h.failing.Pairwise fun a b => utf8Bytes a < utf8Bytes b := by
  refine List.pairwise_map.mpr (List.Pairwise.filter _ (h.components.increasing.imp ?_))
  intro a b hlt
  exact utf8Bytes_lt (compareOfLessAndEq_eq_lt.mp hlt)

theorem unready?_eq_none_iff :
    h.unready? = none ↔ h.ready = true ∧ ¬ ∃ name, h.Fails name := by
  rw [← status_eq_unhealthy_iff, unready?]
  cases h.ready with
  | false => simp
  | true =>
    by_cases hstatus : h.status = .unhealthy
    · simp [hstatus]
    · simp [hstatus]

theorem unready?_of_fails (hready : h.ready = true) (hfails : ∃ name, h.Fails name) :
    h.unready? = some ("Unhealthy components: " ++ ", ".intercalate h.failing) := by
  rw [unready?, hready, if_neg (by decide), if_pos (status_eq_unhealthy_iff.mpr hfails)]

/-- What is told of components and of the whole. -/
inductive Event
  | register (name : String)
  | update (name : String) (health : ComponentHealth)
  /-- The outcome of a pass, with the message of a failure. -/
  | outcome (name : String) (failure : Option String)
  | declare (ready : Bool)

namespace Event

/-- What an event says of a component. -/
def report? (name : String) : Event → Option ComponentHealth
  | register n => if n = name then some .healthy else none
  | update n c => if n = name then some c else none
  | outcome n failure => if n = name then some (.ofOutcome failure) else none
  | declare _ => none

/-- What an event says of the readiness of the whole. -/
def readiness? : Event → Option Bool
  | declare ready => some ready
  | _ => none

def perform (h : Health) : Event → Health
  | register name => h.set name .healthy
  | update name c => h.set name c
  | outcome name failure => h.set name (.ofOutcome failure)
  | declare ready => { h with ready }

end Event

/-- The health after some events, in their order. -/
def after (events : List Event) : Health := events.foldl Event.perform empty

/-- The last that events say of a component. -/
def latest? (events : List Event) (name : String) : Option ComponentHealth :=
  (events.filterMap fun e => e.report? name).getLast?

/-- The last that events say of readiness, which starts without one. -/
def declared (events : List Event) : Bool := (events.filterMap Event.readiness?).getLast?.getD false

theorem get?_set (h : Health) (n name : String) (c : ComponentHealth) :
    (h.set n c).components.get? name =
      (if n = name then some c else none).or (h.components.get? name) := by
  by_cases hname : n = name
  · rw [if_pos hname, ← hname, set, SortedMap.get?_insert, Option.some_or]
  · rw [if_neg hname, set, SortedMap.get?_insert_of_ne (Ne.symm hname), Option.none_or]

theorem get?_perform (h : Health) (e : Event) (name : String) :
    (e.perform h).components.get? name = (e.report? name).or (h.components.get? name) := by
  cases e with
  | register n => exact get?_set h n name _
  | update n c => exact get?_set h n name c
  | outcome n failure => exact get?_set h n name _
  | declare ready => rfl

theorem ready_perform (h : Health) (e : Event) :
    (e.perform h).ready = e.readiness?.getD h.ready := by
  cases e <;> rfl

theorem getLast?_filterMap_cons {α β : Type} (f : α → Option β) (a : α) (l : List α) :
    ((a :: l).filterMap f).getLast? = (l.filterMap f).getLast?.or (f a) := by
  cases hfa : f a with
  | none => rw [List.filterMap_cons_none hfa, Option.or_none]
  | some b =>
    rw [List.filterMap_cons_some hfa, List.getLast?_cons]
    cases (l.filterMap f).getLast? <;> rfl

theorem get?_foldl_perform (events : List Event) (h : Health) (name : String) :
    (events.foldl Event.perform h).components.get? name =
      (latest? events name).or (h.components.get? name) := by
  induction events generalizing h with
  | nil => rfl
  | cons e events ih =>
    rw [List.foldl_cons, ih, get?_perform, ← Option.or_assoc, latest?, latest?,
      getLast?_filterMap_cons]

theorem ready_foldl_perform (events : List Event) (h : Health) :
    (events.foldl Event.perform h).ready =
      (events.filterMap Event.readiness?).getLast?.getD h.ready := by
  induction events generalizing h with
  | nil => rfl
  | cons e events ih =>
    rw [List.foldl_cons, ih, ready_perform, getLast?_filterMap_cons, Option.getD_or]

theorem get?_after (events : List Event) (name : String) :
    (after events).components.get? name = latest? events name := by
  rw [after, get?_foldl_perform]
  exact Option.or_none

theorem ready_after (events : List Event) : (after events).ready = declared events :=
  ready_foldl_perform events empty

/-- A request for the page of a path. -/
structure Asks (path method target : String) : Prop where
  method : method = "GET" ∨ method = "HEAD"
  target : pathOf target = path

theorem status_answer {path method target : String} (hasks : Asks path method target)
    {m : Metrics} {status : Nat} {page : Page} (hpage : pageOf? h m path = some (status, page)) :
    (answer h m method target).status = status := by
  rw [answer, hasks.target, hpage]
  rcases hasks.method with rfl | rfl <;> rfl

theorem status_eq_iff {p : Prop} [Decidable p] {status : Nat} (h : status = if p then 503 else 200) :
    (status = 503 ↔ p) ∧ (status = 200 ↔ ¬ p) := by
  by_cases hp : p
  · simp [h, hp]
  · simp [h, hp]

theorem status_answer_healthz {method target : String} (hasks : Asks "/healthz" method target)
    (m : Metrics) : ((answer h m method target).status = 503 ↔ ∃ name, h.Fails name) ∧
      ((answer h m method target).status = 200 ↔ ¬ ∃ name, h.Fails name) := by
  rw [← status_eq_unhealthy_iff]
  exact status_eq_iff (status_answer hasks rfl)

theorem status_answer_readyz {method target : String} (hasks : Asks "/readyz" method target)
    (m : Metrics) : ((answer h m method target).status = 503 ↔ h.unready? ≠ none) ∧
      ((answer h m method target).status = 200 ↔ h.unready? = none) := by
  have hstatus := status_eq_iff (status_answer (h := h) (m := m) hasks rfl)
  rwa [Option.isSome_iff_ne_none, not_ne_iff] at hstatus

/-- What is ready is healthy, whoever asks. -/
theorem status_answer_healthz_of_readyz {m m' : Metrics} {method method' target target' : String}
    (hasks : Asks "/readyz" method target) (hasks' : Asks "/healthz" method' target')
    (h200 : (answer h m method target).status = 200) :
    (answer h m' method' target').status = 200 := by
  have hnone := (status_answer_readyz hasks m).2.mp h200
  exact (status_answer_healthz hasks' m').2.mpr (unready?_eq_none_iff.mp hnone).2

/-- What is last said of some component is that it has a status. -/
def LastShows (events : List Event) (s : Status) : Prop :=
  ∃ name c, latest? events name = some c ∧ c.status = s

/-- What is last said of a component is that it is unhealthy. -/
def LastFails (events : List Event) (name : String) : Prop :=
  ∃ c, latest? events name = some c ∧ c.status = .unhealthy

/-- What events say of a health and of the answers about it. -/
structure Agrees (events : List Event) (h : Health) : Prop where
  status : Status.IsWorst (LastShows events) h.status
  ready : h.unready? = none ↔ declared events = true ∧ ¬ ∃ name, LastFails events name
  /-- Once it is declared ready, what stands against it is the unhealthy components, which are told
  in the order of their bytes. -/
  reason : declared events = true → h.unready? ≠ none → ∃ names : List String,
    h.unready? = some ("Unhealthy components: " ++ ", ".intercalate names) ∧
    (∀ name, name ∈ names ↔ LastFails events name) ∧
    names.Pairwise fun a b => utf8Bytes a < utf8Bytes b
  healthz : ∀ m method target, Asks "/healthz" method target →
    ((answer h m method target).status = 503 ↔ ∃ name, LastFails events name) ∧
    ((answer h m method target).status = 200 ↔ ¬ ∃ name, LastFails events name)
  readyz : ∀ m method target, Asks "/readyz" method target →
    ((answer h m method target).status = 503 ↔ h.unready? ≠ none) ∧
    ((answer h m method target).status = 200 ↔ h.unready? = none)
  live : ∀ m m' method method' target target', Asks "/readyz" method target →
    Asks "/healthz" method' target' → (answer h m method target).status = 200 →
    (answer h m' method' target').status = 200

theorem shows_after (events : List Event) : (after events).Shows = LastShows events := by
  funext s
  simp only [Shows, LastShows, get?_after]

theorem fails_after_iff {events : List Event} :
    (after events).Fails name ↔ LastFails events name := by
  simp only [Fails, LastFails, get?_after]

/-- After every run the status is the worst of the last reports, readiness and its reason follow
from them and the last declaration, and the two probes agree. -/
theorem after_agrees (events : List Event) : Agrees events (after events) := by
  have hready : (after events).unready? = none ↔
      declared events = true ∧ ¬ ∃ name, LastFails events name := by
    rw [unready?_eq_none_iff, ready_after]
    simp only [fails_after_iff]
  have hfails : (∃ name, (after events).Fails name) ↔ ∃ name, LastFails events name := by
    simp only [fails_after_iff]
  constructor
  case status => exact shows_after events ▸ isWorst_status _
  case ready => exact hready
  case reason =>
    intro hdeclared hunready
    have hsome : ∃ name, LastFails events name := by
      by_contra hnone
      exact hunready (hready.mpr ⟨hdeclared, hnone⟩)
    refine ⟨(after events).failing, ?_, ?_, failing_increasing _⟩
    · exact unready?_of_fails ((ready_after events).trans hdeclared) (hfails.mpr hsome)
    · exact fun name => mem_failing_iff.trans fails_after_iff
  case healthz =>
    intro m method target hasks
    rw [← hfails]
    exact status_answer_healthz hasks m
  case readyz => exact fun m method target hasks => status_answer_readyz hasks m
  case live =>
    intro m m' method method' target target' hasks hasks' h200
    exact status_answer_healthz_of_readyz hasks hasks' h200

/-- A run in which components fail whose names are in another order than the reports. -/
def outage : List Event :=
  [.register "store", .declare true, .update "é" ⟨.unhealthy, none⟩,
    .update "zone" (.unhealthy "closed"), .outcome "store" (some "retrying"),
    .update "store" (.unhealthy "closed"), .update "Zone" (.unhealthy ""), .register "store"]

theorem after_agrees_outage :
    Agrees outage (after outage) ∧
    (after outage).unready? = some "Unhealthy components: Zone, zone, é" ∧
    Asks "/healthz" "HEAD" "/healthz?full#top" ∧
    ∀ m, (answer (after outage) m "HEAD" "/healthz?full#top").status = 503 := by
  have hasks : Asks "/healthz" "HEAD" "/healthz?full#top" := ⟨.inr rfl, by decide +kernel⟩
  have hfails : ∃ name, LastFails outage name :=
    ⟨"é", ⟨.unhealthy, none⟩, by decide +kernel, rfl⟩
  exact ⟨after_agrees outage, by decide +kernel, hasks,
    fun m => ((after_agrees outage).healthz m _ _ hasks).1.mpr hfails⟩

end Health

end ClusterOutbox
