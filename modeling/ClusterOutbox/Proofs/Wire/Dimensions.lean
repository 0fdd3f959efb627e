import ClusterOutbox.Proofs.Store.Entry
import ClusterOutbox.Proofs.Wire.Description

namespace ClusterOutbox

/-- The key of the name of a resource among its dimensions. -/
def Kind.nameKey : Kind → String
  | pod => "pod"
  | node => "node"
  | ns => "namespace"
  | _ => "workload"

theorem Kind.name_inj {a b : Kind} (h : a.name = b.name) : a = b := by
  have hname := ofName?_name a
  rw [h, ofName?_name b] at hname
  exact (Option.some.inj hname).symm

theorem standardMetricLabels_eq (kind : Kind) (name : String) (ns : Option String) :
    standardMetricLabels kind name ns =
      (ns.elim (SortedMap.ofList [(kind.nameKey, name)])
        ((SortedMap.ofList [(kind.nameKey, name)]).insert "namespace")).insert
          "resource_type" kind.name := by
  cases kind <;> cases ns <;> rfl

section

variable {kind kind' : Kind} {name name' : String} {ns ns' : Option String}

theorem get?_resourceType :
    (standardMetricLabels kind name ns).get? "resource_type" = some kind.name := by
  rw [standardMetricLabels_eq, SortedMap.get?_insert]

/-- A namespace that lies in a namespace is told by the latter alone. -/
theorem get?_namespace :
    (standardMetricLabels kind name ns).get? "namespace" =
      if kind = .ns then some (ns.getD name) else ns := by
  rw [standardMetricLabels_eq, SortedMap.get?_insert_of_ne (by decide)]
  cases ns with
  | some ns => rw [Option.elim_some, SortedMap.get?_insert, Option.getD_some, ite_self]
  | none =>
    rw [Option.elim_none, SortedMap.get?_ofList_singleton]
    cases kind <;> simp [Kind.nameKey]

theorem get?_nameKey (h : kind ≠ .ns) :
    (standardMetricLabels kind name ns).get? kind.nameKey = some name := by
  have hkeys : kind.nameKey ≠ "resource_type" ∧ kind.nameKey ≠ "namespace" := by
    cases kind <;> first | decide | exact absurd rfl h
  rw [standardMetricLabels_eq, SortedMap.get?_insert_of_ne hkeys.1]
  cases ns with
  | none => exact SortedMap.get?_insert _ _ _
  | some ns =>
    rw [Option.elim_some, SortedMap.get?_insert_of_ne hkeys.2]
    exact SortedMap.get?_insert _ _ _

theorem get?_otherKey {key : String} (htype : key ≠ "resource_type") (hns : key ≠ "namespace")
    (hname : key ≠ kind.nameKey) : (standardMetricLabels kind name ns).get? key = none := by
  rw [standardMetricLabels_eq, SortedMap.get?_insert_of_ne htype]
  cases ns with
  | none => exact SortedMap.get?_insert_of_ne hname _ _
  | some ns =>
    rw [Option.elim_some, SortedMap.get?_insert_of_ne hns]
    exact SortedMap.get?_insert_of_ne hname _ _

/-- The dimensions tell the kind, and of all kinds but one the name and the namespace. -/
theorem standardMetricLabels_eq_iff :
    standardMetricLabels kind name ns = standardMetricLabels kind' name' ns' ↔
      kind = kind' ∧ if kind = .ns then ns.getD name = ns'.getD name' else name = name' ∧ ns = ns' := by
  constructor
  · intro h
    have hsame : ∀ key, (standardMetricLabels kind name ns).get? key =
        (standardMetricLabels kind' name' ns').get? key := fun key => by rw [h]
    have htype := hsame "resource_type"
    rw [get?_resourceType, get?_resourceType] at htype
    obtain rfl := Kind.name_inj (Option.some.inj htype)
    have hns := hsame "namespace"
    rw [get?_namespace, get?_namespace] at hns
    refine ⟨rfl, ?_⟩
    split
    next hkind => simpa only [hkind, if_true, Option.some.injEq] using hns
    next hkind =>
      have hname := hsame kind.nameKey
      rw [get?_nameKey hkind, get?_nameKey hkind] at hname
      exact ⟨Option.some.inj hname, by simpa only [hkind, if_false] using hns⟩
  · rintro ⟨rfl, h⟩
    split at h
    next hkind =>
      refine SortedMap.ext_get? fun key => ?_
      by_cases htype : key = "resource_type"
      · rw [htype, get?_resourceType, get?_resourceType]
      by_cases hns : key = "namespace"
      · rw [hns, get?_namespace, get?_namespace, if_pos hkind, if_pos hkind, h]
      have hname : key ≠ kind.nameKey := hkind ▸ hns
      rw [get?_otherKey htype hns hname, get?_otherKey htype hns hname]
    next => rw [h.1, h.2]

/-- Dimensions under none of the keys that the name of a series and its tags take. -/
def LabelMap.Unreserved (dimensions : LabelMap) : Prop :=
  dimensions.get? nameLabel = none ∧ ∀ key, dimensions.get? (tagMark ++ key) = none

theorem unreserved_standardMetricLabels : (standardMetricLabels kind name ns).Unreserved := by
  have hmarked : ∀ key word : String, word.toList.head? ≠ some 'l' → tagMark ++ key ≠ word := by
    rintro key word hword rfl
    simp [tagMark] at hword
  have hname : kind.nameKey ≠ nameLabel ∧ kind.nameKey.toList.head? ≠ some 'l' := by
    cases kind <;> decide
  constructor
  · exact get?_otherKey (by decide) (by decide) hname.1.symm
  · intro key
    exact get?_otherKey (hmarked key "resource_type" (by decide))
      (hmarked key "namespace" (by decide)) (hmarked key kind.nameKey hname.2)

end

section

variable {name name' : String} {dimensions dimensions' tags tags' : LabelMap}

theorem get?_infoLabels_marked (h : dimensions.Unreserved) (key : String) :
    (infoLabels name dimensions tags).get? (tagMark ++ key) = tags.get? key := by
  cases htag : tags.get? key with
  | some value =>
    have hmem : (key, value) ∈ tags.entries := SortedMap.mem_entries_of_get? htag
    have hget := get?_infoLabels_tag name dimensions hmem
    exact hget
  | none =>
    have huncovered : ¬ tags.Covers (tagMark ++ key) := by
      rintro ⟨e, he, hkey⟩
      rw [(String.append_right_inj tagMark).mp hkey, SortedMap.get?_of_mem he] at htag
      cases htag
    rw [get?_infoLabels_dimension name dimensions (tagMark_append_ne_nameLabel key) huncovered, h.2]

/-- The labels of a series tell its name, its dimensions and its tags apart. -/
theorem infoLabels_eq_iff (h : dimensions.Unreserved) (h' : dimensions'.Unreserved) :
    infoLabels name dimensions tags = infoLabels name' dimensions' tags' ↔
      name = name' ∧ dimensions = dimensions' ∧ tags = tags' := by
  constructor
  · intro hlabels
    have hsame : ∀ key, (infoLabels name dimensions tags).get? key =
        (infoLabels name' dimensions' tags').get? key := fun key => by rw [hlabels]
    have hname := hsame nameLabel
    rw [get?_infoLabels_name, get?_infoLabels_name] at hname
    refine ⟨Option.some.inj hname, SortedMap.ext_get? fun key => ?_, SortedMap.ext_get? fun key => ?_⟩
    · by_cases hkey : key = nameLabel
      · rw [hkey, h.1, h'.1]
      by_cases hmarked : ∃ rest, key = tagMark ++ rest
      · obtain ⟨rest, rfl⟩ := hmarked
        rw [h.2, h'.2]
      · have huncovered : ∀ tags : LabelMap, ¬ tags.Covers key := by
          rintro tags ⟨e, -, he⟩
          exact hmarked ⟨e.1, he⟩
        rw [← get?_infoLabels_dimension name dimensions hkey (huncovered tags), hsame key,
          get?_infoLabels_dimension name' dimensions' hkey (huncovered tags')]
    · rw [← get?_infoLabels_marked h, hsame, get?_infoLabels_marked h']
  · rintro ⟨rfl, rfl, rfl⟩
    rfl

end

theorem labels_infoSeries_inj {name name' : String} {dimensions dimensions' tags tags' : LabelMap}
    {timestamp timestamp' : Int64} :
    (infoSeries name dimensions tags timestamp).labels =
        (infoSeries name' dimensions' tags' timestamp').labels ↔
      infoLabels name dimensions tags = infoLabels name' dimensions' tags' := by
  have hinj : Function.Injective fun e : String × String => (⟨e.1, e.2⟩ : Label) := by
    intro a b hab
    exact Prod.ext (congrArg Label.name hab) (congrArg Label.value hab)
  constructor
  · exact fun h => SortedMap.ext_entries (List.map_injective_iff.mpr hinj h)
  · intro h
    exact congrArg (fun m => m.entries.map fun e => (⟨e.1, e.2⟩ : Label)) h

namespace Record

variable {r r' : Record}

/-- A record whose dimensions are the standard ones, whatever else it holds. -/
def IsStandard (r : Record) : Prop := r.metricLabels = standardMetricLabels r.kind r.name r.ns

/-- Namespaces that their dimensions do not tell apart: what stands for the name is the namespace that
one of them lies in. -/
def Confused (r r' : Record) : Prop :=
  r.kind = .ns ∧ r'.kind = .ns ∧ r.ns.getD r.name = r'.ns.getD r'.name

/-- The tags of the series of a record, by place: those of the labels, then those of the
annotations. -/
def tags (r : Record) : Nat → LabelMap
  | 0 => r.labels.getD ∅
  | _ => r.annotations.getD ∅

/-- What a series of a record tells, by place. -/
def topic : Nat → String
  | 0 => "labels"
  | _ => "annotations"

theorem eq_of_topic {i j : Nat} (hi : i < 2) (hj : j < 2) (h : topic i = topic j) : i = j := by
  have hne : topic 0 ≠ topic 1 := by decide
  obtain rfl | rfl : i = 0 ∨ i = 1 := by omega
  all_goals obtain rfl | rfl : j = 0 ∨ j = 1 := by omega
  · rfl
  · exact absurd h hne
  · exact absurd h.symm hne
  · rfl

theorem series_place {stem : String} {i : Nat} {s : Series} (h : (r.series stem)[i]? = some s) :
    i < 2 ∧ s = infoSeries (seriesName stem r.kind (topic i)) r.metricLabels (r.tags i)
      (Int64.ofInt r.lastObserved.millis) := by
  unfold series at h
  match i with
  | 0 => exact ⟨by decide, (Option.some.inj h).symm⟩
  | i + 1 =>
    cases hannotations : r.annotations with
    | none => simp [hannotations] at h
    | some annotations =>
      have htags : r.tags (i + 1) = annotations := congrArg (Option.getD · ∅) hannotations
      simp only [hannotations, List.getElem?_cons_succ, List.getElem?_singleton] at h
      split at h
      next hi =>
        subst hi
        exact ⟨by decide, htags ▸ (Option.some.inj h).symm⟩
      next => cases h

/-- Of records of two identities, the series at two places have the same labels exactly where both
records are namespaces that are confused and both places tell the same. -/
theorem series_shared_iff {stem : String} (hr : r.IsStandard) (hr' : r'.IsStandard)
    (hident : r.identity ≠ r'.identity) {i j : Nat} {s s' : Series}
    (hs : (r.series stem)[i]? = some s) (hs' : (r'.series stem)[j]? = some s') :
    s.labels = s'.labels ↔ i = j ∧ r.Confused r' ∧ r.tags i = r'.tags j := by
  obtain ⟨hi, rfl⟩ := series_place hs
  obtain ⟨hj, rfl⟩ := series_place hs'
  rw [labels_infoSeries_inj, hr, hr', infoLabels_eq_iff unreserved_standardMetricLabels
    unreserved_standardMetricLabels, standardMetricLabels_eq_iff]
  constructor
  · rintro ⟨hname, ⟨hkind, hdimensions⟩, htags⟩
    refine ⟨?_, ?_, htags⟩
    · rw [hkind, seriesName, seriesName, String.append_right_inj] at hname
      exact eq_of_topic hi hj hname
    · split at hdimensions
      next hns => exact ⟨hns, hkind ▸ hns, hdimensions⟩
      next =>
        refine absurd ?_ hident
        simp only [identity, nsKey, hkind, hdimensions]
  · rintro ⟨rfl, ⟨hns, hns', hshown⟩, htags⟩
    refine ⟨by rw [hns, hns'], ⟨hns.trans hns'.symm, ?_⟩, htags⟩
    rw [if_pos hns]
    exact hshown

/-- A namespace that lies in another one. -/
def nested (name : String) : Record :=
  { fresh .ns name (some "x") with annotations := some ∅ }

theorem series_shared_iff_nested :
    (nested "a").IsStandard ∧ (nested "b").IsStandard ∧
    (nested "a").identity ≠ (nested "b").identity ∧
    ∃ s s', ((nested "a").series "cloudzero")[1]? = some s ∧
      ((nested "b").series "cloudzero")[1]? = some s' ∧
      (s.labels = s'.labels ↔ 1 = 1 ∧ (nested "a").Confused (nested "b") ∧
        (nested "a").tags 1 = (nested "b").tags 1) :=
  have ha : (nested "a").IsStandard := rfl
  have hb : (nested "b").IsStandard := rfl
  have hident : (nested "a").identity ≠ (nested "b").identity := by decide
  ⟨ha, hb, hident, _, _, rfl, rfl, series_shared_iff ha hb hident rfl rfl⟩

/-- Two namespaces in one namespace have two identities and write the same series. -/
theorem nested_share_series :
    (nested "a").identity ≠ (nested "b").identity ∧
    ((nested "a").series "cloudzero").length = 2 ∧
    ((nested "a").series "cloudzero").map (·.labels) =
      ((nested "b").series "cloudzero").map (·.labels) := by
  decide +kernel

end Record

end ClusterOutbox
