import ClusterOutbox.Proofs.Url.Endpoint

namespace ClusterOutbox

namespace Settings

variable {s : Settings} {base u v : Url}

/-- The same settings for another cluster. -/
def forCluster (s : Settings) (cluster account region : String) : Settings :=
  { s with cluster := cluster, account := account, region := region }

/-- What the address of deliveries says of the settings and of the base address of their host. -/
structure Addresses (s : Settings) (base u : Url) : Prop where
  host : Url.parse? (Url.baseText s.delivery.host) = some base
  query : u.query.bind Form.decode? = some s.identityPairs
  path : u.path.text = base.pathBelow ↔ ¬ base.Unsettled
  /-- Another cluster has an address as well, and metrics call it the same. -/
  label : ∀ cluster account region, ∃ v, (s.forCluster cluster account region).endpoint? = some v ∧
    v.label = u.label ∧ (s.forCluster cluster account region).pusher v = s.pusher u

/-- The address of deliveries below a base address. -/
def endpointBelow (s : Settings) (base : Url) : Url :=
  { base.withPath base.pathBelow with query := some (Form.encode s.identityPairs) }

theorem endpoint?_eq_some_iff : s.endpoint? = some u ↔
    ∃ base, Url.parse? (Url.baseText s.delivery.host) = some base ∧ s.endpointBelow base = u :=
  Option.map_eq_some_iff

/-- Metrics do not see the query. -/
theorem label_endpointBelow (s : Settings) (base : Url) :
    (s.endpointBelow base).label = (base.withPath base.pathBelow).label := rfl

theorem pusher_forCluster (cluster account region : String) (h : v.label = u.label) :
    (s.forCluster cluster account region).pusher v = s.pusher u := by
  rw [pusher, pusher, h]
  rfl

/-- The address of deliveries names the cluster in its query and in no label. Its path lies below the
one of the host, exactly where the latter reads back as it is. -/
theorem endpoint?_addresses (h : s.endpoint? = some u) : ∃ base, s.Addresses base u := by
  obtain ⟨base, hbase, rfl⟩ := endpoint?_eq_some_iff.mp h
  have hpath := Url.withPath_below_iff (Url.pathWritten_parse? hbase)
  refine ⟨base, hbase, Form.decode?_encode s.identityPairs, hpath, fun cluster account region => ?_⟩
  have hlabel : ((s.forCluster cluster account region).endpointBelow base).label =
      (s.endpointBelow base).label := by
    rw [label_endpointBelow, label_endpointBelow]
  exact ⟨_, endpoint?_eq_some_iff.mpr ⟨base, hbase, rfl⟩, hlabel,
    pusher_forCluster cluster account region hlabel⟩

/-- Settings with signs of a query in the names of the cluster. -/
def besideQuery (host : String) : Settings where
  cluster := "Nord & S%C3%BCd+1"
  account := "1=2#?"
  region := "zürich / 東"
  keyPath := "/etc/insights/api-key"
  secretRefresh := standardSecretRefresh
  delivery := { DeliverySettings.standard with host := host }
  storage := .standard
  port := standardPort
  logLevel := "info"

/-- Settings whose host has a path that ends in slashes, a query and a mark. -/
def gateway : Settings := besideQuery "gateway://host/in//?region=other#top"

theorem endpoint?_addresses_gateway :
    (∃ u base, gateway.endpoint? = some u ∧ gateway.Addresses base u) ∧
    gateway.endpoint?.map Url.text = some
      "gateway://host/in/v1/container-metrics?cluster_name=Nord+%26+S%25C3%25BCd%2B1&cloud_account_id=1%3D2%23%3F&region=z%C3%BCrich+%2F+%E6%9D%B1#top" := by
  obtain ⟨u, hu⟩ : ∃ u, gateway.endpoint? = some u := Option.isSome_iff_exists.mp (by decide +kernel)
  obtain ⟨base, haddresses⟩ := endpoint?_addresses hu
  exact ⟨⟨u, base, hu, haddresses⟩, by decide +kernel⟩

/-- Settings whose host says a scheme in its query alone. -/
def schemeInQuery : Settings := besideQuery "localhost:?target=http://b"

/-- Such a host is read as an address without structure, and the slash below it is coded. -/
theorem schemeInQuery_misplaces_path :
    schemeInQuery.validate = .ok schemeInQuery ∧
    ∃ base u, Url.parse? (Url.baseText schemeInQuery.delivery.host) = some base ∧
      schemeInQuery.endpoint? = some u ∧
      base.pathBelow = "/v1/container-metrics".toList ∧
      u.path.text = "%2Fv1/container-metrics".toList := by
  have hbase : (Url.parse? (Url.baseText schemeInQuery.delivery.host)).map Url.pathBelow =
      some "/v1/container-metrics".toList := by decide +kernel
  have hpath : schemeInQuery.endpoint?.map (·.path.text) =
      some "%2Fv1/container-metrics".toList := by decide +kernel
  obtain ⟨base, hparse, hbelow⟩ := Option.map_eq_some_iff.mp hbase
  obtain ⟨u, hu, hutext⟩ := Option.map_eq_some_iff.mp hpath
  exact ⟨by decide +kernel, base, u, hparse, hu, hbelow, hutext⟩

end Settings

end ClusterOutbox
