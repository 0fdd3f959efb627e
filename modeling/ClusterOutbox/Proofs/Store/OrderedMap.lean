import Mathlib.Data.List.Nodup

namespace ClusterOutbox

/-- Values under keys that differ, in the order in which the keys came. -/
structure OrderedMap (κ α : Type) where
  entries : List (κ × α)
  keys_nodup : (entries.map Prod.fst).Nodup

namespace OrderedMap

variable {κ α : Type}

def empty : OrderedMap κ α := ⟨[], List.nodup_nil⟩

def keys (m : OrderedMap κ α) : List κ := m.entries.map Prod.fst

/-- A value under a new key comes last; a key that is there keeps its value. -/
def add [DecidableEq κ] (m : OrderedMap κ α) (k : κ) (a : α) : OrderedMap κ α :=
  if h : k ∈ m.keys then m
  else {
    entries := m.entries ++ [(k, a)]
    keys_nodup := by
      rw [List.map_append, List.nodup_append]
      refine ⟨m.keys_nodup, List.nodup_singleton k, ?_⟩
      intro k' hk' x hx
      obtain rfl := List.mem_singleton.mp hx
      exact fun heq => h (heq ▸ hk') }

def map (f : κ → α → α) (m : OrderedMap κ α) : OrderedMap κ α where
  entries := m.entries.map fun e => (e.1, f e.1 e.2)
  keys_nodup := by
    rw [List.map_map]
    exact m.keys_nodup

def modify [DecidableEq κ] (k : κ) (f : α → α) : OrderedMap κ α → OrderedMap κ α :=
  map fun k' a => if k' = k then f a else a

def filter (p : κ → α → Bool) (m : OrderedMap κ α) : OrderedMap κ α where
  entries := m.entries.filter fun e => p e.1 e.2
  keys_nodup := m.keys_nodup.sublist (List.filter_sublist.map _)

theorem entries_map (f : κ → α → α) (m : OrderedMap κ α) :
    (m.map f).entries = m.entries.map fun e => (e.1, f e.1 e.2) := rfl

theorem entries_filter (p : κ → α → Bool) (m : OrderedMap κ α) :
    (m.filter p).entries = m.entries.filter fun e => p e.1 e.2 := rfl

theorem entries_add_of_mem [DecidableEq κ] {m : OrderedMap κ α} {k : κ} (h : k ∈ m.keys) (a : α) :
    (m.add k a).entries = m.entries := by rw [add, dif_pos h]

theorem entries_add_of_not_mem [DecidableEq κ] {m : OrderedMap κ α} {k : κ} (h : k ∉ m.keys)
    (a : α) : (m.add k a).entries = m.entries ++ [(k, a)] := by rw [add, dif_neg h]

end OrderedMap

end ClusterOutbox
