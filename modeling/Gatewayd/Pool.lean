import Gatewayd.Errors
import Mathlib.Data.List.AList

/-!
# Gatewayd.Pool

Modelled from the spec: the `pool` package is not among the sources. §3 and §4.1 of the spec
describe it: a keyed container with a capacity (`0` means unbounded) and the operations `Put`,
`Pop`, `Get`, `Remove`, `ForEach`, `Size`, `Cap` and `Clear`. `Put` fails with a
capacity-exceeded error when the capacity is positive and the pool is full; `Pop`, `Get` and
`Remove` on a missing key report "absent" or do nothing.

A `Pool` carries the two invariants of §3 as fields: no key appears twice (the entries are an
`AList`) and `size ≤ cap` whenever `cap > 0`. Every operation is atomic (§5), so a pool is a
value and each operation a function on it.

`ForEach` visits the entries in an unspecified order. `Shutdown` visits them in the order of
`entries`; `Connect`'s use of it, which keeps the first key it sees, is a choice among the keys
present (`Network.Proxy.Picks`).

* `values_perm_remove`: removing a present key takes exactly its value out of the pool.
* `values_store`, `keys_store`, `get_store`: what a successful `Put` leaves.
* `put_eq_ok`, `put_eq_error`: `Put` fails exactly when a bounded pool is full.
-/

namespace Gatewayd

/-- Modelled from the spec: `pool.Pool` with keys `K` and values `V`. -/
structure Pool (K V : Type) where
  cap : Nat
  entries : AList (fun _ : K => V)
  bounded : cap = 0 ∨ entries.entries.length ≤ cap

namespace Pool

variable {K V : Type}

def newPool (cap : Nat) : Pool K V := ⟨cap, ∅, .inr (Nat.zero_le _)⟩

def size (p : Pool K V) : Nat := p.entries.entries.length

def keys (p : Pool K V) : List K := p.entries.keys

def values (p : Pool K V) : List V := p.entries.entries.map Sigma.snd

def clear (p : Pool K V) : Pool K V := ⟨p.cap, ∅, .inr (Nat.zero_le _)⟩

@[ext] theorem ext {p q : Pool K V} (hc : p.cap = q.cap) (he : p.entries = q.entries) : p = q := by
  cases p; cases q; cases hc; cases he; rfl

theorem length_values (p : Pool K V) : p.values.length = p.size := List.length_map _ _

theorem length_keys (p : Pool K V) : p.keys.length = p.size := List.length_map _ _

@[simp] theorem size_newPool (cap : Nat) : (newPool cap : Pool K V).size = 0 := rfl
@[simp] theorem cap_newPool (cap : Nat) : (newPool cap : Pool K V).cap = cap := rfl
@[simp] theorem keys_newPool (cap : Nat) : (newPool cap : Pool K V).keys = [] := rfl
@[simp] theorem values_newPool (cap : Nat) : (newPool cap : Pool K V).values = [] := rfl

@[simp] theorem cap_clear (p : Pool K V) : p.clear.cap = p.cap := rfl
@[simp] theorem size_clear (p : Pool K V) : p.clear.size = 0 := rfl
@[simp] theorem keys_clear (p : Pool K V) : p.clear.keys = [] := rfl
@[simp] theorem values_clear (p : Pool K V) : p.clear.values = [] := rfl

variable [DecidableEq K]

def get (p : Pool K V) (key : K) : Option V := p.entries.lookup key

def remove (p : Pool K V) (key : K) : Pool K V :=
  ⟨p.cap, p.entries.erase key,
    p.bounded.imp_right fun h => (List.kerase_sublist key _).length_le.trans h⟩

/-- `Pop(key)`: the value under `key` (or absent), removed in the same atomic step. -/
def pop (p : Pool K V) (key : K) : Option V × Pool K V := (p.get key, p.remove key)

def store (p : Pool K V) (key : K) (value : V) (h : ¬ (0 < p.cap ∧ p.size = p.cap)) :
    Pool K V :=
  ⟨p.cap, p.entries.insert key value, by
    have hs : (p.entries.entries.kerase key).length ≤ p.size := (List.kerase_sublist key _).length_le
    have hb : p.cap = 0 ∨ p.size ≤ p.cap := p.bounded
    simp only [AList.insert_entries, List.length_cons]
    omega⟩

/-- `Put(key, value)`: fails with `ErrPoolExhausted` when the capacity is positive and reached. -/
def put (p : Pool K V) (key : K) (value : V) : Except GatewayDError (Pool K V) :=
  if h : 0 < p.cap ∧ p.size = p.cap then .error errPoolExhausted else .ok (p.store key value h)

/-! ## Reading a pool -/

theorem mem_keys_iff_get {p : Pool K V} {key : K} : key ∈ p.keys ↔ (p.get key).isSome :=
  AList.lookup_isSome.symm

theorem get_eq_none {p : Pool K V} {key : K} : p.get key = none ↔ key ∉ p.keys :=
  AList.lookup_eq_none

theorem mem_values_of_get {p : Pool K V} {key : K} {v : V} (h : p.get key = some v) :
    v ∈ p.values :=
  List.mem_map.2 ⟨⟨key, v⟩, (AList.mem_lookup_iff).1 h, rfl⟩

theorem exists_get_of_mem_values {p : Pool K V} {v : V} (h : v ∈ p.values) :
    ∃ key, p.get key = some v := by
  obtain ⟨⟨key, w⟩, hm, rfl⟩ := List.mem_map.1 h
  exact ⟨key, AList.mem_lookup_iff.2 hm⟩

@[simp] theorem get_newPool (cap : Nat) (key : K) : (newPool cap : Pool K V).get key = none := rfl
@[simp] theorem get_clear (p : Pool K V) (key : K) : p.clear.get key = none := rfl

/-! ## `Remove` and `Pop` -/

@[simp] theorem cap_remove (p : Pool K V) (key : K) : (p.remove key).cap = p.cap := rfl

@[simp] theorem pop_eq (p : Pool K V) (key : K) : p.pop key = (p.get key, p.remove key) := rfl

@[simp] theorem get_remove (p : Pool K V) (key key' : K) :
    (p.remove key).get key' = if key' = key then none else p.get key' := by
  split
  · subst key'; exact AList.lookup_erase _ _
  · exact AList.lookup_erase_ne ‹_›

@[simp] theorem mem_keys_remove {p : Pool K V} {key key' : K} :
    key' ∈ (p.remove key).keys ↔ key' ≠ key ∧ key' ∈ p.keys :=
  AList.mem_erase

theorem values_remove_sublist (p : Pool K V) (key : K) : (p.remove key).values.Sublist p.values :=
  (List.kerase_sublist key _).map _

theorem remove_of_get_none {p : Pool K V} {key : K} (h : p.get key = none) : p.remove key = p :=
  Pool.ext rfl (AList.ext (List.kerase_of_not_mem_keys (get_eq_none.1 h)))

theorem values_perm_remove {p : Pool K V} {key : K} {v : V} (h : p.get key = some v) :
    p.values.Perm (v :: (p.remove key).values) := by
  have hk : key ∈ p.entries.keys := mem_keys_iff_get.2 (by simp [h])
  obtain ⟨b, l₁, l₂, hn, he, hr⟩ := List.exists_of_kerase hk
  have hb : b = v := by
    have : p.get key = some b := by
      change p.entries.entries.dlookup key = some b
      simp only [he, List.dlookup_append, List.dlookup_eq_none.2 hn, List.dlookup_cons_eq]
      rfl
    rw [this] at h; exact Option.some.inj h
  subst hb
  change (p.entries.entries.map Sigma.snd).Perm (_ :: (p.entries.entries.kerase key).map Sigma.snd)
  rw [hr, he]
  simp only [List.map_append, List.map_cons]
  exact List.perm_middle

theorem size_remove {p : Pool K V} {key : K} {v : V} (h : p.get key = some v) :
    (p.remove key).size + 1 = p.size := by
  simpa [← length_values] using (values_perm_remove h).length_eq.symm

/-! ## `Put` -/

variable {p : Pool K V} {key : K} {value : V} {h : ¬ (0 < p.cap ∧ p.size = p.cap)}

@[simp] theorem cap_store : (p.store key value h).cap = p.cap := rfl

theorem values_store : (p.store key value h).values = value :: (p.remove key).values := rfl

theorem keys_store : (p.store key value h).keys = key :: (p.remove key).keys :=
  (AList.keys_insert _).trans (congrArg _ (AList.keys_erase _ _).symm)

@[simp] theorem mem_keys_store {key' : K} :
    key' ∈ (p.store key value h).keys ↔ key' = key ∨ key' ∈ p.keys :=
  AList.mem_insert _

@[simp] theorem get_store (key' : K) :
    (p.store key value h).get key' = if key' = key then some value else p.get key' := by
  split
  · subst key'; exact AList.lookup_insert _
  · exact AList.lookup_insert_ne ‹_›

theorem size_store_le : (p.store key value h).size ≤ p.size + 1 := by
  rw [← length_values, values_store, List.length_cons, ← length_values]
  exact Nat.succ_le_succ (values_remove_sublist p key).length_le

theorem size_store_of_not_mem (hk : key ∉ p.keys) : (p.store key value h).size = p.size + 1 := by
  rw [← length_values, values_store, remove_of_get_none (get_eq_none.2 hk), List.length_cons,
    length_values]

theorem put_eq_ok {p' : Pool K V} :
    p.put key value = .ok p' ↔ ∃ h, p' = p.store key value h := by
  unfold put
  split
  · rename_i hfull
    exact ⟨nofun, fun ⟨h, _⟩ => absurd hfull h⟩
  · simp only [Except.ok.injEq]
    exact ⟨fun e => ⟨‹_›, e.symm⟩, fun ⟨_, e⟩ => e.symm⟩

theorem put_eq_error {e : GatewayDError} :
    p.put key value = .error e ↔ 0 < p.cap ∧ p.size = p.cap ∧ e = errPoolExhausted := by
  unfold put
  split
  · rename_i hfull
    simp only [Except.error.injEq]
    exact ⟨fun he => ⟨hfull.1, hfull.2, he.symm⟩, fun ⟨_, _, he⟩ => he.symm⟩
  · rename_i hfree
    exact ⟨nofun, fun ⟨h1, h2, _⟩ => absurd ⟨h1, h2⟩ hfree⟩

theorem put_of_cap_eq_zero (hc : p.cap = 0) :
    p.put key value = .ok (p.store key value (by omega)) := by
  simp [put, hc]

end Pool

end Gatewayd
