import Gatewayd.Network.Relay

/-!
# Gatewayd.Network.Acquire

`Connect`: how an inbound connection acquires a backend client.

`Connect` asks `ForEach` for a key of the available pool, then consults `IsExhausted`. Its
comment says that an elastic proxy builds a new client when the pool is exhausted, but
`IsExhausted` is false on every elastic proxy, so that branch is never taken: an elastic `Connect`
always pops the key it picked. On an empty pool that key is `""`, the pop finds nothing, and the
nil client is dereferenced. The same happens on a non-elastic proxy whose empty
pool has capacity `0`.

* `connect_contract`: on a non-empty pool `Connect` binds `gconn` to the client under the picked
  key, which leaves the available pool; on an exhausted one it fails and changes nothing.
* `connect_empty_panics`: on an empty pool that is elastic or unbounded, `Connect` never calls
  `NewClient`, and panics.
-/

namespace Gatewayd
namespace Network

variable {w : World} {gconn : Conn} {clientID : String} {dial : Option Dial}

theorem isExhausted_eq_false
    (hmode : w.proxy.elastic = true ∨ w.proxy.availableConnections.cap = 0) :
    w.proxy.isExhausted = false := by
  cases h : w.proxy.isExhausted
  · rfl
  · obtain ⟨hel, -, hpos⟩ := isExhausted_iff.1 h
    rcases hmode with hm | hm
    · simp [hm] at hel
    · omega

/-- With the busy pool unbounded: when `ForEach` picked a key of a non-empty pool, `Connect`
returns nil having moved the client under that key, and only it, from the available pool to the
busy pool under `gconn`; on a non-elastic proxy whose bounded pool is empty it returns
`ErrPoolExhausted` and changes nothing. -/
theorem connect_contract (hcap : w.proxy.busyConnections.cap = 0)
    (hpick : Picks w.proxy.availableConnections clientID) :
    (w.proxy.availableConnections.keys ≠ [] → ∃ c,
      w.proxy.availableConnections.get clientID = some c ∧
      w.proxy.availableConnections.values.Perm
        (c :: (w.proxy.availableConnections.remove clientID).values) ∧
      connect w gconn clientID dial =
        .ret none ((w.withAvailable (w.proxy.availableConnections.remove clientID)).withBusy
          (w.proxy.busyConnections.store gconn (some c) (by simp [hcap])))) ∧
    (w.proxy.elastic = false → w.proxy.availableConnections.keys = [] →
      0 < w.proxy.availableConnections.cap →
      connect w gconn clientID dial = .ret (some errPoolExhausted) w) := by
  refine ⟨fun hne => ?_, fun hel hempty hpos => connect_of_isExhausted ?_⟩
  · have hmem : clientID ∈ w.proxy.availableConnections.keys := hpick.resolve_right (hne ·.1)
    obtain ⟨c, hc⟩ := Option.isSome_iff_exists.1 (Pool.mem_keys_iff_get.1 hmem)
    have hx : w.proxy.isExhausted = false :=
      isExhausted_of_pos (by have := Pool.size_remove hc; omega)
    refine ⟨c, hc, Pool.values_perm_remove hc, ?_⟩
    rw [connect_of_not_isExhausted hx, hc, connectBind_of_cap_eq_zero (by simpa using hcap)]
    rfl
  · have hsize : w.proxy.availableConnections.size = 0 := by
      rw [← Pool.length_keys, hempty]
      rfl
    exact isExhausted_iff.2 ⟨hel, hsize, hpos⟩

def exampleWorld : World := initWorld examplePool false false exampleConfig

theorem connect_contract_example :
    (exampleWorld.proxy.availableConnections.keys ≠ [] → ∃ c,
      exampleWorld.proxy.availableConnections.get exampleClient.id = some c ∧
      exampleWorld.proxy.availableConnections.values.Perm
        (c :: (exampleWorld.proxy.availableConnections.remove exampleClient.id).values) ∧
      connect exampleWorld exampleConn exampleClient.id none =
        .ret none ((exampleWorld.withAvailable
          (exampleWorld.proxy.availableConnections.remove exampleClient.id)).withBusy
          (exampleWorld.proxy.busyConnections.store exampleConn (some c) (by decide)))) ∧
    (exampleWorld.proxy.elastic = false → exampleWorld.proxy.availableConnections.keys = [] →
      0 < exampleWorld.proxy.availableConnections.cap →
      connect exampleWorld exampleConn exampleClient.id none =
        .ret (some errPoolExhausted) exampleWorld) :=
  connect_contract rfl (.inl (by decide))

/-- On an empty available pool of an elastic proxy, or of one with capacity `0`, `Connect` does
not call `NewClient`: it pops a key that is not there and dereferences the nil client it gets. -/
theorem connect_empty_panics (hcap : w.proxy.busyConnections.cap = 0)
    (hempty : w.proxy.availableConnections.keys = [])
    (hmode : w.proxy.elastic = true ∨ w.proxy.availableConnections.cap = 0) :
    ∃ w', connect w gconn clientID dial = .panic w' ∧ w'.trace = w.trace := by
  have hget : w.proxy.availableConnections.get clientID = none :=
    Pool.get_eq_none.2 (by simp [hempty])
  rw [connect_of_not_isExhausted (isExhausted_eq_false hmode), hget,
    connectBind_of_cap_eq_zero (by simpa using hcap)]
  exact ⟨_, rfl, rfl⟩

theorem connect_empty_panics_elastic :
    (initWorld (Pool.newPool 0) true false exampleConfig).proxy.elastic = true ∧
    ∃ w', connect (initWorld (Pool.newPool 0) true false exampleConfig) exampleConn ""
        (some exampleDial) = .panic w' ∧ w'.trace = [] :=
  ⟨rfl, connect_empty_panics rfl rfl (.inl rfl)⟩

end Network
end Gatewayd
