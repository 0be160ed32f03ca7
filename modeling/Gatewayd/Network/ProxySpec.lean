import Gatewayd.Network.Proxy

/-!
# Gatewayd.Network.ProxySpec

Every way each call of `Proxy` can end, said once per call, so that the invariants of the later
files never unfold a call.

* `isExhausted_iff`: `IsExhausted` holds exactly for a non-elastic proxy whose available pool is
  empty and bounded.
* `connect_of_isExhausted`: an exhausted proxy is never elastic, so `Connect`'s `NewClient` branch
  is never taken.
* `connect_ret`, `disconnect_ret`: with the busy pool unbounded, how `Connect` and `Disconnect`
  return.
* `passThrough_of_get`, `relayResponse_ret`: `PassThrough` on a bound connection, split at the
  backend-closed test, and how its egress half returns.
-/

namespace Gatewayd
namespace Network

@[simp] theorem World.withBusy_recycles (w : World) (p : Pool Conn (Option Client)) :
    (w.withBusy p).proxy.recycles = w.proxy.recycles := rfl

@[simp] theorem World.emit_emit (w : World) (a b : List Effect) :
    (w.emit a).emit b = w.emit (a ++ b) := by
  simp [World.emit, List.append_assoc]

@[simp] theorem closedClients_nil : closedClients [] = [] := rfl

@[simp] theorem closedClients_cons (e : Effect) (t : List Effect) :
    closedClients (e :: t) = (match e with
      | .close c => [c]
      | _ => []) ++ closedClients t := by
  cases e <;> rfl

@[simp] theorem closedClients_append (t t' : List Effect) :
    closedClients (t ++ t') = closedClients t ++ closedClients t' := by
  induction t with
  | nil => rfl
  | cons e t ih => simp [ih]

/-! ## `IsExhausted` -/

theorem isExhausted_iff {pr : ProxyImpl} :
    pr.isExhausted = true ↔ pr.elastic = false ∧ pr.availableConnections.size = 0 ∧
      0 < pr.availableConnections.cap := by
  unfold ProxyImpl.isExhausted
  split <;> simp_all

theorem isExhausted_of_pos {pr : ProxyImpl} (h : 0 < pr.availableConnections.size) :
    pr.isExhausted = false := by
  cases hx : pr.isExhausted
  · rfl
  · exact absurd (isExhausted_iff.1 hx).2.1 (by omega)

variable {w w' : World} {gconn : Conn} {e : Option GatewayDError}

/-! ## `Connect` -/

section Connect

variable {clientID : String} {dial : Option Dial}

theorem connect_of_isExhausted (h : w.proxy.isExhausted = true) :
    connect w gconn clientID dial = .ret (some errPoolExhausted) w := by
  simp [connect, h, (isExhausted_iff.1 h).1]

theorem connect_of_not_isExhausted (h : w.proxy.isExhausted = false) :
    connect w gconn clientID dial =
      connectBind (w.withAvailable (w.proxy.availableConnections.remove clientID)) gconn
        (w.proxy.availableConnections.get clientID) := by
  simp [connect, h]

theorem connectBind_of_cap_eq_zero {client : Option Client}
    (hcap : w.proxy.busyConnections.cap = 0) :
    connectBind w gconn client = match client with
      | none => .panic (w.withBusy (w.proxy.busyConnections.store gconn none (by simp [hcap])))
      | some c =>
        .ret none (w.withBusy (w.proxy.busyConnections.store gconn (some c) (by simp [hcap]))) := by
  cases client <;> simp [connectBind, Pool.put_of_cap_eq_zero hcap]

/-- With the busy pool unbounded, `Connect` returns `ErrPoolExhausted` and changes nothing, or
returns `nil` having moved the client under the picked key from the available pool to the busy
pool under `gconn`. -/
theorem connect_ret (hcap : w.proxy.busyConnections.cap = 0)
    (h : connect w gconn clientID dial = .ret e w') :
    (w.proxy.isExhausted = true ∧ e = some errPoolExhausted ∧ w' = w) ∨
    (w.proxy.isExhausted = false ∧ e = none ∧ ∃ c,
      w.proxy.availableConnections.get clientID = some c ∧
      w' = (w.withAvailable (w.proxy.availableConnections.remove clientID)).withBusy
        (w.proxy.busyConnections.store gconn (some c) (by simp [hcap]))) := by
  cases hx : w.proxy.isExhausted
  · rw [connect_of_not_isExhausted hx, connectBind_of_cap_eq_zero (by simpa using hcap)] at h
    cases hc : w.proxy.availableConnections.get clientID with
    | none => simp [hc] at h
    | some c =>
      simp only [hc, Outcome.ret.injEq] at h
      exact .inr ⟨rfl, h.1.symm, c, rfl, h.2.symm⟩
  · rw [connect_of_isExhausted hx] at h
    cases h
    exact .inl ⟨rfl, rfl, rfl⟩

end Connect

/-! ## `Disconnect` -/

theorem disconnect_of_get_none (h : w.proxy.busyConnections.get gconn = none) :
    disconnect w gconn = .ret (some errClientNotFound) w := by
  simp [disconnect, h]

/-- `Disconnect` returns `ErrClientNotFound` for an unbound connection and changes nothing;
otherwise it unbinds the connection and either puts the client back under its `ID` (when the
available pool has room), or drops it, returning `ErrClientNotConnected` when the proxy is elastic
without reuse. -/
theorem disconnect_ret (h : disconnect w gconn = .ret e w') :
    (w.proxy.busyConnections.get gconn = none ∧ e = some errClientNotFound ∧ w' = w) ∨
    (∃ c, w.proxy.busyConnections.get gconn = some (some c) ∧ w.proxy.recycles = true ∧
      e = none ∧
      ((0 < w.proxy.availableConnections.cap ∧
          w.proxy.availableConnections.size = w.proxy.availableConnections.cap ∧
          w' = w.withBusy (w.proxy.busyConnections.remove gconn)) ∨
        ∃ hc, w' = (w.withBusy (w.proxy.busyConnections.remove gconn)).withAvailable
          (w.proxy.availableConnections.store c.id c hc))) ∨
    (∃ v, w.proxy.busyConnections.get gconn = some v ∧ w.proxy.recycles = false ∧
      e = some errClientNotConnected ∧
      w' = w.withBusy (w.proxy.busyConnections.remove gconn)) := by
  unfold disconnect at h
  cases hg : w.proxy.busyConnections.get gconn with
  | none =>
    simp only [Pool.pop_eq, hg, Outcome.ret.injEq] at h
    exact .inl ⟨rfl, h.1.symm, h.2.symm⟩
  | some v =>
    simp only [Pool.pop_eq, hg, World.withBusy_recycles, World.withBusy_available] at h
    cases hr : w.proxy.recycles
    · simp only [hr, Bool.false_eq_true, ↓reduceIte, Outcome.ret.injEq] at h
      exact .inr (.inr ⟨v, rfl, rfl, h.1.symm, h.2.symm⟩)
    · simp only [hr, ↓reduceIte] at h
      cases v with
      | none => simp at h
      | some c =>
        refine .inr (.inl ⟨c, rfl, rfl, ?_⟩)
        cases hp : w.proxy.availableConnections.put c.id c with
        | error err =>
          obtain ⟨h0, hs, -⟩ := Pool.put_eq_error.1 hp
          simp only [hp, Outcome.ret.injEq] at h
          exact ⟨h.1.symm, .inl ⟨h0, hs, h.2.symm⟩⟩
        | ok avail =>
          obtain ⟨hc, rfl⟩ := Pool.put_eq_ok.1 hp
          simp only [hp, Outcome.ret.injEq] at h
          exact ⟨h.1.symm, .inr ⟨hc, h.2.symm⟩⟩

/-! ## `PassThrough` -/

section PassThrough

variable {r : PassThroughReplies}

theorem passThrough_of_get_none (h : w.proxy.busyConnections.get gconn = none) :
    passThrough w gconn r = .ret (some errClientNotFound) w := by
  simp [passThrough, h]

theorem passThrough_of_get {c : Client} (hcap : w.proxy.busyConnections.cap = 0)
    (h : w.proxy.busyConnections.get gconn = some (some c)) :
    passThrough w gconn r =
      if backendClosed r.received r.receiveErr then
        relayResponse
          (((w.emit (ingressEffects gconn c r ++ [.close c])).newClient r.dial).2.withBusy
            ((w.proxy.busyConnections.remove gconn).store gconn
              (r.dial.map (·.toClient w.created)) (by simp [hcap])))
          gconn (r.dial.map (·.toClient w.created)) r
      else relayResponse (w.emit (ingressEffects gconn c r)) gconn (some c) r := by
  simp [passThrough, h, Pool.put_of_cap_eq_zero, hcap]

theorem relayResponse_ret {client : Option Client} :
    relayResponse w gconn client r = .ret e w' ↔
      r.received ≤ r.response.length ∧ ∃ c, client = some c ∧
        e = r.asyncWrite.map (fun _ => errServerSendFailed.wrap
          ((r.egress (egressData gconn c r)).2.map GatewayDError.toError)) ∧
        w' = w.emit (egressEffects gconn c r) := by
  unfold relayResponse
  split
  · cases client with
    | none => simp
    | some c =>
      cases ha : r.asyncWrite <;> simp [eq_comm, *]
  · simp_all

theorem relayResponse_panic {client : Option Client} {w'' : World} :
    relayResponse w gconn client r = .panic w'' ↔
      (r.response.length < r.received ∨ client = none) ∧ w'' = w := by
  unfold relayResponse
  split
  · cases client with
    | none => simp_all [eq_comm]
    | some c => cases r.asyncWrite <;> simp_all
  · simp_all [eq_comm]

/-- With the busy pool unbounded, `PassThrough` returns `ErrClientNotFound` on an unbound
connection and changes nothing; on a bound one it returns only through its egress half, and then
either the pools are as they were, or the backend had closed and `gconn` is bound to the client
`NewClient` built, in place of the closed one. -/
theorem passThrough_ret (hcap : w.proxy.busyConnections.cap = 0)
    (h : passThrough w gconn r = .ret e w') :
    (w.proxy.busyConnections.get gconn = none ∧ e = some errClientNotFound ∧ w' = w) ∨
    (∃ c, w.proxy.busyConnections.get gconn = some (some c) ∧
      r.received ≤ r.response.length ∧
      ((backendClosed r.received r.receiveErr = false ∧
          e = r.asyncWrite.map (fun _ => errServerSendFailed.wrap
            ((r.egress (egressData gconn c r)).2.map GatewayDError.toError)) ∧
          w' = w.emit (ingressEffects gconn c r ++ egressEffects gconn c r)) ∨
        (backendClosed r.received r.receiveErr = true ∧ ∃ d, r.dial = some d ∧
          e = r.asyncWrite.map (fun _ => errServerSendFailed.wrap
            ((r.egress (egressData gconn (d.toClient w.created) r)).2.map
              GatewayDError.toError)) ∧
          w' = (((w.emit (ingressEffects gconn c r ++ [.close c])).newClient r.dial).2.withBusy
            ((w.proxy.busyConnections.remove gconn).store gconn (some (d.toClient w.created))
              (by simp [hcap]))).emit (egressEffects gconn (d.toClient w.created) r)))) := by
  cases hg : w.proxy.busyConnections.get gconn with
  | none =>
    rw [passThrough_of_get_none hg] at h
    cases h
    exact .inl ⟨rfl, rfl, rfl⟩
  | some v =>
    cases v with
    | none => simp [passThrough, hg] at h
    | some c =>
      rw [passThrough_of_get hcap hg] at h
      refine .inr ⟨c, rfl, ?_⟩
      split at h
      · rename_i hb
        obtain ⟨hlen, c', hc', rfl, rfl⟩ := relayResponse_ret.1 h
        obtain ⟨d, hd, rfl⟩ := Option.map_eq_some'.1 hc'
        refine ⟨hlen, .inr ⟨hb, d, hd, rfl, ?_⟩⟩
        simp only [hd, Option.map_some']
      · rename_i hb
        obtain ⟨hlen, c', hc', rfl, rfl⟩ := relayResponse_ret.1 h
        cases hc'
        exact ⟨hlen, .inl ⟨by simpa using hb, rfl, by simp⟩⟩

end PassThrough

/-! ## `Shutdown` -/

theorem shutdown_eq :
    shutdown w = .ret none (((w.emit (w.proxy.availableConnections.values.map .close ++
      w.proxy.busyConnections.entries.entries.flatMap closeBusyEntry)).withAvailable
        w.proxy.availableConnections.clear).withBusy w.proxy.busyConnections.clear) := by
  simp [shutdown, World.emit, World.withAvailable, World.withBusy, List.append_assoc]

end Network
end Gatewayd
