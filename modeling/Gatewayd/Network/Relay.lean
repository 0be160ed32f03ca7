import Gatewayd.Network.Clients

/-!
# Gatewayd.Network.Relay

What one `PassThrough` on a bound connection does with the bytes and errors it sees.

It reads a request, lets the ingress hooks replace it, sends it and receives a reply, lets the
egress hooks replace that, and submits it for writing back. A hook replaces a payload by returning
a map whose field holds a non-nil byte slice (`replaced`, the spec's words, which `extractField`
implements). When the reply says that the backend has closed (no bytes, and an error that unwraps
to `io.EOF`), the client is closed and `gconn` is bound to whatever `NewClient` returns: there is
no nil check.

* `passThrough_relays`: what reaches the backend, the hooks and the inbound connection.
* `passThrough_binding`: after a returned `PassThrough`, `gconn` is bound to its client or to the
  one built in its place, and the available pool is as it was.
* `passThrough_reconnect_nil`: when `NewClient` fails, `gconn` is bound to nil and dereferenced.
* `passThrough_error`: the only error returned on a bound connection is `ErrServerSendFailed`,
  when the write cannot be submitted.
* `passThrough_send_failed_cause`: that error wraps the egress hooks' error, not the write's.
-/

namespace Gatewayd
namespace Network

/-- The bytes a hook's result holds under `field` when they are a non-nil byte slice, and `orig`
otherwise. -/
def replaced (result : Option HookMap) (field : String) (orig : Bytes) : Bytes :=
  match result.bind (·.get field) with
  | some (.bytes (some b)) => b
  | _ => orig

theorem extractField_getD (result : Option HookMap) (field : String) (orig : Bytes) :
    (extractField result field).1.getD orig = replaced result field orig := by
  cases result with
  | none => rfl
  | some m =>
    simp only [extractField, replaced, Option.some_bind]
    rcases m.get field with _ | ⟨_ | b⟩ | _ | _ | _ <;> rfl

theorem replaced_trafficData {gconn : Conn} {client : Client} {fieldName : String}
    {fieldValue : Bytes} {err : Dyn} (h : fieldName ≠ "error") :
    replaced (some (trafficData gconn client fieldName fieldValue err)) fieldName fieldValue =
      fieldValue := by
  simp [replaced, trafficData_get_field h]

variable {w w' : World} {gconn : Conn} {c : Client} {r : PassThroughReplies}
  {e : Option GatewayDError}

@[simp] theorem ingressEffects_eq :
    ingressEffects gconn c r =
      [.hook .onIngressTraffic (ingressData gconn c r),
        .send c (replaced (r.ingress (ingressData gconn c r)).1 "request" r.request),
        .receive c] := by
  simp [ingressEffects, ingressRequest, extractField_getD]

@[simp] theorem egressEffects_eq :
    egressEffects gconn c r = [.hook .onEgressTraffic (egressData gconn c r),
      .asyncWrite gconn (replaced (r.egress (egressData gconn c r)).1 "response"
        (r.response.take r.received))] := by
  simp [egressEffects, egressResponse, extractField_getD]

theorem egressData_get :
    (egressData gconn c r).get "response" = some (.bytes (some (r.response.take r.received))) ∧
    (egressData gconn c r).get "error" = some (.str "") :=
  ⟨trafficData_get_field (by decide), trafficData_get_error _ _ _ _ _⟩

theorem relayResponse_of_le (hlen : r.received ≤ r.response.length) (client : Client) :
    relayResponse w gconn (some client) r =
      .ret (r.asyncWrite.map fun _ => errServerSendFailed.wrap
          ((r.egress (egressData gconn client r)).2.map GatewayDError.toError))
        (w.emit (egressEffects gconn client r)) := by
  unfold relayResponse
  rw [if_pos hlen]
  cases r.asyncWrite <;> rfl

theorem passThrough_returns (hcap : w.proxy.busyConnections.cap = 0)
    (hg : w.proxy.busyConnections.get gconn = some (some c))
    (hlen : r.received ≤ r.response.length)
    (hdial : backendClosed r.received r.receiveErr = true → r.dial.isSome = true) :
    ∃ e w', passThrough w gconn r = .ret e w' := by
  rw [passThrough_of_get hcap hg]
  split
  · obtain ⟨d, hd⟩ := Option.isSome_iff_exists.1 (hdial ‹_›)
    simp only [hd, Option.map_some']
    exact ⟨_, _, relayResponse_of_le hlen _⟩
  · exact ⟨_, _, relayResponse_of_le hlen c⟩

/-- On a bound connection, when the reply fits its buffer and, if the backend closed, `NewClient`
succeeds, `PassThrough` returns after sending the ingress hooks' `"request"` bytes (or the bytes
read) and submitting the egress hooks' `"response"` bytes (or `response[:received]`) for writing;
the egress hooks get `response[:received]` and an empty `"error"`, from `c'`, the client `gconn`
ends bound to. Hooks that hand back their payload leave both byte strings as they were. -/
theorem passThrough_relays (hcap : w.proxy.busyConnections.cap = 0)
    (hg : w.proxy.busyConnections.get gconn = some (some c)) (hlen : r.received ≤ r.response.length)
    (hdial : backendClosed r.received r.receiveErr = true → r.dial.isSome = true) :
    ∃ c' e w', passThrough w gconn r = .ret e w' ∧
      (backendClosed r.received r.receiveErr = false → c' = c) ∧
      w'.trace = w.trace ++
        [.hook .onIngressTraffic (ingressData gconn c r),
          .send c (replaced (r.ingress (ingressData gconn c r)).1 "request" r.request), .receive c] ++
        (if backendClosed r.received r.receiveErr then
          [.close c, .newClient w.proxy.clientConfig (some c')] else []) ++
        [.hook .onEgressTraffic (egressData gconn c' r),
          .asyncWrite gconn (replaced (r.egress (egressData gconn c' r)).1 "response"
            (r.response.take r.received))] ∧
      (ingressData gconn c r).get "request" = some (.bytes (some r.request)) ∧
      (egressData gconn c' r).get "response" = some (.bytes (some (r.response.take r.received))) ∧
      (egressData gconn c' r).get "error" = some (.str "") ∧
      replaced (some (ingressData gconn c r)) "request" r.request = r.request ∧
      replaced (some (egressData gconn c' r)) "response" (r.response.take r.received) =
        r.response.take r.received := by
  have hpay : ∀ c', (ingressData gconn c r).get "request" = some (.bytes (some r.request)) ∧
      (egressData gconn c' r).get "response" = some (.bytes (some (r.response.take r.received))) ∧
      (egressData gconn c' r).get "error" = some (.str "") ∧
      replaced (some (ingressData gconn c r)) "request" r.request = r.request ∧
      replaced (some (egressData gconn c' r)) "response" (r.response.take r.received) =
        r.response.take r.received := fun c' =>
    ⟨trafficData_get_field (by decide), egressData_get.1, egressData_get.2,
      replaced_trafficData (by decide), replaced_trafficData (by decide)⟩
  obtain ⟨e, w', h⟩ := passThrough_returns hcap hg hlen hdial
  rcases passThrough_ret hcap h with
    ⟨hg', -⟩ | ⟨c₀, hg', -, ⟨hb, -, rfl⟩ | ⟨hb, d, hd, -, rfl⟩⟩
  · simp [hg'] at hg
  · obtain rfl : c = c₀ := by simpa [hg] using hg'
    exact ⟨c, e, _, h, fun _ => rfl, by simp [hb], hpay c⟩
  · obtain rfl : c = c₀ := by simpa [hg] using hg'
    exact ⟨d.toClient w.created, e, _, h, by simp [hb], by simp [hb, hd], hpay _⟩

theorem passThrough_relays_echo :
    ∃ c' e w', passThrough connectRun exampleConn (echoReplies 2 [4, 5, 6] none none none) =
        .ret e w' ∧
      (backendClosed 2 none = false → c' = exampleClient) ∧
      w'.trace = connectRun.trace ++
        [.hook .onIngressTraffic
            (ingressData exampleConn exampleClient (echoReplies 2 [4, 5, 6] none none none)),
          .send exampleClient (replaced ((echoReplies 2 [4, 5, 6] none none none).ingress
            (ingressData exampleConn exampleClient (echoReplies 2 [4, 5, 6] none none none))).1
            "request" [1, 2, 3]),
          .receive exampleClient] ++
        (if backendClosed 2 none then
          [.close exampleClient, .newClient connectRun.proxy.clientConfig (some c')] else []) ++
        [.hook .onEgressTraffic (egressData exampleConn c' (echoReplies 2 [4, 5, 6] none none none)),
          .asyncWrite exampleConn (replaced ((echoReplies 2 [4, 5, 6] none none none).egress
            (egressData exampleConn c' (echoReplies 2 [4, 5, 6] none none none))).1 "response"
            ([4, 5, 6].take 2))] ∧
      (ingressData exampleConn exampleClient (echoReplies 2 [4, 5, 6] none none none)).get
        "request" = some (.bytes (some [1, 2, 3])) ∧
      (egressData exampleConn c' (echoReplies 2 [4, 5, 6] none none none)).get "response" =
        some (.bytes (some ([4, 5, 6].take 2))) ∧
      (egressData exampleConn c' (echoReplies 2 [4, 5, 6] none none none)).get "error" =
        some (.str "") ∧
      replaced (some (ingressData exampleConn exampleClient
        (echoReplies 2 [4, 5, 6] none none none))) "request" [1, 2, 3] = [1, 2, 3] ∧
      replaced (some (egressData exampleConn c' (echoReplies 2 [4, 5, 6] none none none)))
        "response" ([4, 5, 6].take 2) = [4, 5, 6].take 2 :=
  passThrough_relays rfl rfl (by decide) (by decide)

theorem passThrough_hides_receive_error :
    (echoReplies 2 [4, 5] (some ⟨.other "receive",
      some (.plain (.msg "connection reset by peer"))⟩) none none).receiveErr.isSome = true ∧
    (∃ w', passThrough connectRun exampleConn (echoReplies 2 [4, 5] (some ⟨.other "receive",
      some (.plain (.msg "connection reset by peer"))⟩) none none) = .ret none w') ∧
    (egressData exampleConn exampleClient (echoReplies 2 [4, 5] (some ⟨.other "receive",
      some (.plain (.msg "connection reset by peer"))⟩) none none)).get "error" = some (.str "") ∧
    egressData exampleConn exampleClient (echoReplies 2 [4, 5] (some ⟨.other "receive",
      some (.plain (.msg "connection reset by peer"))⟩) none none) =
      egressData exampleConn exampleClient (echoReplies 2 [4, 5] none none none) :=
  ⟨rfl, ⟨_, rfl⟩, rfl, rfl⟩

/-- A returned `PassThrough` on a bound connection leaves the available pool as it was, and
`gconn` bound to its client, or, when the backend had closed, to the client `NewClient` built,
the old one closed. -/
theorem passThrough_binding (hcap : w.proxy.busyConnections.cap = 0)
    (hg : w.proxy.busyConnections.get gconn = some (some c)) (h : passThrough w gconn r = .ret e w') :
    w'.proxy.availableConnections = w.proxy.availableConnections ∧
    (backendClosed r.received r.receiveErr = false →
      w'.proxy.busyConnections = w.proxy.busyConnections) ∧
    (backendClosed r.received r.receiveErr = true → ∃ d, r.dial = some d ∧
      w'.proxy.busyConnections.get gconn = some (some (d.toClient w.created)) ∧
      c ∈ closedClients w'.trace) := by
  rcases passThrough_ret hcap h with
    ⟨hg', -⟩ | ⟨c₀, hg', -, ⟨hb, -, rfl⟩ | ⟨hb, d, hd, -, rfl⟩⟩
  · simp [hg'] at hg
  · exact ⟨rfl, fun _ => rfl, fun h => by simp [hb] at h⟩
  · obtain rfl : c = c₀ := by simpa [hg] using hg'
    exact ⟨rfl, fun h => by simp [hb] at h, fun _ => ⟨d, hd, by simp, by simp⟩⟩

theorem passThrough_binding_echo :
    connectRun.proxy.busyConnections.get exampleConn = some (some exampleClient) ∧
    ∃ e w', passThrough connectRun exampleConn (echoReplies 2 [4, 5] none none none) = .ret e w' ∧
      w'.proxy.availableConnections = connectRun.proxy.availableConnections ∧
      (backendClosed 2 none = false →
        w'.proxy.busyConnections = connectRun.proxy.busyConnections) ∧
      (backendClosed 2 none = true → ∃ d, (none : Option Dial) = some d ∧
        w'.proxy.busyConnections.get exampleConn = some (some (d.toClient connectRun.created)) ∧
        exampleClient ∈ closedClients w'.trace) :=
  ⟨rfl, _, _, rfl, passThrough_binding (r := echoReplies 2 [4, 5] none none none) rfl
    (show connectRun.proxy.busyConnections.get exampleConn = some (some exampleClient) from rfl) rfl⟩

/-- On a bound connection, a returned `PassThrough` reports an error exactly when the write
cannot be submitted, and the error is `ErrServerSendFailed`: read, hook, send and receive
failures are never returned. -/
theorem passThrough_error (hcap : w.proxy.busyConnections.cap = 0)
    (hg : w.proxy.busyConnections.get gconn ≠ none) (h : passThrough w gconn r = .ret e w') :
    (e.isSome ↔ r.asyncWrite.isSome) ∧ ∀ x, e = some x → x.code = .serverSendFailed := by
  rcases passThrough_ret hcap h with
    ⟨hg', -⟩ | ⟨c₀, -, -, ⟨-, rfl, -⟩ | ⟨-, d, -, rfl, -⟩⟩
  · exact absurd hg' hg
  all_goals
    refine ⟨by cases r.asyncWrite <;> simp, fun x hx => ?_⟩
    obtain ⟨_, -, rfl⟩ := Option.map_eq_some'.1 hx
    rfl

theorem passThrough_error_write_failed :
    ∃ e w', passThrough connectRun exampleConn
        (echoReplies 2 [4, 5] none none (some (.plain (.msg "connection closed")))) = .ret e w' ∧
      (e.isSome ↔ (some (GoError.plain (.msg "connection closed"))).isSome) ∧
      ∀ x, e = some x → x.code = .serverSendFailed :=
  ⟨_, _, rfl, passThrough_error (r := echoReplies 2 [4, 5] none none
    (some (.plain (.msg "connection closed")))) rfl
    (show connectRun.proxy.busyConnections.get exampleConn ≠ none from nofun) rfl⟩

/-- When the backend has closed and `NewClient` fails, `PassThrough` closes the client, binds
`gconn` to nil in the busy pool, and then dereferences the nil client in `trafficData`. -/
theorem passThrough_reconnect_nil (hcap : w.proxy.busyConnections.cap = 0)
    (hg : w.proxy.busyConnections.get gconn = some (some c))
    (hclosed : backendClosed r.received r.receiveErr = true) (hdial : r.dial = none) :
    ∃ w', passThrough w gconn r = .panic w' ∧ w'.proxy.busyConnections.get gconn = some none ∧
      c ∈ closedClients w'.trace := by
  rw [passThrough_of_get hcap hg, if_pos hclosed]
  simp only [hdial, Option.map_none']
  exact ⟨_, relayResponse_panic.2 ⟨.inr rfl, rfl⟩, by simp, by simp⟩

theorem passThrough_reconnect_nil_eof :
    backendClosed 0 (some ⟨.other "receive", some (.plain .eof)⟩) = true ∧
    ∃ w', passThrough connectRun exampleConn
        (echoReplies 0 [] (some ⟨.other "receive", some (.plain .eof)⟩) none none) = .panic w' ∧
      w'.proxy.busyConnections.get exampleConn = some none ∧
      exampleClient ∈ closedClients w'.trace :=
  ⟨rfl, passThrough_reconnect_nil rfl rfl rfl rfl⟩

/-- When the write cannot be submitted and the egress hooks report no error, the error
`PassThrough` returns wraps nothing: the write's own error is lost. -/
theorem passThrough_send_failed_cause {err : GoError} (hcap : w.proxy.busyConnections.cap = 0)
    (hg : w.proxy.busyConnections.get gconn = some (some c)) (hlen : r.received ≤ r.response.length)
    (hdial : backendClosed r.received r.receiveErr = true → r.dial.isSome = true)
    (hwrite : r.asyncWrite = some err) (hhooks : ∀ m, (r.egress m).2 = none) :
    ∃ w', passThrough w gconn r = .ret (some (errServerSendFailed.wrap none)) w' := by
  obtain ⟨e, w', h⟩ := passThrough_returns hcap hg hlen hdial
  rcases passThrough_ret hcap h with
    ⟨hg', -⟩ | ⟨c₀, -, -, ⟨-, he, -⟩ | ⟨-, d, -, he, -⟩⟩
  · simp [hg'] at hg
  all_goals
    rw [he, hwrite, hhooks] at h
    exact ⟨w', h⟩

theorem passThrough_send_failed_echo :
    ∃ w', passThrough connectRun exampleConn
        (echoReplies 2 [4, 5] none none (some (.plain (.msg "connection closed")))) =
      .ret (some (errServerSendFailed.wrap none)) w' :=
  passThrough_send_failed_cause rfl rfl (by decide) (by decide) rfl fun _ => rfl

end Network
end Gatewayd
