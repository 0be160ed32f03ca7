import Gatewayd.Network.ProxySpec

/-!
# Gatewayd.Network.Sessions

The proxy's runs, and the per-connection session machine of §4.2 of the spec as an abstraction of
them.

A run starts from `NewProxy` and makes calls one after another. A call that panics ends the
process, so a run goes on only through calls that returned: `Reachable ok w₀` is the set of worlds
such runs reach when each call satisfies `ok` (what the environment is allowed to call).

The session machine: an inbound connection is `unbound` or `bound`; a `Connect` that returns `nil`
binds it, a `Disconnect` that does not return `ErrClientNotFound` unbinds it, every other call
leaves it. `sessions w` reads the machine's state off the busy pool.

* `step_refines`: a call that returns moves `sessions` exactly as the machine moves.
* `sessions_refine`: along every run of `Connect`, `Disconnect` and `PassThrough` calls from
  `NewProxy`, the busy pool's keys are the bound connections, and `Disconnect` and `PassThrough`
  return `ErrClientNotFound` exactly on the unbound ones.
-/

namespace Gatewayd
namespace Network

def initWorld (p : Pool String Client) (elastic reuseElasticClients : Bool)
    (cfg : ClientConfig) : World :=
  ⟨newProxy p elastic reuseElasticClients cfg, p.size, []⟩

@[simp] theorem initWorld_available (p : Pool String Client) (el re : Bool) (cfg : ClientConfig) :
    (initWorld p el re cfg).proxy.availableConnections = p := rfl
@[simp] theorem initWorld_busy (p : Pool String Client) (el re : Bool) (cfg : ClientConfig) :
    (initWorld p el re cfg).proxy.busyConnections = Pool.newPool emptyPoolCapacity := rfl

/-- The worlds reached from `w₀` by calls allowed by `ok` that all returned. -/
inductive Reachable (ok : World → Call → Prop) (w₀ : World) : World → Prop
  | init : Reachable ok w₀ w₀
  | next {w w' : World} {c : Call} {e : Option GatewayDError} :
      Reachable ok w₀ w → ok w c → step w c = .ret e w' → Reachable ok w₀ w'

theorem Reachable.induction {ok : World → Call → Prop} {w₀ : World} (P : World → Prop)
    (h0 : P w₀) (hs : ∀ w c e w', P w → ok w c → step w c = .ret e w' → P w') {w : World}
    (h : Reachable ok w₀ w) : P w := by
  induction h with
  | init => exact h0
  | next _ hok hstep ih => exact hs _ _ _ _ ih hok hstep

variable {w w' : World} {c : Call} {e : Option GatewayDError}

theorem step_config (hcap : w.proxy.busyConnections.cap = 0) (h : step w c = .ret e w') :
    w'.proxy.busyConnections.cap = 0 ∧ w'.proxy.recycles = w.proxy.recycles := by
  cases c with
  | connect g clientID dial =>
    rcases connect_ret hcap h with ⟨-, -, rfl⟩ | ⟨-, -, c, -, rfl⟩ <;>
      exact ⟨by simpa using hcap, rfl⟩
  | disconnect g =>
    rcases disconnect_ret h with
      ⟨-, -, rfl⟩ | ⟨c, -, -, -, ⟨-, -, rfl⟩ | ⟨-, rfl⟩⟩ | ⟨v, -, -, -, rfl⟩ <;>
      exact ⟨by simpa using hcap, rfl⟩
  | passThrough g r =>
    rcases passThrough_ret hcap h with
      ⟨-, -, rfl⟩ | ⟨c, -, -, ⟨-, -, rfl⟩ | ⟨-, d, -, -, rfl⟩⟩ <;>
      exact ⟨by simpa using hcap, rfl⟩
  | shutdown =>
    rw [step, shutdown_eq] at h
    cases h
    exact ⟨by simpa using hcap, rfl⟩

theorem config_reachable {ok : World → Call → Prop} {p : Pool String Client} {el re : Bool}
    {cfg : ClientConfig} (h : Reachable ok (initWorld p el re cfg) w) :
    w.proxy.busyConnections.cap = 0 ∧ w.proxy.recycles = ((el && re) || !el) :=
  h.induction (fun w => w.proxy.busyConnections.cap = 0 ∧ w.proxy.recycles = ((el && re) || !el))
    (by exact ⟨rfl, rfl⟩) fun _ _ _ _ ⟨hcap, hr⟩ _ hs =>
      ⟨(step_config hcap hs).1, (step_config hcap hs).2.trans hr⟩

/-! ## The session machine -/

inductive SessionState where
  | unbound
  | bound
  deriving DecidableEq, Repr

/-- The machine's transitions, driven by what each call returned. -/
def sessionStep (st : Conn → SessionState) : Call → Option GatewayDError → Conn → SessionState
  | .connect g _ _, none => Function.update st g .bound
  | .disconnect _, some ⟨.clientNotFound, _⟩ => st
  | .disconnect g, _ => Function.update st g .unbound
  | _, _ => st

def Call.isSession : Call → Bool
  | .shutdown => false
  | _ => true

def sessions (w : World) (g : Conn) : SessionState :=
  if g ∈ w.proxy.busyConnections.keys then .bound else .unbound

theorem sessions_eq_bound {g : Conn} :
    sessions w g = .bound ↔ g ∈ w.proxy.busyConnections.keys := by
  unfold sessions; split <;> simp_all

theorem errServerSendFailed_wrap_ne (x : Option GoError) :
    errServerSendFailed.wrap x ≠ errClientNotFound := fun h => by
  cases congrArg GatewayDError.code h

/-- A call that returns moves `sessions` exactly as the session machine moves. -/
theorem step_refines (hcap : w.proxy.busyConnections.cap = 0) (hc : c.isSession = true)
    (h : step w c = .ret e w') : sessions w' = sessionStep (sessions w) c e := by
  cases c with
  | connect g clientID dial =>
    rcases connect_ret hcap h with ⟨-, rfl, rfl⟩ | ⟨-, rfl, c, -, rfl⟩
    · rfl
    · funext g'
      by_cases hg : g' = g <;> simp [sessions, sessionStep, Function.update_apply, hg]
  | disconnect g =>
    rcases disconnect_ret h with
        ⟨-, rfl, rfl⟩ | ⟨c, -, -, rfl, ⟨-, -, rfl⟩ | ⟨-, rfl⟩⟩ | ⟨v, -, -, rfl, rfl⟩ <;>
      first
      | rfl
      | funext g'; by_cases hg : g' = g <;>
          simp [sessions, sessionStep, Function.update_apply, hg, errClientNotConnected]
  | passThrough g r =>
    rcases passThrough_ret hcap h with
      ⟨-, -, rfl⟩ | ⟨c, hg, -, ⟨-, -, rfl⟩ | ⟨-, d, -, -, rfl⟩⟩
    · rfl
    · rfl
    · have hmem : g ∈ w.proxy.busyConnections.keys := Pool.mem_keys_iff_get.2 (by simp [hg])
      funext g'
      by_cases hg' : g' = g
      · subst hg'; simp [sessions, sessionStep, hmem]
      · simp [sessions, sessionStep, hg']
  | shutdown => cases hc

/-- A run of session calls from `w₀`, paired with the session machine driven by what they
returned. -/
inductive SessionRun (w₀ : World) : World → (Conn → SessionState) → Prop
  | init : SessionRun w₀ w₀ (fun _ => .unbound)
  | next {w w' : World} {st : Conn → SessionState} {c : Call} {e : Option GatewayDError} :
      SessionRun w₀ w st → c.isSession = true → step w c = .ret e w' →
        SessionRun w₀ w' (sessionStep st c e)

theorem sessionRun_sessions {p : Pool String Client} {el re : Bool} {cfg : ClientConfig}
    {st : Conn → SessionState} (h : SessionRun (initWorld p el re cfg) w st) :
    w.proxy.busyConnections.cap = 0 ∧ st = sessions w := by
  induction h with
  | init => exact ⟨rfl, funext fun g => by simp [sessions]⟩
  | next _ hc hs ih =>
    obtain ⟨hcap, rfl⟩ := ih
    exact ⟨(step_config hcap hs).1, (step_refines hcap hc hs).symm⟩

/-- Along every run of `Connect`, `Disconnect` and `PassThrough` from `NewProxy`, the busy pool's
keys are the connections the session machine has bound, and `Disconnect` and `PassThrough`
return `ErrClientNotFound` exactly on the unbound ones. -/
theorem sessions_refine {p : Pool String Client} {el re : Bool} {cfg : ClientConfig}
    {st : Conn → SessionState} (h : SessionRun (initWorld p el re cfg) w st) :
    (∀ g, g ∈ w.proxy.busyConnections.keys ↔ st g = .bound) ∧
    (∀ g, (∃ w', disconnect w g = .ret (some errClientNotFound) w') ↔ st g = .unbound) ∧
    (∀ g r, (∃ w', passThrough w g r = .ret (some errClientNotFound) w') ↔ st g = .unbound) := by
  obtain ⟨hcap, rfl⟩ := sessionRun_sessions h
  have hunbound : ∀ g, sessions w g = .unbound ↔ w.proxy.busyConnections.get g = none := by
    intro g; simp [sessions, Pool.get_eq_none]
  refine ⟨fun g => sessions_eq_bound.symm, fun g => ?_, fun g r => ?_⟩
  · rw [hunbound]
    refine ⟨fun ⟨w', hd⟩ => ?_, fun hg => ⟨w, disconnect_of_get_none hg⟩⟩
    rcases disconnect_ret hd with ⟨hg, -⟩ | ⟨c, -, -, he, -⟩ | ⟨v, -, -, he, -⟩
    · exact hg
    · cases he
    · cases he
  · rw [hunbound]
    refine ⟨fun ⟨w', hp⟩ => ?_, fun hg => ⟨w, passThrough_of_get_none hg⟩⟩
    rcases passThrough_ret hcap hp with
      ⟨hg, -⟩ | ⟨c, -, -, ⟨-, he, -⟩ | ⟨-, d, -, he, -⟩⟩
    · exact hg
    all_goals
      cases ha : r.asyncWrite <;> simp only [ha, Option.map_none', Option.map_some'] at he
      · cases he
      · exact absurd (Option.some.inj he).symm (errServerSendFailed_wrap_ne _)

/-! ## Examples

The clients' IDs are what `GetID` writes, 64 hex digits: `Connect` logs their first seven. -/

def exampleClient : Client :=
  ⟨0, "14e8d82ae08e45f5b4d55d59a45773ab80341a3d4a34a795fd4a68308be7e422", "10.0.0.1:5001",
    "10.0.0.2:5432"⟩

def examplePool : Pool String Client :=
  ⟨0, (∅ : AList fun _ : String => Client).insert exampleClient.id exampleClient, .inl rfl⟩

def exampleConfig : ClientConfig := ⟨"tcp", "10.0.0.2:5432", 4096, 4096, 0, 0⟩

def exampleConn : Conn := ⟨7, "10.0.0.1:15432", "10.0.0.3:40000"⟩

def exampleConn2 : Conn := ⟨8, "10.0.0.1:15432", "10.0.0.4:40001"⟩

def exampleDial : Dial :=
  ⟨"653928cd17798f447965d0ec144f16671a93cf44a98d55a8177279580fb44228", "10.0.0.1:5003",
    "10.0.0.2:5432"⟩

/-- Collaborators for the examples: the request `[1, 2, 3]` read without error, hooks that hand
back their payload, and the reply `response[:received]` with `receiveErr`. -/
def echoReplies (received : Nat) (response : Bytes) (receiveErr : Option GatewayDError)
    (dial : Option Dial) (asyncWrite : Option GoError) : PassThroughReplies where
  request := [1, 2, 3]
  origErr := none
  ingress m := (some m, none)
  received := received
  response := response
  receiveErr := receiveErr
  dial := dial
  egress m := (some m, none)
  asyncWrite := asyncWrite

/-- A session's life on the one-client pool: `Connect` binds `exampleConn`; its backend closes
during a `PassThrough`, which rebinds it to the client `NewClient` builds; `Disconnect` puts that
client back, and a `Connect` on a second connection takes it. -/
def rebindCalls : List Call :=
  [.connect exampleConn exampleClient.id none,
    .passThrough exampleConn
      (echoReplies 0 [] (some ⟨.other "receive", some (.plain .eof)⟩) (some exampleDial) none),
    .disconnect exampleConn,
    .connect exampleConn2 exampleDial.id none]

def rebindRun : World :=
  rebindCalls.foldl (fun w c => (step w c).world) (initWorld examplePool false false exampleConfig)

def rebindSessions : Conn → SessionState :=
  rebindCalls.foldl (fun st c => sessionStep st c none) fun _ => .unbound

theorem sessions_refine_rebind :
    (∀ g, g ∈ rebindRun.proxy.busyConnections.keys ↔ rebindSessions g = .bound) ∧
    (∀ g, (∃ w', disconnect rebindRun g = .ret (some errClientNotFound) w') ↔
      rebindSessions g = .unbound) ∧
    (∀ g r, (∃ w', passThrough rebindRun g r = .ret (some errClientNotFound) w') ↔
      rebindSessions g = .unbound) :=
  sessions_refine
    (show SessionRun (initWorld examplePool false false exampleConfig) rebindRun rebindSessions from
      .next (c := rebindCalls[3]) (e := none) (.next (c := rebindCalls[2]) (e := none)
        (.next (c := rebindCalls[1]) (e := none)
          (.next (c := rebindCalls[0]) (e := none) .init rfl rfl) rfl rfl) rfl rfl) rfl rfl)

end Network
end Gatewayd
