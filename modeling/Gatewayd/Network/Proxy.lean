import Gatewayd.Pool
import Gatewayd.Network.Utils

/-!
# Gatewayd.Network.Proxy

`network/proxy.go`: `ProxyImpl` and its calls `Connect`, `Disconnect`, `PassThrough`, `IsHealty`,
`IsExhausted` and `Shutdown`, each a function from the state before the call to how the call ends.

The state is a `World`: the proxy's two pools and flags, the number of clients built so far (a
client's `uid`, its pointer, is its rank among them) and the trace of what the proxy did to its
connections, oldest first. The collaborators (`NewClient`, the inbound connection, the backend
client, the hooks) are arbitrary: their answers are part of a call's input. A call ends by
returning, with the `*gerr.GatewayDError` it returns (`none` is `nil`), or by panicking on a nil
pointer or an out-of-range slice; either way the `Outcome` keeps the state at that point.

`ProxyImpl` is kept less its logger and hook registry; `EmptyPoolCapacity`, the busy pool's
capacity, is `0`, unbounded. The pools hold typed values: the busy pool holds `*Client`s, a nil
one as `none`. The source's `CastFailed` branches, taken when a pool holds a value of another
type, cannot be reached here. Logging is left out, and with it the calls whose results are only
logged (`IsConnected`, and `Send`'s counts and error). `client.IsConnected()` is in `client.go`,
not among the sources, and is taken to return on a nil client too. So is `NewClient`, whose
clients are taken to carry the IDs `GetID` writes, 64 hex digits: the seven-byte slice of the ID
that `Connect` logs is then in bounds, and only a nil client makes that line panic.
-/

namespace Gatewayd
namespace Network

def emptyPoolCapacity : Nat := 0

structure ProxyImpl where
  availableConnections : Pool String Client
  busyConnections : Pool Conn (Option Client)
  elastic : Bool
  reuseElasticClients : Bool
  clientConfig : ClientConfig

def newProxy (p : Pool String Client) (elastic reuseElasticClients : Bool)
    (clientConfig : ClientConfig) : ProxyImpl :=
  { availableConnections := p
    busyConnections := Pool.newPool emptyPoolCapacity
    elastic := elastic
    reuseElasticClients := reuseElasticClients
    clientConfig := clientConfig }

inductive HookType where
  | onIngressTraffic
  | onEgressTraffic
  deriving DecidableEq, Repr

inductive Effect where
  | newClient (cfg : ClientConfig) (client : Option Client)
  | close (client : Client)
  | closeConn (gconn : Conn)
  | hook (hookType : HookType) (data : HookMap)
  | send (client : Client) (data : Bytes)
  | receive (client : Client)
  | asyncWrite (gconn : Conn) (data : Bytes)

def closedClients : List Effect → List Client
  | [] => []
  | .close c :: rest => c :: closedClients rest
  | _ :: rest => closedClients rest

/-- The proxy, the number of clients built so far, and everything it did, oldest first. -/
structure World where
  proxy : ProxyImpl
  created : Nat
  trace : List Effect

inductive Outcome where
  | ret (err : Option GatewayDError) (w : World)
  | panic (w : World)

def Outcome.world : Outcome → World
  | .ret _ w => w
  | .panic w => w

@[simp] theorem Outcome.world_ret (err : Option GatewayDError) (w : World) :
    (Outcome.ret err w).world = w := rfl
@[simp] theorem Outcome.world_panic (w : World) : (Outcome.panic w).world = w := rfl

namespace World

def withAvailable (w : World) (p : Pool String Client) : World :=
  { w with proxy := { w.proxy with availableConnections := p } }

def withBusy (w : World) (p : Pool Conn (Option Client)) : World :=
  { w with proxy := { w.proxy with busyConnections := p } }

def emit (w : World) (effects : List Effect) : World := { w with trace := w.trace ++ effects }

def newClient (w : World) (dial : Option Dial) : Option Client × World :=
  let client := dial.map (·.toClient w.created)
  (client, { w with created := w.created + (if dial.isSome then 1 else 0)
                    trace := w.trace ++ [.newClient w.proxy.clientConfig client] })

@[simp] theorem withAvailable_available (w : World) (p : Pool String Client) :
    (w.withAvailable p).proxy.availableConnections = p := rfl
@[simp] theorem withAvailable_busy (w : World) (p : Pool String Client) :
    (w.withAvailable p).proxy.busyConnections = w.proxy.busyConnections := rfl
@[simp] theorem withAvailable_elastic (w : World) (p : Pool String Client) :
    (w.withAvailable p).proxy.elastic = w.proxy.elastic := rfl
@[simp] theorem withAvailable_reuse (w : World) (p : Pool String Client) :
    (w.withAvailable p).proxy.reuseElasticClients = w.proxy.reuseElasticClients := rfl
@[simp] theorem withAvailable_created (w : World) (p : Pool String Client) :
    (w.withAvailable p).created = w.created := rfl
@[simp] theorem withAvailable_trace (w : World) (p : Pool String Client) :
    (w.withAvailable p).trace = w.trace := rfl

@[simp] theorem withBusy_available (w : World) (p : Pool Conn (Option Client)) :
    (w.withBusy p).proxy.availableConnections = w.proxy.availableConnections := rfl
@[simp] theorem withBusy_busy (w : World) (p : Pool Conn (Option Client)) :
    (w.withBusy p).proxy.busyConnections = p := rfl
@[simp] theorem withBusy_elastic (w : World) (p : Pool Conn (Option Client)) :
    (w.withBusy p).proxy.elastic = w.proxy.elastic := rfl
@[simp] theorem withBusy_reuse (w : World) (p : Pool Conn (Option Client)) :
    (w.withBusy p).proxy.reuseElasticClients = w.proxy.reuseElasticClients := rfl
@[simp] theorem withBusy_created (w : World) (p : Pool Conn (Option Client)) :
    (w.withBusy p).created = w.created := rfl
@[simp] theorem withBusy_trace (w : World) (p : Pool Conn (Option Client)) :
    (w.withBusy p).trace = w.trace := rfl

@[simp] theorem emit_proxy (w : World) (effects : List Effect) : (w.emit effects).proxy = w.proxy :=
  rfl
@[simp] theorem emit_created (w : World) (effects : List Effect) :
    (w.emit effects).created = w.created := rfl
@[simp] theorem emit_trace (w : World) (effects : List Effect) :
    (w.emit effects).trace = w.trace ++ effects := rfl

@[simp] theorem newClient_fst (w : World) (dial : Option Dial) :
    (w.newClient dial).1 = dial.map (·.toClient w.created) := rfl
@[simp] theorem newClient_proxy (w : World) (dial : Option Dial) :
    (w.newClient dial).2.proxy = w.proxy := rfl
@[simp] theorem newClient_created (w : World) (dial : Option Dial) :
    (w.newClient dial).2.created = w.created + (if dial.isSome then 1 else 0) := rfl
@[simp] theorem newClient_trace (w : World) (dial : Option Dial) :
    (w.newClient dial).2.trace =
      w.trace ++ [.newClient w.proxy.clientConfig (dial.map (·.toClient w.created))] := rfl

end World

/-! ## `IsExhausted` and `IsHealty` -/

def ProxyImpl.isExhausted (pr : ProxyImpl) : Bool :=
  if pr.elastic then false
  else decide (pr.availableConnections.size = 0 ∧ 0 < pr.availableConnections.cap)

def ProxyImpl.isHealty (pr : ProxyImpl) (client : Option Client) :
    Option Client × Option GatewayDError :=
  (client, if pr.isExhausted then some errPoolExhausted else none)

@[simp] theorem ProxyImpl.isHealty_fst (pr : ProxyImpl) (client : Option Client) :
    (pr.isHealty client).1 = client := rfl

/-! ## `Connect` -/

/-- `clientID` is a key `Connect`'s `ForEach` may stop at: any key of the available pool, or the
zero value `""` when the pool is empty. -/
def Picks (p : Pool String Client) (clientID : String) : Prop :=
  clientID ∈ p.keys ∨ (p.keys = [] ∧ clientID = "")

instance (p : Pool String Client) (clientID : String) : Decidable (Picks p clientID) :=
  inferInstanceAs (Decidable (_ ∨ _))

/-- The end of `Connect` once it holds `client`: `IsHealty` (only logged), the busy `Put`, and the
debug line, which dereferences `client` to log the first seven bytes of its `ID`. -/
def connectBind (w : World) (gconn : Conn) (client : Option Client) : Outcome :=
  let client := (w.proxy.isHealty client).1
  match w.proxy.busyConnections.put gconn client with
  | .error e => .ret (some e) w
  | .ok busy =>
    match client with
    | none => .panic (w.withBusy busy)
    | some _ => .ret none (w.withBusy busy)

/-- `Connect(gconn)`: `clientID` is where `ForEach` stopped and `dial` what `NewClient` answers if
it is called. -/
def connect (w : World) (gconn : Conn) (clientID : String) (dial : Option Dial) : Outcome :=
  if w.proxy.isExhausted then
    if w.proxy.elastic then
      match w.newClient dial with
      | (none, w') => .panic w'
      | (some c, w') => connectBind w' gconn (some c)
    else .ret (some errPoolExhausted) w
  else
    match w.proxy.availableConnections.pop clientID with
    | (client, avail) => connectBind (w.withAvailable avail) gconn client

/-! ## `Disconnect` -/

def ProxyImpl.recycles (pr : ProxyImpl) : Bool :=
  (pr.elastic && pr.reuseElasticClients) || !pr.elastic

/-- `Disconnect(gconn)`: return the client to the available pool under its `ID`, unless the proxy
is elastic without reuse. `IsHealty` and a failed `Put` are only logged. -/
def disconnect (w : World) (gconn : Conn) : Outcome :=
  match w.proxy.busyConnections.pop gconn with
  | (none, _) => .ret (some errClientNotFound) w
  | (some client, busy) =>
    let w := w.withBusy busy
    if w.proxy.recycles then
      match client with
      | none => .panic w
      | some c =>
        match w.proxy.availableConnections.put c.id c with
        | .error _ => .ret none w
        | .ok avail => .ret none (w.withAvailable avail)
    else .ret (some errClientNotConnected) w

/-! ## `PassThrough` -/

/-- What the collaborators answer during one `PassThrough`: `gconn.Next(-1)` (`request`,
`origErr`), the `OnIngressTraffic` and `OnEgressTraffic` hooks (for each payload, the result map
or nil, and the error), `client.Receive()` (`received`, `response`, `receiveErr`), `NewClient`
when the backend has closed (`dial`), and the error `gconn.AsyncWrite` returns when it submits
the write. -/
structure PassThroughReplies where
  request : Bytes
  origErr : Option GoError
  ingress : HookMap → Option HookMap × Option GatewayDError
  received : Nat
  response : Bytes
  receiveErr : Option GatewayDError
  dial : Option Dial
  egress : HookMap → Option HookMap × Option GatewayDError
  asyncWrite : Option GoError

/-- `received == 0 && err != nil && errors.Is(err.Unwrap(), io.EOF)`. -/
def backendClosed (received : Nat) (err : Option GatewayDError) : Bool :=
  received == 0 && match err with
    | none => false
    | some e => errorsIsEOF e.unwrap

def ingressData (gconn : Conn) (client : Client) (r : PassThroughReplies) : HookMap :=
  trafficData gconn client "request" r.request (Dyn.ofError r.origErr)

def ingressRequest (gconn : Conn) (client : Client) (r : PassThroughReplies) : Bytes :=
  (extractField (r.ingress (ingressData gconn client r)).1 "request").1.getD r.request

def ingressEffects (gconn : Conn) (client : Client) (r : PassThroughReplies) : List Effect :=
  [.hook .onIngressTraffic (ingressData gconn client r), .send client (ingressRequest gconn client r),
    .receive client]

def egressData (gconn : Conn) (client : Client) (r : PassThroughReplies) : HookMap :=
  trafficData gconn client "response" (r.response.take r.received) (.gatewayD r.receiveErr)

def egressResponse (gconn : Conn) (client : Client) (r : PassThroughReplies) : Bytes :=
  (extractField (r.egress (egressData gconn client r)).1 "response").1.getD
    (r.response.take r.received)

def egressEffects (gconn : Conn) (client : Client) (r : PassThroughReplies) : List Effect :=
  [.hook .onEgressTraffic (egressData gconn client r), .asyncWrite gconn (egressResponse gconn client r)]

/-- The end of `PassThrough`: the egress hooks on `response[:received]` and the asynchronous write
back to `gconn`. The slice panics when `received` exceeds the buffer; Go allows it up to the
buffer's capacity, which the model takes to be its length, so the model panics on at least the
inputs Go panics on. The error returned when the write cannot be submitted wraps `err`, which
holds the egress hooks' error at that point; when they returned none, Go wraps a nil
`*gerr.GatewayDError`, a non-nil `error` that carries nothing, and the model wraps nothing. -/
def relayResponse (w : World) (gconn : Conn) (client : Option Client) (r : PassThroughReplies) :
    Outcome :=
  if r.received ≤ r.response.length then
    match client with
    | none => .panic w
    | some client =>
      match r.asyncWrite with
      | some _ => .ret (some (errServerSendFailed.wrap
          ((r.egress (egressData gconn client r)).2.map GatewayDError.toError)))
          (w.emit (egressEffects gconn client r))
      | none => .ret none (w.emit (egressEffects gconn client r))
  else .panic w

/-- `PassThrough(gconn)`: relay one request to the bound client and its response back, replacing
the client when the backend has closed the connection. -/
def passThrough (w : World) (gconn : Conn) (r : PassThroughReplies) : Outcome :=
  match w.proxy.busyConnections.get gconn with
  | none => .ret (some errClientNotFound) w
  | some none => .panic w
  | some (some client) =>
    let w := w.emit (ingressEffects gconn client r)
    if backendClosed r.received r.receiveErr then
      let (client', w) := (w.emit [.close client]).newClient r.dial
      let busy := w.proxy.busyConnections.remove gconn
      match busy.put gconn client' with
      | .error e => .ret (some e) (w.withBusy busy)
      | .ok busy => relayResponse (w.withBusy busy) gconn client' r
    else relayResponse w gconn (some client) r

/-! ## `Shutdown` -/

def closeBusyEntry (e : Σ _ : Conn, Option Client) : List Effect :=
  .closeConn e.1 :: match e.2 with
    | some c => [.close c]
    | none => []

/-- `Shutdown`: close every available client and clear the pool, then close every busy pair and
clear that pool. -/
def shutdown (w : World) : Outcome :=
  let avail := w.proxy.availableConnections
  let busy := w.proxy.busyConnections
  .ret none (((w.emit (avail.values.map .close)).withAvailable avail.clear).emit
    (busy.entries.entries.flatMap closeBusyEntry) |>.withBusy busy.clear)

/-! ## Calls -/

inductive Call where
  | connect (gconn : Conn) (clientID : String) (dial : Option Dial)
  | disconnect (gconn : Conn)
  | passThrough (gconn : Conn) (replies : PassThroughReplies)
  | shutdown

def step (w : World) : Call → Outcome
  | .connect gconn clientID dial => connect w gconn clientID dial
  | .disconnect gconn => disconnect w gconn
  | .passThrough gconn replies => passThrough w gconn replies
  | .shutdown => shutdown w

end Network
end Gatewayd
