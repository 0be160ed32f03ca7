import Gatewayd.Network.Concurrent

/-!
# Gatewayd.Network.Multicore

The proxy as the server drives it. `run` builds the server with `gnet.WithMulticore`: every inbound
connection is a session whose callbacks run one at a time (`Connect` when it opens, `PassThrough`
on its traffic, `Disconnect` when it closes), while different sessions run in parallel on several
event loops, all calling the one `ProxyImpl`.

What the sessions share is the available pool, the busy pool and the count of clients built; each
pool operation is atomic (§5 of the spec). A session's step here is its work up to and including one
change to what another session can see; reads whose results are only logged are left out. A
session's own entry of the busy pool, and the client stored there, are seen by no other session, so
accesses to them join the next shared change:

* `Connect` reads the available pool three times (`ForEach`, `IsExhausted`, `Pop`) and takes the
  steps of `Concurrent`;
* `Disconnect` pops its own entry and makes one shared change, the `Put` back into the available
  pool (what `IsHealty` and the debug lines read is only logged), so it is one step;
* `PassThrough` reads and rewrites its own entry, and its one shared change is the count of
  clients `NewClient` builds, so it is one step.

A panic ends the process: the server is then `crashed` and nothing moves any more.

* `multicore_accounted`: the bookkeeping of `clients_accounted` holds under every interleaving of
  the sessions, with the clients `Connect` calls hold between `Pop` and `Put` counted beside the
  pools: no client is handed out twice, and when `Disconnect` puts clients back none is lost.
* `multicore_bindings`: the busy pool's keys are exactly the bound sessions; the other sessions
  never change a session's binding.
* `multicore_crash_causes`: the first event that crashes the server is the `Put` of a `Connect`
  that popped nothing, or a `PassThrough` whose reply overruns its buffer or whose `NewClient`
  fails; `Disconnect` never crashes it.
* `multicore_no_crash`: when no two sessions hold the same key between `ForEach` and `Pop` and
  `PassThrough`'s collaborators answer within bounds, no interleaving crashes the server.
-/

namespace Gatewayd
namespace Network

/-! ## One step of `Connect`, against the books -/

section ConnectStep

variable {w w' : World} {gconn : Conn} {clientID : String} {dial : Option Dial} {pc pc' : Pc}

def Pc.crashes : Pc → Bool
  | .panicked => true
  | _ => false

theorem connectStep_keeps (hcap : w.proxy.busyConnections.cap = 0) (hpc : pc ≠ .newClient)
    (hcrash : pc'.crashes = false) (h : connectStep w gconn clientID dial pc = (w', pc')) :
    w'.proxy.availableConnections.cap = w.proxy.availableConnections.cap ∧
    w'.proxy.recycles = w.proxy.recycles ∧ w'.created = w.created ∧ w'.trace = w.trace ∧
    (none ∉ w.proxy.busyConnections.values → none ∉ w'.proxy.busyConnections.values) ∧
    (∀ k c, w'.proxy.availableConnections.get k = some c →
      w.proxy.availableConnections.get k = some c) := by
  cases pc with
  | forEach | done _ =>
    cases h
    exact ⟨rfl, rfl, rfl, rfl, id, fun _ _ => id⟩
  | panicked => cases h; cases hcrash
  | newClient => exact absurd rfl hpc
  | isExhausted key =>
    have hw : w' = w := by
      simp only [connectStep] at h
      split at h
      · split at h <;> exact (Prod.mk.inj h).1.symm
      · exact (Prod.mk.inj h).1.symm
    subst hw
    exact ⟨rfl, rfl, rfl, rfl, id, fun _ _ => id⟩
  | pop key =>
    cases h
    refine ⟨rfl, rfl, rfl, rfl, id, fun k c hk => ?_⟩
    simp only [World.withAvailable_available, Pool.get_remove] at hk
    split at hk
    · cases hk
    · exact hk
  | put client =>
    simp only [connectStep, ProxyImpl.isHealty_fst, Pool.put_of_cap_eq_zero hcap,
      Prod.mk.injEq] at h
    obtain ⟨rfl, rfl⟩ := h
    cases client with
    | none => cases hcrash
    | some c =>
      refine ⟨rfl, rfl, rfl, rfl, fun hs hn => ?_, fun _ _ => id⟩
      simp only [World.withBusy_busy, Pool.values_store, List.mem_cons, reduceCtorEq,
        false_or] at hn
      exact hs ((Pool.values_remove_sublist _ _).subset hn)

theorem connectStep_done {err : Option GatewayDError} (hpend : pc.pending = true)
    (h : connectStep w gconn clientID dial pc = (w', .done err)) :
    (err = none ∧ gconn ∈ w'.proxy.busyConnections.keys) ∨ (err ≠ none ∧ w' = w) := by
  cases pc with
  | done _ | panicked => cases hpend
  | forEach | pop _ => cases h
  | newClient =>
    simp only [connectStep] at h
    split at h <;> cases h
  | isExhausted key =>
    simp only [connectStep] at h
    split at h
    · split at h
      · cases h
      · obtain ⟨rfl, h⟩ := Prod.mk.inj h
        cases h
        exact .inr ⟨nofun, rfl⟩
    · cases h
  | put client =>
    simp only [connectStep] at h
    cases hput : w.proxy.busyConnections.put gconn (w.proxy.isHealty client).1 with
    | error e =>
      rw [hput] at h
      obtain ⟨rfl, h⟩ := Prod.mk.inj h
      cases h
      exact .inr ⟨nofun, rfl⟩
    | ok busy =>
      rw [hput] at h
      obtain ⟨_, rfl⟩ := Pool.put_eq_ok.1 hput
      cases client with
      | none => cases (Prod.mk.inj h).2
      | some c =>
        obtain ⟨rfl, h⟩ := Prod.mk.inj h
        cases h
        exact .inl ⟨rfl, by simp⟩

theorem connectStep_crashes (hpc : pc ≠ .newClient) (hpend : pc.pending = true)
    (h : connectStep w gconn clientID dial pc = (w', pc')) (hcrash : pc'.crashes = true) :
    pc = .put none := by
  cases pc with
  | forEach | pop _ => cases h; cases hcrash
  | isExhausted key =>
    simp only [connectStep] at h
    split at h
    · split at h <;> (cases h; cases hcrash)
    · cases h; cases hcrash
  | newClient => exact absurd rfl hpc
  | put client =>
    cases client with
    | none => rfl
    | some c =>
      simp only [connectStep] at h
      split at h <;> (cases h; cases hcrash)
  | done _ | panicked => cases hpend

theorem books_connectStep {H₁ H₂ : List Client}
    (hb : Books w (H₁ ++ pc.holding.toList ++ H₂)) (hpc : pc ≠ .newClient)
    (hunb : pc.pending = true → gconn ∉ w.proxy.busyConnections.keys)
    (hcrash : pc'.crashes = false) (h : connectStep w gconn clientID dial pc = (w', pc')) :
    Books w' (H₁ ++ pc'.holding.toList ++ H₂) := by
  obtain ⟨hcap', hperm, -⟩ := connectStep_frame hb.busy_unbounded hpc hunb h
  obtain ⟨hcapA, hrec, hcreated, htrace, hsome, hkeyed⟩ :=
    connectStep_keeps hb.busy_unbounded hpc hcrash h
  -- the clients the step moves, counted with the others' clients and the closed ones
  have hcount : ∀ a, (liveClients w').count a + pc'.holding.toList.count a =
      (liveClients w).count a + pc.holding.toList.count a := fun a => by
    simpa only [List.count_append] using hperm.count_eq a
  have hlive : (liveClients w' ++ (H₁ ++ pc'.holding.toList ++ H₂)).Perm
      (liveClients w ++ (H₁ ++ pc.holding.toList ++ H₂)) :=
    List.perm_iff_count.2 fun a => by
      have := hcount a
      simp only [List.count_append] at this ⊢
      omega
  have hledger : (ledger w' ++ (H₁ ++ pc'.holding.toList ++ H₂)).Perm
      (ledger w ++ (H₁ ++ pc.holding.toList ++ H₂)) :=
    List.perm_iff_count.2 fun a => by
      have := hcount a
      simp only [ledger, htrace, List.count_append] at this ⊢
      omega
  exact hb.of_subperm hcap' (hsome hb.busy_some) (fun k c hk => hb.keyed k c (hkeyed k c hk))
    hcapA hrec hcreated hlive.subperm hledger.subperm (fun _ => hledger.length_eq.ge)

end ConnectStep

/-! ## The calls that take one step -/

section OneStep

variable {w w' : World} {g : Conn} {e : Option GatewayDError}

def Outcome.crashed : Outcome → Bool
  | .ret _ _ => false
  | .panic _ => true

theorem disconnect_keys (h : disconnect w g = .ret e w') :
    g ∉ w'.proxy.busyConnections.keys ∧
      ∀ g', g' ≠ g → (g' ∈ w'.proxy.busyConnections.keys ↔ g' ∈ w.proxy.busyConnections.keys) := by
  rcases disconnect_ret h with
    ⟨hg, -, rfl⟩ | ⟨c, -, -, -, ⟨-, -, rfl⟩ | ⟨-, rfl⟩⟩ | ⟨v, -, -, -, rfl⟩
  · exact ⟨Pool.get_eq_none.1 hg, fun _ _ => .rfl⟩
  all_goals exact ⟨by simp, fun g' hg' => by simp [hg']⟩

theorem passThrough_keys {r : PassThroughReplies} (hcap : w.proxy.busyConnections.cap = 0)
    (h : passThrough w g r = .ret e w') (g' : Conn) :
    g' ∈ w'.proxy.busyConnections.keys ↔ g' ∈ w.proxy.busyConnections.keys := by
  rcases passThrough_ret hcap h with
    ⟨-, -, rfl⟩ | ⟨c, hg, -, ⟨-, -, rfl⟩ | ⟨-, d, -, -, rfl⟩⟩
  · exact .rfl
  · exact .rfl
  · have hmem : g ∈ w.proxy.busyConnections.keys := Pool.mem_keys_iff_get.2 (by simp [hg])
    by_cases hg' : g' = g
    · subst hg'
      simp [hmem]
    · simp [hg']

theorem disconnect_notFound_iff :
    (∃ w', disconnect w g = .ret (some errClientNotFound) w') ↔
      g ∉ w.proxy.busyConnections.keys := by
  refine ⟨fun ⟨w', hd⟩ => ?_, fun hg => ⟨w, disconnect_of_get_none (Pool.get_eq_none.2 hg)⟩⟩
  rcases disconnect_ret hd with ⟨hg, -⟩ | ⟨c, -, -, he, -⟩ | ⟨v, -, -, he, -⟩
  · exact Pool.get_eq_none.1 hg
  · cases he
  · cases he

theorem passThrough_notFound_iff {r : PassThroughReplies}
    (hcap : w.proxy.busyConnections.cap = 0) :
    (∃ w', passThrough w g r = .ret (some errClientNotFound) w') ↔
      g ∉ w.proxy.busyConnections.keys := by
  refine ⟨fun ⟨w', hp⟩ => ?_, fun hg => ⟨w, passThrough_of_get_none (Pool.get_eq_none.2 hg)⟩⟩
  rcases passThrough_ret hcap hp with
    ⟨hg, -⟩ | ⟨c, -, -, ⟨-, he, -⟩ | ⟨-, d, -, he, -⟩⟩
  · exact Pool.get_eq_none.1 hg
  all_goals
    cases ha : r.asyncWrite <;> simp only [ha, Option.map_none', Option.map_some'] at he
    · cases he
    · exact absurd (Option.some.inj he).symm (errServerSendFailed_wrap_ne _)

theorem passThrough_ret_available {r : PassThroughReplies} (hcap : w.proxy.busyConnections.cap = 0)
    (h : passThrough w g r = .ret e w') :
    w'.proxy.availableConnections = w.proxy.availableConnections := by
  rcases passThrough_ret hcap h with ⟨-, -, rfl⟩ | ⟨c, -, -, ⟨-, -, rfl⟩ | ⟨-, d, -, -, rfl⟩⟩ <;>
    rfl

theorem disconnect_keeps_available {k : String} (h : disconnect w g = .ret e w')
    (hk : k ∈ w.proxy.availableConnections.keys) : k ∈ w'.proxy.availableConnections.keys := by
  rcases disconnect_ret h with
    ⟨-, -, rfl⟩ | ⟨c, -, -, -, ⟨-, -, rfl⟩ | ⟨-, rfl⟩⟩ | ⟨v, -, -, -, rfl⟩ <;> simp [hk]

theorem Outcome.eq_ret {o : Outcome} (h : o.crashed = false) : ∃ e, o = .ret e o.world := by
  cases o with
  | ret e w => exact ⟨e, rfl⟩
  | panic w => cases h

theorem relayResponse_crashed {client : Option Client} {r : PassThroughReplies} :
    (relayResponse w g client r).crashed = true ↔
      r.response.length < r.received ∨ client = none := by
  unfold relayResponse
  split
  · cases client with
    | none => simp [Outcome.crashed]
    | some c => cases r.asyncWrite <;> simpa [Outcome.crashed]
  · simp only [Outcome.crashed, true_iff]
    exact .inl (by omega)

theorem passThrough_crashed {c : Client} {r : PassThroughReplies}
    (hcap : w.proxy.busyConnections.cap = 0) (hg : w.proxy.busyConnections.get g = some (some c)) :
    (passThrough w g r).crashed = true ↔ r.response.length < r.received ∨
      (backendClosed r.received r.receiveErr = true ∧ r.dial = none) := by
  rw [passThrough_of_get hcap hg]
  split <;> rename_i hb <;> simp [relayResponse_crashed, hb]

theorem disconnect_crashed (hs : none ∉ w.proxy.busyConnections.values) :
    (disconnect w g).crashed = false := by
  unfold disconnect
  cases hg : w.proxy.busyConnections.get g with
  | none => simp only [Pool.pop_eq, hg]; rfl
  | some v =>
    obtain ⟨c, rfl⟩ : ∃ c, v = some c :=
      Option.ne_none_iff_exists'.1 fun hv => hs (hv ▸ Pool.mem_values_of_get hg)
    simp only [Pool.pop_eq, hg]
    split
    · split <;> rfl
    · rfl

end OneStep

/-! ## Sessions and the server -/

/-- Where a session is: between calls with its connection unbound (before `Connect`, after a
`Connect` that failed, or after `Disconnect`), inside `Connect` at `pc`, or between calls with its
connection bound (`Connect` returned nil). -/
inductive Stage where
  | unbound
  | connecting (pc : Pc)
  | bound

def Stage.holding : Stage → Option Client
  | .connecting pc => pc.holding
  | _ => none

def Stage.ofPc : Pc → Stage
  | .done none => .bound
  | .done (some _) => .unbound
  | pc => .connecting pc

@[simp] theorem Stage.holding_ofPc (pc : Pc) : (Stage.ofPc pc).holding = pc.holding := by
  cases pc with
  | done err => cases err <;> rfl
  | _ => rfl

theorem Stage.ofPc_eq_connecting {pc pc' : Pc} (h : Stage.ofPc pc = .connecting pc')
    (hcrash : pc.crashes = false) : pc' = pc ∧ pc.pending = true := by
  cases pc with
  | done err => cases err <;> cases h
  | panicked => cases hcrash
  | _ => cases h; exact ⟨rfl, rfl⟩

def Stage.picked : Stage → Option String
  | .connecting pc => pc.picked
  | _ => none

def Stage.idle : Stage → Bool
  | .connecting _ => false
  | _ => true

theorem Stage.holding_of_idle {st : Stage} (h : st.idle = true) : st.holding = none := by
  cases st with
  | connecting => cases h
  | _ => rfl

theorem Stage.picked_of_idle {st : Stage} (h : st.idle = true) : st.picked = none := by
  cases st with
  | connecting => cases h
  | _ => rfl

@[simp] theorem Stage.picked_ofPc (pc : Pc) : (Stage.ofPc pc).picked = pc.picked := by
  cases pc with
  | done err => cases err <;> rfl
  | _ => rfl

/-- The proxy, its sessions by connection, and whether the process has panicked. -/
structure Server where
  world : World
  sessions : List (Conn × Stage)
  crashed : Bool

/-- Modelled from the spec: what the reactor does next (§5). A session's event loop starts a call
(`OnOpen` starts `Connect`, `OnTraffic` runs `PassThrough` with what its collaborators answer,
`OnClose` runs `Disconnect`) or, inside `Connect`, takes its next step, where its `ForEach` stops
at `clientID` and its `NewClient` answers `dial` when the step is one of those. -/
inductive Event where
  | connect (session : Nat)
  | connectStep (session : Nat) (clientID : String) (dial : Option Dial)
  | passThrough (session : Nat) (replies : PassThroughReplies)
  | disconnect (session : Nat)

namespace Server

def start (w : World) (gconns : List Conn) : Server := ⟨w, gconns.map (·, .unbound), false⟩

def holdings (s : Server) : List Client := s.sessions.filterMap (·.2.holding)

/-- Modelled from the spec: one event of the reactor that runs the sessions' callbacks (§5). A
session inside `Connect` takes no other call; a session between calls takes any call, and
`Connect` only when it is unbound. -/
def step (s : Server) (ev : Event) : Server :=
  if s.crashed then s else
  match ev with
  | .connect i =>
    match s.sessions[i]? with
    | some (g, .unbound) => { s with sessions := s.sessions.set i (g, .connecting .forEach) }
    | _ => s
  | .connectStep i clientID dial =>
    match s.sessions[i]? with
    | some (g, .connecting pc) =>
      match connectStep s.world g clientID dial pc with
      | (w, pc) => ⟨w, s.sessions.set i (g, .ofPc pc), pc.crashes⟩
    | _ => s
  | .passThrough i r =>
    match s.sessions[i]? with
    | some (g, .unbound) | some (g, .bound) =>
      ⟨(passThrough s.world g r).world, s.sessions, (passThrough s.world g r).crashed⟩
    | _ => s
  | .disconnect i =>
    match s.sessions[i]? with
    | some (g, .unbound) | some (g, .bound) =>
      ⟨(disconnect s.world g).world, s.sessions.set i (g, .unbound),
        (disconnect s.world g).crashed⟩
    | _ => s

def run (s : Server) (evs : List Event) : Server := evs.foldl step s

/-- What the environment is trusted with: `NewClient`, when `PassThrough` calls it, answers with
an `ID` that no client the proxy or a session holds has. -/
def Allowed (s : Server) : Event → Prop
  | .passThrough _ r =>
    ∀ d, r.dial = some d → d.id ∉ (liveClients s.world ++ s.holdings).map Client.id
  | _ => True

def Admissible : Server → List Event → Prop
  | _, [] => True
  | s, ev :: evs => s.Allowed ev ∧ (s.step ev).Admissible evs

theorem step_crashed {s : Server} (h : s.crashed = true) (ev : Event) : s.step ev = s := by
  simp [step, h]

theorem run_crashed {s : Server} (h : s.crashed = true) (evs : List Event) :
    (s.run evs).crashed = true := by
  induction evs generalizing s with
  | nil => exact h
  | cons ev evs ih =>
    show (run (s.step ev) evs).crashed = true
    rw [step_crashed h]
    exact ih h

theorem sessions_split {l : List (Conn × Stage)} {i : Nat} {x : Conn × Stage} (hx : l[i]? = some x)
    (y : Conn × Stage) : ∃ l₁ l₂, l = l₁ ++ x :: l₂ ∧ l.set i y = l₁ ++ y :: l₂ := by
  obtain ⟨hlt, rfl⟩ := List.getElem?_eq_some_iff.1 hx
  obtain ⟨l₁, l₂, hl, -, hset⟩ := @List.exists_of_set _ _ y _ hlt
  exact ⟨l₁, l₂, hl, hset⟩

/-- What one event does to a server that has not crashed, when it does anything: it moves one
session, `(g, st)` at `i` between `l₁` and `l₂`, by the call the event names. -/
inductive Moves (s : Server) : Event → Server → Prop
  | connect {i : Nat} {g : Conn} {l₁ l₂ : List (Conn × Stage)} :
      s.sessions[i]? = some (g, .unbound) → s.sessions = l₁ ++ (g, .unbound) :: l₂ →
      Moves s (.connect i) ⟨s.world, l₁ ++ (g, .connecting .forEach) :: l₂, false⟩
  | connectStep {i : Nat} {clientID : String} {dial : Option Dial} {g : Conn} {pc : Pc}
      {l₁ l₂ : List (Conn × Stage)} {w' : World} {pc' : Pc} :
      s.sessions[i]? = some (g, .connecting pc) → s.sessions = l₁ ++ (g, .connecting pc) :: l₂ →
      connectStep s.world g clientID dial pc = (w', pc') →
      Moves s (.connectStep i clientID dial) ⟨w', l₁ ++ (g, .ofPc pc') :: l₂, pc'.crashes⟩
  | passThrough {i : Nat} {r : PassThroughReplies} {g : Conn} {st : Stage}
      {l₁ l₂ : List (Conn × Stage)} :
      st.idle = true → s.sessions[i]? = some (g, st) → s.sessions = l₁ ++ (g, st) :: l₂ →
      Moves s (.passThrough i r)
        ⟨(passThrough s.world g r).world, s.sessions, (passThrough s.world g r).crashed⟩
  | disconnect {i : Nat} {g : Conn} {st : Stage} {l₁ l₂ : List (Conn × Stage)} :
      st.idle = true → s.sessions[i]? = some (g, st) → s.sessions = l₁ ++ (g, st) :: l₂ →
      Moves s (.disconnect i)
        ⟨(disconnect s.world g).world, l₁ ++ (g, .unbound) :: l₂, (disconnect s.world g).crashed⟩

theorem step_moves {s s' : Server} {ev : Event} (hs : s.crashed = false) (h : s.step ev = s') :
    s' = s ∨ Moves s ev s' := by
  unfold step at h
  rw [if_neg (by simp [hs])] at h
  subst h
  cases ev with
  | connect i =>
    dsimp only
    split
    next g hx =>
      obtain ⟨l₁, l₂, hl, hset⟩ := sessions_split hx (g, .connecting .forEach)
      rw [hset, hs]
      exact .inr (.connect hx hl)
    next => exact .inl rfl
  | connectStep i clientID dial =>
    dsimp only
    split
    next g pc hx =>
      rcases hc : connectStep s.world g clientID dial pc with ⟨w', pc'⟩
      obtain ⟨l₁, l₂, hl, hset⟩ := sessions_split hx (g, .ofPc pc')
      rw [hset]
      exact .inr (.connectStep hx hl hc)
    next => exact .inl rfl
  | passThrough i r =>
    dsimp only
    split
    case h_3 => exact .inl rfl
    all_goals
      rename_i g hx
      obtain ⟨l₁, l₂, hl, -⟩ := sessions_split hx (g, .unbound)
      exact .inr (.passThrough (by rfl) hx hl)
  | disconnect i =>
    dsimp only
    split
    case h_3 => exact .inl rfl
    all_goals
      rename_i g hx
      obtain ⟨l₁, l₂, hl, hset⟩ := sessions_split hx (g, .unbound)
      rw [hset]
      exact .inr (.disconnect (by rfl) hx hl)

/-- What holds of a server that has not crashed, for a proxy whose `Disconnect` puts clients back
exactly when `rec` says so, with sessions on the distinct connections `gconns`. -/
structure Inv (rec : Bool) (gconns : List Conn) (s : Server) : Prop where
  books : Books s.world s.holdings
  recycles : s.world.proxy.recycles = rec
  conns : s.sessions.map Prod.fst = gconns
  conns_nodup : gconns.Nodup
  bound_iff : ∀ x ∈ s.sessions, x.1 ∈ s.world.proxy.busyConnections.keys ↔ x.2 = .bound
  keys_conns : ∀ g ∈ s.world.proxy.busyConnections.keys, g ∈ gconns
  connecting : ∀ x ∈ s.sessions, ∀ pc, x.2 = .connecting pc →
    pc ≠ .newClient ∧ pc.pending = true

/-! ## What one event keeps -/

section Inv

variable {rec : Bool} {gconns : List Conn} {s : Server} {l₁ l₂ : List (Conn × Stage)} {g : Conn}
  {st : Stage}

theorem holdings_eq (hl : s.sessions = l₁ ++ (g, st) :: l₂) :
    s.holdings = l₁.filterMap (·.2.holding) ++ st.holding.toList ++ l₂.filterMap (·.2.holding) := by
  simp only [holdings, hl, List.filterMap_append, filterMap_cons_toList, List.append_assoc]

theorem Inv.books_split (hinv : Inv rec gconns s) (hl : s.sessions = l₁ ++ (g, st) :: l₂) :
    Books s.world (l₁.filterMap (·.2.holding) ++ st.holding.toList ++ l₂.filterMap (·.2.holding)) :=
  holdings_eq hl ▸ hinv.books

theorem mem_of_split (hl : s.sessions = l₁ ++ (g, st) :: l₂) : (g, st) ∈ s.sessions := by
  simp [hl]

theorem Inv.set {st' : Stage} {w' : World} {c : Bool} (hinv : Inv rec gconns s)
    (hl : s.sessions = l₁ ++ (g, st) :: l₂)
    (hbooks : Books w'
      (l₁.filterMap (·.2.holding) ++ st'.holding.toList ++ l₂.filterMap (·.2.holding)))
    (hrec : w'.proxy.recycles = s.world.proxy.recycles)
    (hkeys : ∀ g', g' ≠ g →
      (g' ∈ w'.proxy.busyConnections.keys ↔ g' ∈ s.world.proxy.busyConnections.keys))
    (hbound : g ∈ w'.proxy.busyConnections.keys ↔ st' = .bound)
    (hconn : ∀ pc, st' = .connecting pc → pc ≠ .newClient ∧ pc.pending = true) :
    Inv rec gconns ⟨w', l₁ ++ (g, st') :: l₂, c⟩ := by
  have hnd := hinv.conns_nodup
  rw [← hinv.conns, hl] at hnd
  refine ⟨?_, hrec.trans hinv.recycles, by rw [← hinv.conns, hl]; simp, hinv.conns_nodup,
    fun x hx => ?_, fun g' hg' => ?_, fun x hx => ?_⟩
  · simpa only [holdings, List.filterMap_append, filterMap_cons_toList, List.append_assoc]
      using hbooks
  · rcases mem_moved hnd hx with rfl | ⟨hx, hne⟩
    · exact hbound
    · exact (hkeys _ hne).trans (hinv.bound_iff x (hl ▸ hx))
  · by_cases hne : g' = g
    · rw [hne, ← hinv.conns]
      exact List.mem_map_of_mem Prod.fst (mem_of_split hl)
    · exact hinv.keys_conns g' ((hkeys g' hne).1 hg')
  · rcases mem_moved hnd hx with rfl | ⟨hx, -⟩
    · exact hconn
    · exact hinv.connecting x (hl ▸ hx)

theorem Inv.connect (hinv : Inv rec gconns s) (hl : s.sessions = l₁ ++ (g, .unbound) :: l₂)
    (c : Bool) :
    Inv rec gconns ⟨s.world, l₁ ++ (g, .connecting .forEach) :: l₂, c⟩ := by
  have hbooks := hinv.books_split hl
  exact hinv.set hl hbooks rfl (fun _ _ => .rfl)
    (iff_of_false (fun hg => nomatch (hinv.bound_iff _ (mem_of_split hl)).1 hg) nofun)
    (fun _ h => by cases h; exact ⟨nofun, rfl⟩)

theorem Inv.connectStep {pc pc' : Pc} {w' : World} {clientID : String} {dial : Option Dial}
    (hinv : Inv rec gconns s) (hl : s.sessions = l₁ ++ (g, .connecting pc) :: l₂)
    (h : connectStep s.world g clientID dial pc = (w', pc')) (hcrash : pc'.crashes = false) :
    Inv rec gconns ⟨w', l₁ ++ (g, .ofPc pc') :: l₂, pc'.crashes⟩ := by
  have hmem := mem_of_split hl
  obtain ⟨hnew, hpend⟩ := hinv.connecting _ hmem pc rfl
  have hunb : g ∉ s.world.proxy.busyConnections.keys := fun hg =>
    nomatch (hinv.bound_iff _ hmem).1 hg
  have hcap := hinv.books.busy_unbounded
  obtain ⟨-, -, hkeys, hunb', hnew'⟩ := connectStep_frame hcap hnew (fun _ => hunb) h
  refine hinv.set hl ?_ (connectStep_keeps hcap hnew hcrash h).2.1 hkeys ?_ fun pc'' hpc => ?_
  · rw [Stage.holding_ofPc]
    exact books_connectStep (hinv.books_split hl) hnew (fun _ => hunb) hcrash h
  · cases pc' with
    | done err =>
      rcases connectStep_done hpend h with ⟨rfl, hg⟩ | ⟨herr, rfl⟩
      · exact iff_of_true hg rfl
      · obtain ⟨e, rfl⟩ := Option.ne_none_iff_exists'.1 herr
        exact iff_of_false hunb nofun
    | panicked => cases hcrash
    | _ => exact iff_of_false (hunb' rfl) nofun
  · obtain ⟨rfl, hp⟩ := Stage.ofPc_eq_connecting hpc hcrash
    exact ⟨hnew', hp⟩

theorem Inv.passThrough {r : PassThroughReplies} {e : Option GatewayDError} {w' : World}
    (hinv : Inv rec gconns s) (hl : s.sessions = l₁ ++ (g, st) :: l₂)
    (hfresh : ∀ d, r.dial = some d → d.id ∉ (liveClients s.world ++ s.holdings).map Client.id)
    (h : passThrough s.world g r = .ret e w') (c : Bool) : Inv rec gconns ⟨w', s.sessions, c⟩ := by
  have hcap := hinv.books.busy_unbounded
  have hbooks := books_passThrough hinv.books hfresh h
  rw [holdings_eq hl] at hbooks
  rw [hl]
  exact hinv.set hl hbooks (step_config hcap (c := .passThrough g r) h).2
    (fun g' _ => passThrough_keys hcap h g')
    ((passThrough_keys hcap h g).trans (hinv.bound_iff _ (mem_of_split hl)))
    (hinv.connecting _ (mem_of_split hl))

theorem Inv.disconnect {e : Option GatewayDError} {w' : World} (hinv : Inv rec gconns s)
    (hl : s.sessions = l₁ ++ (g, st) :: l₂) (hst : st.holding = none)
    (h : disconnect s.world g = .ret e w') (c : Bool) :
    Inv rec gconns ⟨w', l₁ ++ (g, .unbound) :: l₂, c⟩ := by
  have hbooks := books_disconnect (hinv.books_split hl) h
  rw [hst] at hbooks
  exact hinv.set hl hbooks (step_config hinv.books.busy_unbounded (c := .disconnect g) h).2
    (disconnect_keys h).2 (iff_of_false (disconnect_keys h).1 nofun) nofun

/-- An allowed event that does not crash the server keeps the invariant. -/
theorem step_inv {ev : Event} (hinv : Inv rec gconns s) (hok : s.Allowed ev)
    (hcr : (s.step ev).crashed = false) : Inv rec gconns (s.step ev) := by
  by_cases hs : s.crashed = true
  · rwa [step_crashed hs]
  generalize hs' : s.step ev = s' at hcr ⊢
  rcases step_moves (by simpa using hs) hs' with rfl | hm
  · exact hinv
  cases hm with
  | connect _ hl => exact hinv.connect hl false
  | connectStep _ hl hc => exact hinv.connectStep hl hc hcr
  | passThrough _ _ hl =>
    obtain ⟨e, he⟩ := Outcome.eq_ret hcr
    exact hinv.passThrough hl hok he _
  | disconnect hidle _ hl =>
    obtain ⟨e, he⟩ := Outcome.eq_ret hcr
    exact hinv.disconnect hl (Stage.holding_of_idle hidle) he _

theorem Inv.get_bound (hinv : Inv rec gconns s) (hmem : (g, Stage.bound) ∈ s.sessions) :
    ∃ c, s.world.proxy.busyConnections.get g = some (some c) := by
  obtain ⟨v, hv⟩ := Option.isSome_iff_exists.1
    (Pool.mem_keys_iff_get.1 ((hinv.bound_iff _ hmem).2 rfl))
  obtain ⟨c, rfl⟩ := Option.ne_none_iff_exists'.1 fun hn =>
    hinv.books.busy_some (hn ▸ Pool.mem_values_of_get hv)
  exact ⟨c, hv⟩

theorem Inv.get_unbound (hinv : Inv rec gconns s) (hmem : (g, Stage.unbound) ∈ s.sessions) :
    s.world.proxy.busyConnections.get g = none :=
  Pool.get_eq_none.2 fun hg => nomatch (hinv.bound_iff _ hmem).1 hg

/-- The events that can crash the server: a `Connect` that reaches its `Put` with nothing popped,
or a `PassThrough` on a bound session whose reply overruns its buffer or whose backend has closed
with `NewClient` failing. -/
theorem Inv.crash_cases {ev : Event} (hinv : Inv rec gconns s) (hs : s.crashed = false)
    (hcr : (s.step ev).crashed = true) :
    (∃ i clientID dial g, ev = .connectStep i clientID dial ∧
      s.sessions[i]? = some (g, .connecting (.put none))) ∨
    (∃ i r g, ev = .passThrough i r ∧ s.sessions[i]? = some (g, .bound) ∧
      (r.response.length < r.received ∨
        (backendClosed r.received r.receiveErr = true ∧ r.dial = none))) := by
  generalize hs' : s.step ev = s' at hcr
  rcases step_moves hs hs' with rfl | hm
  · simp [hs] at hcr
  cases hm with
  | connect => cases hcr
  | connectStep hx hl hc =>
    obtain ⟨hnew, hpend⟩ := hinv.connecting _ (mem_of_split hl) _ rfl
    obtain rfl := connectStep_crashes hnew hpend hc hcr
    exact .inl ⟨_, _, _, _, rfl, hx⟩
  | @passThrough i r g st l₁ l₂ hidle hx hl =>
    cases st with
    | unbound =>
      rw [passThrough_of_get_none (hinv.get_unbound (mem_of_split hl))] at hcr
      cases hcr
    | connecting => cases hidle
    | bound =>
      obtain ⟨c, hc⟩ := hinv.get_bound (mem_of_split hl)
      exact .inr ⟨i, r, g, rfl, hx, (passThrough_crashed hinv.books.busy_unbounded hc).1 hcr⟩
  | disconnect =>
    simp [disconnect_crashed hinv.books.busy_some] at hcr

/-- Along an admissible run that does not crash, the invariant holds throughout. -/
theorem run_inv {evs : List Event} (hinv : Inv rec gconns s) (hadm : s.Admissible evs)
    (hcr : (s.run evs).crashed = false) : Inv rec gconns (s.run evs) := by
  induction evs generalizing s with
  | nil => exact hinv
  | cons ev evs ih =>
    have hcr' : (s.step ev).crashed = false :=
      Bool.eq_false_iff.2 fun h => Bool.false_ne_true (hcr.symm.trans (run_crashed h evs))
    exact ih (step_inv hinv hadm.1 hcr') hadm.2 hcr

theorem start_inv {p : Pool String Client} {el re : Bool} {cfg : ClientConfig}
    {gconns : List Conn} (hp : InitialPool p) (hnd : gconns.Nodup) :
    Inv ((el && re) || !el) gconns (start (initWorld p el re cfg) gconns) where
  books := by
    have hnone : (start (initWorld p el re cfg) gconns).holdings = [] := by
      simp [holdings, start, Stage.holding]
    rw [hnone]
    exact (accounted_init hp).toBooks
  recycles := rfl
  conns := by simp [start, List.map_map, Function.comp_def]
  conns_nodup := hnd
  bound_iff x hx := by
    obtain ⟨g, -, rfl⟩ := List.mem_map.1 hx
    simp [start]
  keys_conns g hg := by simp [start] at hg
  connecting x hx pc h := by
    obtain ⟨g, -, rfl⟩ := List.mem_map.1 hx
    cases h

end Inv

/-! ## Sessions whose picks are kept apart -/

section OnTrack

variable {rec : Bool} {gconns : List Conn} {s : Server} {l₁ l₂ : List (Conn × Stage)} {g : Conn}
  {st : Stage}

def picks (s : Server) : List String := s.sessions.filterMap (·.2.picked)

/-- Whether an event is one the scheduler and the collaborators may take for the server not to
crash: a `ForEach` stops at a key of the pool that no other session has picked and not yet
popped; on a bound session, `PassThrough`'s reply fits its buffer and, when the backend has closed,
`NewClient` succeeds. -/
def safe (s : Server) : Event → Bool
  | .connectStep i clientID _ =>
    match s.sessions[i]? with
    | some (_, .connecting .forEach) =>
      decide (clientID ∈ s.world.proxy.availableConnections.keys) && !decide (clientID ∈ s.picks)
    | _ => true
  | .passThrough i r =>
    match s.sessions[i]? with
    | some (_, .bound) => decide (r.received ≤ r.response.length) &&
      (!backendClosed r.received r.receiveErr || r.dial.isSome)
    | _ => true
  | _ => true

def safeRun : Server → List Event → Bool
  | _, [] => true
  | s, ev :: evs => s.safe ev && (s.step ev).safeRun evs

/-- Every session inside `Connect` is on its way to binding a client: it has popped a client or
has yet to pop, and the keys the sessions have picked and not yet popped are distinct keys of the
pool. -/
structure OnTrack (s : Server) : Prop where
  on_track : ∀ x ∈ s.sessions, ∀ pc, x.2 = .connecting pc → pc.onTrack = true
  picks_nodup : s.picks.Nodup
  picks_present : ∀ k ∈ s.picks, k ∈ s.world.proxy.availableConnections.keys

theorem picks_eq (hl : s.sessions = l₁ ++ (g, st) :: l₂) :
    s.picks = l₁.filterMap (·.2.picked) ++ st.picked.toList ++ l₂.filterMap (·.2.picked) := by
  simp only [picks, hl, List.filterMap_append, filterMap_cons_toList, List.append_assoc]

theorem OnTrack.set {st' : Stage} {w' : World} {c : Bool} (ho : s.OnTrack)
    (hinv : Inv rec gconns s) (hl : s.sessions = l₁ ++ (g, st) :: l₂)
    (hon : ∀ pc, st' = .connecting pc → pc.onTrack = true)
    (hchg : st'.picked = st.picked ∨ st'.picked = none ∨
      ∃ k, st'.picked = some k ∧ k ∉ l₁.filterMap (·.2.picked) ++ l₂.filterMap (·.2.picked))
    (hpick : ∀ k ∈ st'.picked, k ∈ w'.proxy.availableConnections.keys)
    (hkeep : ∀ k ∈ s.world.proxy.availableConnections.keys, k ∉ st.picked →
      k ∈ w'.proxy.availableConnections.keys) :
    OnTrack ⟨w', l₁ ++ (g, st') :: l₂, c⟩ := by
  have hnd := hinv.conns_nodup
  rw [← hinv.conns, hl] at hnd
  have hpicks := ho.picks_nodup
  rw [picks_eq hl] at hpicks
  obtain ⟨hnd', hpres'⟩ := picks_step hpicks
    (fun k hk => ho.picks_present k (by rwa [picks_eq hl])) hchg hpick hkeep
  refine ⟨fun x hx => ?_, by rwa [picks_eq (s := ⟨w', _, c⟩) rfl],
    fun k hk => hpres' k (by rwa [picks_eq (s := ⟨w', _, c⟩) rfl] at hk)⟩
  rcases mem_moved hnd hx with rfl | ⟨hx, -⟩
  · exact hon
  · exact ho.on_track x (hl ▸ hx)

theorem OnTrack.connect (ho : s.OnTrack) (hinv : Inv rec gconns s)
    (hl : s.sessions = l₁ ++ (g, .unbound) :: l₂) (c : Bool) :
    OnTrack ⟨s.world, l₁ ++ (g, .connecting .forEach) :: l₂, c⟩ :=
  ho.set hinv hl (fun _ h => by cases h; rfl) (.inl rfl) nofun fun _ hk _ => hk

theorem OnTrack.connectStep {pc pc' : Pc} {w' : World} {clientID : String} {dial : Option Dial}
    {c : Bool} (ho : s.OnTrack) (hinv : Inv rec gconns s)
    (hl : s.sessions = l₁ ++ (g, .connecting pc) :: l₂)
    (hfirst : pc = .forEach →
      clientID ∈ s.world.proxy.availableConnections.keys ∧ clientID ∉ s.picks)
    (h : Network.connectStep s.world g clientID dial pc = (w', pc'))
    (hcrash : pc'.crashes = false) :
    OnTrack ⟨w', l₁ ++ (g, .ofPc pc') :: l₂, c⟩ := by
  obtain ⟨hon', hpick', hchg, hkeep, -, -⟩ := connectStep_onTrack hinv.books.busy_unbounded
    (ho.on_track _ (mem_of_split hl) pc rfl)
    (fun k hk => ho.picks_present k
      (picks_eq hl ▸ List.mem_append_left _ (List.mem_append_right _ (Option.mem_toList.2 hk))))
    (fun h => (hfirst h).1) h
  refine ho.set hinv hl (fun pc'' hpc => ?_) ?_ (Stage.picked_ofPc pc' ▸ hpick') hkeep
  · obtain ⟨rfl, -⟩ := Stage.ofPc_eq_connecting hpc hcrash
    exact hon'
  · rw [Stage.picked_ofPc]
    rcases hchg with he | he | ⟨rfl, he⟩
    · exact .inl he
    · exact .inr (.inl he)
    · have hnot := (hfirst rfl).2
      simp only [picks_eq hl, Stage.picked, Pc.picked, Option.toList_none, List.append_nil] at hnot
      exact .inr (.inr ⟨clientID, he, hnot⟩)

theorem OnTrack.passThrough {r : PassThroughReplies} {e : Option GatewayDError} {w' : World}
    {c : Bool} (ho : s.OnTrack) (hinv : Inv rec gconns s) (hl : s.sessions = l₁ ++ (g, st) :: l₂)
    (hidle : st.idle = true) (h : Network.passThrough s.world g r = .ret e w') :
    OnTrack ⟨w', s.sessions, c⟩ := by
  have havail := passThrough_ret_available hinv.books.busy_unbounded h
  rw [hl]
  refine ho.set hinv hl (fun pc h => ?_) (.inl rfl) (fun k hk => ?_) fun k hk _ => havail ▸ hk
  · subst h
    cases hidle
  · rw [Stage.picked_of_idle hidle] at hk
    cases hk

theorem OnTrack.disconnect {e : Option GatewayDError} {w' : World} {c : Bool} (ho : s.OnTrack)
    (hinv : Inv rec gconns s) (hl : s.sessions = l₁ ++ (g, st) :: l₂)
    (h : Network.disconnect s.world g = .ret e w') :
    OnTrack ⟨w', l₁ ++ (g, .unbound) :: l₂, c⟩ :=
  ho.set hinv hl nofun (.inr (.inl rfl)) nofun fun _ hk _ => disconnect_keeps_available h hk

/-- A safe event on a server whose sessions are on track does not crash it, and keeps them on
track. -/
theorem step_onTrack {ev : Event} (hinv : Inv rec gconns s) (ho : s.OnTrack)
    (hs : s.crashed = false) (hsafe : s.safe ev = true) :
    (s.step ev).crashed = false ∧ (s.step ev).OnTrack := by
  have hcr : (s.step ev).crashed = false := by
    refine Bool.eq_false_iff.2 fun hcr => ?_
    rcases hinv.crash_cases hs hcr with ⟨i, clientID, dial, g, rfl, hx⟩ | ⟨i, r, g, rfl, hx, hbad⟩
    · obtain ⟨l₁, l₂, hl, -⟩ := sessions_split hx (g, .unbound)
      exact absurd (ho.on_track _ (mem_of_split hl) _ rfl) (by decide)
    · simp only [safe, hx, Bool.and_eq_true, decide_eq_true_eq, Bool.or_eq_true,
        Bool.not_eq_true'] at hsafe
      rcases hbad with hlt | ⟨hb, hd⟩
      · omega
      · simp [hb, hd] at hsafe
  refine ⟨hcr, ?_⟩
  generalize hs' : s.step ev = s' at hcr ⊢
  rcases step_moves hs hs' with rfl | hm
  · exact ho
  cases hm with
  | connect _ hl => exact ho.connect hinv hl false
  | connectStep hx hl hc =>
    refine ho.connectStep hinv hl (fun hpc => ?_) hc hcr
    subst hpc
    simpa only [safe, hx, Bool.and_eq_true, decide_eq_true_eq, Bool.not_eq_true',
      decide_eq_false_iff_not] using hsafe
  | passThrough hidle _ hl =>
    obtain ⟨e, he⟩ := Outcome.eq_ret hcr
    exact ho.passThrough hinv hl hidle he
  | disconnect _ _ hl =>
    obtain ⟨e, he⟩ := Outcome.eq_ret hcr
    exact ho.disconnect hinv hl he

/-- Along an admissible run of safe events, the server never crashes and its sessions stay on
track. -/
theorem run_onTrack {evs : List Event} (hinv : Inv rec gconns s) (ho : s.OnTrack)
    (hs : s.crashed = false) (hadm : s.Admissible evs) (hsafe : s.safeRun evs = true) :
    (s.run evs).crashed = false ∧ (s.run evs).OnTrack := by
  induction evs generalizing s with
  | nil => exact ⟨hs, ho⟩
  | cons ev evs ih =>
    simp only [safeRun, Bool.and_eq_true] at hsafe
    obtain ⟨hcr, ho'⟩ := step_onTrack hinv ho hs hsafe.1
    exact ih (step_inv hinv hadm.1 hcr) ho' hcr hadm.2 hsafe.2

theorem start_picks (w : World) (gconns : List Conn) : (start w gconns).picks = [] :=
  List.filterMap_eq_nil_iff.2 (by simp [start, Stage.picked])

theorem start_onTrack (w : World) (gconns : List Conn) : (start w gconns).OnTrack where
  on_track x hx pc h := by
    obtain ⟨g, -, rfl⟩ := List.mem_map.1 hx
    cases h
  picks_nodup := by simp only [start_picks, List.nodup_nil]
  picks_present k hk := by simp [start_picks] at hk

end OnTrack

end Server

/-! ## Whole runs -/

section Runs

variable {w : World} {H : List Client}

theorem Books.uids_subperm (hb : Books w H) :
    ((ledger w ++ H).map Client.uid).Subperm (List.range w.created) :=
  List.subperm_of_subset hb.uids_nodup fun u hu => by
    obtain ⟨x, hx, rfl⟩ := List.mem_map.1 hu
    exact List.mem_range.2 (hb.uids_lt x hx)

theorem Books.size_add (hb : Books w H) (hrec : w.proxy.recycles = true) :
    w.proxy.availableConnections.size + w.proxy.busyConnections.size + H.length =
      w.created - (closedClients w.trace).length := by
  have hlive := length_liveClients w hb.busy_some
  have hcount := hb.counted hrec
  simp only [ledger, List.length_append] at hcount
  omega

theorem initialPool_twoClientPool : InitialPool twoClientPool where
  uids := by decide
  keyed k c h := by
    by_cases h1 : k = exampleClient2.id
    · subst h1; cases h; rfl
    by_cases h0 : k = exampleClient.id
    · subst h0; cases h; rfl
    · simp only [twoClientPool, Pool.get, AList.lookup_insert_ne h1, AList.lookup_insert_ne h0,
        AList.lookup_empty] at h
      cases h

/-- Two sessions on the two-client pool: both run `Connect`, their steps interleaved, then the
first relays a request and the second disconnects. -/
def twoSessions : List Event :=
  [.connect 0, .connect 1,
    .connectStep 0 exampleClient.id none, .connectStep 1 exampleClient2.id none,
    .connectStep 0 exampleClient.id none, .connectStep 1 exampleClient2.id none,
    .connectStep 0 exampleClient.id none, .connectStep 1 exampleClient2.id none,
    .connectStep 0 exampleClient.id none, .connectStep 1 exampleClient2.id none,
    .passThrough 0 (echoReplies 2 [4, 5, 6] none none none), .disconnect 1]

theorem twoSessions_admissible :
    (Server.start (initWorld twoClientPool false false exampleConfig)
      [exampleConn, exampleConn2]).Admissible twoSessions := by
  simp [Server.Admissible, Server.Allowed, twoSessions, echoReplies]

variable {p : Pool String Client} {el re : Bool} {cfg : ClientConfig} {gconns : List Conn}
  {evs : List Event}

/-- However the event loops interleave the sessions' calls, and wherever `Connect`'s `ForEach`
stops, as long as no call has panicked: the available pool files each client under its own `ID`,
the busy pool holds no nil client, the clients the proxy and the sessions hold have distinct IDs,
and each client held or closed is one built so far, listed once. When `Disconnect` puts clients
back, every client built is held or closed, and the pools together with the clients sessions
hold between `Pop` and `Put` count exactly the clients built and not closed. -/
theorem multicore_accounted (hp : InitialPool p) (hnd : gconns.Nodup)
    (hadm : (Server.start (initWorld p el re cfg) gconns).Admissible evs)
    (hcr : ((Server.start (initWorld p el re cfg) gconns).run evs).crashed = false) :
    let s := (Server.start (initWorld p el re cfg) gconns).run evs
    (∀ k c, s.world.proxy.availableConnections.get k = some c → c.id = k) ∧
    none ∉ s.world.proxy.busyConnections.values ∧
    ((liveClients s.world ++ s.holdings).map Client.id).Nodup ∧
    ((ledger s.world ++ s.holdings).map Client.uid).Subperm (List.range s.world.created) ∧
    (el = false ∨ re = true →
      ((ledger s.world ++ s.holdings).map Client.uid).Perm (List.range s.world.created) ∧
      s.world.proxy.availableConnections.size + s.world.proxy.busyConnections.size +
        s.holdings.length = s.world.created - (closedClients s.world.trace).length) := by
  intro s
  have hinv := Server.run_inv (Server.start_inv hp hnd) hadm hcr
  have hb := hinv.books
  refine ⟨hb.keyed, hb.busy_some, hb.ids_nodup, hb.uids_subperm, fun hmode => ?_⟩
  have hrec : s.world.proxy.recycles = true := by
    rw [hinv.recycles]
    rcases hmode with rfl | rfl <;> simp
  exact ⟨hb.uids_subperm.perm_of_length_le
    (by rw [List.length_range, List.length_map, hb.counted hrec]), hb.size_add hrec⟩

theorem multicore_accounted_twoSessions :
    let s := (Server.start (initWorld twoClientPool false false exampleConfig)
      [exampleConn, exampleConn2]).run twoSessions
    (∀ k c, s.world.proxy.availableConnections.get k = some c → c.id = k) ∧
    none ∉ s.world.proxy.busyConnections.values ∧
    ((liveClients s.world ++ s.holdings).map Client.id).Nodup ∧
    ((ledger s.world ++ s.holdings).map Client.uid).Subperm (List.range s.world.created) ∧
    (false = false ∨ false = true →
      ((ledger s.world ++ s.holdings).map Client.uid).Perm (List.range s.world.created) ∧
      s.world.proxy.availableConnections.size + s.world.proxy.busyConnections.size +
        s.holdings.length = s.world.created - (closedClients s.world.trace).length) :=
  multicore_accounted initialPool_twoClientPool (by decide) twoSessions_admissible (by decide)

/-- However the event loops interleave the sessions' calls, as long as none has panicked: the
busy pool binds exactly the sessions whose `Connect` returned nil and that have not disconnected
since, and no connection but theirs. A `Disconnect` or a `PassThrough` would return
`ErrClientNotFound` exactly on the other sessions. -/
theorem multicore_bindings (hp : InitialPool p) (hnd : gconns.Nodup)
    (hadm : (Server.start (initWorld p el re cfg) gconns).Admissible evs)
    (hcr : ((Server.start (initWorld p el re cfg) gconns).run evs).crashed = false) :
    let s := (Server.start (initWorld p el re cfg) gconns).run evs
    (∀ x ∈ s.sessions, x.1 ∈ s.world.proxy.busyConnections.keys ↔ x.2 = .bound) ∧
    (∀ g ∈ s.world.proxy.busyConnections.keys, g ∈ gconns) ∧
    (∀ x ∈ s.sessions,
      ((∃ w', disconnect s.world x.1 = .ret (some errClientNotFound) w') ↔ x.2 ≠ .bound) ∧
      ∀ r, (∃ w', passThrough s.world x.1 r = .ret (some errClientNotFound) w') ↔
        x.2 ≠ .bound) := by
  intro s
  have hinv := Server.run_inv (Server.start_inv hp hnd) hadm hcr
  refine ⟨hinv.bound_iff, hinv.keys_conns, fun x hx => ⟨?_, fun r => ?_⟩⟩
  · rw [disconnect_notFound_iff, (hinv.bound_iff x hx).not]
  · rw [passThrough_notFound_iff hinv.books.busy_unbounded, (hinv.bound_iff x hx).not]

theorem multicore_bindings_twoSessions :
    let s := (Server.start (initWorld twoClientPool false false exampleConfig)
      [exampleConn, exampleConn2]).run twoSessions
    (∀ x ∈ s.sessions, x.1 ∈ s.world.proxy.busyConnections.keys ↔ x.2 = .bound) ∧
    (∀ g ∈ s.world.proxy.busyConnections.keys, g ∈ [exampleConn, exampleConn2]) ∧
    (∀ x ∈ s.sessions,
      ((∃ w', disconnect s.world x.1 = .ret (some errClientNotFound) w') ↔ x.2 ≠ .bound) ∧
      ∀ r, (∃ w', passThrough s.world x.1 r = .ret (some errClientNotFound) w') ↔
        x.2 ≠ .bound) :=
  multicore_bindings initialPool_twoClientPool (by decide) twoSessions_admissible (by decide)

/-- The first event that crashes the server, whatever the interleaving before it, is the `Put` of
a `Connect` that popped nothing (its key was taken by another session between its `ForEach` and
its `Pop`, or was never in the pool), or a `PassThrough` on a bound session whose reply overruns
its buffer or whose backend closed with `NewClient` failing. `Disconnect` never crashes it, nor
does `PassThrough` on an unbound session. -/
theorem multicore_crash_causes {ev : Event} (hp : InitialPool p) (hnd : gconns.Nodup)
    (hadm : (Server.start (initWorld p el re cfg) gconns).Admissible evs)
    (hcr : ((Server.start (initWorld p el re cfg) gconns).run evs).crashed = false)
    (hcr' : (((Server.start (initWorld p el re cfg) gconns).run evs).step ev).crashed = true) :
    let s := (Server.start (initWorld p el re cfg) gconns).run evs
    (∃ i clientID dial g, ev = .connectStep i clientID dial ∧
      s.sessions[i]? = some (g, .connecting (.put none))) ∨
    (∃ i r g, ev = .passThrough i r ∧ s.sessions[i]? = some (g, .bound) ∧
      (r.response.length < r.received ∨
        (backendClosed r.received r.receiveErr = true ∧ r.dial = none))) :=
  (Server.run_inv (Server.start_inv hp hnd) hadm hcr).crash_cases hcr hcr'

def raceSessions : List Event :=
  [.connect 0, .connect 1,
    .connectStep 0 exampleClient.id none, .connectStep 1 exampleClient.id none,
    .connectStep 0 exampleClient.id none, .connectStep 0 exampleClient.id none,
    .connectStep 1 exampleClient.id none, .connectStep 1 exampleClient.id none]

theorem multicore_crash_causes_race :
    let s := (Server.start (initWorld twoClientPool false false exampleConfig)
      [exampleConn, exampleConn2]).run raceSessions
    (∃ i clientID dial g,
      Event.connectStep 1 exampleClient.id none = .connectStep i clientID dial ∧
      s.sessions[i]? = some (g, .connecting (.put none))) ∨
    (∃ i r g, Event.connectStep 1 exampleClient.id none = .passThrough i r ∧
      s.sessions[i]? = some (g, .bound) ∧
      (r.response.length < r.received ∨
        (backendClosed r.received r.receiveErr = true ∧ r.dial = none))) :=
  multicore_crash_causes initialPool_twoClientPool (by decide)
    (by simp [Server.Admissible, Server.Allowed, raceSessions]) (by decide) (by decide)

/-- When every `ForEach` stops at a key of the pool that no other session has picked and not yet
popped, and every `PassThrough` on a bound session gets a reply that fits its buffer and, after
the backend closed, a client from `NewClient`, the server never crashes, however the event loops
interleave the sessions' calls. -/
theorem multicore_no_crash (hp : InitialPool p) (hnd : gconns.Nodup)
    (hadm : (Server.start (initWorld p el re cfg) gconns).Admissible evs)
    (hsafe : (Server.start (initWorld p el re cfg) gconns).safeRun evs = true) :
    ((Server.start (initWorld p el re cfg) gconns).run evs).crashed = false :=
  (Server.run_onTrack (Server.start_inv hp hnd) (Server.start_onTrack _ _) rfl hadm hsafe).1

theorem multicore_no_crash_twoSessions :
    (Server.start (initWorld twoClientPool false false exampleConfig)
      [exampleConn, exampleConn2]).safeRun twoSessions = true ∧
    ((Server.start (initWorld twoClientPool false false exampleConfig)
      [exampleConn, exampleConn2]).run twoSessions).crashed = false :=
  ⟨by decide, multicore_no_crash initialPool_twoClientPool (by decide) twoSessions_admissible
    (by decide)⟩

end Runs

end Network
end Gatewayd
