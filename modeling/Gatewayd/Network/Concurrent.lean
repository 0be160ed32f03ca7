import Gatewayd.Network.Acquire

/-!
# Gatewayd.Network.Concurrent

Concurrent `Connect` calls. Each pool operation is atomic (§5 of the spec), but `Connect` is a
sequence of them: `ForEach` stops at a key, `IsExhausted` reads `Size()` and `Cap()`, `Pop` takes
the key's client (or `NewClient` builds one), and the busy pool's `Put` binds it. `Pc` says which
of these a call takes next; `connectStep` is one of them, and a `Turn` of the scheduler lets one
call take its next step, with the key its `ForEach` stops at and what its `NewClient` answers.

Two calls whose `ForEach` both stop at the same key race: the first `Pop` takes the client, the
second finds nothing and dereferences nil. What atomic `Pop` does guarantee is that no client is
handed out twice or lost.

* `connectSteps_alone`: a call that runs alone is `Connect`.
* `interleaving_conserves`: under every interleaving of calls on distinct unbound connections,
  the pooled clients and those between `Pop` and `Put` are, up to order, the ones at the start.
* `connect_race`: two calls on a pool of at least two clients, one interleaving, one panic.
* `interleaving_apart`: keeping the picks apart is enough. Under every interleaving in which each
  `ForEach` stops at a key of the pool that no other call holds between `ForEach` and `Pop`, no
  call panics or fails, and every call that has finished has bound its connection.
-/

namespace Gatewayd
namespace Network

/-- Where one `Connect` is, by the atomic step it takes next: `availableConnections.ForEach`,
which stops at some key; `IsExhausted()`; `NewClient(...)`, on an exhausted elastic proxy;
`availableConnections.Pop(clientID)`; `IsHealty(client)`, only logged, then
`busyConnections.Put(gconn, client)`. A finished call returned `err`, or dereferenced a nil
client. -/
inductive Pc where
  | forEach
  | isExhausted (clientID : String)
  | newClient
  | pop (clientID : String)
  | put (client : Option Client)
  | done (err : Option GatewayDError)
  | panicked

/-- One atomic step of the `Connect` on `gconn`: `clientID` is where `ForEach` stops and `dial`
what `NewClient` answers, when the step is one of those. -/
def connectStep (w : World) (gconn : Conn) (clientID : String) (dial : Option Dial) :
    Pc → World × Pc
  | .forEach => (w, .isExhausted clientID)
  | .isExhausted key =>
    if w.proxy.isExhausted then
      if w.proxy.elastic then (w, .newClient) else (w, .done (some errPoolExhausted))
    else (w, .pop key)
  | .newClient =>
    match w.newClient dial with
    | (none, w') => (w', .panicked)
    | (some c, w') => (w', .put (some c))
  | .pop key =>
    (w.withAvailable (w.proxy.availableConnections.remove key),
      .put (w.proxy.availableConnections.get key))
  | .put client =>
    match w.proxy.busyConnections.put gconn (w.proxy.isHealty client).1 with
    | .error e => (w, .done (some e))
    | .ok busy =>
      (w.withBusy busy, match client with
        | none => .panicked
        | some _ => .done none)
  | .done err => (w, .done err)
  | .panicked => (w, .panicked)

/-- `n` steps of one `Connect`, with no other call in between. -/
def connectSteps (gconn : Conn) (clientID : String) (dial : Option Dial) :
    Nat → World × Pc → World × Pc
  | 0, s => s
  | n + 1, s => connectSteps gconn clientID dial n (connectStep s.1 gconn clientID dial s.2)

def Pc.outcome (w : World) : Pc → Option Outcome
  | .done err => some (.ret err w)
  | .panicked => some (.panic w)
  | _ => none

variable {gconn : Conn} {clientID : String} {dial : Option Dial}

@[simp] theorem connectSteps_done (n : Nat) (w : World) (err : Option GatewayDError) :
    connectSteps gconn clientID dial n (w, .done err) = (w, .done err) := by
  induction n with
  | zero => rfl
  | succ n ih => exact ih

@[simp] theorem connectSteps_panicked (n : Nat) (w : World) :
    connectSteps gconn clientID dial n (w, .panicked) = (w, .panicked) := by
  induction n with
  | zero => rfl
  | succ n ih => exact ih

theorem connectStep_put (w : World) (client : Option Client) :
    (connectStep w gconn clientID dial (.put client)).2.outcome
      (connectStep w gconn clientID dial (.put client)).1 = some (connectBind w gconn client) := by
  simp only [connectStep, connectBind, ProxyImpl.isHealty_fst]
  cases w.proxy.busyConnections.put gconn client <;> cases client <;> rfl

/-- Four steps of a `Connect` that runs alone compute `Connect`. -/
theorem connectSteps_alone (w : World) :
    (connectSteps gconn clientID dial 4 (w, .forEach)).2.outcome
      (connectSteps gconn clientID dial 4 (w, .forEach)).1 = some (connect w gconn clientID dial) := by
  cases hx : w.proxy.isExhausted
  · have h4 : connectSteps gconn clientID dial 4 (w, .forEach) =
        connectStep (w.withAvailable (w.proxy.availableConnections.remove clientID)) gconn clientID
          dial (.put (w.proxy.availableConnections.get clientID)) := by
      simp [connectSteps, connectStep, hx]
    rw [h4, connectStep_put, connect_of_not_isExhausted hx]
  · cases hel : w.proxy.elastic
    · have h4 : connectSteps gconn clientID dial 4 (w, .forEach) =
          (w, .done (some errPoolExhausted)) := by
        simp [connectSteps, connectStep, hx, hel]
      rw [h4, connect_of_isExhausted hx]
      rfl
    · cases dial with
      | none =>
        have h4 : connectSteps gconn clientID none 4 (w, .forEach) =
            ((w.newClient none).2, .panicked) := by
          simp [connectSteps, connectStep, hx, hel, World.newClient]
        rw [h4]
        simp [connect, hx, hel, World.newClient, Pc.outcome]
      | some d =>
        have h4 : connectSteps gconn clientID (some d) 4 (w, .forEach) =
            connectStep (w.newClient (some d)).2 gconn clientID (some d)
              (.put (some (d.toClient w.created))) := by
          simp [connectSteps, connectStep, hx, hel, World.newClient]
        rw [h4, connectStep_put]
        simp [connect, hx, hel, World.newClient]

/-! ## One step of one call -/

def Pc.holding : Pc → Option Client
  | .put client => client
  | _ => none

def Pc.pending : Pc → Bool
  | .done _ | .panicked => false
  | _ => true

theorem connectStep_frame {w w' : World} {pc pc' : Pc} (hcap : w.proxy.busyConnections.cap = 0)
    (hpc : pc ≠ .newClient) (hunb : pc.pending = true → gconn ∉ w.proxy.busyConnections.keys)
    (h : connectStep w gconn clientID dial pc = (w', pc')) :
    w'.proxy.busyConnections.cap = 0 ∧
    (liveClients w' ++ pc'.holding.toList).Perm (liveClients w ++ pc.holding.toList) ∧
    (∀ g, g ≠ gconn →
      (g ∈ w'.proxy.busyConnections.keys ↔ g ∈ w.proxy.busyConnections.keys)) ∧
    (pc'.pending = true → gconn ∉ w'.proxy.busyConnections.keys) ∧
    pc' ≠ .newClient := by
  cases pc with
  | forEach =>
    cases h
    exact ⟨hcap, .refl _, fun _ _ => .rfl, fun _ => hunb rfl, nofun⟩
  | isExhausted key =>
    cases hx : w.proxy.isExhausted
    · simp only [connectStep, hx, Bool.false_eq_true, if_false, Prod.mk.injEq] at h
      obtain ⟨rfl, rfl⟩ := h
      exact ⟨hcap, .refl _, fun _ _ => .rfl, fun _ => hunb rfl, nofun⟩
    · simp only [connectStep, hx, (isExhausted_iff.1 hx).1, Bool.false_eq_true, if_true, if_false,
        Prod.mk.injEq] at h
      obtain ⟨rfl, rfl⟩ := h
      exact ⟨hcap, .refl _, fun _ _ => .rfl, nofun, nofun⟩
  | newClient => exact absurd rfl hpc
  | pop key =>
    cases h
    exact ⟨hcap, (liveClients_pop w key).trans (by simp [Pc.holding]), fun _ _ => .rfl,
      fun _ => hunb rfl, nofun⟩
  | put client =>
    have hnot := hunb rfl
    simp only [connectStep, ProxyImpl.isHealty_fst, Pool.put_of_cap_eq_zero hcap,
      Prod.mk.injEq] at h
    obtain ⟨rfl, rfl⟩ := h
    refine ⟨by simpa using hcap, ?_, fun g hg => by simp [hg], ?_, ?_⟩
    · have hbind := liveClients_bind (h := by simp [hcap]) client hnot
      cases client <;> simpa [Pc.holding] using hbind
    · cases client <;> simp [Pc.pending]
    · cases client <;> nofun
  | done _ | panicked =>
    cases h
    exact ⟨hcap, .refl _, fun _ _ => .rfl, hunb, nofun⟩

/-! ## Interleavings -/

/-- One turn of the scheduler: call `thread` takes its next step; its `ForEach` stops at
`clientID` and its `NewClient` answers `dial`, when the step is one of those. -/
structure Turn where
  thread : Nat
  clientID : String
  dial : Option Dial

/-- Concurrent `Connect` calls: the proxy they share, and each call's connection and progress. -/
structure Sys where
  world : World
  threads : List (Conn × Pc)

def Sys.start (w : World) (gconns : List Conn) : Sys := ⟨w, gconns.map (·, .forEach)⟩

def Sys.step (s : Sys) (t : Turn) : Sys :=
  match s.threads[t.thread]? with
  | none => s
  | some (gconn, pc) =>
    match connectStep s.world gconn t.clientID t.dial pc with
    | (w, pc) => ⟨w, s.threads.set t.thread (gconn, pc)⟩

def Sys.run (s : Sys) (turns : List Turn) : Sys := turns.foldl Sys.step s

/-- A turn the scheduler may take: a `ForEach` stops at a key present when it runs, or at `""` on
an empty pool. -/
def Sys.Allowed (s : Sys) (t : Turn) : Prop :=
  match s.threads[t.thread]? with
  | some (_, .forEach) => Picks s.world.proxy.availableConnections t.clientID
  | _ => True

def Sys.Interleaving : Sys → List Turn → Prop
  | _, [] => True
  | s, t :: turns => s.Allowed t ∧ (s.step t).Interleaving turns

def Sys.held (s : Sys) : List Client := liveClients s.world ++ s.threads.filterMap (·.2.holding)

structure Sys.Inv (s : Sys) : Prop where
  busy_unbounded : s.world.proxy.busyConnections.cap = 0
  conns_nodup : (s.threads.map Prod.fst).Nodup
  unbound : ∀ t ∈ s.threads, t.2.pending = true → t.1 ∉ s.world.proxy.busyConnections.keys
  no_newClient : ∀ t ∈ s.threads, t.2 ≠ .newClient

theorem filterMap_cons_toList {α β : Type} (f : α → Option β) (a : α) (l : List α) :
    (a :: l).filterMap f = (f a).toList ++ l.filterMap f := by
  cases h : f a <;> simp [List.filterMap_cons, h]

theorem mem_moved {β : Type} {l₁ l₂ : List (Conn × β)} {g : Conn} {pc pc' : β} {u : Conn × β}
    (hnd : ((l₁ ++ (g, pc) :: l₂).map Prod.fst).Nodup) (hu : u ∈ l₁ ++ (g, pc') :: l₂) :
    u = (g, pc') ∨ (u ∈ l₁ ++ (g, pc) :: l₂ ∧ u.1 ≠ g) := by
  rw [List.map_append, List.map_cons, List.nodup_middle, List.nodup_cons,
    ← List.map_append] at hnd
  -- every other call is on another connection
  have hne : ∀ v ∈ l₁ ++ l₂, v.1 ≠ g := fun v hv he =>
    hnd.1 (show g ∈ _ by rw [← he]; exact List.mem_map_of_mem Prod.fst hv)
  simp only [List.mem_append, List.mem_cons] at hu
  rcases hu with hu | rfl | hu
  · exact .inr ⟨by simp [hu], hne u (List.mem_append_left _ hu)⟩
  · exact .inl rfl
  · exact .inr ⟨by simp [hu], hne u (List.mem_append_right _ hu)⟩

theorem Sys.step_cases (s : Sys) (t : Turn) :
    s.step t = s ∨ ∃ l₁ l₂ g pc w' pc', s.threads = l₁ ++ (g, pc) :: l₂ ∧
      s.threads[t.thread]? = some (g, pc) ∧
      connectStep s.world g t.clientID t.dial pc = (w', pc') ∧
      s.step t = ⟨w', l₁ ++ (g, pc') :: l₂⟩ := by
  unfold Sys.step
  cases hi : s.threads[t.thread]? with
  | none => exact .inl rfl
  | some x =>
    obtain ⟨g, pc⟩ := x
    obtain ⟨hlt, hget⟩ := List.getElem?_eq_some_iff.1 hi
    cases hc : connectStep s.world g t.clientID t.dial pc with
    | mk w' pc' =>
      obtain ⟨l₁, l₂, hl, -, hset⟩ := @List.exists_of_set _ _ (g, pc') _ hlt
      rw [hget] at hl
      refine .inr ⟨l₁, l₂, g, pc, w', pc', hl, rfl, hc, ?_⟩
      simp only [hc]
      rw [hset]

theorem Sys.step_inv {s : Sys} (hs : s.Inv) (t : Turn) :
    (s.step t).Inv ∧ (s.step t).held.Perm s.held := by
  rcases Sys.step_cases s t with heq | ⟨l₁, l₂, g, pc, w', pc', hl, -, hc, heq⟩
  · rw [heq]
    exact ⟨hs, .refl _⟩
  rw [heq]
  have hmem : (g, pc) ∈ s.threads := by simp [hl]
  have hnd := hs.conns_nodup
  rw [hl] at hnd
  obtain ⟨hcap', hperm, hkeys, hunb', hnew'⟩ := connectStep_frame hs.busy_unbounded
    (hs.no_newClient _ hmem) (hs.unbound _ hmem) hc
  refine ⟨⟨hcap', by simpa using hnd, fun u hu hp => ?_, fun u hu => ?_⟩, ?_⟩
  · rcases mem_moved hnd hu with rfl | ⟨hu, hne⟩
    · exact hunb' hp
    · exact (hkeys _ hne).not.2 (hs.unbound u (hl ▸ hu) hp)
  · rcases mem_moved hnd hu with rfl | ⟨hu, -⟩
    · exact hnew'
    · exact hs.no_newClient u (hl ▸ hu)
  · rw [Sys.held, Sys.held, hl, List.perm_iff_count]
    intro a
    have := hperm.count_eq a
    simp only [List.filterMap_append, filterMap_cons_toList, List.count_append] at this ⊢
    omega

theorem Sys.run_inv {s : Sys} (hs : s.Inv) (turns : List Turn) :
    (s.run turns).Inv ∧ (s.run turns).held.Perm s.held := by
  induction turns generalizing s with
  | nil => exact ⟨hs, .refl _⟩
  | cons t turns ih =>
    obtain ⟨hs', hp⟩ := Sys.step_inv hs t
    obtain ⟨hi, hp'⟩ := ih hs'
    exact ⟨hi, hp'.trans hp⟩

theorem Sys.start_inv {w : World} {gconns : List Conn} (hcap : w.proxy.busyConnections.cap = 0)
    (hnd : gconns.Nodup) (hunb : ∀ g ∈ gconns, g ∉ w.proxy.busyConnections.keys) :
    (Sys.start w gconns).Inv where
  busy_unbounded := hcap
  conns_nodup := by simpa [Sys.start, List.map_map, Function.comp_def] using hnd
  unbound t ht _ := by
    obtain ⟨g, hg, rfl⟩ := List.mem_map.1 ht
    exact hunb g hg
  no_newClient t ht := by
    obtain ⟨g, -, rfl⟩ := List.mem_map.1 ht
    nofun

/-- However the steps of concurrent `Connect` calls on distinct unbound connections interleave,
and wherever their `ForEach` stop, no client is handed out twice or lost: the pooled clients and
those held between `Pop` and `Put` are, up to order, the pooled clients at the start. No call ever
reaches `NewClient`. -/
theorem interleaving_conserves {w : World} {gconns : List Conn}
    (hcap : w.proxy.busyConnections.cap = 0) (hnd : gconns.Nodup)
    (hunb : ∀ g ∈ gconns, g ∉ w.proxy.busyConnections.keys) (turns : List Turn) :
    ((Sys.start w gconns).run turns).held.Perm (liveClients w) ∧
    ∀ t ∈ ((Sys.start w gconns).run turns).threads, t.2 ≠ .newClient := by
  obtain ⟨hi, hp⟩ := Sys.run_inv (Sys.start_inv hcap hnd hunb) turns
  refine ⟨hp.trans (.of_eq ?_), hi.no_newClient⟩
  simp [Sys.held, Sys.start, Pc.holding]

def exampleClient2 : Client :=
  ⟨1, "e624e8be34f98b6cedc557bcb5ea35a6245bc8dedf788f872221d6c1577142ca", "10.0.0.1:5002",
    "10.0.0.2:5432"⟩

def twoClientPool : Pool String Client :=
  ⟨2, ((∅ : AList fun _ : String => Client).insert exampleClient.id exampleClient).insert
    exampleClient2.id exampleClient2, .inr (by decide)⟩

def raceTurns (key : String) : List Turn :=
  [⟨0, key, none⟩, ⟨1, key, none⟩, ⟨0, key, none⟩, ⟨0, key, none⟩, ⟨0, key, none⟩,
    ⟨1, key, none⟩, ⟨1, key, none⟩, ⟨1, key, none⟩]

/-- Two `Connect` calls on a proxy whose available pool holds at least two clients, both of whose
`ForEach` stop at `key` before either pops it: the first call binds its connection to `key`'s
client and returns nil; the second pops nothing and dereferences nil. -/
theorem connect_race {w : World} {key : String} {a : Client} {g₁ g₂ : Conn}
    (hcap : w.proxy.busyConnections.cap = 0) (ha : w.proxy.availableConnections.get key = some a)
    (htwo : 2 ≤ w.proxy.availableConnections.size) :
    (Sys.start w [g₁, g₂]).Interleaving (raceTurns key) ∧
    ((Sys.start w [g₁, g₂]).run (raceTurns key)).threads =
      [(g₁, .done none), (g₂, .panicked)] := by
  have hsize := Pool.size_remove ha
  have hx : w.proxy.isExhausted = false := isExhausted_of_pos (by omega)
  have hx' : ∀ b, ((w.withAvailable (w.proxy.availableConnections.remove key)).withBusy
      b).proxy.isExhausted = false := fun b =>
    isExhausted_of_pos (by simp only [World.withBusy_available, World.withAvailable_available]; omega)
  have hkey : key ∈ w.proxy.availableConnections.keys := Pool.mem_keys_iff_get.2 (by simp [ha])
  simp [raceTurns, Sys.run, Sys.step, Sys.start, Sys.Interleaving, Sys.Allowed, Picks,
    connectStep, hx, hx', ha, hkey, Pool.put_of_cap_eq_zero, hcap]

theorem connect_race_two_clients :
    (Sys.start (initWorld twoClientPool false false exampleConfig)
      [exampleConn, exampleConn2]).Interleaving (raceTurns exampleClient.id) ∧
    ((Sys.start (initWorld twoClientPool false false exampleConfig)
      [exampleConn, exampleConn2]).run (raceTurns exampleClient.id)).threads =
        [(exampleConn, .done none), (exampleConn2, .panicked)] :=
  connect_race rfl rfl (by decide)

theorem interleaving_conserves_race :
    ((Sys.start (initWorld twoClientPool false false exampleConfig)
      [exampleConn, exampleConn2]).run (raceTurns exampleClient.id)).held.Perm
        (liveClients (initWorld twoClientPool false false exampleConfig)) ∧
    ∀ t ∈ ((Sys.start (initWorld twoClientPool false false exampleConfig)
      [exampleConn, exampleConn2]).run (raceTurns exampleClient.id)).threads, t.2 ≠ .newClient :=
  interleaving_conserves (by exact rfl) (by decide) (by simp) (raceTurns exampleClient.id)

/-! ## Calls whose picks are kept apart -/

def Pc.onTrack : Pc → Bool
  | .forEach | .isExhausted _ | .pop _ => true
  | .put client => client.isSome
  | .done err => err.isNone
  | .newClient | .panicked => false

def Pc.picked : Pc → Option String
  | .isExhausted key | .pop key => some key
  | _ => none

theorem connectStep_onTrack {w w' : World} {pc pc' : Pc} (hcap : w.proxy.busyConnections.cap = 0)
    (hon : pc.onTrack = true) (hpick : ∀ k ∈ pc.picked, k ∈ w.proxy.availableConnections.keys)
    (hfirst : pc = .forEach → clientID ∈ w.proxy.availableConnections.keys)
    (h : connectStep w gconn clientID dial pc = (w', pc')) :
    pc'.onTrack = true ∧ (∀ k ∈ pc'.picked, k ∈ w'.proxy.availableConnections.keys) ∧
    (pc'.picked = pc.picked ∨ pc'.picked = none ∨ (pc = .forEach ∧ pc'.picked = some clientID)) ∧
    (∀ k ∈ w.proxy.availableConnections.keys, k ∉ pc.picked →
      k ∈ w'.proxy.availableConnections.keys) ∧
    (∀ g, g ≠ gconn → w'.proxy.busyConnections.get g = w.proxy.busyConnections.get g) ∧
    (pc' = .done none → (pc = .done none ∧ w' = w) ∨
      ∃ c, w'.proxy.busyConnections.get gconn = some (some c)) := by
  cases pc with
  | forEach =>
    cases h
    exact ⟨rfl, by simpa [Pc.picked] using hfirst rfl, .inr (.inr ⟨rfl, rfl⟩), fun _ hk _ => hk,
      fun _ _ => rfl, nofun⟩
  | isExhausted key =>
    have hk := hpick key rfl
    have hx : w.proxy.isExhausted = false := isExhausted_of_pos (by
      rw [← Pool.length_keys]
      exact List.length_pos_of_mem hk)
    simp only [connectStep, hx, Bool.false_eq_true, if_false, Prod.mk.injEq] at h
    obtain ⟨rfl, rfl⟩ := h
    exact ⟨rfl, by simpa [Pc.picked] using hk, .inl rfl, fun _ hk _ => hk, fun _ _ => rfl, nofun⟩
  | pop key =>
    obtain ⟨c, hc⟩ := Option.isSome_iff_exists.1 (Pool.mem_keys_iff_get.1 (hpick key rfl))
    cases h
    refine ⟨by simp [Pc.onTrack, hc], by simp [Pc.picked], .inr (.inl rfl), fun k hk hne => ?_,
      fun _ _ => rfl, nofun⟩
    exact Pool.mem_keys_remove.2 ⟨fun he => hne (he ▸ rfl), hk⟩
  | put client =>
    obtain ⟨c, rfl⟩ := Option.isSome_iff_exists.1 hon
    simp only [connectStep, ProxyImpl.isHealty_fst, Pool.put_of_cap_eq_zero hcap,
      Prod.mk.injEq] at h
    obtain ⟨rfl, rfl⟩ := h
    exact ⟨rfl, by simp [Pc.picked], .inl rfl, fun _ hk _ => hk, fun g hg => by simp [hg],
      fun _ => .inr ⟨c, by simp⟩⟩
  | done err =>
    cases h
    exact ⟨hon, by simp [Pc.picked], .inl rfl, fun _ hk _ => hk, fun _ _ => rfl,
      fun hd => .inl ⟨hd, rfl⟩⟩
  | newClient | panicked => cases hon

/-- A turn that keeps picks apart: a `ForEach` stops at a key of the pool that no other call has
picked and not yet popped. -/
def Sys.Apart (s : Sys) (t : Turn) : Prop :=
  match s.threads[t.thread]? with
  | some (_, .forEach) => t.clientID ∈ s.world.proxy.availableConnections.keys ∧
      t.clientID ∉ s.threads.filterMap (·.2.picked)
  | _ => True

def Sys.ApartRun : Sys → List Turn → Prop
  | _, [] => True
  | s, t :: turns => s.Apart t ∧ (s.step t).ApartRun turns

theorem Sys.allowed_of_apart {s : Sys} {t : Turn} (h : s.Apart t) : s.Allowed t := by
  unfold Sys.Allowed
  unfold Sys.Apart at h
  split
  · rename_i heq
    simp only [heq] at h
    exact .inl h.1
  · trivial

/-- Every call is on its way to binding a client: the keys the calls have picked and not yet
popped are distinct keys of the pool, and every call that has finished has bound its
connection. -/
structure Sys.OnTrack (s : Sys) : Prop where
  on_track : ∀ t ∈ s.threads, t.2.onTrack = true
  picks_nodup : (s.threads.filterMap (·.2.picked)).Nodup
  picks_present : ∀ k ∈ s.threads.filterMap (·.2.picked),
    k ∈ s.world.proxy.availableConnections.keys
  bound : ∀ t ∈ s.threads, t.2 = .done none →
    ∃ c, s.world.proxy.busyConnections.get t.1 = some (some c)

theorem not_mem_of_nodup_middle {l₁ l₂ : List String} {o : Option String} {k : String}
    (h : (l₁ ++ o.toList ++ l₂).Nodup) (hk : k ∈ l₁ ∨ k ∈ l₂) : k ∉ o := fun ho => by
  rw [Option.mem_def] at ho
  subst ho
  rw [Option.toList_some, List.append_assoc, List.singleton_append, List.nodup_middle,
    List.nodup_cons] at h
  exact h.1 (List.mem_append.2 hk)

theorem picks_step {P₁ P₂ K K' : List String} {o o' : Option String}
    (hnd : (P₁ ++ o.toList ++ P₂).Nodup) (hpres : ∀ k ∈ P₁ ++ o.toList ++ P₂, k ∈ K)
    (hchg : o' = o ∨ o' = none ∨ ∃ k, o' = some k ∧ k ∉ P₁ ++ P₂)
    (hpick : ∀ k ∈ o', k ∈ K') (hkeep : ∀ k ∈ K, k ∉ o → k ∈ K') :
    (P₁ ++ o'.toList ++ P₂).Nodup ∧ ∀ k ∈ P₁ ++ o'.toList ++ P₂, k ∈ K' := by
  have hsub : (P₁ ++ P₂).Sublist (P₁ ++ o.toList ++ P₂) := by simp
  refine ⟨?_, fun k hk => ?_⟩
  · rcases hchg with rfl | rfl | ⟨k, rfl, hk⟩
    · exact hnd
    · simpa using hnd.sublist hsub
    · rw [Option.toList_some, List.append_assoc, List.singleton_append, List.nodup_middle,
        List.nodup_cons]
      exact ⟨hk, hnd.sublist hsub⟩
  · simp only [List.mem_append, Option.mem_toList] at hk
    rcases hk with (hk | hk) | hk
    · exact hkeep k (hpres k (by simp [hk])) (not_mem_of_nodup_middle hnd (.inl hk))
    · exact hpick k hk
    · exact hkeep k (hpres k (by simp [hk])) (not_mem_of_nodup_middle hnd (.inr hk))

theorem Sys.step_onTrack {s : Sys} (hs : s.Inv) (ho : s.OnTrack) {t : Turn} (ha : s.Apart t) :
    (s.step t).OnTrack := by
  rcases Sys.step_cases s t with heq | ⟨l₁, l₂, g, pc, w', pc', hl, hi, hc, heq⟩
  · rw [heq]
    exact ho
  rw [heq]
  have hmem : (g, pc) ∈ s.threads := by simp [hl]
  have hnd := hs.conns_nodup
  rw [hl] at hnd
  -- the picks, around the call that moves
  have hsplit : ∀ p : Pc, (l₁ ++ (g, p) :: l₂).filterMap (·.2.picked) =
      l₁.filterMap (·.2.picked) ++ p.picked.toList ++ l₂.filterMap (·.2.picked) := fun p => by
    rw [List.filterMap_append, filterMap_cons_toList, List.append_assoc]
  have hpicks := ho.picks_nodup
  rw [hl, hsplit] at hpicks
  have hfirst : pc = .forEach → t.clientID ∈ s.world.proxy.availableConnections.keys ∧
      t.clientID ∉ l₁.filterMap (·.2.picked) ++ l₂.filterMap (·.2.picked) := by
    rintro rfl
    simp only [Sys.Apart, hi] at ha
    rw [hl, hsplit] at ha
    simpa [Pc.picked] using ha
  obtain ⟨hon', hpick', hchg, hkeep, hframe, hbound⟩ := connectStep_onTrack hs.busy_unbounded
    (ho.on_track _ hmem) (fun k hk => ho.picks_present k (by simp [hl, hsplit, hk]))
    (fun h => (hfirst h).1) hc
  obtain ⟨hnd', hpres'⟩ := picks_step hpicks
    (fun k hk => ho.picks_present k (by rwa [hl, hsplit])) (hchg.imp_right (Or.imp_right
      fun ⟨hf, he⟩ => ⟨_, he, (hfirst hf).2⟩)) hpick' hkeep
  refine ⟨fun u hu => ?_, by rwa [hsplit], fun k hk => hpres' k (by rwa [hsplit] at hk),
    fun u hu hd => ?_⟩
  · rcases mem_moved hnd hu with rfl | ⟨hu, -⟩
    · exact hon'
    · exact ho.on_track u (hl ▸ hu)
  · rcases mem_moved hnd hu with rfl | ⟨hu, hne⟩
    · rcases hbound hd with ⟨rfl, rfl⟩ | hb
      · exact ho.bound (g, .done none) hmem rfl
      · exact hb
    · rw [hframe _ hne]
      exact ho.bound u (hl ▸ hu) hd

theorem Sys.run_onTrack {s : Sys} (hs : s.Inv) (ho : s.OnTrack) (turns : List Turn)
    (h : s.ApartRun turns) : s.Interleaving turns ∧ (s.run turns).OnTrack := by
  induction turns generalizing s with
  | nil => exact ⟨trivial, ho⟩
  | cons t turns ih =>
    obtain ⟨hi, ho'⟩ := ih (Sys.step_inv hs t).1 (Sys.step_onTrack hs ho h.1) h.2
    exact ⟨⟨Sys.allowed_of_apart h.1, hi⟩, ho'⟩

theorem Sys.start_picks (w : World) (gconns : List Conn) :
    (Sys.start w gconns).threads.filterMap (·.2.picked) = [] :=
  List.filterMap_eq_nil_iff.2 (by simp [Sys.start, Pc.picked])

theorem Sys.start_onTrack (w : World) (gconns : List Conn) : (Sys.start w gconns).OnTrack where
  on_track t ht := by
    obtain ⟨g, -, rfl⟩ := List.mem_map.1 ht
    rfl
  picks_nodup := by simp only [Sys.start_picks, List.nodup_nil]
  picks_present k hk := by simp [Sys.start_picks] at hk
  bound t ht hd := by
    obtain ⟨g, -, rfl⟩ := List.mem_map.1 ht
    cases hd

/-- When no two calls are between `ForEach` and `Pop` with the same key (each `ForEach` stops at a
key of the pool that no other call has picked and not yet popped), concurrent `Connect` calls on
distinct unbound connections neither panic nor fail, whatever the interleaving: every call that
has finished returned nil, and its connection is bound to a client. -/
theorem interleaving_apart {w : World} {gconns : List Conn}
    (hcap : w.proxy.busyConnections.cap = 0) (hnd : gconns.Nodup)
    (hunb : ∀ g ∈ gconns, g ∉ w.proxy.busyConnections.keys) (turns : List Turn)
    (hapart : (Sys.start w gconns).ApartRun turns) :
    (Sys.start w gconns).Interleaving turns ∧
    ∀ t ∈ ((Sys.start w gconns).run turns).threads, t.2 ≠ .panicked ∧
      ∀ err, t.2 = .done err → err = none ∧
        ∃ c, ((Sys.start w gconns).run turns).world.proxy.busyConnections.get t.1 = some (some c) := by
  obtain ⟨hi, ho⟩ := Sys.run_onTrack (Sys.start_inv hcap hnd hunb) (Sys.start_onTrack w gconns)
    turns hapart
  refine ⟨hi, fun t ht => ⟨fun hp => ?_, fun err hd => ?_⟩⟩
  · simpa [hp, Pc.onTrack] using ho.on_track t ht
  · have hon := ho.on_track t ht
    rw [hd] at hon
    obtain rfl : err = none := Option.isNone_iff_eq_none.1 hon
    exact ⟨rfl, ho.bound t ht hd⟩

def apartTurns : List Turn :=
  [⟨0, exampleClient.id, none⟩, ⟨1, exampleClient2.id, none⟩, ⟨0, exampleClient.id, none⟩,
    ⟨0, exampleClient.id, none⟩, ⟨0, exampleClient.id, none⟩, ⟨1, exampleClient2.id, none⟩,
    ⟨1, exampleClient2.id, none⟩, ⟨1, exampleClient2.id, none⟩]

theorem interleaving_apart_two_clients :
    (initWorld twoClientPool false false exampleConfig).proxy.busyConnections.cap = 0 ∧
    [exampleConn, exampleConn2].Nodup ∧
    (∀ g ∈ [exampleConn, exampleConn2],
      g ∉ (initWorld twoClientPool false false exampleConfig).proxy.busyConnections.keys) ∧
    (Sys.start (initWorld twoClientPool false false exampleConfig)
      [exampleConn, exampleConn2]).ApartRun apartTurns ∧
    (Sys.start (initWorld twoClientPool false false exampleConfig)
      [exampleConn, exampleConn2]).Interleaving apartTurns ∧
    ∀ t ∈ ((Sys.start (initWorld twoClientPool false false exampleConfig)
        [exampleConn, exampleConn2]).run apartTurns).threads, t.2 ≠ .panicked ∧
      ∀ err, t.2 = .done err → err = none ∧
        ∃ c, ((Sys.start (initWorld twoClientPool false false exampleConfig)
          [exampleConn, exampleConn2]).run apartTurns).world.proxy.busyConnections.get t.1 =
            some (some c) := by
  have h1 : (initWorld twoClientPool false false exampleConfig).proxy.isExhausted = false := by
    decide
  have h2 : ∀ b, (((initWorld twoClientPool false false exampleConfig).withAvailable
      (twoClientPool.remove exampleClient.id)).withBusy b).proxy.isExhausted = false := fun b =>
    isExhausted_of_pos
      (by simp only [World.withBusy_available, World.withAvailable_available]; decide)
  have hk : exampleClient.id ∈ twoClientPool.keys ∧ exampleClient2.id ∈ twoClientPool.keys ∧
      exampleClient2.id ∈ (twoClientPool.remove exampleClient.id).keys ∧
      exampleClient2.id ≠ exampleClient.id := by decide
  have hc : twoClientPool.get exampleClient.id = some exampleClient ∧
      (twoClientPool.remove exampleClient.id).get exampleClient2.id = some exampleClient2 := by
    decide
  have hapart : (Sys.start (initWorld twoClientPool false false exampleConfig)
      [exampleConn, exampleConn2]).ApartRun apartTurns := by
    simp [apartTurns, Sys.ApartRun, Sys.Apart, Sys.step, Sys.start, connectStep, Pc.picked,
      Pool.put_of_cap_eq_zero, emptyPoolCapacity, h1, h2, hk, hc]
  exact ⟨rfl, by decide, by simp, hapart,
    interleaving_apart (by exact rfl) (by decide) (by simp) apartTurns hapart⟩

end Network
end Gatewayd
