import Gatewayd.Network.Sessions
import Mathlib.Data.List.ReduceOption

/-!
# Gatewayd.Network.Clients

Where every backend client goes. A client is built once (by `run.go` before `NewProxy`, or by
`NewClient` when `PassThrough` finds the backend closed); afterwards it is in the available pool,
in the busy pool, or closed. `ledger w` lists the clients the proxy holds and those it has closed;
`Accounted` is the invariant that makes this bookkeeping exact:

* every client in the ledger is a client built so far, and none appears twice;
* when `Disconnect` puts clients back (the proxy is not elastic, or reuses elastic clients), the
  ledger holds every client built: none is lost;
* the available pool files each client under its own `ID`, the busy pool holds no nil client, the
  clients held have distinct IDs and fit in the available pool's capacity.

The last line is what lets `Disconnect`'s `Put` succeed without overwriting a client. It needs
`NewClient` to answer with IDs that no client the proxy holds has (§3 of the spec: an identifier
is unique within a process lifetime).

* `accounted_reachable`: the invariant holds along every run.
* `clients_accounted`: the resulting statement about runs, and what `Shutdown` closes.
* `clients_leak`: in elastic mode without reuse the ledger is not complete: from every state a run
  reaches, `Disconnect` drops the client it unbinds without closing it, and `Shutdown` does not
  close it either, although the comment on `Shutdown` says that it closes all connections.
-/

namespace Gatewayd
namespace Network

def liveClients (w : World) : List Client :=
  w.proxy.availableConnections.values ++ w.proxy.busyConnections.values.reduceOption

def ledger (w : World) : List Client := liveClients w ++ closedClients w.trace

/-- The calls of a run: `Connect` on an unbound connection, and `NewClient` answering with an ID
that no client the proxy holds has. -/
def Admissible (w : World) : Call → Prop
  | .connect g _ _ => g ∉ w.proxy.busyConnections.keys
  | .passThrough _ r => ∀ d, r.dial = some d → d.id ∉ (liveClients w).map Client.id
  | _ => True

/-- The pool `NewProxy` is given: its clients are the first `p.size` built, each under its own
`ID`. -/
structure InitialPool (p : Pool String Client) : Prop where
  uids : (p.values.map Client.uid).Perm (List.range p.size)
  keyed : ∀ k c, p.get k = some c → c.id = k

structure Accounted (w : World) : Prop where
  busy_unbounded : w.proxy.busyConnections.cap = 0
  busy_some : none ∉ w.proxy.busyConnections.values
  keyed : ∀ k c, w.proxy.availableConnections.get k = some c → c.id = k
  ids_nodup : ((liveClients w).map Client.id).Nodup
  fits : w.proxy.availableConnections.cap = 0 ∨
    (liveClients w).length ≤ w.proxy.availableConnections.cap
  uids_nodup : ((ledger w).map Client.uid).Nodup
  uids_lt : ∀ c ∈ ledger w, c.uid < w.created
  counted : w.proxy.recycles = true → (ledger w).length = w.created

/-- `Accounted`, where besides the pools `held` lists the clients that calls in progress hold in
neither pool: when calls interleave, a `Connect` holds its client between its `Pop` and its
`Put`. -/
structure Books (w : World) (held : List Client) : Prop where
  busy_unbounded : w.proxy.busyConnections.cap = 0
  busy_some : none ∉ w.proxy.busyConnections.values
  keyed : ∀ k c, w.proxy.availableConnections.get k = some c → c.id = k
  ids_nodup : ((liveClients w ++ held).map Client.id).Nodup
  fits : w.proxy.availableConnections.cap = 0 ∨
    (liveClients w ++ held).length ≤ w.proxy.availableConnections.cap
  uids_nodup : ((ledger w ++ held).map Client.uid).Nodup
  uids_lt : ∀ c ∈ ledger w ++ held, c.uid < w.created
  counted : w.proxy.recycles = true → (ledger w ++ held).length = w.created

theorem Accounted.toBooks {w : World} (h : Accounted w) : Books w [] where
  busy_unbounded := h.busy_unbounded
  busy_some := h.busy_some
  keyed := h.keyed
  ids_nodup := by simpa using h.ids_nodup
  fits := by simpa using h.fits
  uids_nodup := by simpa using h.uids_nodup
  uids_lt := by simpa using h.uids_lt
  counted := by simpa using h.counted

theorem Books.toAccounted {w : World} (h : Books w []) : Accounted w where
  busy_unbounded := h.busy_unbounded
  busy_some := h.busy_some
  keyed := h.keyed
  ids_nodup := by simpa using h.ids_nodup
  fits := by simpa using h.fits
  uids_nodup := by simpa using h.uids_nodup
  uids_lt := by simpa using h.uids_lt
  counted := by simpa using h.counted

/-! ## Bookkeeping lemmas -/

theorem subperm_map {α β : Type} {l₁ l₂ : List α} (f : α → β) (h : l₁.Subperm l₂) :
    (l₁.map f).Subperm (l₂.map f) :=
  let ⟨l, p, s⟩ := h
  ⟨l.map f, p.map f, s.map f⟩

theorem nodup_of_subperm {α : Type} {l₁ l₂ : List α} (h : l₁.Subperm l₂)
    (hd : l₂.Nodup) : l₁.Nodup :=
  let ⟨_, p, s⟩ := h
  p.nodup_iff.1 (hd.sublist s)

@[simp] theorem closedClients_ingressEffects (g : Conn) (c : Client) (r : PassThroughReplies) :
    closedClients (ingressEffects g c r) = [] := rfl

@[simp] theorem closedClients_egressEffects (g : Conn) (c : Client) (r : PassThroughReplies) :
    closedClients (egressEffects g c r) = [] := rfl

theorem closedClients_map_close (l : List Client) : closedClients (l.map .close) = l := by
  induction l with
  | nil => rfl
  | cons c l ih => simp [ih]

theorem closedClients_flatMap_closeBusyEntry (l : List (Σ _ : Conn, Option Client)) :
    closedClients (l.flatMap closeBusyEntry) = (l.map Sigma.snd).reduceOption := by
  induction l with
  | nil => rfl
  | cons e l ih =>
    obtain ⟨g, _ | c⟩ := e <;>
      simp [List.flatMap_cons, closeBusyEntry, ih, List.reduceOption_cons_of_none,
        List.reduceOption_cons_of_some]

theorem reduceOption_perm_remove {busy : Pool Conn (Option Client)} {g : Conn} {c : Client}
    (h : busy.get g = some (some c)) :
    busy.values.reduceOption.Perm (c :: (busy.remove g).values.reduceOption) :=
  (Pool.values_perm_remove h).filterMap id

theorem length_liveClients (w : World) (hs : none ∉ w.proxy.busyConnections.values) :
    (liveClients w).length =
      w.proxy.availableConnections.size + w.proxy.busyConnections.size := by
  rw [liveClients, List.length_append, ← Pool.length_values, ← Pool.length_values,
    List.reduceOption_length_eq_iff.2 (fun x hx => ?_)]
  cases x
  · exact absurd hx hs
  · rfl

theorem id_ne_of_nodup {w : World} (h : ((liveClients w).map Client.id).Nodup) {a b : Client}
    (ha : a ∈ w.proxy.availableConnections.values)
    (hb : b ∈ w.proxy.busyConnections.values.reduceOption) : a.id ≠ b.id := by
  rw [liveClients, List.map_append, List.nodup_append] at h
  exact fun he => h.2.2 (List.mem_map_of_mem _ ha) (he ▸ List.mem_map_of_mem _ hb)

theorem liveClients_unbind {w : World} {g : Conn} {c : Client}
    (hg : w.proxy.busyConnections.get g = some (some c)) :
    (c :: liveClients (w.withBusy (w.proxy.busyConnections.remove g))).Perm (liveClients w) :=
  List.perm_middle.symm.trans ((reduceOption_perm_remove hg).symm.append_left _)

theorem liveClients_pop (w : World) (key : String) :
    (liveClients (w.withAvailable (w.proxy.availableConnections.remove key)) ++
      (w.proxy.availableConnections.get key).toList).Perm (liveClients w) := by
  cases hc : w.proxy.availableConnections.get key with
  | none => simp [liveClients, Pool.remove_of_get_none hc]
  | some c =>
    exact List.perm_append_comm.trans
      (List.perm_middle.symm.trans ((Pool.values_perm_remove hc).symm.append_right _))

theorem liveClients_bind {w : World} {g : Conn} (client : Option Client)
    {h : ¬ (0 < w.proxy.busyConnections.cap ∧ w.proxy.busyConnections.size =
      w.proxy.busyConnections.cap)}
    (hg : g ∉ w.proxy.busyConnections.keys) :
    (liveClients (w.withBusy (w.proxy.busyConnections.store g client h))).Perm
      (liveClients w ++ client.toList) := by
  simp only [liveClients, World.withBusy_available, World.withBusy_busy, Pool.values_store,
    Pool.remove_of_get_none (Pool.get_eq_none.2 hg), List.append_assoc]
  cases client
  · simp [List.reduceOption_cons_of_none]
  · simp only [List.reduceOption_cons_of_some, Option.toList]
    exact (List.perm_append_singleton _ _).symm.append_left _

@[simp] theorem liveClients_emit (w : World) (effects : List Effect) :
    liveClients (w.emit effects) = liveClients w := rfl

@[simp] theorem ledger_emit (w : World) (effects : List Effect) :
    ledger (w.emit effects) =
      liveClients w ++ (closedClients w.trace ++ closedClients effects) := by
  simp [ledger]

/-! ## One call at a time -/

variable {w w' : World}

theorem Accounted.of_subperm (hacc : Accounted w)
    (hcap : w'.proxy.busyConnections.cap = 0) (hsome : none ∉ w'.proxy.busyConnections.values)
    (hkeyed : ∀ k c, w'.proxy.availableConnections.get k = some c → c.id = k)
    (hcapA : w'.proxy.availableConnections.cap = w.proxy.availableConnections.cap)
    (hrec : w'.proxy.recycles = w.proxy.recycles) (hcreated : w'.created = w.created)
    (hlive : (liveClients w').Subperm (liveClients w)) (hledger : (ledger w').Subperm (ledger w))
    (hcount : w.proxy.recycles = true → (ledger w).length ≤ (ledger w').length) :
    Accounted w' where
  busy_unbounded := hcap
  busy_some := hsome
  keyed := hkeyed
  ids_nodup := nodup_of_subperm (subperm_map _ hlive) hacc.ids_nodup
  fits := by
    rw [hcapA]
    exact hacc.fits.imp_right hlive.length_le.trans
  uids_nodup := nodup_of_subperm (subperm_map _ hledger) hacc.uids_nodup
  uids_lt c hc := hcreated ▸ hacc.uids_lt c (hledger.subset hc)
  counted h := by
    rw [hrec] at h
    have := hledger.length_le
    have := hcount h
    have := hacc.counted h
    omega

theorem accounted_connect {g : Conn} {clientID : String} {dial : Option Dial}
    {e : Option GatewayDError} (hacc : Accounted w) (hg : g ∉ w.proxy.busyConnections.keys)
    (h : connect w g clientID dial = .ret e w') : Accounted w' := by
  rcases connect_ret hacc.busy_unbounded h with ⟨-, -, rfl⟩ | ⟨-, -, c, hc, rfl⟩
  · exact hacc
  let popped := w.withAvailable (w.proxy.availableConnections.remove clientID)
  have hlive : (liveClients (popped.withBusy
      (w.proxy.busyConnections.store g (some c) (by simp [hacc.busy_unbounded])))).Perm
      (liveClients w) :=
    (liveClients_bind (w := popped) _ hg).trans (hc ▸ liveClients_pop w clientID)
  refine hacc.of_subperm (by simpa using hacc.busy_unbounded) ?_ ?_ rfl rfl rfl hlive.subperm
    (hlive.append_right _).subperm (fun _ => (hlive.append_right _).length_eq.ge)
  · simpa [Pool.values_store, Pool.remove_of_get_none (Pool.get_eq_none.2 hg)] using hacc.busy_some
  · intro k c' hk
    simp only [World.withBusy_available, World.withAvailable_available, Pool.get_remove] at hk
    split at hk
    · cases hk
    · exact hacc.keyed k c' hk

theorem busy_some_remove {busy : Pool Conn (Option Client)} (hs : none ∉ busy.values) (g : Conn) :
    none ∉ (busy.remove g).values :=
  fun hn => hs ((Pool.values_remove_sublist _ _).subset hn)

theorem Books.of_subperm {H H' : List Client} (hb : Books w H)
    (hcap : w'.proxy.busyConnections.cap = 0) (hsome : none ∉ w'.proxy.busyConnections.values)
    (hkeyed : ∀ k c, w'.proxy.availableConnections.get k = some c → c.id = k)
    (hcapA : w'.proxy.availableConnections.cap = w.proxy.availableConnections.cap)
    (hrec : w'.proxy.recycles = w.proxy.recycles) (hcreated : w'.created = w.created)
    (hlive : (liveClients w' ++ H').Subperm (liveClients w ++ H))
    (hledger : (ledger w' ++ H').Subperm (ledger w ++ H))
    (hcount : w.proxy.recycles = true → (ledger w ++ H).length ≤ (ledger w' ++ H').length) :
    Books w' H' where
  busy_unbounded := hcap
  busy_some := hsome
  keyed := hkeyed
  ids_nodup := nodup_of_subperm (subperm_map _ hlive) hb.ids_nodup
  fits := by
    rw [hcapA]
    exact hb.fits.imp_right hlive.length_le.trans
  uids_nodup := nodup_of_subperm (subperm_map _ hledger) hb.uids_nodup
  uids_lt c hc := hcreated ▸ hb.uids_lt c (hledger.subset hc)
  counted h := by
    rw [hrec] at h
    have := hledger.length_le
    have := hcount h
    have := hb.counted h
    omega

theorem Books.ids_nodup_live {H : List Client} (hb : Books w H) :
    ((liveClients w).map Client.id).Nodup :=
  (List.nodup_append.1 (by simpa only [List.map_append] using hb.ids_nodup)).1

theorem books_disconnect {H : List Client} {g : Conn} {e : Option GatewayDError} (hb : Books w H)
    (h : disconnect w g = .ret e w') : Books w' H := by
  rcases disconnect_ret h with
    ⟨-, -, rfl⟩ | ⟨c, hg, hrec, -, hput⟩ | ⟨v, hg, hrec, -, rfl⟩
  · exact hb
  · have hcB : c ∈ w.proxy.busyConnections.values.reduceOption :=
      List.reduceOption_mem_iff.2 (Pool.mem_values_of_get hg)
    rcases hput with ⟨h0, hs, rfl⟩ | ⟨hc, rfl⟩
    · -- the available pool is full: impossible, the client came from the busy pool
      have hlen := length_liveClients w hb.busy_some
      have hsize := Pool.size_remove hg
      have hH := List.length_append (liveClients w) H
      rcases hb.fits with h | h <;> omega
    · have hnot : c.id ∉ w.proxy.availableConnections.keys := fun hk => by
        obtain ⟨c', hc'⟩ := Option.isSome_iff_exists.1 (Pool.mem_keys_iff_get.1 hk)
        exact id_ne_of_nodup hb.ids_nodup_live (Pool.mem_values_of_get hc') hcB (hb.keyed _ _ hc')
      have hlive : (liveClients ((w.withBusy (w.proxy.busyConnections.remove g)).withAvailable
          (w.proxy.availableConnections.store c.id c hc))).Perm (liveClients w) := by
        simp only [liveClients, World.withAvailable_available, World.withAvailable_busy,
          Pool.values_store, Pool.remove_of_get_none (Pool.get_eq_none.2 hnot), List.cons_append]
        exact liveClients_unbind hg
      have hledger := (hlive.append_right (closedClients w.trace)).append_right H
      refine hb.of_subperm (by simpa using hb.busy_unbounded) ?_ ?_ rfl rfl rfl
        (hlive.append_right _).subperm hledger.subperm (fun _ => hledger.length_eq.ge)
      · simpa using busy_some_remove hb.busy_some g
      · intro k c' hk
        simp only [World.withAvailable_available, World.withBusy_available, Pool.get_store] at hk
        split at hk
        · cases hk; exact (‹k = c.id›).symm
        · exact hb.keyed k c' hk
  · obtain ⟨c, rfl⟩ : ∃ c, v = some c := Option.ne_none_iff_exists'.1
      (fun hv => hb.busy_some (hv ▸ Pool.mem_values_of_get hg))
    have hlive := (List.Subperm.cons_self).trans (liveClients_unbind hg).subperm
    refine hb.of_subperm (by simpa using hb.busy_unbounded) ?_ hb.keyed rfl rfl rfl
      ((List.subperm_append_right H).2 hlive)
      ((List.subperm_append_right H).2 ((List.subperm_append_right _).2 hlive)) (by simp_all)
    simpa using busy_some_remove hb.busy_some g

theorem accounted_disconnect {g : Conn} {e : Option GatewayDError} (hacc : Accounted w)
    (h : disconnect w g = .ret e w') : Accounted w' :=
  (books_disconnect hacc.toBooks h).toAccounted

theorem books_emit {H : List Client} {effects : List Effect} (hb : Books w H)
    (hc : closedClients effects = []) : Books (w.emit effects) H := by
  have hl : ledger (w.emit effects) = ledger w := by simp [ledger, hc]
  exact ⟨hb.busy_unbounded, hb.busy_some, hb.keyed, hb.ids_nodup, hb.fits,
    hl ▸ hb.uids_nodup, hl ▸ hb.uids_lt, hl ▸ hb.counted⟩

theorem books_reconnect {H : List Client} {g : Conn} {c : Client} {d : Dial}
    {effects : List Effect}
    {hs : ¬(0 < (w.proxy.busyConnections.remove g).cap ∧
      (w.proxy.busyConnections.remove g).size = (w.proxy.busyConnections.remove g).cap)}
    (hb : Books w H) (hg : w.proxy.busyConnections.get g = some (some c))
    (hfresh : d.id ∉ (liveClients w ++ H).map Client.id) (hc : closedClients effects = []) :
    Books (((w.emit (effects ++ [.close c])).newClient (some d)).2.withBusy
      ((w.proxy.busyConnections.remove g).store g (some (d.toClient w.created)) hs)) H := by
  set W := ((w.emit (effects ++ [.close c])).newClient (some d)).2.withBusy
    ((w.proxy.busyConnections.remove g).store g (some (d.toClient w.created)) hs)
  set c' := d.toClient w.created
  set L := liveClients (w.withBusy (w.proxy.busyConnections.remove g))
  have hnone : (w.proxy.busyConnections.remove g).get g = none := by simp
  have hL : (c :: L).Perm (liveClients w) := liveClients_unbind hg
  have hL' : (liveClients W).Perm (c' :: L) :=
    (liveClients_bind (w := w.withBusy (w.proxy.busyConnections.remove g)) (h := hs) (some c')
      (Pool.get_eq_none.1 hnone)).trans (List.perm_append_singleton _ _)
  have hclosed : closedClients W.trace = closedClients w.trace ++ [c] := by simp [W, hc]
  -- the ledger gains `c'`; `c` moves from the busy pool to the closed clients
  have hledger : (ledger W ++ H).Perm (c' :: (ledger w ++ H)) := by
    rw [ledger, ledger, hclosed, List.perm_iff_count]
    intro a
    have h1 := hL.count_eq a
    have h2 := hL'.count_eq a
    simp only [List.count_append, List.count_cons, List.count_singleton', List.count_nil] at h1 h2 ⊢
    omega
  have hcreated : W.created = w.created + 1 := by simp [W]
  have hLH := hL.append_right H
  refine ⟨by simpa [W] using hb.busy_unbounded, ?_, hb.keyed, ?_, ?_, ?_, fun x hx => ?_,
    fun hr => ?_⟩
  · simpa [W, Pool.values_store, Pool.remove_of_get_none hnone] using
      busy_some_remove hb.busy_some g
  · have hLnd : ((L ++ H).map Client.id).Nodup :=
      (List.nodup_cons.1 ((hLH.map _).nodup_iff.2 hb.ids_nodup)).2
    have hc' : c'.id ∉ (L ++ H).map Client.id := fun hm =>
      hfresh ((hLH.map _).subset (List.mem_cons_of_mem _ hm))
    exact ((hL'.append_right H).map _).nodup_iff.2 (List.nodup_cons.2 ⟨hc', hLnd⟩)
  · have h1 := hL.length_eq
    have h2 := hL'.length_eq
    simp only [List.length_cons] at h1 h2
    exact hb.fits.imp_right fun h =>
      (show (liveClients W ++ H).length ≤ w.proxy.availableConnections.cap by
        simp only [List.length_append] at h ⊢; omega)
  · have hnew : c'.uid ∉ (ledger w ++ H).map Client.uid := fun hm => by
      obtain ⟨x, hx, hxu⟩ := List.mem_map.1 hm
      exact absurd (hb.uids_lt x hx) (by simp [hxu, c'])
    exact (hledger.map _).nodup_iff.2 (List.nodup_cons.2 ⟨hnew, hb.uids_nodup⟩)
  · rw [hcreated]
    rcases List.mem_cons.1 (hledger.subset hx) with rfl | hx
    · simp [c']
    · exact Nat.lt_succ_of_lt (hb.uids_lt x hx)
  · rw [hledger.length_eq, hcreated, List.length_cons, hb.counted hr]

theorem books_passThrough {H : List Client} {g : Conn} {r : PassThroughReplies}
    {e : Option GatewayDError} (hb : Books w H)
    (hfresh : ∀ d, r.dial = some d → d.id ∉ (liveClients w ++ H).map Client.id)
    (h : passThrough w g r = .ret e w') : Books w' H := by
  rcases passThrough_ret hb.busy_unbounded h with
    ⟨-, -, rfl⟩ | ⟨c, hg, -, ⟨-, -, rfl⟩ | ⟨-, d, hd, -, rfl⟩⟩
  · exact hb
  · exact books_emit hb (by simp)
  · rw [hd]
    exact books_emit (books_reconnect hb hg (hfresh d hd) (by simp)) (by simp)

theorem accounted_passThrough {g : Conn} {r : PassThroughReplies} {e : Option GatewayDError}
    (hacc : Accounted w)
    (hfresh : ∀ d, r.dial = some d → d.id ∉ (liveClients w).map Client.id)
    (h : passThrough w g r = .ret e w') : Accounted w' :=
  (books_passThrough hacc.toBooks (by simpa using hfresh) h).toAccounted

@[simp] theorem liveClients_shutdown : liveClients (shutdown w).world = [] := by
  simp [shutdown_eq, liveClients]

theorem closedClients_shutdown :
    closedClients (shutdown w).world.trace = closedClients w.trace ++ liveClients w := by
  simp [shutdown_eq, liveClients, closedClients_map_close, closedClients_flatMap_closeBusyEntry]
  rfl

theorem accounted_shutdown {e : Option GatewayDError} (hacc : Accounted w)
    (h : shutdown w = .ret e w') : Accounted w' := by
  obtain rfl : w' = (shutdown w).world := by rw [h]; rfl
  have hl : (ledger (shutdown w).world).Perm (ledger w) := by
    rw [ledger, liveClients_shutdown, closedClients_shutdown, List.nil_append, ledger]
    exact List.perm_append_comm
  refine hacc.of_subperm ?_ ?_ ?_ rfl rfl rfl (by simp) hl.subperm (fun _ => hl.length_eq.ge) <;>
    simp [shutdown_eq, hacc.busy_unbounded]

theorem accounted_step {c : Call} {e : Option GatewayDError} (hacc : Accounted w)
    (hok : Admissible w c) (h : step w c = .ret e w') : Accounted w' := by
  cases c with
  | connect g clientID dial => exact accounted_connect hacc hok h
  | disconnect g => exact accounted_disconnect hacc h
  | passThrough g r => exact accounted_passThrough hacc hok h
  | shutdown => exact accounted_shutdown hacc h

/-! ## Runs -/

theorem map_id_values {p : Pool String Client} (hk : ∀ k c, p.get k = some c → c.id = k) :
    p.values.map Client.id = p.keys := by
  simp only [Pool.values, Pool.keys, AList.keys, List.keys, List.map_map]
  exact List.map_congr_left fun s hs => hk s.1 s.2 (AList.mem_lookup_iff.2 hs)

theorem accounted_init {p : Pool String Client} {el re : Bool} {cfg : ClientConfig}
    (hp : InitialPool p) : Accounted (initWorld p el re cfg) := by
  have hlive : liveClients (initWorld p el re cfg) = p.values := by simp [liveClients]
  have hledger : ledger (initWorld p el re cfg) = p.values := by
    rw [ledger, hlive]; simp [initWorld]
  refine ⟨rfl, by simp, hp.keyed, ?_, ?_, ?_, ?_, ?_⟩
  · rw [hlive, map_id_values hp.keyed]
    exact p.entries.nodupKeys
  · rw [hlive, Pool.length_values]
    exact p.bounded
  · rw [hledger]
    exact hp.uids.nodup_iff.2 (List.nodup_range _)
  · intro c hc
    rw [hledger] at hc
    exact List.mem_range.1 (hp.uids.subset (List.mem_map_of_mem _ hc))
  · intro _
    rw [hledger, Pool.length_values]
    rfl

theorem accounted_reachable {p : Pool String Client} {el re : Bool} {cfg : ClientConfig}
    (hp : InitialPool p) (h : Reachable Admissible (initWorld p el re cfg) w) : Accounted w :=
  h.induction _ (accounted_init hp) fun _ _ _ _ hacc hok hs => accounted_step hacc hok hs

/-- Along every run from `NewProxy`, the available pool files each client under its own `ID`, the
busy pool holds no nil client, and each client held or closed is one built so far, listed once.
When `Disconnect` puts clients back (not elastic, or reusing elastic clients), every client built
is held or closed, the pools hold as many as were built and not closed, and `Shutdown` closes
every client built. -/
theorem clients_accounted {p : Pool String Client} {el re : Bool} {cfg : ClientConfig}
    (hp : InitialPool p) (h : Reachable Admissible (initWorld p el re cfg) w) :
    (∀ k c, w.proxy.availableConnections.get k = some c → c.id = k) ∧
    none ∉ w.proxy.busyConnections.values ∧
    ((ledger w).map Client.uid).Subperm (List.range w.created) ∧
    (el = false ∨ re = true →
      ((ledger w).map Client.uid).Perm (List.range w.created) ∧
      w.proxy.availableConnections.size + w.proxy.busyConnections.size =
        w.created - (closedClients w.trace).length ∧
      ∀ u < w.created, u ∈ (closedClients (shutdown w).world.trace).map Client.uid) := by
  have hacc := accounted_reachable hp h
  have hsub : ((ledger w).map Client.uid).Subperm (List.range w.created) :=
    List.subperm_of_subset hacc.uids_nodup fun u hu => by
      obtain ⟨x, hx, rfl⟩ := List.mem_map.1 hu
      exact List.mem_range.2 (hacc.uids_lt x hx)
  refine ⟨hacc.keyed, hacc.busy_some, hsub, fun hmode => ?_⟩
  have hrec : w.proxy.recycles = true := by
    rw [(config_reachable h).2]
    cases el <;> cases re <;> simp_all
  have hcount := hacc.counted hrec
  have hperm := hsub.perm_of_length_le (by simp [hcount])
  refine ⟨hperm, ?_, fun u hu => ?_⟩
  · have := length_liveClients w hacc.busy_some
    simp only [ledger, List.length_append] at hcount
    omega
  · have hmem := hperm.symm.subset (List.mem_range.2 hu)
    simp only [ledger, List.map_append, List.mem_append] at hmem
    rw [closedClients_shutdown, List.map_append, List.mem_append]
    exact hmem.symm

theorem initialPool_examplePool : InitialPool examplePool where
  uids := by decide
  keyed k c h := by
    by_cases hk : k = exampleClient.id
    · subst hk; cases h; rfl
    · simp only [examplePool, Pool.get, AList.lookup_insert_ne hk, AList.lookup_empty] at h
      cases h

def connectRun : World :=
  (step (initWorld examplePool false false exampleConfig)
    (.connect exampleConn exampleClient.id none)).world

theorem clients_accounted_rebind :
    (∀ k c, rebindRun.proxy.availableConnections.get k = some c → c.id = k) ∧
    none ∉ rebindRun.proxy.busyConnections.values ∧
    ((ledger rebindRun).map Client.uid).Subperm (List.range rebindRun.created) ∧
    (false = false ∨ false = true →
      ((ledger rebindRun).map Client.uid).Perm (List.range rebindRun.created) ∧
      rebindRun.proxy.availableConnections.size + rebindRun.proxy.busyConnections.size =
        rebindRun.created - (closedClients rebindRun.trace).length ∧
      ∀ u < rebindRun.created,
        u ∈ (closedClients (shutdown rebindRun).world.trace).map Client.uid) :=
  clients_accounted initialPool_examplePool
    (show Reachable Admissible (initWorld examplePool false false exampleConfig) rebindRun from
      .next (c := rebindCalls[3]) (e := none) (.next (c := rebindCalls[2]) (e := none)
        (.next (c := rebindCalls[1]) (e := none)
          (.next (c := rebindCalls[0]) (e := none) .init (show exampleConn ∉ _ by decide) rfl)
          (fun d hd => by cases hd; decide) rfl) trivial rfl) (show exampleConn2 ∉ _ by decide) rfl)

/-- In elastic mode without reuse, from every state a run reaches, `Disconnect` on a bound
connection returns `ErrClientNotConnected` and drops the client: built, but neither held nor
closed, and `Shutdown` does not close it either. -/
theorem clients_leak {p : Pool String Client} {cfg : ClientConfig} {g : Conn} {c : Client}
    (hp : InitialPool p) (h : Reachable Admissible (initWorld p true false cfg) w)
    (hg : w.proxy.busyConnections.get g = some (some c)) :
    ∃ w', disconnect w g = .ret (some errClientNotConnected) w' ∧
      Reachable Admissible (initWorld p true false cfg) w' ∧ c.uid < w'.created ∧
      c.uid ∉ (ledger w').map Client.uid ∧
      c.uid ∉ (closedClients (shutdown w').world.trace).map Client.uid := by
  have hacc := accounted_reachable hp h
  have hd : disconnect w g = .ret (some errClientNotConnected)
      (w.withBusy (w.proxy.busyConnections.remove g)) := by
    simp [disconnect, Pool.pop_eq, hg, (config_reachable h).2]
  -- the ledger loses exactly `c`, whose `uid` it listed once
  have hl : (c :: ledger (w.withBusy (w.proxy.busyConnections.remove g))).Perm (ledger w) :=
    (liveClients_unbind hg).append_right _
  have hnot := (List.nodup_cons.1 ((hl.map Client.uid).nodup_iff.2 hacc.uids_nodup)).1
  refine ⟨_, hd, h.next (c := .disconnect g) trivial hd,
    hacc.uids_lt c (hl.subset (List.mem_cons_self _ _)), hnot, fun hm => hnot ?_⟩
  rw [closedClients_shutdown, List.map_append, List.mem_append] at hm
  rw [ledger, List.map_append, List.mem_append]
  exact hm.symm

theorem clients_leak_elastic :
    ∃ w', disconnect (step (initWorld examplePool true false exampleConfig)
        (.connect exampleConn exampleClient.id none)).world exampleConn =
          .ret (some errClientNotConnected) w' ∧
      Reachable Admissible (initWorld examplePool true false exampleConfig) w' ∧
      exampleClient.uid < w'.created ∧ exampleClient.uid ∉ (ledger w').map Client.uid ∧
      exampleClient.uid ∉ (closedClients (shutdown w').world.trace).map Client.uid :=
  clients_leak initialPool_examplePool
    (.next (c := .connect exampleConn exampleClient.id none) .init
      (show exampleConn ∉ _ by decide) rfl) rfl

end Network
end Gatewayd
