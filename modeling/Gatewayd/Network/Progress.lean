import Gatewayd.Network.Multicore

/-!
# Gatewayd.Network.Progress

How long a `Connect` takes in the multicore server. When picks are kept apart (the hypothesis of
`multicore_no_crash`), a session's `Connect` takes one path: `ForEach`, `IsExhausted`, `Pop`,
`Put`. Each of its own steps moves it one place along that path, whatever the other sessions do in
between, since none of them takes its key or touches its entry. So `Connect` is wait-free: it
binds its connection in four of its own steps.

`Pc.rank` counts the steps a `Connect` on that path has still to take, and `Stage.rank` those a
session has still to take before it is bound.

* `multicore_connect_binds`: in every safe interleaving from `NewProxy`, a session whose events
  are `Connect` and then at least four of its steps ends bound.
-/

namespace Gatewayd
namespace Network

/-- The steps a `Connect` on its way to binding a client has still to take. -/
def Pc.rank : Pc → Nat
  | .forEach => 4
  | .isExhausted _ => 3
  | .pop _ => 2
  | .put _ => 1
  | _ => 0

theorem Pc.rank_pos {pc : Pc} (hon : pc.onTrack = true) (hpend : pc.pending = true) :
    0 < pc.rank := by
  cases pc with
  | forEach | isExhausted _ | pop _ | put _ => simp [Pc.rank]
  | newClient | panicked => cases hon
  | done _ => cases hpend

theorem connectStep_rank {w w' : World} {gconn : Conn} {clientID : String} {dial : Option Dial}
    {pc pc' : Pc} (hon : pc.onTrack = true) (hpend : pc.pending = true)
    (hon' : pc'.onTrack = true) (h : connectStep w gconn clientID dial pc = (w', pc')) :
    pc'.rank + 1 = pc.rank := by
  cases pc with
  | forEach | pop _ => cases h; rfl
  | isExhausted key =>
    simp only [connectStep] at h
    split at h
    · split at h <;> (cases h; cases hon')
    · cases h; rfl
  | put client =>
    cases client with
    | none => cases hon
    | some c =>
      simp only [connectStep] at h
      split at h
      · cases h; cases hon'
      · cases h; rfl
  | newClient | panicked => cases hon
  | done _ => cases hpend

/-- The steps a session has still to take before it is bound: `Connect`'s start and its four
steps from unbound. -/
def Stage.rank : Stage → Nat
  | .unbound => 5
  | .connecting pc => pc.rank
  | .bound => 0

theorem Stage.ofPc_onTrack {pc : Pc} (hon : pc.onTrack = true) :
    (Stage.ofPc pc).rank = pc.rank ∧ Stage.ofPc pc ≠ .unbound := by
  cases pc with
  | done err =>
    cases err with
    | none => exact ⟨rfl, nofun⟩
    | some _ => cases hon
  | _ => exact ⟨rfl, nofun⟩

def Event.session : Event → Nat
  | .connect i | .connectStep i _ _ | .passThrough i _ | .disconnect i => i

def Event.isConnectStep : Event → Bool
  | .connectStep _ _ _ => true
  | _ => false

namespace Server

variable {s : Server} {i : Nat} {g : Conn} {st : Stage}

theorem step_sessions_ne {ev : Event} (h : ev.session ≠ i) :
    (s.step ev).sessions[i]? = s.sessions[i]? := by
  unfold step
  split
  · rfl
  -- each call rewrites at most the entry of its own session
  cases ev <;> dsimp only <;> split <;> first | rfl | exact List.getElem?_set_ne h

theorem run_sessions_ne {evs : List Event} (h : ∀ ev ∈ evs, ev.session ≠ i) :
    (s.run evs).sessions[i]? = s.sessions[i]? := by
  induction evs generalizing s with
  | nil => rfl
  | cons ev evs ih =>
    exact (ih fun ev' hev' => h ev' (List.mem_cons_of_mem _ hev')).trans
      (step_sessions_ne (h ev (List.mem_cons_self _ _)))

theorem run_append (s : Server) (l₁ l₂ : List Event) : s.run (l₁ ++ l₂) = (s.run l₁).run l₂ :=
  List.foldl_append _ _ _ _

theorem admissible_append {l₁ l₂ : List Event} :
    s.Admissible (l₁ ++ l₂) ↔ s.Admissible l₁ ∧ (s.run l₁).Admissible l₂ := by
  induction l₁ generalizing s with
  | nil => exact ⟨fun h => ⟨trivial, h⟩, fun h => h.2⟩
  | cons ev l₁ ih => exact (and_congr_right fun _ => ih).trans and_assoc.symm

theorem safeRun_append (l₁ l₂ : List Event) :
    s.safeRun (l₁ ++ l₂) = (s.safeRun l₁ && (s.run l₁).safeRun l₂) := by
  induction l₁ generalizing s with
  | nil => rfl
  | cons ev l₁ ih =>
    show (s.safe ev && (s.step ev).safeRun (l₁ ++ l₂)) =
      ((s.safe ev && (s.step ev).safeRun l₁) && ((s.step ev).run l₁).safeRun l₂)
    rw [ih, Bool.and_assoc]

variable {rec : Bool} {gconns : List Conn}

theorem OnTrack.step_pc {pc pc' : Pc} {w' : World} {clientID : String} {dial : Option Dial}
    (ho : s.OnTrack) (hinv : Inv rec gconns s) (hx : s.sessions[i]? = some (g, .connecting pc))
    (hsafe : s.safe (.connectStep i clientID dial) = true)
    (h : Network.connectStep s.world g clientID dial pc = (w', pc')) : pc'.onTrack = true := by
  obtain ⟨l₁, l₂, hl, -⟩ := sessions_split hx (g, .unbound)
  refine (connectStep_onTrack hinv.books.busy_unbounded (ho.on_track _ (mem_of_split hl) pc rfl)
    (fun k hk => ho.picks_present k (picks_eq hl ▸
      List.mem_append_left _ (List.mem_append_right _ (Option.mem_toList.2 hk))))
    (fun hpc => ?_) h).1
  subst hpc
  simp only [safe, hx, Bool.and_eq_true, decide_eq_true_eq] at hsafe
  exact hsafe.1

/-- A safe step of a session's own `Connect` moves it one step nearer to being bound. -/
theorem step_own {clientID : String} {dial : Option Dial} (hinv : Inv rec gconns s)
    (ho : s.OnTrack) (hs : s.crashed = false)
    (hsafe : s.safe (.connectStep i clientID dial) = true) (hx : s.sessions[i]? = some (g, st))
    (hst : st ≠ .unbound) :
    ∃ st', (s.step (.connectStep i clientID dial)).sessions[i]? = some (g, st') ∧
      st' ≠ .unbound ∧ st'.rank = st.rank - 1 := by
  cases st with
  | unbound => exact absurd rfl hst
  | bound => exact ⟨.bound, by simp [step, hs, hx], nofun, rfl⟩
  | connecting pc =>
    rcases hc : Network.connectStep s.world g clientID dial pc with ⟨w', pc'⟩
    obtain ⟨l₁, l₂, hl, -⟩ := sessions_split hx (g, .unbound)
    have hon := ho.on_track _ (mem_of_split hl) pc rfl
    have hpend := (hinv.connecting _ (mem_of_split hl) pc rfl).2
    have hon' := ho.step_pc hinv hx hsafe hc
    have hlt : i < s.sessions.length := (List.getElem?_eq_some_iff.1 hx).1
    obtain ⟨hrank, hne⟩ := Stage.ofPc_onTrack hon'
    refine ⟨.ofPc pc', by simp [step, hs, hx, hc, hlt], hne, ?_⟩
    have := connectStep_rank hon hpend hon' hc
    rw [hrank]
    show pc'.rank = pc.rank - 1
    omega

/-- Along a safe run in which a session takes only steps of its `Connect`, each of them moves it
one step nearer to being bound. -/
theorem run_own {evs : List Event} (hinv : Inv rec gconns s) (ho : s.OnTrack)
    (hs : s.crashed = false) (hadm : s.Admissible evs) (hsafe : s.safeRun evs = true)
    (hx : s.sessions[i]? = some (g, st)) (hst : st ≠ .unbound)
    (hF : ∀ ev ∈ evs, ev.session = i → ev.isConnectStep = true) :
    ∃ st', (s.run evs).sessions[i]? = some (g, st') ∧
      st'.rank = st.rank - (evs.filter (·.session == i)).length := by
  induction evs generalizing s st with
  | nil => exact ⟨st, hx, rfl⟩
  | cons ev evs ih =>
    simp only [safeRun, Bool.and_eq_true] at hsafe
    obtain ⟨hcr, ho'⟩ := step_onTrack hinv ho hs hsafe.1
    have hinv' := step_inv hinv hadm.1 hcr
    have hF' : ∀ ev' ∈ evs, ev'.session = i → ev'.isConnectStep = true :=
      fun ev' hev' => hF ev' (List.mem_cons_of_mem _ hev')
    by_cases hev : ev.session = i
    · obtain ⟨j, clientID, dial, rfl⟩ : ∃ j clientID dial, ev = .connectStep j clientID dial := by
        have := hF ev (List.mem_cons_self _ _) hev
        cases ev <;> first | exact ⟨_, _, _, rfl⟩ | cases this
      obtain rfl : j = i := hev
      obtain ⟨st', hx', hst', hrank⟩ := step_own hinv ho hs hsafe.1 hx hst
      obtain ⟨st'', hx'', hrank'⟩ := ih hinv' ho' hcr hadm.2 hsafe.2 hx' hst' hF'
      refine ⟨st'', hx'', ?_⟩
      rw [List.filter_cons_of_pos (by simp [Event.session]), List.length_cons, hrank', hrank]
      omega
    · obtain ⟨st'', hx'', hrank'⟩ :=
        ih hinv' ho' hcr hadm.2 hsafe.2 ((step_sessions_ne hev).trans hx) hst hF'
      refine ⟨st'', hx'', ?_⟩
      rw [List.filter_cons_of_neg (by simpa using hev), hrank']

theorem bound_of_rank_zero (hinv : Inv rec gconns s) (ho : s.OnTrack)
    (hmem : (g, st) ∈ s.sessions) (h0 : st.rank = 0) : st = .bound := by
  cases st with
  | unbound => cases h0
  | connecting pc =>
    have := Pc.rank_pos (ho.on_track _ hmem pc rfl) (hinv.connecting _ hmem pc rfl).2
    simp only [Stage.rank] at h0
    omega
  | bound => rfl

end Server

variable {p : Pool String Client} {el re : Bool} {cfg : ClientConfig} {gconns : List Conn}
  {evs : List Event}

/-- `Connect` is wait-free when picks are kept apart: in every safe interleaving from `NewProxy`,
a session whose events are `Connect` and then at least four of its steps ends bound, however the
other sessions' calls come between them. -/
theorem multicore_connect_binds (hp : InitialPool p) (hnd : gconns.Nodup)
    (hadm : (Server.start (initWorld p el re cfg) gconns).Admissible evs)
    (hsafe : (Server.start (initWorld p el re cfg) gconns).safeRun evs = true)
    {i : Nat} {g : Conn} (hg : gconns[i]? = some g) {steps : List Event}
    (hF : evs.filter (·.session == i) = .connect i :: steps)
    (hsteps : ∀ ev ∈ steps, ev.isConnectStep = true) (hlen : 4 ≤ steps.length) :
    ((Server.start (initWorld p el re cfg) gconns).run evs).sessions[i]? = some (g, .bound) := by
  obtain ⟨pre, post, rfl, hpre, -, hpost⟩ := List.filter_eq_cons_iff.1 hF
  rw [Server.admissible_append] at hadm
  rw [Server.safeRun_append, Bool.and_eq_true] at hsafe
  set S := Server.start (initWorld p el re cfg) gconns
  -- before the session's `Connect`: the other sessions' events leave it unbound
  have hinv₀ : Server.Inv ((el && re) || !el) gconns S := Server.start_inv hp hnd
  obtain ⟨hcr₁, ho₁⟩ := Server.run_onTrack hinv₀ (Server.start_onTrack _ _) rfl hadm.1 hsafe.1
  have hinv₁ := Server.run_inv hinv₀ hadm.1 hcr₁
  have hx₁ : (S.run pre).sessions[i]? = some (g, .unbound) := by
    rw [Server.run_sessions_ne fun ev hev he => hpre ev hev (by simp [he])]
    simp [S, Server.start, hg]
  -- `Connect` starts
  obtain ⟨hadm₂, hadm₃⟩ := hadm.2
  simp only [Server.safeRun, Bool.and_eq_true] at hsafe
  obtain ⟨hcr₂, ho₂⟩ := Server.step_onTrack hinv₁ ho₁ hcr₁ hsafe.2.1
  have hinv₂ := Server.step_inv hinv₁ hadm₂ hcr₂
  have hlt : i < (S.run pre).sessions.length := (List.getElem?_eq_some_iff.1 hx₁).1
  have hx₂ : ((S.run pre).step (.connect i)).sessions[i]? = some (g, .connecting .forEach) := by
    simp [Server.step, hcr₁, hx₁, hlt]
  -- its four steps
  obtain ⟨st, hx₃, hrank⟩ := Server.run_own hinv₂ ho₂ hcr₂ hadm₃ hsafe.2.2 hx₂ nofun
    fun ev hev he => hsteps ev (hpost ▸ List.mem_filter.2 ⟨hev, by simp [he]⟩)
  rw [hpost] at hrank
  obtain ⟨hcr₃, ho₃⟩ := Server.run_onTrack hinv₂ ho₂ hcr₂ hadm₃ hsafe.2.2
  have hinv₃ := Server.run_inv hinv₂ hadm₃ hcr₃
  rw [Server.run_append]
  refine hx₃.trans ?_
  rw [Server.bound_of_rank_zero hinv₃ ho₃ (List.getElem?_mem hx₃)
    (hrank.trans (show 4 - steps.length = 0 by omega))]

/-- Session `0`'s `Connect` on the two-client pool, its steps interleaved with session `1`'s. -/
def interleavedConnects : List Event := twoSessions.take 10

theorem multicore_connect_binds_interleaved :
    ((Server.start (initWorld twoClientPool false false exampleConfig)
      [exampleConn, exampleConn2]).run interleavedConnects).sessions[0]? =
        some (exampleConn, .bound) :=
  multicore_connect_binds initialPool_twoClientPool (by decide)
    (by simp [Server.Admissible, Server.Allowed, interleavedConnects, twoSessions])
    (by decide) rfl rfl (by decide) (by decide)

end Network
end Gatewayd
