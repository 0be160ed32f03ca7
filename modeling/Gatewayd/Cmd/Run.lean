import Gatewayd.Network.Clients

/-!
# Gatewayd.Cmd.Run

`run.go` fills the pool that `NewProxy` is given: `poolSize` times it calls `NewClient` and puts
each client it gets under the client's `ID`, ignoring `Put`'s error; then it exits unless the pool
holds exactly `poolSize` clients. `pool.NewPool()` is not among the sources, so the pool's
capacity is a parameter.

Last, `run` starts a goroutine that waits for the signals it passed to `signal.Notify`
(`signalLoop`). For each one it goes through the same list and, at the first entry `s` with
`sig != s`, notifies the `OnSignal` hooks, shuts the server and the plugins down and exits.

* `populate_initialPool`: when the size check passes, every `NewClient` succeeded, and the pool
  is one the proxy's bookkeeping starts from: its clients are the first `poolSize` built, each
  under its own `ID`.
-/

namespace Gatewayd
namespace Cmd

open Network

/-- One round of the loop: `NewClient` answers `dial`; a client it builds gets the next `uid` and
is put under its `ID`. -/
def addClient (acc : Pool String Client × Nat) (dial : Option Dial) : Pool String Client × Nat :=
  match dial with
  | none => acc
  | some d =>
    let client := d.toClient acc.2
    (match acc.1.put client.id client with
      | .ok p => p
      | .error _ => acc.1,
     acc.2 + 1)

def populate (cap : Nat) (dials : List (Option Dial)) : Pool String Client × Nat :=
  dials.foldl addClient (Pool.newPool cap, 0)

/-- What the loop keeps: every client sits under its own `ID`, and the clients are distinct ones
among those built so far. -/
structure Filling (acc : Pool String Client × Nat) : Prop where
  keyed : ∀ key c, acc.1.get key = some c → c.id = key
  uids : (acc.1.values.map Client.uid).Subperm (List.range acc.2)

theorem filling_addClient {acc : Pool String Client × Nat} (h : Filling acc) (dial : Option Dial) :
    Filling (addClient acc dial) := by
  cases dial with
  | none => exact h
  | some d =>
    have hsub : (List.range acc.2).Subperm (List.range (acc.2 + 1)) := by
      rw [List.range_succ]
      exact (List.sublist_append_left _ _).subperm
    simp only [addClient]
    cases hput : acc.1.put (d.toClient acc.2).id (d.toClient acc.2) with
    | error e => exact ⟨h.keyed, h.uids.trans hsub⟩
    | ok p =>
      obtain ⟨hfree, rfl⟩ := Pool.put_eq_ok.1 hput
      refine ⟨fun key c hc => ?_, ?_⟩
      · rw [Pool.get_store] at hc
        split at hc
        · cases hc
          exact (‹key = _›).symm
        · exact h.keyed key c hc
      · rw [Pool.values_store, List.map_cons, List.range_succ]
        refine ((List.subperm_cons _).2 ?_).trans (List.perm_append_singleton _ _).symm.subperm
        exact (((Pool.values_remove_sublist _ _).map _).subperm).trans h.uids

theorem filling_foldl {acc : Pool String Client × Nat} (h : Filling acc)
    (dials : List (Option Dial)) :
    Filling (dials.foldl addClient acc) := by
  induction dials generalizing acc with
  | nil => exact h
  | cons dial dials ih => exact ih (filling_addClient h dial)

theorem foldl_addClient_created (acc : Pool String Client × Nat) (dials : List (Option Dial)) :
    (dials.foldl addClient acc).2 = acc.2 + (dials.filterMap id).length := by
  induction dials generalizing acc with
  | nil => rfl
  | cons dial dials ih =>
    cases dial <;> simp [List.foldl_cons, ih, addClient, Nat.add_comm, Nat.add_left_comm]

/-- When `run.go`'s size check passes, every `NewClient` succeeded, and `NewProxy` gets the first
`poolSize` clients built, each under its own `ID`. -/
theorem populate_initialPool (cap : Nat) (dials : List (Option Dial))
    (hsize : (populate cap dials).1.size = dials.length) :
    InitialPool (populate cap dials).1 ∧ (populate cap dials).2 = dials.length ∧
      ∀ d ∈ dials, d.isSome := by
  have hF : Filling (populate cap dials) := filling_foldl ⟨by simp, by simp⟩ dials
  have hc : (populate cap dials).2 = (dials.filterMap id).length := by
    simpa using foldl_addClient_created (Pool.newPool cap, 0) dials
  have hle : (populate cap dials).1.size ≤ (populate cap dials).2 := by
    simpa [Pool.length_values] using hF.uids.length_le
  have hsomes := List.length_filterMap_le id dials
  have hcreated : (populate cap dials).2 = dials.length := by omega
  refine ⟨⟨?_, hF.keyed⟩, hcreated, fun d hd => ?_⟩
  · rw [hsize, ← hcreated]
    exact hF.uids.perm_of_length_le (by simp [Pool.length_values, hsize, hcreated])
  · exact (List.filterMap_length_eq_length (f := id)).1 (by omega) d hd

def startupDials : List (Option Dial) :=
  [some ⟨exampleClient.id, "10.0.0.1:5001", "10.0.0.2:5432"⟩,
    some ⟨exampleDial.id, "10.0.0.1:5003", "10.0.0.2:5432"⟩]

theorem populate_initialPool_two :
    InitialPool (populate 2 startupDials).1 ∧ (populate 2 startupDials).2 = startupDials.length ∧
      ∀ d ∈ startupDials, d.isSome :=
  populate_initialPool 2 startupDials rfl

/-- Two answers under one `ID`: the second client takes the first one's place, and the size check
fails. -/
example : (populate 0 [some ⟨exampleClient.id, "10.0.0.1:5001", "10.0.0.2:5432"⟩,
    some ⟨exampleClient.id, "10.0.0.1:5002", "10.0.0.2:5432"⟩]).1.size = 1 := by decide

/-! ## The signal handler -/

/-- The signals `run` passes to `signal.Notify`, the only ones its channel receives. `os.Interrupt`
is `SIGINT` and `os.Kill` is `SIGKILL`. -/
inductive Signal where
  | sigint
  | sigkill
  | sigterm
  | sigabrt
  | sigquit
  | sighup
  deriving DecidableEq, Repr

def signals : List Signal := [.sigint, .sigkill, .sigterm, .sigabrt, .sigquit, .sighup, .sigint]

/-- What the handler does on its way out; `onSignal` runs the `OnSignal` hooks (`hooksConfig.Run`
with `{"signal": sig}` and `plugin.OnSignal`). -/
inductive ShutdownAction where
  | onSignal (sig : Signal)
  | serverShutdown
  | registryShutdown
  | cleanupClients
  | exit (code : Nat)
  deriving DecidableEq, Repr

def shutdownActions (converted : Bool) (sig : Signal) : List ShutdownAction :=
  (if converted then [.onSignal sig] else []) ++
    [.serverShutdown, .registryShutdown, .cleanupClients, .exit 0]

/-- `for _, s := range signals { if sig != s { ... } }` for one received `sig`: what the first
pass whose test holds does, or none when the loop runs through. -/
def handleSignal (converted : Bool) (sig : Signal) : List Signal → Option (List ShutdownAction)
  | [] => none
  | s :: rest =>
    if sig ≠ s then some (shutdownActions converted sig) else handleSignal converted sig rest

/-- `for sig := range signalsCh`, over the signals received in order: the process exits at the
first one the inner loop acts on. -/
def signalLoop (converted : Bool) (signals : List Signal) :
    List Signal → Option (List ShutdownAction)
  | [] => none
  | sig :: rest =>
    match handleSignal converted sig signals with
    | some actions => some actions
    | none => signalLoop converted signals rest

end Cmd
end Gatewayd
