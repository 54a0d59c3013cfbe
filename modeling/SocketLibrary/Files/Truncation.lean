import SocketLibrary.Files.Agreement

/-!
# Paths that are cut

No operation refuses a path for its length: each goes on to the call that uses it, with the path cut to what fits in
`sun_path`. So what a path string denotes depends on its first 108 bytes alone, and short paths without a NUL all denote
different endpoints (`paths_denote_by_cut`).
-/

namespace SocketLibrary.Files

open SocketLibrary.Interaction SocketLibrary.Posix SocketLibrary.Model SocketLibrary.Steps

/-! ## What a path denotes -/

section Denotation

variable {p q : Bytes}

theorem no_nul_take (hp : 0 ∉ p) (n : ℕ) : 0 ∉ p.take n := fun h => hp (List.mem_of_mem_take h)

/-- The name in `sun_path` is the path after the cut. -/
theorem name_eq_take (hp : 0 ∉ p) : c_str (sunPath p) = p.take sunPathSize := by
  rw [c_str_sunPath, resizePath_eq_take, c_str_of_no_nul (no_nul_take hp _)]

/-- A short path is in `sun_path` as a whole, with a NUL behind it. -/
theorem sunPath_short (hp : 0 ∉ p) (hlen : p.length < sunPathSize) :
    ∃ n, sunPath p = p ++ List.replicate (n + 1) 0 := by
  refine ⟨sunPathSize - p.length - 1, ?_⟩
  have hcut : resizePath p = p := by rw [resizePath_eq_take, List.take_of_length_le hlen.le]
  have hpad : sunPathSize - p.length - 1 + 1 = sunPathSize - p.length := by omega
  rw [sunPath, strncpy, hcut, c_str_of_no_nul hp, List.take_of_length_le hlen.le, hpad]

theorem sunPath_eq_iff (hp : 0 ∉ p) (hq : 0 ∉ q) :
    sunPath p = sunPath q ↔ p.take sunPathSize = q.take sunPathSize := by
  constructor
  · intro h
    rw [← name_eq_take hp, ← name_eq_take hq, h]
  · intro h
    rw [← sunPath_resizePath p, ← sunPath_resizePath q, resizePath_eq_take, resizePath_eq_take, h]

end Denotation

/-- **What a path denotes.** Every run of an operation on a path `p`, however long it is, hands over the `sun_path` of
`p` and no other, unless there is no descriptor or the operation of the user throws; an override removes the file of
that name, and besides it a bound datagram socket only that of the path it held. Let the paths hold no NUL: one that is
shorter than `sun_path` is in it as a whole with a NUL behind it, and is read back; two that agree in as many bytes as
it has are written alike, and two that differ before its last byte have different bytes there and different names. -/
theorem paths_denote_by_cut {σ : Type} (env : Env Sys Ans σ) :
    (∀ p (op : PathOperation) o s tr r o' s', (op.perform p).Runs env o s tr r o' s' →
      Handed (.un (sunPath p)) tr ∧
        ∀ e ∈ tr, ∀ address, addressOf e.call = some address → address = .un (sunPath p)) ∧
    (∀ p connectionBacklogSize operation o s tr r o' s',
      (IPCServerSocket.construct p true connectionBacklogSize operation).Runs env o s tr r o' s' →
        RemovesFile (c_str (sunPath p)) tr ∧ RemovesOnly (c_str (sunPath p)) tr) ∧
    (∀ p operation (o : DatagramIPCSocket) s tr r o' s',
      (DatagramIPCSocket.bindOverride true (some p) operation).Runs env o s tr r o' s' →
        RemovesFile (c_str (sunPath p)) tr ∧ ∀ e ∈ tr, ∀ name, removedName e.call = some name →
          name = c_str (sunPath p) ∨ ∃ old, o.socketPath = some old ∧ name = c_str old) ∧
    (∀ p, 0 ∉ p → p.length < sunPathSize → c_str (sunPath p) = p ∧ ∃ n, sunPath p = p ++ List.replicate (n + 1) 0) ∧
    ∀ p q, 0 ∉ p → 0 ∉ q →
      (p.take sunPathSize = q.take sunPathSize → sunPath p = sunPath q) ∧
        (p.take (sunPathSize - 1) ≠ q.take (sunPathSize - 1) →
          sunPath p ≠ sunPath q ∧ c_str (sunPath p) ≠ c_str (sunPath q)) := by
  refine ⟨?_, ?_, ?_, ?_, ?_⟩
  · intro p op o s tr r o' s' hrun
    refine ⟨hrun.post (perform_hands op o s trivial), fun e he address ha => ?_⟩
    obtain ⟨_, ⟨⟩, h⟩ := (((op.perform_means o).runs hrun).1 e he).1 address ha
    exact h
  · intro p connectionBacklogSize operation o s tr r o' s' hrun
    refine ⟨hrun.post (server_removes connectionBacklogSize operation o s), fun e he name hname => ?_⟩
    exact (((serverConstruct_means _ _ _ o).runs hrun).1 e he).2 name hname
  · intro p operation o s tr r o' s' hrun
    refine ⟨hrun.post (datagramBind_removes operation o s), fun e he name hname => ?_⟩
    have hmeans : (DatagramIPCSocket.bindOverride true (some p) operation).Always
        (Means (some p) {name | name = c_str (sunPath p) ∨ ∃ old, o.socketPath = some old ∧ name = c_str old}) o
        (BindReports p o) :=
      datagramBind_means true operation (fun old hold => Or.inr ⟨old, hold, rfl⟩) fun _ => Or.inl rfl
    exact ((hmeans.runs hrun).1 e he).2 name hname
  · intro p hp hlen
    refine ⟨?_, sunPath_short hp hlen⟩
    rw [name_eq_take hp, List.take_of_length_le hlen.le]
  · intro p q hp hq
    refine ⟨(sunPath_eq_iff hp hq).2, fun hne => ?_⟩
    have hname : c_str (sunPath p) ≠ c_str (sunPath q) := by
      rw [name_eq_take hp, name_eq_take hq]
      intro h
      apply hne
      have h' := congrArg (List.take (sunPathSize - 1)) h
      rwa [List.take_take, List.take_take, Nat.min_eq_left (Nat.sub_le _ _)] at h'
    exact ⟨fun h => hname (congrArg c_str h), hname⟩

set_option maxRecDepth 8000 in
/-- A server is bound to a path of 109 bytes, and a client of another such path is connected to it: neither is refused,
and both are given the same `sun_path`. -/
theorem long_paths_collide :
    (¬ ∀ (p : Bytes) (op : PathOperation) o k tr r o' k', 0 ∉ p → (op.perform p).Runs Kernel.env o k tr r o' k' →
      r.Threw ∨ c_str (sunPath p) = p ∧ ∃ n, sunPath p = p ++ List.replicate (n + 1) 0) ∧
    ¬ ∀ (p q : Bytes) (op op' : PathOperation) o k tr r o₁ k₁ o₂ tr' r' o' k', 0 ∉ p → 0 ∉ q → p ≠ q →
      (op.perform p).Runs Kernel.env o k tr r o₁ k₁ → (op'.perform q).Runs Kernel.env o₂ k₁ tr' r' o' k' →
      r.Threw ∨ r'.Threw ∨
        ∀ e ∈ tr, ∀ e' ∈ tr', ∀ a, addressOf e.call = some a → addressOf e'.call ≠ some a := by
  have hp : 0 ∉ (List.replicate 108 97 ++ [98] : Bytes) := by decide
  have hq : 0 ∉ (List.replicate 108 97 ++ [99] : Bytes) := by decide
  have hserver := Kernel.execute_runs (fun _ => false) 3
    (PathOperation.perform (List.replicate 108 97 ++ [98]) (.ipcServerSocket false 20 none)) ⟨0, []⟩ (.boot [])
  have hclient := Kernel.execute_runs (fun _ => false) 4
    (PathOperation.perform (List.replicate 108 97 ++ [99]) .streamIPCSocket) ⟨0, []⟩ (Kernel.execute (fun _ => false) 3
      (PathOperation.perform (List.replicate 108 97 ++ [98]) (.ipcServerSocket false 20 none)) ⟨0, []⟩ (.boot [])).2.2
  constructor
  · intro h
    rcases h _ _ _ _ _ _ _ _ hp hserver with hthrew | ⟨hname, -⟩
    · exact hthrew
    · rw [name_eq_take hp] at hname
      exact absurd (congrArg List.length hname) (by decide)
  · intro h
    have hsame : sunPath (List.replicate 108 97 ++ [98]) = sunPath (List.replicate 108 97 ++ [99]) :=
      (sunPath_eq_iff hp hq).2 (by decide)
    rcases h _ _ _ _ _ _ _ _ _ _ _ _ _ _ _ hp hq (by decide) hserver hclient with hthrew | hthrew | hapart
    · exact hthrew
    · exact hthrew
    · -- the server's second call is `bind`, the client's is `connect`
      refine hapart _ (.tail _ (.head _)) _ (.tail _ (.head _)) _ rfl ?_
      exact congrArg (fun path => some (SockAddr.un path)) hsame.symm

end SocketLibrary.Files
