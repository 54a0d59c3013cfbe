import SocketLibrary.Files.Handing

/-!
# One name for one path

`paths_agree` says that the four operations that are given a path, and the two that remove its file, mean the same name,
also when they are given the path that a server or a bound socket reports.
-/

namespace SocketLibrary.Files

open SocketLibrary.Interaction SocketLibrary.Posix SocketLibrary.Model SocketLibrary.Steps SocketLibrary.Descriptors

/-- The calls of the trace that remove a file remove the file `name`. -/
def RemovesOnly {σ : Type} (name : Bytes) (tr : List (Event Sys Ans σ)) : Prop :=
  ∀ e ∈ tr, ∀ removed, removedName e.call = some removed → removed = name

/-- A call of a datagram socket removes the file of the path it overrides, and `close` that of the path it is bound to,
by the name in the `sun_path`, and none but these; and it stores only a path with the `sun_path` of the one it was to
bind. -/
structure Faithful {σ : Type} {dm : DataModel} (v : Visit Sys Ans σ Exn DatagramIPCSocket (DatagramCall dm) Unit) :
    Prop where
  removed : ∀ e ∈ v.trace, ∀ name, removedName e.call = some name →
    ∃ q, (overridden v.call = some q ∨ v.obj.socketPath = some q) ∧ name = c_str (sunPath q)
  overrides : ∀ q, overridden v.call = some q → RemovesFile (c_str (sunPath q)) v.trace
  closes : v.call = .close → v.obj.bound = true → ∀ q, v.obj.socketPath = some q →
    RemovesFile (c_str (sunPath q)) v.trace
  stored : ∀ q, v.obj'.socketPath = some q →
    v.obj.socketPath = some q ∨ ∃ p, pathOf v.call = some p ∧ v.call.kind = .bind ∧ sunPath q = sunPath p

section Sessions

variable {σ : Type} {env : Env Sys Ans σ} {dm : DataModel}

theorem overrides_of_runs (call : DatagramCall dm) {o o' : DatagramIPCSocket} {s s' : σ} {tr : List (Event Sys Ans σ)}
    {r : Outcome Exn Unit} (hrun : call.perform.Runs env o s tr r o' s') {q : Bytes} (hq : overridden call = some q) :
    RemovesFile (c_str (sunPath q)) tr := by
  cases call with
  | bindOverride override path operation =>
    cases override with
    | false => cases hq
    | true =>
      obtain rfl : path = some q := hq
      exact hrun.post (removes_of_first rfl s)
  | _ => cases hq

/-- A call from a cut path is faithful, and leaves a cut path. -/
theorem perform_faithful (call : DatagramCall dm) (o : DatagramIPCSocket) (s : σ) (tr : List (Event Sys Ans σ))
    (r : Outcome Exn Unit) (o' : DatagramIPCSocket) (s' : σ) (h : Cut o) (hrun : call.perform.Runs env o s tr r o' s') :
    Cut o' ∧ Faithful (⟨call, o, s, tr, r, o', s'⟩ : Visit Sys Ans σ Exn DatagramIPCSocket (DatagramCall dm) Unit) := by
  obtain ⟨htr, hstored⟩ := (perform_means call h).runs hrun
  refine ⟨fun q hq => ?_, fun e he name hname => (htr e he).2 name hname, fun q => overrides_of_runs call hrun,
    ?_, fun q hq => ?_⟩
  · rcases hstored q hq with hq | ⟨p, -, -, rfl⟩
    · exact h q hq
    · exact resizePath_resizePath p
  · rintro ⟨⟩ hbound q hq
    exact hrun.post (datagramClose_removes h hbound hq s)
  · rcases hstored q hq with hq | ⟨p, hp, hkind, rfl⟩
    · exact Or.inl hq
    · exact Or.inr ⟨p, hp, hkind, sunPath_resizePath p⟩

end Sessions

/-- **One name for one path.** For every path string `p`, in any environment: each of the four operations writes the same
108 bytes, unless there is no descriptor or the operation of the user throws, and reports a path that is written alike;
the file that an override and `close` of a server remove has the name in these bytes, and so have those that a datagram
socket removes in any sequence of calls. -/
theorem paths_agree {σ : Type} (env : Env Sys Ans σ) (dm : DataModel) (p : Bytes) :
    (sunPath p).length = sunPathSize ∧
    (∀ (op : PathOperation) o s tr r o' s', (op.perform p).Runs env o s tr r o' s' →
      Handed (.un (sunPath p)) tr ∧
        (∀ e ∈ tr, ∀ address, addressOf e.call = some address → address = .un (sunPath p)) ∧
        ∀ q, r = .returned (some q) → sunPath q = sunPath p) ∧
    (∀ override connectionBacklogSize operation o s tr r o₁ s₁,
      (IPCServerSocket.construct p override connectionBacklogSize operation).Runs env o s tr r o₁ s₁ →
      (override = true → RemovesFile (c_str (sunPath p)) tr) ∧ RemovesOnly (c_str (sunPath p)) tr ∧
        ∀ visits o' s', Session env ServerCall.perform o₁ s₁ visits o' s' → ∀ v ∈ visits,
          (v.call = .close → RemovesFile (c_str (sunPath p)) v.trace) ∧ RemovesOnly (c_str (sunPath p)) v.trace ∧
            sunPath v.obj'.socketPath = sunPath p) ∧
    ∀ s visits o' s', Session env (@DatagramCall.perform dm) {} s visits o' s' → ∀ v ∈ visits, Faithful v := by
  refine ⟨length_sunPath p, ?_, ?_, ?_⟩
  · intro op o s tr r o' s' hrun
    obtain ⟨htr, hreport⟩ := (op.perform_means o).runs hrun
    refine ⟨hrun.post (perform_hands op o s trivial), fun e he address ha => ?_, hreport⟩
    obtain ⟨_, ⟨⟩, h⟩ := (htr e he).1 address ha
    exact h
  · intro override connectionBacklogSize operation o s tr r o₁ s₁ hrun
    obtain ⟨htr, hpath⟩ := (serverConstruct_means override connectionBacklogSize operation o).runs hrun
    refine ⟨?_, fun e he name hname => (htr e he).2 name hname, fun visits o' s' hsession => ?_⟩
    · rintro rfl
      exact hrun.post (server_removes connectionBacklogSize operation o s)
    refine (hsession.invariant (I := fun o _ => o.socketPath = resizePath p) ?_ hpath).2
    intro call o s tr r o' s' ho hrun
    obtain ⟨htr, ho'⟩ := (ServerCall.perform_means call o ho).runs hrun
    refine ⟨ho', ?_, fun e he name hname => (htr e he).2 name hname, by rw [ho', sunPath_resizePath]⟩
    rintro ⟨⟩
    exact hrun.post (serverClose_removes ho s)
  · intro s visits o' s' hsession
    have hstart : Cut {} := nofun
    exact (hsession.invariant (I := fun o _ => Cut o) perform_faithful hstart).2

/-- What an override removes and what is handed to `bind`, when a server is constructed at a path. -/
def namesOf (p : Bytes) : List Bytes × List SockAddr :=
  let run := Kernel.execute (fun _ => false) 3 (IPCServerSocket.construct p true 20 none) ⟨0, []⟩ (.boot [])
  (run.1.filterMap fun e => removedName e.call, run.1.filterMap fun e => addressOf e.call)

/-- A path of 200 bytes, and one with a NUL in it. -/
theorem paths_agree_long_and_nul :
    let long : Bytes := List.replicate 200 97
    let nul : Bytes := [97, 0, 98]
    namesOf long = ([List.replicate 108 97], [.un (List.replicate 108 97)]) ∧
      namesOf nul = ([[97]], [.un (97 :: List.replicate 107 0)]) ∧
      (∀ name ∈ (namesOf long).1, name = c_str (sunPath long)) ∧ ∀ name ∈ (namesOf nul).1, name = c_str (sunPath nul) := by
  have hserver : ∀ p, ∀ name ∈ (namesOf p).1, name = c_str (sunPath p) := by
    intro p name hname
    obtain ⟨e, he, hremoved⟩ := List.mem_filterMap.1 hname
    have hrun := Kernel.execute_runs (fun _ => false) 3 (IPCServerSocket.construct p true 20 none) ⟨0, []⟩ (.boot [])
    exact ((paths_agree _ .lp64 p).2.2.1 _ _ _ _ _ _ _ _ _ hrun).2.1 e he name hremoved
  exact ⟨by decide +kernel, by decide +kernel, hserver _, hserver _⟩

end SocketLibrary.Files
