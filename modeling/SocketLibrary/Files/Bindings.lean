import Mathlib.Tactic
import SocketLibrary.Files.Registry
import SocketLibrary.Files.ServerConstruction
import SocketLibrary.Model.DatagramIPCSocket

/-!
# What the steps of a binding do to the files

The pieces that `IPCServerSocket::constructSocket` and `DatagramIPCSocket::bind` are made of, each as a run that
succeeds: the removal on override, the bind, the listen, and the closing.
-/

namespace SocketLibrary.Files

open SocketLibrary.Interaction SocketLibrary.Posix SocketLibrary.Model

variable {k k' : Kernel} {tr : List (Event Sys Ans Kernel)}

/-- The files without the file `name`, when `override` is set. -/
def cleared (override : Bool) (name : Bytes) (files : Bytes → Option Owner) : Bytes → Option Owner :=
  if override then Function.update files name none else files

/-- The one file removed along the trace is `name`, and it is removed from `files`. -/
def Removes (files : Bytes → Option Owner) (name : Bytes) (tr : List (Event Sys Ans Kernel)) : Prop :=
  (∃ e ∈ tr, e.call = .remove name ∧ e.pre.files = files) ∧
    ∀ e ∈ tr, ∀ path, e.call = .remove path → path = name ∧ e.pre.files = files

/-- A `bind` to a path that succeeds. -/
theorem bound_of_binds {path : Bytes} {fd : SOCKET} {id : ℕ} {result : ℤ} (hlen : path.length ≤ sunPathSize)
    (hid : k.table fd = some id) (h : k.Binds fd (pathAddress path) result k') (hr : result ≠ -1) :
    Bound k.files (c_str path) id k'.files ∧ k'.fresh = k.fresh ∧ k'.table = k.table := by
  obtain ⟨-, id', hid', h⟩ := h.resolve_left fun h => hr h.1
  obtain rfl : id' = id := Option.some_inj.1 (hid'.symm.trans hid)
  rw [fileName_pathAddress hlen] at h
  rcases h with ⟨hnil, rfl⟩ | ⟨hne, hnone, rfl⟩
  · exact ⟨Or.inl ⟨hnil, rfl⟩, rfl, rfl⟩
  · exact ⟨Or.inr ⟨hne, hnone, rfl⟩, rfl, rfl⟩

/-! ## `IPCServerSocket` -/

section Server

variable {o o' : IPCServerSocket}

theorem removeOnOverride_clears {override : Bool} {r : Outcome Exn Unit}
    (h : (IPCServerSocket.removeOnOverride override).Runs Kernel.env o k tr r o' k') :
    o' = o ∧ k'.fresh = k.fresh ∧ k'.files = cleared override (c_str o.socketPath) k.files := by
  refine h.post (Q := fun _ _ o' k' => o' = o ∧ k'.fresh = k.fresh ∧
    k'.files = cleared override (c_str o.socketPath) k.files) ?_
  cases override <;>
    simp [IPCServerSocket.removeOnOverride, IPCSocket.removeSocketPath, cleared, Kernel.removed]

theorem openSocket_opens (h : IPCServerSocket.openSocket.Runs Kernel.env o k tr (.returned ()) o' k') :
    o'.socketPath = o.socketPath ∧ ∃ h0, k' = k.opened o'.socket h0 := by
  rcases h.post (Steps.openSocket_spec o k) with ⟨-, fd, h0, rfl, -, rfl, -⟩ | ⟨hthrew, -⟩
  · exact ⟨rfl, h0, rfl⟩
  · exact hthrew.elim

theorem bindPath_binds (h : IPCServerSocket.bindPath.Runs Kernel.env o k tr (.returned ()) o' k') :
    o' = o ∧ k.Binds o.socket (pathAddress o.socketPath) 0 k' := by
  rcases h.post (Steps.bindPath_spec o k) with ⟨-, rfl, hbind, -⟩ | ⟨l, ⟨hthrew, -⟩, -⟩
  · exact ⟨rfl, hbind⟩
  · exact hthrew.elim

/-- The path is bound by the socket that was just opened. -/
theorem openAndBind_binds {preBindSocketOperation : Option Callback} (hlen : o.socketPath.length ≤ sunPathSize)
    (h : (IPCServerSocket.openAndBind preBindSocketOperation).Runs Kernel.env o k tr (.returned ()) o' k') :
    o'.socketPath = o.socketPath ∧ k'.table o'.socket = some k.fresh ∧ k'.fresh = k.fresh + 1 ∧
      Bound k.files (c_str o.socketPath) k.fresh k'.files := by
  obtain ⟨_, _, o₁, _, _, hopen, h, -⟩ := Method.Runs.of_bind h
  obtain ⟨_, _, o₂, k₂, _, hthis, h, -⟩ := Method.Runs.of_bind h
  obtain ⟨_, _, o₃, _, _, hop, hbind, -⟩ := Method.Runs.of_bind h
  obtain ⟨hpath, h0, rfl⟩ := openSocket_opens hopen
  obtain ⟨rfl, rfl⟩ : o₂ = o₁ ∧ k₂ = k.opened o₁.socket h0 := by
    cases hthis
    exact ⟨rfl, rfl⟩
  obtain ⟨rfl, rfl, -⟩ := hop.post (runOperation_files o₂ _ _ _)
  obtain ⟨rfl, hbind⟩ := bindPath_binds hbind
  rw [hpath] at hbind
  have hid : (k.opened o'.socket h0).table o'.socket = some k.fresh := by simp
  obtain ⟨hbound, hfresh, htable⟩ := bound_of_binds hlen hid hbind (by decide)
  exact ⟨hpath, by rw [htable, hid], hfresh, hbound⟩

theorem startListening_keeps {connectionBacklogSize : UInt32}
    (h : (IPCServerSocket.startListening connectionBacklogSize).Runs Kernel.env o k tr (.returned ()) o' k') :
    o' = o ∧ k' = k := by
  obtain ⟨x, ⟨-, rfl, rfl, -⟩ | ⟨l, ⟨hthrew, -⟩, -⟩⟩ := h.post (Steps.startListening_spec o k connectionBacklogSize)
  · exact ⟨rfl, rfl⟩
  · exact hthrew.elim

/-- `close` removes the file at the path, however often it is called. -/
theorem close_removes {r : Outcome Exn Unit} (h : IPCServerSocket.close.Runs Kernel.env o k tr r o' k') :
    o'.socketPath = o.socketPath ∧ Removes k.files (c_str o.socketPath) tr ∧ k'.fresh = k.fresh ∧
      k'.files = Function.update k.files (c_str o.socketPath) none := by
  obtain ⟨-, rfl, rfl, x, rfl⟩ := h.post (Steps.close_spec o k)
  simp [Removes, Kernel.closed, Kernel.removed]

end Server

/-! ## `DatagramIPCSocket` -/

section Datagram

variable {o o' : DatagramIPCSocket}

theorem datagram_removeOnOverride_clears {override : Bool} {path : Bytes} {r : Outcome Exn Unit}
    (h : (DatagramIPCSocket.removeOnOverride override path).Runs Kernel.env o k tr r o' k') :
    o' = o ∧ k'.fresh = k.fresh ∧ k'.files = cleared override (c_str path) k.files := by
  refine h.post (Q := fun _ _ o' k' => o' = o ∧ k'.fresh = k.fresh ∧
    k'.files = cleared override (c_str path) k.files) ?_
  cases override <;>
    simp [DatagramIPCSocket.removeOnOverride, IPCSocket.removeSocketPath, cleared, Kernel.removed]

theorem datagram_closeIfBound_ends (o : DatagramIPCSocket) (k : Kernel) :
    DatagramIPCSocket.closeIfBound.wp Kernel.env (fun _ r o' k' =>
      r = .returned () ∧ (o'.receiveSocket = -1 ∨ o' = o ∧ k' = k)) o k := by
  simp only [DatagramIPCSocket.closeIfBound, DatagramIPCSocket.close, Method.wp_bind (m := Method.this), Method.wp_this,
    Method.after_returned, Method.wp_ite]
  constructor
  · intro hb
    cases hpath : o.socketPath <;>
      simp [DatagramIPCSocket.removeBoundPath, Socket.close, IPCSocket.removeSocketPath, getInvalidSocketValue, hb, hpath]
  · simp

/-- A binding that succeeds. The object was not bound before, since otherwise the new descriptor is closed again. -/
theorem datagram_openAndBind_binds {path : Bytes} {preBindSocketOperation : Option Callback} {bindResult : ℤ}
    {name : Bytes} (hlen : path.length ≤ sunPathSize) (hr : bindResult ≠ -1)
    (h : (DatagramIPCSocket.openAndBind path preBindSocketOperation).Runs Kernel.env o k tr
      (.returned (bindResult, name)) o' k') :
    o'.bound = true ∧ o'.socketPath = some path ∧ k'.table o'.receiveSocket = some k.fresh ∧
      k'.fresh = k.fresh + 1 ∧ Bound k.files (c_str path) k.fresh k'.files := by
  have key : (DatagramIPCSocket.openAndBind path preBindSocketOperation).wp Kernel.env (fun _ r o' k' =>
      ∀ code name, r = .returned (code, name) → code ≠ -1 → o'.bound = true ∧ o'.socketPath = some path ∧
        k'.table o'.receiveSocket = some k.fresh ∧ k'.fresh = k.fresh + 1 ∧
          Bound k.files (c_str path) k.fresh k'.files) o k := by
    simp only [DatagramIPCSocket.openAndBind, Method.wp_bind (m := sys _), Method.wp_bind (m := Method.modify _), wp_sys,
      Method.after_returned, Method.wp_modify]
    intro fd k₁ hopen
    by_cases hfd : fd = -1
    · simp [hfd, getErrorCode]
    rw [if_neg (by simpa using hfd), Method.wp_bind]
    obtain ⟨h0, -, rfl⟩ := hopen.of_ne hfd
    refine Method.wp_mono (datagram_closeIfBound_ends _ _) ?_
    rintro tr r o₁ k₁ ⟨rfl, hclose⟩
    simp only [Method.after_returned, Method.wp_bind (m := Method.this), Method.wp_this,
      Method.wp_bind (m := runOperation _ _)]
    refine Method.wp_mono (runOperation_files o₁ k₁ _ _) ?_
    rintro tr₁ (_ | _ | _) o₂ k₂ ⟨rfl, rfl, -⟩
    · simp only [Method.after_returned, Method.wp_bind (m := sys _), Method.wp_bind (m := Method.modify _), wp_sys,
        Method.wp_modify]
      intro result k₃ hbind
      by_cases hr : result = -1
      · simp [hr]
      · rw [if_neg hr]
        rcases hclose with hclosed | ⟨rfl, rfl⟩
        · -- `bind` on an invalid descriptor
          rw [hclosed] at hbind
          obtain ⟨-, id, hid, -⟩ := hbind.resolve_left fun h => hr h.1
          rw [Kernel.table_neg_one] at hid
          cases hid
        · have hid : (k.opened fd h0).table fd = some k.fresh := by simp
          obtain ⟨hbound, hfresh, htable⟩ := bound_of_binds hlen hid hbind hr
          simp only [Method.wp_bind, Method.wp_modify, Method.wp_this, Method.after_returned]
          rintro code name - -
          exact ⟨by simpa using hr, rfl, by rw [htable, hid], hfresh, hbound⟩
    · simp
    · simp
  exact h.post key _ _ rfl hr

/-- `close` removes the file at the path if the object is bound. -/
theorem datagram_close_removes {r : Outcome Exn Unit} {path : Bytes} (hb : o.bound = true)
    (hpath : o.socketPath = some path) (h : DatagramIPCSocket.close.Runs Kernel.env o k tr r o' k') :
    o'.bound = false ∧ Removes k.files (c_str path) tr ∧ k'.fresh = k.fresh ∧
      k'.files = Function.update k.files (c_str path) none := by
  refine h.post (Q := fun tr _ o' k' => o'.bound = false ∧
    Removes k.files (c_str path) tr ∧ k'.fresh = k.fresh ∧
      k'.files = Function.update k.files (c_str path) none) ?_
  simp [DatagramIPCSocket.close, DatagramIPCSocket.removeBoundPath, Socket.close, IPCSocket.removeSocketPath, Removes,
    Kernel.closed, Kernel.removed, hb, hpath]

theorem datagram_close_keeps {r : Outcome Exn Unit} (hb : o.bound = false)
    (h : DatagramIPCSocket.close.Runs Kernel.env o k tr r o' k') :
    o'.bound = false ∧ (∀ e ∈ tr, ∀ path, e.call ≠ .remove path) ∧ k'.fresh = k.fresh ∧ k'.files = k.files := by
  refine h.post (Q := fun tr _ o' k' => o'.bound = false ∧ (∀ e ∈ tr, ∀ path, e.call ≠ .remove path) ∧
    k'.fresh = k.fresh ∧ k'.files = k.files) ?_
  cases hpath : o.socketPath <;>
    simp [DatagramIPCSocket.close, DatagramIPCSocket.removeBoundPath, Socket.close, Kernel.closed, hb, hpath]

end Datagram

end SocketLibrary.Files
