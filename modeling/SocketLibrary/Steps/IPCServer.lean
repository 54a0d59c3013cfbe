import Mathlib.Tactic
import SocketLibrary.Model.IPCSocket
import SocketLibrary.Posix.Kernel

/-!
# The steps of an `IPCServerSocket`

What each piece of the construction and `close` do to the object and the kernel, with the calls they make: all that the
statements about its descriptor and about its file need to know.
-/

namespace SocketLibrary.Steps

open SocketLibrary.Interaction SocketLibrary.Posix SocketLibrary.Model

/-- An operation of the user returns or throws; `P` tells the two apart. -/
theorem runOperation_spec {S : Type} {P : Event Sys Ans Kernel → Prop}
    (hP : ∀ k f fd x, P ⟨k, .callback f fd, x⟩ ↔ x = .threw) (operation : Option Callback) (socket : SOCKET) (o : S)
    (k : Kernel) : (runOperation operation socket).wp Kernel.env (fun tr r o' k' => o' = o ∧ k' = k ∧
      (r = .returned () ∧ (¬ ∃ e ∈ tr, P e) ∨ r.Threw ∧ ∃ e ∈ tr, P e)) o k := by
  cases operation with
  | none => simp [runOperation]
  | some f =>
    simp only [runOperation, Method.wp_bind, wp_sys]
    rintro (_ | _) k' rfl
    · simp [hP]
    · simp [hP]

section Server

variable (o : IPCServerSocket) (k : Kernel)

/-- The descriptor is closed and forgotten, and the file at the path is removed. -/
def ClosedServer (tr : List (Event Sys Ans Kernel)) (o' : IPCServerSocket) (k' : Kernel) : Prop :=
  o' = { o with socket := -1 } ∧ k' = (k.closed o.socket).removed (c_str o.socketPath) ∧
    ∃ x, tr = [⟨k, .close o.socket, ()⟩, ⟨k.closed o.socket, .remove (c_str o.socketPath), x⟩]

theorem close_spec : IPCServerSocket.close.wp Kernel.env
    (fun tr r o' k' => r = .returned () ∧ ClosedServer o k tr o' k') o k := by
  simp [IPCServerSocket.close, Socket.close, IPCSocket.removeSocketPath, getInvalidSocketValue, ClosedServer]

/-- A step that fails ends in `close()`, and then the exception. -/
def FailedServer (o : IPCServerSocket) (k : Kernel) : Method.Post Sys Ans Kernel Exn IPCServerSocket Unit :=
  fun tr r o' k' => r.Threw ∧ ∃ l n s, ClosedServer o k l o' k' ∧ tr = l ++ [⟨k', .errno, n⟩, ⟨k', .strerror n, s⟩]

theorem closeAndThrow_spec (what : Bytes → Exn) :
    Method.wp Kernel.env (do
      IPCServerSocket.close
      let code ← getErrorCode
      Method.throw (what code) : M IPCServerSocket Unit) (FailedServer o k) o k := by
  rw [Method.wp_bind]
  refine Method.wp_mono (close_spec o k) ?_
  rintro l r o' k' ⟨rfl, hclosed⟩
  simp only [getErrorCode, Method.after_returned, Method.wp_bind, wp_sys, Method.wp_throw]
  rintro n _ rfl s _ rfl
  exact ⟨trivial, l, n, s, hclosed, rfl⟩

theorem openSocket_spec : IPCServerSocket.openSocket.wp Kernel.env (fun tr r o' k' =>
    r = .returned () ∧ (∃ fd h0, o' = { o with socket := fd } ∧ k.table fd = none ∧ k' = k.opened fd h0 ∧
      tr = [⟨k, .socket AF_UNIX SOCK_STREAM 0, fd⟩]) ∨
    r.Threw ∧ o' = { o with socket := -1 } ∧ k' = k ∧
      ∃ n s, tr = [⟨k, .socket AF_UNIX SOCK_STREAM 0, -1⟩, ⟨k, .errno, n⟩, ⟨k, .strerror n, s⟩]) o k := by
  simp only [IPCServerSocket.openSocket, Method.wp_bind, wp_sys, Method.after_returned, Method.wp_modify]
  intro fd k' hopen
  by_cases hfd : fd = -1
  · subst hfd
    rw [Kernel.env, Kernel.opens_neg_one] at hopen
    simp [hopen, getErrorCode]
  · obtain ⟨h0, hnone, rfl⟩ := hopen.of_ne hfd
    simp [hfd, h0, hnone]

theorem bindPath_spec : IPCServerSocket.bindPath.wp Kernel.env (fun tr r o' k' =>
    r = .returned () ∧ o' = o ∧ k.Binds o.socket (pathAddress o.socketPath) 0 k' ∧
      tr = [⟨k, .bind o.socket (pathAddress o.socketPath) sizeofPathAddress, 0⟩] ∨
    ∃ l, FailedServer o k l r o' k' ∧
      tr = ⟨k, .bind o.socket (pathAddress o.socketPath) sizeofPathAddress, -1⟩ :: l) o k := by
  simp only [IPCServerSocket.bindPath, Method.wp_bind (m := Method.this), Method.wp_bind (m := sys _), Method.wp_this,
    Method.after_returned, wp_sys]
  intro result k' hbind
  by_cases hresult : result = -1
  · subst hresult
    obtain ⟨-, rfl⟩ := hbind.resolve_right fun h => absurd (show (-1 : ℤ) = 0 from h.1) (by decide)
    rw [if_pos rfl]
    refine Method.wp_mono (closeAndThrow_spec o k' _) fun l r o' k'' h => ?_
    exact Or.inr ⟨l, h, rfl⟩
  · have hzero : result = 0 := (hbind.resolve_left fun h => hresult h.1).1
    subst hzero
    rw [if_neg (by decide : ¬ (0 : ℤ) = -1), Method.wp_pure]
    exact Or.inl ⟨rfl, rfl, hbind, rfl⟩

theorem startListening_spec (connectionBacklogSize : UInt32) :
    (IPCServerSocket.startListening connectionBacklogSize).wp Kernel.env (fun tr r o' k' => ∃ x,
      r = .returned () ∧ o' = o ∧ k' = k ∧ tr = [⟨k, .listen o.socket (toInt32 connectionBacklogSize.toNat), x⟩] ∨
      ∃ l, FailedServer o k l r o' k' ∧
        tr = ⟨k, .listen o.socket (toInt32 connectionBacklogSize.toNat), x⟩ :: l) o k := by
  simp only [IPCServerSocket.startListening, Method.wp_bind (m := Method.this), Method.wp_bind (m := sys _),
    Method.wp_this, Method.after_returned, wp_sys]
  rintro result k' rfl
  refine Method.wp_ite.2 ⟨fun _ => ?_, fun _ => ?_⟩
  · refine Method.wp_mono (closeAndThrow_spec o k' _) fun l r o' k'' h => ?_
    exact ⟨result, Or.inr ⟨l, h, rfl⟩⟩
  · rw [Method.wp_pure]
    exact ⟨result, Or.inl ⟨rfl, rfl, rfl, rfl⟩⟩

end Server

end SocketLibrary.Steps
