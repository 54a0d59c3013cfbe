import Mathlib.Tactic
import SocketLibrary.Model.IPCSocket
import SocketLibrary.Model.TCPServerSocket
import SocketLibrary.Posix.Kernel

/-!
# The steps of `accept`

How `accept` of the two listeners may end, with the calls it has made: it throws before there is a descriptor, or a
descriptor has been opened, which the TCP listener may still throw away.
-/

namespace SocketLibrary.Steps

open SocketLibrary.Interaction SocketLibrary.Posix SocketLibrary.Model

/-- A call that waits, or asks why the waiting failed. -/
def Waits : Event Sys Ans Kernel → Prop
  | ⟨_, .select .., _⟩ | ⟨_, .errno, _⟩ | ⟨_, .strerror _, _⟩ => True
  | _ => False

/-- It has waited, and neither the object nor the kernel has changed. -/
def Waited {S : Type} (o : S) (k : Kernel) : Method.Post Sys Ans Kernel Exn S Unit := fun tr r o' k' =>
  (∀ e ∈ tr, Waits e) ∧ o' = o ∧ k' = k ∧ r ≠ .running

/-! ### What both listeners share -/

section Listener

variable {S : Type} {o : S} {k : Kernel}

theorem waited_throw (e : Exn) : (Method.throw e : M S Unit).wp Kernel.env (Waited o k) o k :=
  (Method.wp_throw e).2 ⟨by simp, rfl, rfl, by simp⟩

/-- They wait for the time that is given, if it is. -/
theorem await_waited (fd : S → SOCKET) (timeout : ℤ) {failed : M S Unit}
    (hfailed : failed.wp Kernel.env (Waited o k) o k) (late : Exn) :
    Method.wp Kernel.env (do
      let this ← Method.this
      if 0 < timeout then
        let res ← Socket.pollSocket (fd this) timeout none
        if res = -1 then
          failed
        else if res = 0 then
          Method.throw late) (Waited o k) o k := by
  have hpoll : (Socket.pollSocket (fd o) timeout none).wp Kernel.env
      (fun tr r o' k' => (∀ e ∈ tr, Waits e) ∧ o' = o ∧ k' = k ∧ ∃ x, r = .returned x) o k := by
    unfold Socket.pollSocket
    rw [Method.wp_ite]
    constructor
    · intro _
      exact ⟨by simp, rfl, rfl, -1, rfl⟩
    · intro _
      rw [wp_sys]
      rintro x k' rfl
      exact ⟨by simp [Waits], rfl, rfl, x, rfl⟩
  rw [Method.wp_bind, Method.wp_this, Method.after_returned, Method.wp_ite]
  constructor
  · intro _
    rw [Method.wp_bind]
    refine Method.wp_mono hpoll ?_
    rintro tr r o' k' ⟨htr, rfl, rfl, x, rfl⟩
    rw [Method.after_returned]
    have hrest : ∀ {m : M S Unit}, m.wp Kernel.env (Waited o' k') o' k' →
        m.wp Kernel.env (fun tr' => Waited o' k' ([] ++ (tr ++ tr'))) o' k' := by
      intro m hm
      refine Method.wp_mono hm ?_
      rintro tr' r o₁ k₁ ⟨htr', ho, hk, hr⟩
      rw [List.nil_append]
      exact ⟨List.forall_mem_append.2 ⟨htr, htr'⟩, ho, hk, hr⟩
    rw [Method.wp_ite]
    refine ⟨fun _ => hrest hfailed, fun _ => ?_⟩
    rw [Method.wp_ite]
    exact ⟨fun _ => hrest (waited_throw late), fun _ => hrest ⟨by simp, rfl, rfl, by simp⟩⟩
  · intro _
    exact ⟨by simp, rfl, rfl, by simp⟩

/-- They throw before there is a descriptor, or one has been opened and there is more to do. -/
theorem accept_wp {α : Type} (fd : S → SOCKET) (length : ℕ) {await : M S Unit}
    (hawait : await.wp Kernel.env (Waited o k) o k) (failure : Exn) {f : S → Accepted → M S α}
    {Q : Accepted → Method.Post Sys Ans Kernel Exn S α}
    (hf : ∀ accepted h0, k.table accepted.fd = none →
      (f o accepted).wp Kernel.env (fun tr r o' k' => o' = o ∧ Q accepted tr r o' k') o (k.opened accepted.fd h0)) :
    Method.wp Kernel.env (do
      await
      let this ← Method.this
      let accepted ← sys (.accept (fd this) length)
      if isInvalidSocket accepted.fd then
        Method.throw failure
      else
        f this accepted) (fun tr r o' k' => o' = o ∧ ∃ l, (∀ e ∈ l, Waits e) ∧
      (r.Threw ∧ k' = k ∧ (tr = l ∨ ∃ x, tr = l ++ [⟨k, .accept (fd o) length, x⟩]) ∨
        ∃ accepted l', k.table accepted.fd = none ∧ Q accepted l' r o' k' ∧
          tr = l ++ ⟨k, .accept (fd o) length, accepted⟩ :: l')) o k := by
  rw [Method.wp_bind]
  refine Method.wp_mono hawait ?_
  rintro l r o' k' ⟨hl, rfl, rfl, hr⟩
  cases r with
  | threw e => exact ⟨rfl, l, hl, Or.inl ⟨trivial, rfl, Or.inl rfl⟩⟩
  | running => exact absurd rfl hr
  | returned u =>
    rw [Method.after_returned, Method.wp_bind, Method.wp_this, Method.after_returned, Method.wp_bind, wp_sys]
    intro accepted k₁ hopen
    rw [Method.after_returned, Method.wp_ite, isInvalidSocket_iff, Method.wp_throw]
    constructor
    · intro hfd
      rw [Kernel.env, hfd, Kernel.opens_neg_one] at hopen
      exact ⟨rfl, l, hl, Or.inl ⟨trivial, hopen, Or.inr ⟨accepted, by simp⟩⟩⟩
    · intro hfd
      obtain ⟨h0, hnone, rfl⟩ := Kernel.Opens.of_ne hopen hfd
      refine Method.wp_mono (hf accepted h0 hnone) ?_
      rintro l' r o₁ k₁ ⟨ho, hq⟩
      exact ⟨ho, l, hl, Or.inr ⟨accepted, l', hnone, hq, by simp⟩⟩

end Listener

section TCP

variable (timeout : ℤ) (o : TCPServerSocket) (k : Kernel)

theorem tcpAwaitConnection_spec : (TCPServerSocket.awaitConnection timeout).wp Kernel.env (Waited o k) o k := by
  refine await_waited TCPServerSocket.socketDescriptor timeout ?_ _
  simp [getErrorCode, Waited, Waits]

/-- The address of the accepted connection has been asked for; without a text for it there is an exception. -/
def Decoded (accepted : Accepted) (k : Kernel) (tr : List (Event Sys Ans Kernel)) (r : Outcome Exn TCPSocket) : Prop :=
  ∃ source size written,
    tr = [⟨k, .inet_ntop (getInternetProtocolVersion accepted.address).toInt source size, written⟩] ∧
    (hostText (getInternetProtocolVersion accepted.address) size written = none ∧ r.Threw ∨
      ∃ socket, hostText (getInternetProtocolVersion accepted.address) size written ≠ none ∧ r = .returned socket ∧
        socket.socketDescriptor = accepted.fd)

theorem tcpAccept_spec : (TCPServerSocket.accept timeout).wp Kernel.env (fun tr r o' k' => o' = o ∧
    ∃ l, (∀ e ∈ l, Waits e) ∧
      (r.Threw ∧ k' = k ∧ (tr = l ∨ ∃ x, tr = l ++ [⟨k, .accept o.socketDescriptor sizeofSocketAddress, x⟩]) ∨
        ∃ accepted h0 l', k.table accepted.fd = none ∧ k' = k.opened accepted.fd h0 ∧ Decoded accepted k' l' r ∧
          tr = l ++ ⟨k, .accept o.socketDescriptor sizeofSocketAddress, accepted⟩ :: l')) o k := by
  unfold TCPServerSocket.accept
  refine Method.wp_mono (accept_wp TCPServerSocket.socketDescriptor _ (tcpAwaitConnection_spec timeout o k) _
    (Q := fun accepted tr r _ k' => ∃ h0, k' = k.opened accepted.fd h0 ∧ Decoded accepted k' tr r) ?_) ?_
  · intro accepted h0 _
    simp only [getAddress, Method.wp_bind, wp_sys, Method.after_returned, Method.wp_pure]
    rintro written k' rfl
    cases hhost : hostText (getInternetProtocolVersion accepted.address)
        (if getInternetProtocolVersion accepted.address = .IPV6 then INET6_ADDRSTRLEN else INET_ADDRSTRLEN)
        written with
    | none => exact ⟨rfl, h0, rfl, _, _, written, rfl, Or.inl ⟨hhost, trivial⟩⟩
    | some hostname => exact ⟨rfl, h0, rfl, _, _, written, rfl, Or.inr ⟨_, by simp [hhost], rfl, rfl⟩⟩
  · rintro tr r o' k' ⟨ho, l, hl, hthrew | ⟨accepted, l', hnone, ⟨h0, hk, hdecoded⟩, htr⟩⟩
    · exact ⟨ho, l, hl, Or.inl hthrew⟩
    · exact ⟨ho, l, hl, Or.inr ⟨accepted, h0, l', hnone, hk, hdecoded, htr⟩⟩

end TCP

section IPC

variable (timeout : ℤ) (o : IPCServerSocket) (k : Kernel)

theorem ipcAwaitConnection_spec : (IPCServerSocket.awaitConnection timeout).wp Kernel.env (Waited o k) o k :=
  await_waited IPCServerSocket.socket timeout (waited_throw _) _

theorem ipcAccept_spec : (IPCServerSocket.accept timeout).wp Kernel.env (fun tr r o' k' => o' = o ∧
    ∃ l, (∀ e ∈ l, Waits e) ∧
      (r.Threw ∧ k' = k ∧ (tr = l ∨ ∃ x, tr = l ++ [⟨k, .accept o.socket sizeofPathAddress, x⟩]) ∨
        ∃ accepted h0 socket, k.table accepted.fd = none ∧ k' = k.opened accepted.fd h0 ∧ r = .returned socket ∧
          socket.socket = accepted.fd ∧ tr = l ++ [⟨k, .accept o.socket sizeofPathAddress, accepted⟩])) o k := by
  unfold IPCServerSocket.accept
  refine Method.wp_mono (accept_wp IPCServerSocket.socket _ (ipcAwaitConnection_spec timeout o k) _
    (Q := fun accepted tr r _ k' => ∃ h0, k' = k.opened accepted.fd h0 ∧ tr = [] ∧ ∃ socket : StreamIPCSocket,
      r = .returned socket ∧ socket.socket = accepted.fd) ?_) ?_
  · intro accepted h0 _
    exact ⟨rfl, h0, rfl, rfl, _, rfl, rfl⟩
  · rintro tr r o' k' ⟨ho, l, hl, hthrew | ⟨accepted, l', hnone, ⟨h0, hk, rfl, socket, hr, hfd⟩, htr⟩⟩
    · exact ⟨ho, l, hl, Or.inl hthrew⟩
    · exact ⟨ho, l, hl, Or.inr ⟨accepted, h0, socket, hnone, hk, hr, hfd, htr⟩⟩

end IPC

end SocketLibrary.Steps
