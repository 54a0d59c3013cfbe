import SocketLibrary.Model.DatagramIPCSocket
import SocketLibrary.Model.TCPServerSocket
import SocketLibrary.Model.UDPSocket
import SocketLibrary.Steps.Accept
import SocketLibrary.Steps.IPCServer

/-!
# Descriptors after an exception

No class has a destructor, so an operation that throws after it has opened a descriptor must close it by hand. The
operations that open one are taken together (`Opening`); `exception_closes_iff` says on which outcomes of the calls an
exception leaves the set of open descriptors as it was.
-/

namespace SocketLibrary.Descriptors

open SocketLibrary.Interaction SocketLibrary.Posix SocketLibrary.Model

/-- The operations that open a descriptor and may throw, with their arguments. -/
inductive Opening where
  | tcpSocket (address : SocketAddress)
  | streamIPCSocket (socketPath : Bytes)
  | tcpServerSocket (localHostname : Option Bytes) (port : UInt16) (connectionBacklogSize : UInt32)
      (protocolVersion : InternetProtocolVersion) (preBindSocketOperation : Option Callback)
  | ipcServerSocket (socketPath : Bytes) (override : Bool) (connectionBacklogSize : UInt32)
      (preBindSocketOperation : Option Callback)
  | accept (timeout : ℤ)
  | udpSendTo (address : SocketAddress) (message : Bytes) (flags : ℤ)
  | udpSendBufferTo (address : SocketAddress) (buffer : Bytes) (bufferLength flags : ℤ)
  | udpSendToHost (hostname : Bytes) (port : UInt16) (message : Bytes) (flags : ℤ)
      (protocolVersion : InternetProtocolVersion)
  | udpSendBufferToHost (hostname : Bytes) (port : UInt16) (buffer : Bytes) (bufferLength flags : ℤ)
      (protocolVersion : InternetProtocolVersion)
  | datagramSendTo (path message : Bytes) (flags : ℤ)
  | datagramSendBufferTo (path buffer : Bytes) (bufferLength flags : ℤ)

namespace Opening

/-- The class of the object the operation is called on, or constructs. -/
def Obj : Opening → Type
  | tcpSocket .. => TCPSocket
  | streamIPCSocket .. => StreamIPCSocket
  | tcpServerSocket .. | accept .. => TCPServerSocket
  | ipcServerSocket .. => IPCServerSocket
  | udpSendTo .. | udpSendBufferTo .. | udpSendToHost .. | udpSendBufferToHost .. => UDPSocket
  | datagramSendTo .. | datagramSendBufferTo .. => DatagramIPCSocket

/-- The type of its result. -/
def Res : Opening → Type
  | tcpSocket .. | streamIPCSocket .. | tcpServerSocket .. | ipcServerSocket .. => Unit
  | accept .. => TCPSocket
  | udpSendToHost .. | udpSendBufferToHost .. => ℤ × SocketAddress
  | udpSendTo .. | udpSendBufferTo .. | datagramSendTo .. | datagramSendBufferTo .. => ℤ

def perform : (op : Opening) → M op.Obj op.Res
  | tcpSocket address => TCPSocket.constructFromAddress address
  | streamIPCSocket socketPath => StreamIPCSocket.construct socketPath
  | tcpServerSocket localHostname port connectionBacklogSize protocolVersion preBindSocketOperation =>
    TCPServerSocket.construct localHostname port connectionBacklogSize protocolVersion preBindSocketOperation
  | ipcServerSocket socketPath override connectionBacklogSize preBindSocketOperation =>
    IPCServerSocket.construct socketPath override connectionBacklogSize preBindSocketOperation
  | accept timeout => TCPServerSocket.accept timeout
  | udpSendTo address message flags => UDPSocket.sendTo address message flags
  | udpSendBufferTo address buffer bufferLength flags => UDPSocket.sendBufferTo address buffer bufferLength flags
  | udpSendToHost hostname port message flags protocolVersion =>
    UDPSocket.sendToHost hostname port message flags protocolVersion
  | udpSendBufferToHost hostname port buffer bufferLength flags protocolVersion =>
    UDPSocket.sendBufferToHost hostname port buffer bufferLength flags protocolVersion
  | datagramSendTo path message flags => DatagramIPCSocket.sendTo path message flags
  | datagramSendBufferTo path buffer bufferLength flags =>
    DatagramIPCSocket.sendBufferTo path buffer bufferLength flags

end Opening

/-! ## The answers that strand a descriptor -/

/-- `connect` or `setsockopt` failed, or an operation of the user threw. -/
def Strands : Event Sys Ans Kernel → Prop
  | ⟨_, .connect .., result⟩ => result ≠ 0
  | ⟨_, .setsockopt .., result⟩ => result ≠ 0
  | ⟨_, .callback .., ending⟩ => ending = .threw
  | _ => False

/-- The version of an address family that `inet_ntop` was given. -/
def versionOf (family : ℤ) : InternetProtocolVersion :=
  if family = AF_INET then .IPV4 else if family = AF_INET6 then .IPV6 else .Any

/-- The address that `inet_ntop` was given has no text. -/
def Undecoded : Event Sys Ans Kernel → Prop
  | ⟨_, .inet_ntop family _ size, written⟩ => hostText (versionOf family) size written = none
  | _ => False

/-- What makes the operation throw with its descriptor still open. -/
def Opening.Strands : Opening → Event Sys Ans Kernel → Prop
  | .accept _ => Undecoded
  | _ => Descriptors.Strands

theorem versionOf_toInt (address : SocketAddress) :
    versionOf (getInternetProtocolVersion address).toInt = getInternetProtocolVersion address := by
  simp only [getInternetProtocolVersion]
  split_ifs with h
  · rcases h with h | h <;> rw [h] <;> rfl
  · rfl

/-! ## What a piece of an operation does to the open descriptors -/

section Pieces

variable {S α β : Type}

/-- How a piece of an operation may end that runs while the object stores the open descriptor `fd o`: it leaves the
table as it is when it returns, and closes `fd o` when it throws, except after an answer that strands it. -/
def Settled (fd : S → SOCKET) (o : S) (k : Kernel) : Method.Post Sys Ans Kernel Exn S α := fun tr r o' k' =>
  match r with
  | .returned _ => (¬ ∃ e ∈ tr, Strands e) ∧ fd o' = fd o ∧ k'.table = k.table
  | .threw _ => (∃ e ∈ tr, Strands e) ∧ k'.table = k.table ∨
      (¬ ∃ e ∈ tr, Strands e) ∧ k'.table = Function.update k.table (fd o) none
  | .running => False

/-- Every run of the piece ends so. -/
def Settles (fd : S → SOCKET) (m : M S α) : Prop := ∀ o k, m.wp Kernel.env (Settled fd o k) o k

/-- What came before makes no difference if it strands nothing and keeps the descriptor and the table. -/
theorem Settled.append {fd : S → SOCKET} {o o₁ o' : S} {k k₁ k' : Kernel} {l tr : List (Event Sys Ans Kernel)}
    {r : Outcome Exn α} (hl : ¬ ∃ e ∈ l, Strands e) (hfd : fd o₁ = fd o) (hk : k₁.table = k.table)
    (h : Settled fd o₁ k₁ tr r o' k') : Settled fd o k (l ++ tr) r o' k' := by
  cases r with
  | returned a => simpa only [Settled, exists_append_iff hl, hfd, hk] using h
  | threw e => simpa only [Settled, exists_append_iff hl, hfd, hk] using h
  | running => exact h

/-- Pieces that settle their descriptor settle it together. -/
theorem Settles.bind {fd : S → SOCKET} {m : M S α} {f : α → M S β} (hm : Settles fd m) (hf : ∀ a, Settles fd (f a)) :
    Settles fd (m >>= f) := by
  intro o k
  rw [Method.wp_bind]
  refine Method.wp_mono (hm o k) ?_
  rintro tr (a | e | _) o' k' h
  · obtain ⟨hs, hfd, hk⟩ := h
    rw [Method.after_returned]
    refine Method.wp_mono (hf a o' k') ?_
    intro tr' r o'' k'' h'
    exact Settled.append hs hfd hk h'
  · exact h
  · exact h

theorem this_settles (fd : S → SOCKET) : Settles fd (Method.this : M S S) := by
  intro o k
  simp [Settled]

/-- An operation of the user returns, or strands what is open by throwing. -/
theorem runOperation_strands (operation : Option Callback) (socket : SOCKET) (o : S) (k : Kernel) :
    (runOperation operation socket).wp Kernel.env (fun tr r o' k' => o' = o ∧ k' = k ∧
      (r = .returned () ∧ (¬ ∃ e ∈ tr, Strands e) ∨ r.Threw ∧ ∃ e ∈ tr, Strands e)) o k :=
  Steps.runOperation_spec (fun _ _ _ _ => Iff.rfl) operation socket o k

theorem runOperation_settles (fd : S → SOCKET) (operation : Option Callback) (socket : SOCKET) :
    Settles fd (runOperation operation socket) := by
  intro o k
  refine Method.wp_mono (runOperation_strands operation socket o k) ?_
  rintro tr r o' k' ⟨rfl, rfl, ⟨rfl, hs⟩ | ⟨hr, hs⟩⟩
  · exact ⟨hs, rfl, rfl⟩
  · obtain ⟨e, rfl⟩ := hr.exists_eq
    exact Or.inl ⟨hs, rfl⟩

end Pieces

section Listeners

/-- The cleanup of a step that failed. -/
theorem closeAndThrow_settles (what : Bytes → Exn) :
    Settles TCPServerSocket.socketDescriptor (do
      TCPServerSocket.close
      let code ← getErrorCode
      Method.throw (what code) : M TCPServerSocket Unit) := by
  intro o k
  simp [TCPServerSocket.close, Socket.close, getErrorCode, Settled, Strands]

/-- The same after a call that strands nothing. -/
theorem closeAndThrow_settled (what : Bytes → Exn) {o : TCPServerSocket} {k k' : Kernel} {e : Event Sys Ans Kernel}
    (he : ¬ Strands e) (hk : k'.table = k.table) :
    Method.wp Kernel.env (do
      TCPServerSocket.close
      let code ← getErrorCode
      Method.throw (what code) : M TCPServerSocket Unit)
      (fun tr => Settled TCPServerSocket.socketDescriptor o k ([e] ++ tr)) o k' := by
  refine Method.wp_mono (closeAndThrow_settles what o k') ?_
  intro tr r o' k'' h
  exact Settled.append (by simpa using he) rfl hk h

theorem initialisePortNumber_settles : Settles TCPServerSocket.socketDescriptor TCPServerSocket.initialisePortNumber := by
  intro o k
  unfold TCPServerSocket.initialisePortNumber socketToAddress
  rw [Method.wp_bind, Method.wp_this, Method.after_returned, Method.wp_bind_assoc, Method.wp_bind, wp_sys]
  rintro ⟨result, address⟩ k' rfl
  rw [Method.after_returned, Method.wp_bind, Method.wp_pure, Method.after_returned]
  by_cases h : result = -1
  · subst h
    exact closeAndThrow_settled _ id rfl
  · rw [if_neg h]
    exact ⟨by simp [Strands], rfl, rfl⟩

theorem enableReuse_settles : Settles TCPServerSocket.socketDescriptor TCPServerSocket.enableReuse := by
  intro o k
  simp only [TCPServerSocket.enableReuse, Method.wp_bind, Method.wp_this, Method.after_returned, wp_sys]
  rintro result k' rfl
  by_cases h : result = 0
  · simp [h, Settled, Strands]
  · simp [h, getErrorCode, Settled, Strands]

theorem bindAddress_settles : Settles TCPServerSocket.socketDescriptor TCPServerSocket.bindAddress := by
  intro o k
  unfold TCPServerSocket.bindAddress
  rw [Method.wp_bind, Method.wp_this, Method.after_returned, Method.wp_bind, wp_sys]
  intro result k' hbind
  have htable := Kernel.Binds.table hbind
  rw [Method.after_returned, Method.wp_ite]
  constructor
  · intro _
    exact closeAndThrow_settled _ id htable
  · intro _
    rw [Method.wp_ite]
    constructor
    · intro _
      have hport : Settles TCPServerSocket.socketDescriptor (do
          TCPServerSocket.initialisePortNumber
          Method.modify fun this => { this with serverAddress := this.serverAddress.setSinPort (htons this.port) }) :=
        initialisePortNumber_settles.bind fun _ o k => ⟨by simp, rfl, rfl⟩
      refine Method.wp_mono (hport o k') ?_
      intro tr r o' k'' h
      exact Settled.append (l := [_]) (by simp [Strands]) rfl htable h
    · intro _
      exact ⟨by simp [Strands], rfl, htable⟩

theorem startListening_settles (connectionBacklogSize : UInt32) :
    Settles TCPServerSocket.socketDescriptor (TCPServerSocket.startListening connectionBacklogSize) := by
  intro o k
  unfold TCPServerSocket.startListening
  rw [Method.wp_bind, Method.wp_this, Method.after_returned, Method.wp_bind, wp_sys]
  rintro result k' rfl
  rw [Method.after_returned, Method.wp_ite]
  constructor
  · intro _
    exact closeAndThrow_settled _ id rfl
  · intro _
    exact ⟨by simp [Strands], rfl, rfl⟩

/-- The cleanup of a step that failed closes the descriptor. -/
theorem failed_settled {o o' : IPCServerSocket} {k k' : Kernel} {tr : List (Event Sys Ans Kernel)}
    {r : Outcome Exn Unit} (h : Steps.FailedServer o k tr r o' k') :
    Settled IPCServerSocket.socket o k tr r o' k' := by
  obtain ⟨hr, l, n, s, ⟨-, hk, x, rfl⟩, rfl⟩ := h
  have htable : k'.table = Function.update k.table o.socket none := by simp [hk]
  obtain ⟨e, rfl⟩ := hr.exists_eq
  have hs : ¬ ∃ e ∈ [⟨k, .close o.socket, ()⟩, ⟨k.closed o.socket, .remove (c_str o.socketPath), x⟩] ++
      [⟨k', .errno, n⟩, ⟨k', .strerror n, s⟩], Strands e := by simp [Strands]
  exact Or.inr ⟨hs, htable⟩

theorem bindPath_settles : Settles IPCServerSocket.socket IPCServerSocket.bindPath := by
  intro o k
  refine Method.wp_mono (Steps.bindPath_spec o k) ?_
  rintro tr r o' k' (⟨rfl, rfl, hbind, rfl⟩ | ⟨l, hfailed, rfl⟩)
  · exact ⟨by simp [Strands], rfl, Kernel.Binds.table hbind⟩
  · exact Settled.append (l := [_]) (by simp [Strands]) rfl rfl (failed_settled hfailed)

theorem ipcStartListening_settles (connectionBacklogSize : UInt32) :
    Settles IPCServerSocket.socket (IPCServerSocket.startListening connectionBacklogSize) := by
  intro o k
  refine Method.wp_mono (Steps.startListening_spec o k connectionBacklogSize) ?_
  rintro tr r o' k' ⟨x, ⟨rfl, rfl, rfl, rfl⟩ | ⟨l, hfailed, rfl⟩⟩
  · exact ⟨by simp [Strands], rfl, rfl⟩
  · exact Settled.append (l := [_]) (by simp [Strands]) rfl rfl (failed_settled hfailed)

end Listeners

/-! ## From the opening of the descriptor to the end -/

section Whole

variable {S α : Type}

/-- How an operation may end: without an exception; with one and the table as it was; or with one after an answer that
strands its descriptor. -/
def Ended (strands : Event Sys Ans Kernel → Prop) (k : Kernel) : Method.Post Sys Ans Kernel Exn S α := fun tr r _ k' =>
  (¬ r.Threw ∧ ¬ ∃ e ∈ tr, strands e) ∨ (r.Threw ∧ k'.table = k.table ∧ ¬ ∃ e ∈ tr, strands e) ∨
    (r.Threw ∧ (∃ fd, k.table fd = none ∧ k'.table fd ≠ none) ∧ ∃ e ∈ tr, strands e)

theorem Ended.iff {strands : Event Sys Ans Kernel → Prop} {k k' : Kernel} {tr : List (Event Sys Ans Kernel)}
    {r : Outcome Exn α} {o : S} (h : Ended strands k tr r o k') :
    (r.Threw → k'.openDescriptors = k.openDescriptors) ↔ ¬ ∃ e ∈ tr, strands e := by
  rcases h with ⟨hr, hs⟩ | ⟨-, hk, hs⟩ | ⟨hr, ⟨fd, hfd, hfd'⟩, hs⟩
  · exact iff_of_true (fun h => absurd h hr) hs
  · exact iff_of_true (fun _ => by simp [Kernel.openDescriptors, hk]) hs
  · refine iff_of_false (fun h => ?_) (not_not_intro hs)
    have hmem : fd ∈ k'.openDescriptors := hfd'
    rw [h hr] at hmem
    exact hmem hfd

/-- What came before makes no difference if it strands nothing. -/
theorem Ended.append {strands : Event Sys Ans Kernel → Prop} {k k' : Kernel} {l tr : List (Event Sys Ans Kernel)}
    {r : Outcome Exn α} {o : S} (htr : ¬ ∃ e ∈ l, strands e) (h : Ended strands k tr r o k') :
    Ended strands k (l ++ tr) r o k' := by
  simp only [Ended, exists_append_iff htr] at h ⊢
  exact h

/-- A piece that throws after the descriptor was opened. -/
theorem Settled.ended {β : Type} {fd : S → SOCKET} {o o' : S} {k k' : Kernel} {tr : List (Event Sys Ans Kernel)}
    {e : Exn} {h0 : 0 ≤ fd o} (hnone : k.table (fd o) = none)
    (h : Settled fd o (k.opened (fd o) h0) tr (.threw e : Outcome Exn α) o' k') :
    Ended Strands k tr (.threw e : Outcome Exn β) o' k' := by
  rcases h with ⟨hs, hk⟩ | ⟨hs, hk⟩
  · have hopen : k'.table (fd o) ≠ none := by simp [hk]
    exact Or.inr (Or.inr ⟨trivial, ⟨fd o, hnone, hopen⟩, hs⟩)
  · have htable : k'.table = k.table := by simp [hk, ← hnone]
    exact Or.inr (Or.inl ⟨trivial, htable, hs⟩)

/-- How the opening piece of an operation may end: with the new descriptor stored, or with an exception and nothing
opened. -/
def Opened (fd : S → SOCKET) (k : Kernel) : Method.Post Sys Ans Kernel Exn S α := fun tr r o' k' =>
  (¬ ∃ e ∈ tr, Strands e) ∧ (r.Threw ∧ k' = k ∨ (∃ a, r = .returned a) ∧ fd o' ≠ -1 ∧ k.Opens (fd o') k')

/-- **Opening a descriptor and going on with pieces that settle it.** -/
theorem Opened.bind {β : Type} {fd : S → SOCKET} {o : S} {k : Kernel} {m : M S α} {f : α → M S β}
    (hm : m.wp Kernel.env (Opened fd k) o k) (hf : ∀ a, Settles fd (f a)) :
    (m >>= f).wp Kernel.env (Ended Strands k) o k := by
  rw [Method.wp_bind]
  refine Method.wp_mono hm ?_
  rintro tr r o₁ k₁ ⟨htr, ⟨hr, rfl⟩ | ⟨⟨a, rfl⟩, hfd, hopen⟩⟩
  · obtain ⟨e, rfl⟩ := hr.exists_eq
    exact Or.inr (Or.inl ⟨trivial, rfl, htr⟩)
  · obtain ⟨h0, hnone, rfl⟩ := hopen.of_ne hfd
    rw [Method.after_returned]
    refine Method.wp_mono (hf a o₁ _) ?_
    rintro tr' (b | e | _) o' k' h
    · exact Ended.append htr (Or.inl ⟨id, h.1⟩)
    · exact Ended.append htr (Settled.ended hnone h)
    · exact h.elim

/-- The shape that the constructors of both clients have. -/
theorem client_ended (domain type protocol : ℤ) (store : SOCKET → S → S) (address : SockAddr) (addressLength : ℕ)
    (connected : S → S) (invalid refused : Bytes → Exn) (o : S) (k : Kernel) :
    Method.wp Kernel.env (do
      let socket ← sys (.socket domain type protocol)
      Method.modify (store socket)
      if isInvalidSocket socket then
        let code ← getErrorCode
        Method.throw (invalid code)
      else
        let connectionResult ← sys (.connect socket address addressLength)
        if connectionResult = 0 then
          Method.modify connected
        else
          let code ← getErrorCode
          Method.throw (refused code) : M S Unit) (Ended Strands k) o k := by
  simp only [Method.wp_bind, Method.wp_modify, Method.after_returned, wp_sys]
  intro fd k' hopen
  by_cases hfd : fd = -1
  · subst hfd
    rw [Kernel.env, Kernel.opens_neg_one] at hopen
    simp [hopen, getErrorCode, Ended, Strands]
  · obtain ⟨h0, hnone, rfl⟩ := hopen.of_ne hfd
    simp only [isInvalidSocket_iff, hfd, if_false, Method.wp_bind, wp_sys, Method.after_returned]
    rintro result k' rfl
    by_cases hresult : result = 0
    · simp [hresult, Ended, Strands]
    · have hopen : (k.opened fd h0).table fd ≠ none := by simp
      have hleft : ∃ fd', k.table fd' = none ∧ (k.opened fd h0).table fd' ≠ none := ⟨fd, hnone, hopen⟩
      simpa [hresult, getErrorCode, Ended, Strands] using hleft

theorem tcpSocket_ended (address : SocketAddress) (o : TCPSocket) (k : Kernel) :
    (TCPSocket.constructFromAddress address).wp Kernel.env (Ended Strands k) o k := by
  rw [TCPSocket.constructFromAddress, getAddress, Method.wp_bind_assoc, Method.wp_bind, wp_sys]
  rintro written k rfl
  rw [Method.after_returned, Method.wp_bind, Method.wp_pure, Method.after_returned]
  refine Method.wp_mono (client_ended _ _ _ _ _ _ _ _ _ o k) fun tr r o' k' h => ?_
  exact Ended.append (l := [_]) (by simp [Strands]) h

theorem streamIPCSocket_ended (socketPath : Bytes) (o : StreamIPCSocket) (k : Kernel) :
    (StreamIPCSocket.construct socketPath).wp Kernel.env (Ended Strands k) o k := by
  simp only [StreamIPCSocket.construct, StreamIPCSocket.constructSocket, Method.wp_bind (m := Method.modify _),
    Method.wp_bind (m := Method.this), Method.wp_modify, Method.wp_this, Method.after_returned]
  exact client_ended AF_UNIX SOCK_STREAM 0 (fun socket (this : StreamIPCSocket) => { this with socket := socket }) _ _
    id _ _ _ k

theorem tcpOpenSocket_opened (localHostname : Option Bytes) (o : TCPServerSocket) (k : Kernel) :
    (TCPServerSocket.openSocket localHostname).wp Kernel.env (Opened TCPServerSocket.socketDescriptor k) o k := by
  simp only [TCPServerSocket.openSocket, resolveToAddresses, Method.wp_bind, Method.wp_this, Method.after_returned,
    wp_sys]
  rintro ⟨result, addresses⟩ k rfl
  by_cases hresult : result ≠ 0 ∨ addresses = []
  · simp [hresult, getErrorCode, Opened, Strands]
  · simp only [hresult, if_false, Method.wp_pure, Method.after_returned, Method.wp_bind, wp_sys]
    intro fd k' hopen
    by_cases hfd : fd = -1
    · subst hfd
      rw [Kernel.env, Kernel.opens_neg_one] at hopen
      simp [hopen, getErrorCode, Opened, Strands]
    · simpa [hfd, Opened, Strands] using hopen

theorem tcpServerSocket_ended (localHostname : Option Bytes) (port : UInt16) (connectionBacklogSize : UInt32)
    (protocolVersion : InternetProtocolVersion) (preBindSocketOperation : Option Callback) (o : TCPServerSocket)
    (k : Kernel) :
    (TCPServerSocket.construct localHostname port connectionBacklogSize protocolVersion preBindSocketOperation).wp
      Kernel.env (Ended Strands k) o k := by
  simp only [TCPServerSocket.construct, TCPServerSocket.constructSocket, Method.wp_bind (m := Method.modify _),
    Method.wp_modify, Method.after_returned]
  refine Opened.bind (tcpOpenSocket_opened _ _ _) fun _ => enableReuse_settles.bind fun _ => ?_
  refine (this_settles _).bind fun this => (runOperation_settles _ _ _).bind fun _ => ?_
  exact bindAddress_settles.bind fun _ => startListening_settles _

theorem ipcOpenSocket_opened (o : IPCServerSocket) (k : Kernel) :
    IPCServerSocket.openSocket.wp Kernel.env (Opened IPCServerSocket.socket k) o k := by
  refine Method.wp_mono (Steps.openSocket_spec o k) ?_
  rintro tr r o' k' (⟨rfl, fd, h0, rfl, hnone, rfl, rfl⟩ | ⟨hr, -, rfl, n, s, rfl⟩)
  · have hfd : fd ≠ -1 := fun h => absurd (h ▸ h0) (by decide)
    exact ⟨by simp [Strands], Or.inr ⟨⟨(), rfl⟩, hfd, Or.inr ⟨h0, hnone, rfl⟩⟩⟩
  · exact ⟨by simp [Strands], Or.inl ⟨hr, rfl⟩⟩

theorem ipcServerSocket_ended (socketPath : Bytes) (override : Bool) (connectionBacklogSize : UInt32)
    (preBindSocketOperation : Option Callback) (o : IPCServerSocket) (k : Kernel) :
    (IPCServerSocket.construct socketPath override connectionBacklogSize preBindSocketOperation).wp Kernel.env
      (Ended Strands k) o k := by
  have hrest : ∀ o k, (IPCServerSocket.openAndBind preBindSocketOperation >>= fun _ =>
      IPCServerSocket.startListening connectionBacklogSize).wp Kernel.env (Ended Strands k) o k := by
    intro o k
    rw [IPCServerSocket.openAndBind, Method.wp_bind_assoc]
    refine Opened.bind (ipcOpenSocket_opened o k) fun _ => ?_
    refine Settles.bind ?_ fun _ => ipcStartListening_settles _
    exact (this_settles _).bind fun this => (runOperation_settles _ _ _).bind fun _ => bindPath_settles
  simp only [IPCServerSocket.construct, IPCServerSocket.constructSocket, IPCServerSocket.removeOnOverride,
    IPCSocket.removeSocketPath, Method.wp_bind (m := Method.modify _), Method.wp_modify, Method.after_returned]
  cases override with
  | false => simpa using hrest _ _
  | true =>
    rw [Method.wp_bind]
    simp only [if_true, Method.wp_bind (m := Method.this), Method.wp_bind (m := sys _), Method.wp_this, wp_sys,
      Method.after_returned, Method.wp_pure]
    rintro result k' rfl
    refine Method.wp_mono (hrest _ _) fun tr r o' k' h => ?_
    -- the removal of a file does not touch the table
    have hk : Ended Strands k tr r o' k' := h
    exact Ended.append (l := [_]) (by simp [Strands]) hk

/-- Waiting decodes no address. -/
theorem not_undecoded_of_waits {l : List (Event Sys Ans Kernel)} (hl : ∀ e ∈ l, Steps.Waits e) :
    ¬ ∃ e ∈ l, Undecoded e := by
  rintro ⟨⟨k, c, x⟩, he, hu⟩
  cases c with
  | inet_ntop family source size => exact hl _ he
  | _ => exact hu

theorem accept_ended (timeout : ℤ) (o : TCPServerSocket) (k : Kernel) :
    (TCPServerSocket.accept timeout).wp Kernel.env (Ended Undecoded k) o k := by
  refine Method.wp_mono (Steps.tcpAccept_spec timeout o k) ?_
  rintro tr r o k' ⟨rfl, l, hl, ⟨hr, rfl, htr⟩ | ⟨accepted, h0, l', hnone, rfl, hdecoded, rfl⟩⟩
  · have hs : ¬ ∃ e ∈ tr, Undecoded e := by
      rcases htr with rfl | ⟨x, rfl⟩
      · exact not_undecoded_of_waits hl
      · exact not_exists_append (not_undecoded_of_waits hl) (by simp [Undecoded])
    exact Or.inr (Or.inl ⟨hr, rfl, hs⟩)
  · refine Ended.append (o := o) (not_undecoded_of_waits hl) ?_
    obtain ⟨source, size, written, rfl, ⟨hhost, hr⟩ | ⟨socket, hhost, rfl, -⟩⟩ := hdecoded
    · have hopen : (k.opened accepted.fd h0).table accepted.fd ≠ none := by simp
      refine Or.inr (Or.inr ⟨hr, ⟨accepted.fd, hnone, hopen⟩, ?_⟩)
      simpa [Undecoded, versionOf_toInt] using hhost
    · refine Or.inl ⟨id, ?_⟩
      simpa [Undecoded, versionOf_toInt] using hhost

/-- How `sendTo` may end: without an exception and the table as it was, or with the exception of the user's operation
and one more open descriptor. -/
def Sent (o : S) (k : Kernel) : Method.Post Sys Ans Kernel Exn S α := fun tr r o' k' => o' = o ∧
  (¬ r.Threw ∧ k'.table = k.table ∧ (¬ ∃ e ∈ tr, Strands e) ∨
    r.Threw ∧ (∃ fd, k.table fd = none ∧ k'.table = Function.update k.table fd (some k.fresh)) ∧ ∃ e ∈ tr, Strands e)

/-- The shape that `sendTo` has in both classes. -/
theorem send_spec (domain type protocol : ℤ) (operation : S → Option Callback) (buffer : Bytes)
    (bufferLength flags : ℤ) (address : SockAddr) (addressLength : ℕ) (o : S) (k : Kernel) :
    Method.wp Kernel.env (do
      let tempSocket ← sys (.socket domain type protocol)
      if isInvalidSocket tempSocket then
        return -2
      else
        let this ← Method.this
        runOperation (operation this) tempSocket
        let result ← sys (.sendto tempSocket buffer bufferLength flags address addressLength)
        Socket.close tempSocket
        return result : M S ℤ) (Sent o k) o k := by
  simp only [Method.wp_bind, Method.after_returned, wp_sys]
  intro fd k' hopen
  by_cases hfd : fd = -1
  · subst hfd
    rw [Kernel.env, Kernel.opens_neg_one] at hopen
    simp [hopen, Sent, Strands]
  · obtain ⟨h0, hnone, rfl⟩ := hopen.of_ne hfd
    simp only [isInvalidSocket_iff, hfd, if_false, Method.wp_bind, Method.wp_this, Method.after_returned]
    refine Method.wp_mono (runOperation_strands _ _ _ _) ?_
    rintro tr r o' k' ⟨rfl, rfl, ⟨rfl, hs⟩ | ⟨hr, e, he, hs⟩⟩
    · rintro result k₁ rfl _ k₂ rfl
      have htable : ((k.opened fd h0).closed fd).table = k.table := by simp [← hnone]
      refine ⟨rfl, Or.inl ⟨id, htable, ?_⟩⟩
      rintro ⟨e, he, hs'⟩
      simp only [List.mem_append, List.mem_cons, List.not_mem_nil, or_false, false_or] at he
      rcases he with rfl | he | rfl | rfl
      · exact hs'
      · exact hs ⟨e, he, hs'⟩
      · exact hs'
      · exact hs'
    · obtain ⟨x, rfl⟩ := hr.exists_eq
      exact ⟨rfl, Or.inr ⟨trivial, ⟨fd, hnone, rfl⟩, e, by simp [he], hs⟩⟩

theorem Sent.append {o o' : S} {k k' : Kernel} {l tr : List (Event Sys Ans Kernel)} {r : Outcome Exn α}
    (htr : ¬ ∃ e ∈ l, Strands e) (h : Sent o k tr r o' k') : Sent o k (l ++ tr) r o' k' := by
  simp only [Sent, exists_append_iff htr] at h ⊢
  exact h

theorem udpSendBufferToHost_spec (hostname : Bytes) (port : UInt16) (buffer : Bytes) (bufferLength flags : ℤ)
    (protocolVersion : InternetProtocolVersion) (o : UDPSocket) (k : Kernel) :
    (UDPSocket.sendBufferToHost hostname port buffer bufferLength flags protocolVersion).wp Kernel.env (Sent o k) o k := by
  simp only [UDPSocket.sendBufferToHost, resolveToAddresses, Method.wp_bind, Method.after_returned, wp_sys]
  rintro ⟨result, addresses⟩ k rfl
  by_cases hresult : result ≠ 0 ∨ addresses = []
  · simp [hresult, Sent, Strands]
  · have hresult' : ¬ (addresses = [] ∨ result ≠ 0) := fun h => hresult h.symm
    simp only [hresult, hresult', if_false, Method.wp_pure, Method.after_returned, Method.wp_bind]
    refine Method.wp_mono (send_spec _ _ _ UDPSocket.preSendSocketOperation _ _ _ _ _ o k) ?_
    rintro tr (a | e | _) o' k' h
    · refine Sent.append (l := [_]) (by simp [Strands]) ?_
      simpa [Sent] using h
    · exact Sent.append (l := [_]) (by simp [Strands]) h
    · exact Sent.append (l := [_]) (by simp [Strands]) h

theorem Sent.ended {m : M S α} {o : S} {k : Kernel} (h : m.wp Kernel.env (Sent o k) o k) :
    m.wp Kernel.env (Ended Strands k) o k := by
  refine Method.wp_mono h ?_
  rintro tr r o' k' ⟨-, ⟨hr, -, hs⟩ | ⟨hr, ⟨fd, hnone, hk⟩, hs⟩⟩
  · exact Or.inl ⟨hr, hs⟩
  · have hopen : k'.table fd ≠ none := by simp [hk]
    exact Or.inr (Or.inr ⟨hr, ⟨fd, hnone, hopen⟩, hs⟩)

end Whole

/-- **Every operation ends in one of the three ways.** -/
theorem Opening.perform_ended (op : Opening) (o : op.Obj) (k : Kernel) :
    op.perform.wp Kernel.env (Ended op.Strands k) o k := by
  cases op with
  | tcpSocket address => exact tcpSocket_ended address o k
  | streamIPCSocket socketPath => exact streamIPCSocket_ended socketPath o k
  | tcpServerSocket localHostname port backlog version operation =>
    exact tcpServerSocket_ended localHostname port backlog version operation o k
  | ipcServerSocket socketPath override backlog operation =>
    exact ipcServerSocket_ended socketPath override backlog operation o k
  | accept timeout => exact accept_ended timeout o k
  | udpSendTo address message flags => exact Sent.ended (send_spec _ _ _ UDPSocket.preSendSocketOperation _ _ _ _ _ o k)
  | udpSendBufferTo address buffer bufferLength flags =>
    exact Sent.ended (send_spec _ _ _ UDPSocket.preSendSocketOperation _ _ _ _ _ o k)
  | udpSendToHost hostname port message flags version => exact Sent.ended (udpSendBufferToHost_spec _ _ _ _ _ _ o k)
  | udpSendBufferToHost hostname port buffer bufferLength flags version =>
    exact Sent.ended (udpSendBufferToHost_spec _ _ _ _ _ _ o k)
  | datagramSendTo path message flags =>
    exact Sent.ended (send_spec _ _ _ DatagramIPCSocket.preSendSocketOperation _ _ _ _ _ o k)
  | datagramSendBufferTo path buffer bufferLength flags =>
    exact Sent.ended (send_spec _ _ _ DatagramIPCSocket.preSendSocketOperation _ _ _ _ _ o k)

/-- **Exceptions and descriptors.** An exception leaves the set of open descriptors as it was, unless a call has failed
that the operation does not clean up after: `connect` in the two clients, `setsockopt` or the operation of the user in
the listeners and in `sendTo`, the decoding of the address in `accept`. -/
theorem exception_closes_iff (op : Opening) (o : op.Obj) (k : Kernel) (tr : List (Event Sys Ans Kernel))
    (r : Outcome Exn op.Res) (o' : op.Obj) (k' : Kernel) (h : op.perform.Runs Kernel.env o k tr r o' k') :
    (r.Threw → k'.openDescriptors = k.openDescriptors) ↔ ¬ ∃ e ∈ tr, op.Strands e :=
  Ended.iff (Method.wp_iff.1 (op.perform_ended o k) tr r o' k' h)

section Examples

/-- A listener that cannot bind throws, and has closed the descriptor that it opened. -/
theorem exception_closes_iff_refused : ∃ tr r o' k', (Opening.tcpServerSocket none 80 20 .Any none).perform.Runs
    Kernel.env (⟨0, .Any, .zero, -1⟩ : TCPServerSocket) (.boot []) tr r o' k' ∧
      (⟨.boot [], .socket 0 SOCK_STREAM IPPROTO_TCP, (3 : ℤ)⟩ : Event Sys Ans Kernel) ∈ tr ∧ r.Threw ∧
        k'.openDescriptors = (Kernel.boot []).openDescriptors := by
  have hrun := Kernel.execute_runs (fun c => c matches .bind ..) 3 (TCPServerSocket.construct none 80 20 .Any none)
    ⟨0, .Any, .zero, -1⟩ (.boot [])
  have hquiet : ∀ e ∈ (Kernel.execute (fun c => c matches .bind ..) 3
      (TCPServerSocket.construct none 80 20 .Any none) ⟨0, .Any, .zero, -1⟩ (.boot [])).1, ¬ Strands e := by
    refine List.forall_mem_cons.2 ⟨id, List.forall_mem_cons.2 ⟨id, List.forall_mem_cons.2 ⟨fun h => h rfl, ?_⟩⟩⟩
    -- `bind`, `close`, and the code of the error
    refine List.forall_mem_cons.2 ⟨id, List.forall_mem_cons.2 ⟨id, ?_⟩⟩
    exact List.forall_mem_cons.2 ⟨id, List.forall_mem_cons.2 ⟨id, List.forall_mem_nil _⟩⟩
  refine ⟨_, _, _, _, hrun, .tail _ (.head _), trivial,
    (exception_closes_iff (.tcpServerSocket none 80 20 .Any none) _ _ _ _ _ _ hrun).2 ?_ trivial⟩
  rintro ⟨e, he, hs⟩
  exact hquiet e he hs

/-- A client whose `connect` fails throws, and its descriptor stays open. -/
theorem exception_leaks : ¬ ∀ (op : Opening) (o : op.Obj) (k : Kernel) (tr : List (Event Sys Ans Kernel))
    (r : Outcome Exn op.Res) (o' : op.Obj) (k' : Kernel), op.perform.Runs Kernel.env o k tr r o' k' → r.Threw →
      k'.openDescriptors = k.openDescriptors := by
  intro h
  have hrun := Kernel.execute_runs (fun c => c matches .connect ..) 3 (TCPSocket.constructFromAddress .zero)
    ⟨0, [], 0, .Any, .zero⟩ (.boot [])
  have heq := h (.tcpSocket .zero) _ _ _ _ _ _ hrun trivial
  have hopen : (3 : SOCKET) ∈ (Kernel.boot []).openDescriptors := by
    rw [← heq]
    exact Option.some_ne_none 0
  exact hopen rfl

end Examples

end SocketLibrary.Descriptors
