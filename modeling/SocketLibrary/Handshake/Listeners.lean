import SocketLibrary.Interaction.Safety
import SocketLibrary.Model.IPCSocket
import SocketLibrary.Model.TCPServerSocket

/-!
# The connections that are made and taken

What the constructors of the two classes of connections and `accept` of the two listeners have to do with the
connections of the system. A constructor that returns has made one connection, the one that its object stores, and one
that throws has made none. `accept` takes one connection and returns it, or throws; only the TCP listener may throw
after it has taken one, and then it throws `unresolvedHostname`. With a timeout, `::accept` comes right after a poll that
found something. The two pairs of classes are instances of `StreamClass`.
-/

namespace SocketLibrary.Handshake

open SocketLibrary.Interaction SocketLibrary.Posix SocketLibrary.Model

/-- What a call has to do with connections. -/
inductive Link where
  /-- A poll of the descriptor has found something. -/
  | found (fd : SOCKET)
  /-- Over the descriptor `fd`, to the address. -/
  | made (fd : SOCKET) (address : SockAddr)
  /-- From the listener, over the new descriptor `fd`. -/
  | taken (listener fd : SOCKET)

def linksBy : (c : Sys) × Ans c → List Link
  | ⟨.select _ fd _, x⟩ => if (x : ℤ) = -1 ∨ (x : ℤ) = 0 then [] else [.found fd]
  | ⟨.connect fd address _, x⟩ => if (x : ℤ) = 0 then [.made fd address] else []
  | ⟨.accept fd _, x⟩ => if x.fd = -1 then [] else [.taken fd x.fd]
  | _ => []

/-- A call that has nothing to do with connections. -/
def Apart : Sys → Prop
  | .select .. | .connect .. | .accept .. => False
  | _ => True

theorem linksBy_apart {c : Sys} (hc : Apart c) (x : Ans c) : linksBy ⟨c, x⟩ = [] := by
  cases c with
  | select nfds fd t => exact hc.elim
  | connect fd address length => exact hc.elim
  | accept fd length => exact hc.elim
  | _ => rfl

/-- `::accept` is called where `may` has it. -/
def Admits (may : List Link → SOCKET → Prop) (l : List Link) : Sys → Prop
  | .accept fd _ => may l fd
  | _ => True

theorem admits_apart {may : List Link → SOCKET → Prop} {l : List Link} {c : Sys} (hc : Apart c) : Admits may l c := by
  cases c with
  | accept fd length => exact hc.elim
  | _ => trivial

/-- It is not called. -/
def never : List Link → SOCKET → Prop := fun _ _ => False

/-- It is called on one listener, and right after a poll that found something if there is a timeout. -/
def polled (listener : SOCKET) (timeout : ℤ) : List Link → SOCKET → Prop :=
  fun l fd => fd = listener ∧ (0 < timeout → listener ≠ -1 ∧ l.getLast? = some (.found listener))

/-! ## Rules -/

section Rules

variable {S : Type} {o : S} {l : List Link} {may : List Link → SOCKET → Prop}

/-- The method, with a list of the connections that it makes and takes. -/
abbrev Links {α : Type} (may : List Link → SOCKET → Prop) (m : M S α) (Q : Outcome Exn α → S → List Link → Prop)
    (o : S) (l : List Link) : Prop :=
  m.Safe (.tally linksBy) (Admits may) Q o l

theorem links_apart {c : Sys} (hc : Apart c) {Q : Outcome Exn (Ans c) → S → List Link → Prop}
    (hQ : ∀ x, Q (.returned x) o l) : Links may (sys c) Q o l := by
  refine ⟨admits_apart hc, ?_⟩
  rintro x _ rfl
  rw [linksBy_apart hc, List.append_nil]
  exact hQ x

theorem links_connect {fd : SOCKET} {address : SockAddr} {length : ℕ} {Q : Outcome Exn ℤ → S → List Link → Prop}
    (hmade : Q (.returned 0) o (l ++ [.made fd address])) (hrefused : ∀ x ≠ 0, Q (.returned x) o l) :
    Links may (sys (.connect fd address length)) Q o l := by
  refine ⟨trivial, ?_⟩
  rintro x _ rfl
  by_cases hx : (x : ℤ) = 0
  · obtain rfl := hx
    exact hmade
  · have hnone : linksBy ⟨.connect fd address length, x⟩ = [] := if_neg hx
    rw [hnone, List.append_nil]
    exact hrefused x hx

theorem links_accept {fd : SOCKET} {length : ℕ} {Q : Outcome Exn Accepted → S → List Link → Prop} (hmay : may l fd)
    (hnone : ∀ x, x.fd = -1 → Q (.returned x) o l) (htaken : ∀ x, x.fd ≠ -1 → Q (.returned x) o (l ++ [.taken fd x.fd])) :
    Links may (sys (.accept fd length)) Q o l := by
  refine ⟨hmay, ?_⟩
  rintro x _ rfl
  by_cases hx : Accepted.fd x = -1
  · have hnil : linksBy ⟨.accept fd length, x⟩ = [] := if_pos hx
    rw [hnil, List.append_nil]
    exact hnone x hx
  · have hone : linksBy ⟨.accept fd length, x⟩ = [.taken fd (Accepted.fd x)] := if_neg hx
    rw [hone]
    exact htaken x hx

theorem links_poll {fd : SOCKET} {timeout : ℤ} {timeOutVal : Option TimeVal} {Q : Outcome Exn ℤ → S → List Link → Prop}
    (hnone : ∀ x, x = -1 ∨ x = 0 → Q (.returned x) o l)
    (hfound : ∀ x, fd ≠ -1 → ¬ (x = -1 ∨ x = 0) → Q (.returned x) o (l ++ [.found fd])) :
    Links may (Socket.pollSocket fd timeout timeOutVal) Q o l := by
  unfold Socket.pollSocket
  rw [Links, Method.safe_ite]
  refine ⟨fun _ => hnone _ (Or.inl rfl), fun hvalid => ⟨trivial, ?_⟩⟩
  rintro x _ rfl
  by_cases hx : (x : ℤ) = -1 ∨ (x : ℤ) = 0
  · rw [linksBy, if_pos hx, List.append_nil]
    exact hnone x hx
  · rw [linksBy, if_neg hx]
    exact hfound x (fun h => hvalid (isInvalidSocket_iff.2 h)) hx

theorem links_errorCode {α : Type} {f : Bytes → M S α} {Q : Outcome Exn α → S → List Link → Prop}
    (hQ : ∀ code, Links may (f code) Q o l) : Links may (getErrorCode >>= f) Q o l := by
  unfold getErrorCode
  rw [Links, Method.safe_bind, Method.safe_bind]
  refine links_apart (by trivial) fun errnum => ?_
  rw [Method.forth_returned]
  exact links_apart (by trivial) hQ

theorem links_resolveToAddresses {hostname : Bytes} {port : UInt16} {hints : AddrInfo}
    {Q : Outcome Exn (List SocketAddress × ℤ) → S → List Link → Prop} (hQ : ∀ r, Q (.returned r) o l) :
    Links may (resolveToAddresses hostname port hints) Q o l := by
  unfold resolveToAddresses
  rw [Links, Method.safe_bind]
  refine links_apart (by trivial) fun x => ?_
  rw [Method.forth_returned, Method.safe_ite]
  exact ⟨fun _ => hQ _, fun _ => hQ _⟩

theorem links_getAddress {address : SocketAddress} {Q : Outcome Exn (Option Bytes) → S → List Link → Prop}
    (hQ : ∀ r, Q (.returned r) o l) : Links may (getAddress address) Q o l := by
  unfold getAddress
  rw [Links, Method.safe_bind]
  exact links_apart (by trivial) fun written => hQ _

end Rules

/-! ## The constructors -/

/-- The one connection that is made is the one that the object stores; there is none after an exception. -/
def Makes {S : Type} (socket : S → SOCKET) (peer : S → SockAddr) (l : List Link) :
    Outcome Exn Unit → S → List Link → Prop
  | .returned _, o, l' => l' = l ++ [.made (socket o) (peer o)]
  | .threw _, _, l' => l' = l
  | .running, _, _ => False

def tcpPeer (o : TCPSocket) : SockAddr := .inet o.serverAddress

def ipcPeer (o : StreamIPCSocket) : SockAddr := pathAddress o.socketPath

section TCP

open TCPSocket

variable {l : List Link}

theorem tcpClose_links {may : List Link → SOCKET → Prop} {o : TCPSocket} {Q : Outcome Exn Unit → TCPSocket → List Link → Prop}
    (hQ : Q (.returned ()) { o with socketDescriptor := -1 } l) : Links may TCPSocket.close Q o l := by
  unfold TCPSocket.close Socket.close
  rw [Links, Method.safe_bind, Method.safe_this, Method.forth_returned, Method.safe_bind]
  exact links_apart (by trivial) fun _ => hQ

theorem connectFirst_makes (hints : AddrInfo) (addresses : List SocketAddress) (o : TCPSocket) :
    Links never (connectFirst hints addresses) (Makes socketDescriptor tcpPeer l) o l := by
  induction addresses generalizing o with
  | nil =>
    unfold connectFirst
    rw [Links, Method.safe_bind, Method.safe_this, Method.forth_returned]
    exact links_errorCode fun _ => rfl
  | cons address addresses ih =>
    unfold connectFirst
    rw [Links, Method.safe_bind]
    refine links_apart (by trivial) fun fd => ?_
    rw [Method.forth_returned, Method.safe_bind, Method.safe_modify, Method.forth_returned, Method.safe_ite,
      Method.safe_bind]
    constructor
    · intro _
      exact tcpClose_links (ih _)
    · intro _
      rw [Method.safe_bind]
      apply links_connect
      · rw [Method.forth_returned, Method.safe_ite]
        exact ⟨fun _ => rfl, fun h => absurd rfl h⟩
      · intro x hx
        rw [Method.forth_returned, Method.safe_ite, Method.safe_bind]
        exact ⟨fun h => absurd h hx, fun _ => tcpClose_links (ih _)⟩

theorem tcpConstruct_makes (hostname : Bytes) (port : UInt16) (protocolVersion : InternetProtocolVersion)
    (o : TCPSocket) : Links never (TCPSocket.construct hostname port protocolVersion) (Makes socketDescriptor tcpPeer l) o l := by
  unfold TCPSocket.construct TCPSocket.constructSocket
  rw [Links, Method.safe_bind, Method.safe_modify, Method.forth_returned, Method.safe_bind, Method.safe_this,
    Method.forth_returned, Method.safe_bind]
  refine links_resolveToAddresses fun r => ?_
  obtain ⟨addresses, result⟩ := r
  rw [Method.forth_returned, Method.safe_ite]
  exact ⟨fun _ => links_errorCode fun _ => rfl, fun _ => connectFirst_makes _ addresses _⟩

theorem tcpConstructFromAddress_makes (address : SocketAddress) (o : TCPSocket) :
    Links never (TCPSocket.constructFromAddress address) (Makes socketDescriptor tcpPeer l) o l := by
  unfold TCPSocket.constructFromAddress
  rw [Links, Method.safe_bind]
  refine links_getAddress fun host => ?_
  rw [Method.forth_returned, Method.safe_bind]
  refine links_apart (by trivial) fun fd => ?_
  rw [Method.forth_returned, Method.safe_bind, Method.safe_modify, Method.forth_returned, Method.safe_ite]
  constructor
  · intro _
    exact links_errorCode fun _ => rfl
  · intro _
    rw [Method.safe_bind]
    apply links_connect
    · rw [Method.forth_returned, Method.safe_ite]
      exact ⟨fun _ => rfl, fun h => absurd rfl h⟩
    · intro x hx
      rw [Method.forth_returned, Method.safe_ite]
      exact ⟨fun h => absurd h hx, fun _ => links_errorCode fun _ => rfl⟩

end TCP

theorem streamConstruct_makes {l : List Link} (socketPath : Bytes) (o : StreamIPCSocket) :
    Links never (StreamIPCSocket.construct socketPath) (Makes StreamIPCSocket.socket ipcPeer l) o l := by
  unfold StreamIPCSocket.construct StreamIPCSocket.constructSocket
  rw [Links, Method.safe_bind, Method.safe_modify, Method.forth_returned, Method.safe_bind, Method.safe_modify,
    Method.forth_returned, Method.safe_bind, Method.safe_this, Method.forth_returned, Method.safe_bind]
  refine links_apart (by trivial) fun fd => ?_
  rw [Method.forth_returned, Method.safe_bind, Method.safe_modify, Method.forth_returned, Method.safe_ite]
  constructor
  · intro _
    exact links_errorCode fun _ => rfl
  · intro _
    rw [Method.safe_bind]
    apply links_connect
    · rw [Method.forth_returned, Method.safe_ite]
      exact ⟨fun _ => rfl, fun h => absurd rfl h⟩
    · intro x hx
      rw [Method.forth_returned, Method.safe_ite]
      exact ⟨fun h => absurd h hx, fun _ => links_errorCode fun _ => rfl⟩

/-! ## `accept` -/

/-- Polls, and nothing else. -/
def Polls (l : List Link) : Prop := ∀ e ∈ l, ∃ fd, e = .found fd

/-- The one connection that is taken is returned; or none is taken, or it is lost and the exception says so. -/
def Takes {S T : Type} (listener : S → SOCKET) (socket : T → SOCKET) (unresolved : Option Exn) (o : S) (l : List Link) :
    Outcome Exn T → S → List Link → Prop
  | .returned a, o', l' => o' = o ∧ ∃ polls, Polls polls ∧ l' = l ++ polls ++ [.taken (listener o) (socket a)]
  | .threw e, o', l' => o' = o ∧ ∃ polls, Polls polls ∧ (some e ≠ unresolved ∧ l' = l ++ polls ∨
      some e = unresolved ∧ ∃ fd, l' = l ++ polls ++ [.taken (listener o) fd])
  | .running, _, _ => False

/-- What waiting for a connection with the descriptor `fd` comes to. -/
def Awaits {S : Type} (fd : SOCKET) (timeout : ℤ) (unresolved : Option Exn) (o : S) (l : List Link) :
    Outcome Exn Unit → S → List Link → Prop
  | .returned _, o', l' => o' = o ∧ (¬ 0 < timeout ∧ l' = l ∨ fd ≠ -1 ∧ l' = l ++ [.found fd])
  | .threw e, o', l' => o' = o ∧ some e ≠ unresolved ∧ l' = l
  | .running, _, _ => False

section Accept

variable {S T : Type} {o : S} {l : List Link} {timeout : ℤ} {unresolved : Option Exn}

theorem await_links (listener : S → SOCKET) {failed : M S Unit} {late : Exn}
    (hfailed : Links (polled (listener o) timeout) failed (Awaits (listener o) timeout unresolved o l) o l)
    (hlate : some late ≠ unresolved) : Links (polled (listener o) timeout) (do
      let this ← Method.this
      if 0 < timeout then
        let res ← Socket.pollSocket (listener this) timeout none
        if res = -1 then
          failed
        else if res = 0 then
          Method.throw late) (Awaits (listener o) timeout unresolved o l) o l := by
  rw [Links, Method.safe_bind, Method.safe_this, Method.forth_returned, Method.safe_ite]
  refine ⟨fun _ => ?_, fun h => ⟨rfl, Or.inl ⟨h, rfl⟩⟩⟩
  rw [Method.safe_bind]
  apply links_poll
  · rintro x (rfl | rfl)
    · rw [Method.forth_returned, if_pos rfl]
      exact hfailed
    · rw [Method.forth_returned, if_neg (by decide), if_pos rfl]
      exact ⟨rfl, hlate, rfl⟩
  · intro x hvalid hx
    rw [Method.forth_returned, if_neg fun h => hx (Or.inl h), if_neg fun h => hx (Or.inr h)]
    exact ⟨rfl, Or.inr ⟨hvalid, rfl⟩⟩

/-- Both listeners first wait, then take a connection, and then make an object of it. -/
theorem accept_links (listener : S → SOCKET) (socket : T → SOCKET) {length : ℕ} {await : M S Unit} {failure : Exn}
    {f : S → Accepted → M S T}
    (hawait : Links (polled (listener o) timeout) await (Awaits (listener o) timeout unresolved o l) o l)
    (hfailure : some failure ≠ unresolved)
    (hf : ∀ x polls, Polls polls → Links (polled (listener o) timeout) (f o x) (Takes listener socket unresolved o l) o
      (l ++ polls ++ [.taken (listener o) x.fd])) : Links (polled (listener o) timeout) (do
      await
      let this ← Method.this
      let accepted ← sys (.accept (listener this) length)
      if isInvalidSocket accepted.fd then
        Method.throw failure
      else
        f this accepted) (Takes listener socket unresolved o l) o l := by
  rw [Links, Method.safe_bind]
  refine hawait.mono fun r o' l' h => ?_
  cases r with
  | running => exact h.elim
  | threw e =>
    obtain ⟨rfl, he, rfl⟩ := h
    exact ⟨rfl, [], by simp [Polls], Or.inl ⟨he, (List.append_nil _).symm⟩⟩
  | returned u =>
    obtain ⟨rfl, hl⟩ := h
    have hpolls : ∃ polls, Polls polls ∧ l' = l ++ polls ∧ polled (listener o') timeout l' (listener o') := by
      rcases hl with ⟨htimeout, rfl⟩ | ⟨hvalid, rfl⟩
      · exact ⟨[], by simp [Polls], by simp, rfl, fun h => absurd h htimeout⟩
      · exact ⟨[.found (listener o')], by simp [Polls], rfl, rfl, fun _ => ⟨hvalid, List.getLast?_concat⟩⟩
    obtain ⟨polls, hpolls, rfl, hmay⟩ := hpolls
    rw [Method.forth_returned, Method.safe_bind, Method.safe_this, Method.forth_returned, Method.safe_bind]
    apply links_accept hmay
    · intro x hx
      rw [Method.forth_returned, Method.safe_ite]
      exact ⟨fun _ => ⟨rfl, polls, hpolls, Or.inl ⟨hfailure, rfl⟩⟩, fun h => absurd (isInvalidSocket_iff.2 hx) h⟩
    · intro x hx
      rw [Method.forth_returned, Method.safe_ite]
      exact ⟨fun h => absurd (isInvalidSocket_iff.1 h) hx, fun _ => hf x polls hpolls⟩

end Accept

/-- What `TCPServerSocket::accept` throws when it has no text for the address of the peer. -/
def unresolvedHostname : Exn := .socketException (text "Unable to resolve accepted hostname from accepted socket.")

/-- The other exceptions begin differently. -/
theorem failed_ne_unresolved (rest : Bytes) :
    some (Exn.socketException (text "Failed to poll as socket is no longer valid: " ++ rest)) ≠ some unresolvedHostname := by
  intro h
  injection h with h
  injection h with h
  have hfailed : (text "Failed to poll as socket is no longer valid: ").head? = some 70 := by decide
  have hhead := congrArg List.head? h
  rw [List.head?_append, hfailed] at hhead
  exact absurd hhead (by decide : some 70 ≠ (text "Unable to resolve accepted hostname from accepted socket.").head?)

theorem tcpAccept_takes {l : List Link} (timeout : ℤ) (o : TCPServerSocket) :
    Links (polled o.socketDescriptor timeout) (TCPServerSocket.accept timeout)
      (Takes TCPServerSocket.socketDescriptor TCPSocket.socketDescriptor (some unresolvedHostname) o l) o l := by
  refine accept_links TCPServerSocket.socketDescriptor TCPSocket.socketDescriptor
    (await_links TCPServerSocket.socketDescriptor ?_ (by simp [unresolvedHostname])) (by decide) ?_
  · refine links_errorCode fun code => ?_
    rw [Links, Method.safe_bind]
    refine links_apart (by trivial) fun errno => ⟨rfl, ?_, rfl⟩
    rw [List.append_assoc, List.append_assoc, List.append_assoc]
    exact failed_ne_unresolved _
  · intro x polls hpolls
    rw [Links, Method.safe_bind]
    refine links_getAddress fun host => ?_
    rw [Method.forth_returned]
    cases host with
    | none => exact ⟨rfl, polls, hpolls, Or.inr ⟨rfl, x.fd, rfl⟩⟩
    | some hostname => exact ⟨rfl, polls, hpolls, rfl⟩

theorem ipcAccept_takes {l : List Link} (timeout : ℤ) (o : IPCServerSocket) :
    Links (polled o.socket timeout) (IPCServerSocket.accept timeout)
      (Takes IPCServerSocket.socket StreamIPCSocket.socket none o l) o l := by
  refine accept_links IPCServerSocket.socket StreamIPCSocket.socket
    (await_links IPCServerSocket.socket ⟨rfl, by simp, rfl⟩ (by simp)) (by simp) ?_
  intro x polls hpolls
  exact ⟨rfl, polls, hpolls, rfl⟩

/-! ## Closing a listener -/

/-- There is no listener any more. -/
def Closes {S : Type} (listener : S → SOCKET) (l : List Link) : Outcome Exn Unit → S → List Link → Prop :=
  fun _ o' l' => listener o' = -1 ∧ l' = l

theorem tcpServerClose_closes {l : List Link} (o : TCPServerSocket) :
    Links never TCPServerSocket.close (Closes TCPServerSocket.socketDescriptor l) o l := by
  unfold TCPServerSocket.close Socket.close
  rw [Links, Method.safe_bind, Method.safe_this, Method.forth_returned, Method.safe_bind]
  exact links_apart (by trivial) fun _ => ⟨rfl, rfl⟩

theorem ipcServerClose_closes {l : List Link} (o : IPCServerSocket) :
    Links never IPCServerSocket.close (Closes IPCServerSocket.socket l) o l := by
  unfold IPCServerSocket.close Socket.close IPCSocket.removeSocketPath
  rw [Links, Method.safe_bind, Method.safe_this, Method.forth_returned, Method.safe_bind]
  refine links_apart (by trivial) fun _ => ?_
  rw [Method.forth_returned, Method.safe_bind, Method.safe_modify, Method.forth_returned, Method.safe_bind]
  exact links_apart (by trivial) fun _ => ⟨rfl, rfl⟩

/-! ## The two pairs of classes -/

/-- A class of listeners `S` and one of connections `T`, that are constructed by `R`. -/
structure StreamClass (S T R : Type) where
  listener : S → SOCKET
  socket : T → SOCKET
  peer : T → SockAddr
  unresolved : Option Exn
  construct : R → M T Unit
  accept : ℤ → M S T
  close : M S Unit
  construct_makes : ∀ request memory l, Links never (construct request) (Makes socket peer l) memory l
  accept_takes : ∀ timeout o l,
    Links (polled (listener o) timeout) (accept timeout) (Takes listener socket unresolved o l) o l
  close_closes : ∀ o l, Links never close (Closes listener l) o l

/-- The constructors of `TCPSocket` that connect. -/
inductive TCPRequest where
  | host (hostname : Bytes) (port : UInt16) (protocolVersion : InternetProtocolVersion)
  | address (address : SocketAddress)

def TCPRequest.construct : TCPRequest → M TCPSocket Unit
  | host hostname port protocolVersion => TCPSocket.construct hostname port protocolVersion
  | address a => TCPSocket.constructFromAddress a

def tcpClass : StreamClass TCPServerSocket TCPSocket TCPRequest where
  listener := TCPServerSocket.socketDescriptor
  socket := TCPSocket.socketDescriptor
  peer := tcpPeer
  unresolved := some unresolvedHostname
  construct := TCPRequest.construct
  accept := TCPServerSocket.accept
  close := TCPServerSocket.close
  construct_makes request memory l := by
    cases request with
    | host hostname port protocolVersion => exact tcpConstruct_makes hostname port protocolVersion memory
    | address a => exact tcpConstructFromAddress_makes a memory
  accept_takes timeout o _ := tcpAccept_takes timeout o
  close_closes o _ := tcpServerClose_closes o

def ipcClass : StreamClass IPCServerSocket StreamIPCSocket Bytes where
  listener := IPCServerSocket.socket
  socket := StreamIPCSocket.socket
  peer := ipcPeer
  unresolved := none
  construct := StreamIPCSocket.construct
  accept := IPCServerSocket.accept
  close := IPCServerSocket.close
  construct_makes path memory _ := streamConstruct_makes path memory
  accept_takes timeout o _ := ipcAccept_takes timeout o
  close_closes o _ := ipcServerClose_closes o

end SocketLibrary.Handshake
