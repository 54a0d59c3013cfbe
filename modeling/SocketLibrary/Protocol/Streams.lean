import SocketLibrary.Protocol.Custody
import SocketLibrary.Steps.Reads

/-!
# Connections and listeners keep to the rules

What an object of each class stores is `-1` or a descriptor of a socket that suits the class: connected, listening, or
bound if the object says so (`Owned`). A constructor makes lawful calls only and leaves all descriptors that were open as
they are; if it returns, it leaves such an object. The descriptor is followed from `socket` through the steps of the
constructors (`Opened`, `BoundStream`).
-/

namespace SocketLibrary.Protocol

open SocketLibrary.Interaction SocketLibrary.Posix SocketLibrary.Model SocketLibrary.Descriptors

/-- The socket is one that an object of the class is for. -/
def Suits : (c : SocketClass) → c.Obj → Sock → Prop
  | .tcpSocket, _, s | .streamIPCSocket, _, s => s.type = SOCK_STREAM ∧ s.stage = .connected
  | .tcpServerSocket, _, s | .ipcServerSocket, _, s => s.type = SOCK_STREAM ∧ s.stage = .listening
  | .udpSocket, o, s => s.type = SOCK_DGRAM ∧ (UDPSocket.bound o = true → s.stage = .bound)
  | .datagramIPCSocket, o, s => s.type = SOCK_DGRAM ∧ (DatagramIPCSocket.bound o = true → s.stage = .bound)

/-- The object stores `-1`, or a descriptor that suits it and is not one of `K`. -/
def Owned (K : Table Unit) (c : SocketClass) (o : c.Obj) (w : Table Unit) : Prop :=
  c.stored o = -1 ∨ ∃ s, Mine K w (c.stored o) s ∧ Suits c o s

section Kept

variable {K w w' w'' : Table Unit} {fd : SOCKET} {s : Sock}

theorem Kept.refl (w : Table Unit) : Kept w w := fun _ _ h => h

theorem Kept.trans (h : Kept w w') (h' : Kept w' w'') : Kept w w'' := fun fd p hp => h' fd p (h fd p hp)

theorem Owned.kept {c : SocketClass} {o : c.Obj} (h : Owned K c o w) (hw : Kept w w') : Owned K c o w' := by
  rcases h with h | ⟨s, hs, hsuits⟩
  · exact Or.inl h
  · exact Or.inr ⟨s, ⟨hs.other, hw _ _ hs.mine⟩, hsuits⟩

theorem Owned.mine {c : SocketClass} {o : c.Obj} (h : Owned K c o w) : c.stored o = -1 ∨ ∃ s, Mine K w (c.stored o) s :=
  h.imp_right fun ⟨s, hs, _⟩ => ⟨s, hs⟩

/-- A call on the descriptor of an object, if the sockets that suit the object take it. -/
theorem Owned.lawful {c : SocketClass} {o : c.Obj} (h : Owned K c o w) {call : Sys}
    (htarget : descriptors.target call = {c.stored o}) (hc : ∀ s, Suits c o s → Accepts call s) : Lawful () w call := by
  rcases h with h | ⟨s, hs, hsuits⟩
  · refine lawful_none ?_
    rw [htarget, h]
  · exact hs.lawful htarget (hc s hsuits)

end Kept

variable {K w : Table Unit} {dm : DataModel}

/-! ## Byte streams -/

/-- The methods of `ConnectionOrientedSocket`. -/
theorem streamCall_safe {S : Type} {o : S} {fd : SOCKET}
    (hfd : fd = -1 ∨ ∃ s, w fd = some ((), s) ∧ s.type = SOCK_STREAM ∧ s.stage = .connected) (c : StreamCall dm) :
    Sound (c.perform fd) (fun _ o' w' => o' = o ∧ w' = w) o w := by
  have hlawful : ∀ call, descriptors.target call = {fd} →
      (∀ s : Sock, s.type = SOCK_STREAM ∧ s.stage = .connected → Accepts call s) → Lawful () w call := by
    intro call htarget hc fd' hfd'
    rw [htarget] at hfd'
    obtain rfl : fd' = fd := hfd'
    exact hfd.imp_right fun ⟨s, hs, hsuits⟩ => ⟨s, hs, hc s hsuits⟩
  have hwithin : Method.Within (fun call => Still call ∧ Lawful () w call) (c.perform fd : M S Unit) := by
    refine Steps.streamCall_within ?_ ?_ ?_ c
    · intro nfds t
      refine ⟨trivial, hlawful _ rfl fun s hs => ?_⟩
      show s.stage ≠ .fresh
      rw [hs.2]
      decide
    · intro message length flags
      exact ⟨trivial, hlawful _ rfl fun s hs => ⟨hs.2, hs.1⟩⟩
    · intro offset length flags
      exact ⟨trivial, hlawful _ rfl fun s hs => ⟨hs.2, hs.1⟩⟩
  refine Method.Safe.of_always (J := fun w' => w' = w) (hwithin o) ?_ ?_ rfl
  · rintro call w' hc rfl
    exact hc.2
  · rintro call w' x w'' hc rfl hx
    exact custody_still hc.1 hx

/-! ## `TCPSocket` -/

section TCPSocket

open TCPSocket

theorem tcpClose_safe {o : TCPSocket} (hK : Kept K w)
    (h : o.socketDescriptor = -1 ∨ ∃ s, Mine K w o.socketDescriptor s)
    {Q : Outcome Exn Unit → TCPSocket → Table Unit → Prop}
    (hQ : ∀ w', Kept K w' → Q (.returned ()) { o with socketDescriptor := -1 } w') : Sound TCPSocket.close Q o w := by
  unfold TCPSocket.close
  rw [Sound, Method.safe_bind, Method.safe_this, Method.forth_returned, Method.safe_bind]
  exact safe_close hK h fun w' hw' => hQ w' hw'

theorem connectFirst_safe {hints : AddrInfo} (hhints : hints.ai_socktype = SOCK_STREAM) (addresses : List SocketAddress)
    {o : TCPSocket} (hK : Kept K w) : Sound (connectFirst hints addresses)
      (Method.Ending (fun _ => Kept K) fun _ o' w' => Owned K .tcpSocket o' w') o w := by
  induction addresses generalizing o w with
  | nil =>
    unfold connectFirst
    rw [Sound, Method.safe_bind, Method.safe_this, Method.forth_returned]
    exact safe_failure hK
  | cons address addresses ih =>
    unfold connectFirst
    rw [Sound, Method.safe_bind]
    apply safe_socket hK
    · rw [Method.forth_returned, Method.safe_bind, Method.safe_modify, Method.forth_returned, Method.safe_ite]
      refine ⟨fun _ => ?_, fun h => absurd (isInvalidSocket_iff.2 rfl) h⟩
      rw [Method.safe_bind]
      exact tcpClose_safe hK (Or.inl rfl) fun w' hw' => ih hw'
    · intro fd w₁ hfd hK₁ hmine
      rw [Method.forth_returned, Method.safe_bind, Method.safe_modify, Method.forth_returned, Method.safe_ite]
      refine ⟨fun h => absurd (isInvalidSocket_iff.1 h) hfd, fun _ => ?_⟩
      rw [Method.safe_bind]
      refine safe_sys.2 ⟨hmine.lawful rfl ⟨rfl, hhints, rfl⟩, fun x w₂ hx => ?_⟩
      rw [Method.forth_returned, Method.safe_ite]
      rcases hmine.moved hK₁ hx with ⟨rfl, rfl⟩ | ⟨rfl, hK₂, hmine₂⟩
      · refine ⟨fun h => absurd h (by decide : ¬ (-1 : ℤ) = 0), fun _ => ?_⟩
        rw [Method.safe_bind]
        exact tcpClose_safe hK₁ (Or.inr ⟨_, hmine⟩) fun w' hw' => ih hw'
      · refine ⟨fun _ => ?_, fun h => absurd rfl h⟩
        rw [Method.safe_modify, Method.ending_returned]
        exact ⟨hK₂, Or.inr ⟨_, hmine₂, hhints, rfl⟩⟩

theorem tcpConstruct_safe (hostname : Bytes) (port : UInt16) (protocolVersion : InternetProtocolVersion) {o : TCPSocket}
    (hK : Kept K w) : Sound (TCPSocket.construct hostname port protocolVersion)
      (Method.Ending (fun _ => Kept K) fun _ o' w' => Owned K .tcpSocket o' w') o w := by
  unfold TCPSocket.construct TCPSocket.constructSocket
  rw [Sound, Method.safe_bind, Method.safe_modify, Method.forth_returned, Method.safe_bind, Method.safe_this,
    Method.forth_returned, Method.safe_bind]
  refine safe_resolveToAddresses fun r => ?_
  obtain ⟨addresses, result⟩ := r
  rw [Method.forth_returned, Method.safe_ite]
  constructor
  · intro _
    exact safe_failure hK
  · intro _
    exact connectFirst_safe rfl addresses hK

theorem tcpConstructFromAddress_safe (address : SocketAddress) {o : TCPSocket} (hK : Kept K w) :
    Sound (TCPSocket.constructFromAddress address)
      (Method.Ending (fun _ => Kept K) fun _ o' w' => Owned K .tcpSocket o' w') o w := by
  unfold TCPSocket.constructFromAddress
  rw [Sound, Method.safe_bind]
  refine safe_getAddress fun host => ?_
  rw [Method.forth_returned, Method.safe_bind]
  apply safe_socket hK
  · rw [Method.forth_returned, Method.safe_bind, Method.safe_modify, Method.forth_returned, Method.safe_ite]
    refine ⟨fun _ => ?_, fun h => absurd (isInvalidSocket_iff.2 rfl) h⟩
    exact safe_failure hK
  · intro fd w₁ hfd hK₁ hmine
    rw [Method.forth_returned, Method.safe_bind, Method.safe_modify, Method.forth_returned, Method.safe_ite]
    refine ⟨fun h => absurd (isInvalidSocket_iff.1 h) hfd, fun _ => ?_⟩
    rw [Method.safe_bind]
    refine safe_sys.2 ⟨hmine.lawful rfl ⟨rfl, rfl, rfl⟩, fun x w₂ hx => ?_⟩
    rw [Method.forth_returned, Method.safe_ite]
    rcases hmine.moved hK₁ hx with ⟨rfl, rfl⟩ | ⟨rfl, hK₂, hmine₂⟩
    · refine ⟨fun h => absurd h (by decide : ¬ (-1 : ℤ) = 0), fun _ => ?_⟩
      exact safe_failure hK₁
    · refine ⟨fun _ => ?_, fun h => absurd rfl h⟩
      rw [Method.safe_modify, Method.ending_returned]
      exact ⟨hK₂, Or.inr ⟨_, hmine₂, rfl, rfl⟩⟩

end TCPSocket

/-! ## `TCPServerSocket` -/

section TCPServerSocket

open TCPServerSocket

theorem tcpServerClose_safe {o : TCPServerSocket} (hK : Kept K w)
    (h : o.socketDescriptor = -1 ∨ ∃ s, Mine K w o.socketDescriptor s)
    {Q : Outcome Exn Unit → TCPServerSocket → Table Unit → Prop}
    (hQ : ∀ w', Kept K w' → Q (.returned ()) { o with socketDescriptor := -1 } w') :
    Sound TCPServerSocket.close Q o w := by
  unfold TCPServerSocket.close
  rw [Sound, Method.safe_bind, Method.safe_this, Method.forth_returned, Method.safe_bind]
  exact safe_close hK h fun w' hw' => hQ w' hw'

/-- The family that is asked for is the one that was found. -/
theorem toInt_ofFamily (family : UInt16) : (InternetProtocolVersion.ofFamily family).toInt = family.toNat := by
  unfold InternetProtocolVersion.ofFamily
  split_ifs with h h h
  · rw [h]
    rfl
  · rw [h]
    rfl
  · rw [h]
    rfl
  · rfl

/-- The descriptor is one of a stream socket for the address of the server. -/
def Opened (K : Table Unit) (o : TCPServerSocket) (w : Table Unit) : Prop :=
  Mine K w o.socketDescriptor ⟨familyOf (.inet o.serverAddress), SOCK_STREAM, .fresh⟩

/-- The descriptor is one of a stream socket that is bound. -/
def BoundStream (K : Table Unit) (fd : SOCKET) (w : Table Unit) : Prop :=
  ∃ s, Mine K w fd s ∧ s.type = SOCK_STREAM ∧ s.stage = .bound

theorem tcpServerOpen_safe (localHostname : Option Bytes) {o : TCPServerSocket} (hK : Kept K w) :
    Sound (TCPServerSocket.openSocket localHostname) (Method.Ending (fun _ => Kept K) fun _ o' w' => Opened K o' w') o w := by
  unfold TCPServerSocket.openSocket
  rw [Sound, Method.safe_bind, Method.safe_this, Method.forth_returned, Method.safe_bind]
  refine safe_resolveToAddresses fun r => ?_
  obtain ⟨addresses, result⟩ := r
  rw [Method.forth_returned, Method.safe_ite]
  constructor
  · intro _
    exact safe_failure hK
  · intro _
    rw [Method.safe_bind]
    apply safe_socket hK
    · rw [Method.forth_returned, Method.safe_bind, Method.safe_modify, Method.forth_returned, Method.safe_ite]
      refine ⟨fun _ => ?_, fun h => absurd (isInvalidSocket_iff.2 rfl) h⟩
      exact safe_failure hK
    · intro fd w₁ hfd hK₁ hmine
      rw [Method.forth_returned, Method.safe_bind, Method.safe_modify, Method.forth_returned, Method.safe_ite]
      refine ⟨fun h => absurd (isInvalidSocket_iff.1 h) hfd, fun _ => ?_⟩
      rw [toInt_ofFamily] at hmine
      exact .returns hK₁ hmine

theorem enableReuse_safe {o : TCPServerSocket} (hK : Kept K w) (h : Opened K o w) :
    Sound enableReuse (Method.Ending (fun _ => Kept K) fun _ o' w' => Opened K o' w') o w := by
  unfold enableReuse
  rw [Sound, Method.safe_bind, Method.safe_this, Method.forth_returned, Method.safe_bind]
  refine safe_still (h.lawful rfl rfl) trivial fun result => ?_
  rw [Method.forth_returned, Method.safe_ite]
  constructor
  · intro _
    exact safe_failure hK
  · intro _
    exact .returns hK h

theorem initialisePortNumber_safe {o : TCPServerSocket} (hK : Kept K w) (h : BoundStream K o.socketDescriptor w) :
    Sound initialisePortNumber
      (Method.Ending (fun _ => Kept K) fun _ o' w' => BoundStream K o'.socketDescriptor w') o w := by
  obtain ⟨s, hs, htype, hstage⟩ := h
  unfold initialisePortNumber
  rw [Sound, Method.safe_bind, Method.safe_this, Method.forth_returned, Method.safe_bind]
  refine safe_socketToAddress (hs.lawful rfl hstage) fun r => ?_
  obtain ⟨address, result⟩ := r
  rw [Method.forth_returned]
  cases address with
  | none =>
    rw [Method.safe_ite, Method.safe_bind]
    constructor
    · intro _
      refine tcpServerClose_safe hK (Or.inr ⟨s, hs⟩) fun w' hw' => ?_
      exact safe_failure hw'
    · intro _
      exact .throws hK
  | some address =>
    rw [Method.safe_modify]
    exact (Method.ending_returned ()).2 ⟨hK, s, hs, htype, hstage⟩

theorem bindAddress_safe {o : TCPServerSocket} (hK : Kept K w) (h : Opened K o w) :
    Sound bindAddress (Method.Ending (fun _ => Kept K) fun _ o' w' => BoundStream K o'.socketDescriptor w') o w := by
  unfold bindAddress
  rw [Sound, Method.safe_bind, Method.safe_this, Method.forth_returned, Method.safe_bind]
  refine safe_sys.2 ⟨h.lawful rfl ⟨rfl, rfl⟩, fun x w₁ hx => ?_⟩
  rw [Method.forth_returned, Method.safe_ite]
  rcases h.moved hK hx with ⟨rfl, rfl⟩ | ⟨rfl, hK₁, hmine⟩
  · refine ⟨fun _ => ?_, fun h => absurd rfl h⟩
    rw [Method.safe_bind]
    refine tcpServerClose_safe hK (Or.inr ⟨_, h⟩) fun w' hw' => ?_
    exact safe_failure hw'
  · refine ⟨fun h => absurd h (by decide : ¬ (0 : ℤ) = -1), fun _ => ?_⟩
    have hbound : BoundStream K o.socketDescriptor w₁ := ⟨_, hmine, rfl, rfl⟩
    rw [Method.safe_ite]
    constructor
    · intro _
      refine (initialisePortNumber_safe hK₁ hbound).andThen fun _ o' w' hw' ho' => ?_
      rw [Method.safe_modify]
      exact (Method.ending_returned ()).2 ⟨hw', ho'⟩
    · intro _
      exact .returns hK₁ hbound

theorem tcpServerListen_safe (connectionBacklogSize : UInt32) {o : TCPServerSocket} (hK : Kept K w)
    (h : BoundStream K o.socketDescriptor w) : Sound (TCPServerSocket.startListening connectionBacklogSize)
      (Method.Ending (fun _ => Kept K) fun _ o' w' => Owned K .tcpServerSocket o' w') o w := by
  obtain ⟨s, hs, htype, hstage⟩ := h
  unfold TCPServerSocket.startListening
  rw [Sound, Method.safe_bind, Method.safe_this, Method.forth_returned, Method.safe_bind]
  refine safe_sys.2 ⟨hs.lawful rfl ⟨hstage, htype⟩, fun x w₁ hx => ?_⟩
  rw [Method.forth_returned, Method.safe_ite]
  rcases hs.moved hK hx with ⟨rfl, rfl⟩ | ⟨rfl, hK₁, hmine⟩
  · refine ⟨fun _ => ?_, fun h => absurd rfl h⟩
    rw [Method.safe_bind]
    refine tcpServerClose_safe hK (Or.inr ⟨s, hs⟩) fun w' hw' => ?_
    exact safe_failure hw'
  · refine ⟨fun h => absurd h (by decide : ¬ (0 : ℤ) = -1), fun _ => ?_⟩
    exact .returns hK₁ (Or.inr ⟨_, hmine, htype, rfl⟩)

theorem tcpServerConstruct_safe (localHostname : Option Bytes) (port : UInt16) (connectionBacklogSize : UInt32)
    (protocolVersion : InternetProtocolVersion) (preBindSocketOperation : Option Callback) {o : TCPServerSocket}
    (hK : Kept K w) : Sound (TCPServerSocket.construct localHostname port connectionBacklogSize protocolVersion
        preBindSocketOperation) (Method.Ending (fun _ => Kept K) fun _ o' w' => Owned K .tcpServerSocket o' w') o w := by
  unfold TCPServerSocket.construct TCPServerSocket.constructSocket
  rw [Sound, Method.safe_bind, Method.safe_modify, Method.forth_returned]
  refine (tcpServerOpen_safe localHostname hK).andThen fun _ o₁ w₁ hK₁ h₁ => ?_
  refine (enableReuse_safe hK₁ h₁).andThen fun _ o₂ w₂ hK₂ h₂ => ?_
  rw [Method.safe_bind, Method.safe_this, Method.forth_returned, Method.safe_bind]
  apply safe_runOperation
  · intro f
    exact h₂.lawful rfl rfl
  · refine (bindAddress_safe hK₂ h₂).andThen fun _ o₃ w₃ hK₃ h₃ => ?_
    exact tcpServerListen_safe connectionBacklogSize hK₃ h₃
  · intro e
    rw [Method.forth_threw, Method.ending_threw]
    exact hK₂

/-- What `accept` hands out is new, and connected. -/
theorem accepted_mine {x : Accepted} {fd : SOCKET} {addressLength : ℕ} {w' : Table Unit} (hfd : x.fd ≠ -1)
    (h : custody () (.accept fd addressLength) w x w') :
    Kept w w' ∧ ∃ s, Mine w w' x.fd s ∧ s.type = SOCK_STREAM ∧ s.stage = .connected := by
  rcases h with ⟨h1, -⟩ | ⟨-, hfree, domain, rfl⟩
  · exact absurd h1 hfd
  · obtain ⟨hkept, hmine⟩ := Mine.of_update (Kept.refl w) hfree ⟨domain, SOCK_STREAM, .connected⟩
    exact ⟨hkept, _, hmine, rfl, rfl⟩

theorem accept_kept {x : Accepted} {fd : SOCKET} {addressLength : ℕ} {w' : Table Unit}
    (h : custody () (.accept fd addressLength) w x w') : Kept w w' := by
  by_cases hfd : x.fd = -1
  · rcases h with ⟨-, rfl⟩ | ⟨hpos, -, -⟩
    · exact Kept.refl w'
    · rw [hfd] at hpos
      exact absurd hpos (by decide)
  · exact (accepted_mine hfd h).1

theorem tcpAccept_safe (timeout : ℤ) {o : TCPServerSocket} (h : Owned K .tcpServerSocket o w) :
    Sound (TCPServerSocket.accept timeout)
      (Method.Ending (fun o' w' => o' = o ∧ Kept w w') fun accepted _ w' => Owned w .tcpSocket accepted w') o w := by
  have hselect : ∀ nfds t, Lawful () w (.select nfds o.socketDescriptor t) := by
    intro nfds t
    refine h.lawful rfl fun s hs => ?_
    show s.stage ≠ .fresh
    rw [hs.2]
    decide
  have hwait : Sound (awaitConnection timeout) (Method.Ending (fun o' w' => o' = o ∧ Kept w w') fun _ _ w' => w' = w) o w := by
    unfold awaitConnection
    rw [Sound, Method.safe_bind, Method.safe_this, Method.forth_returned, Method.safe_ite]
    refine ⟨fun _ => ?_, fun _ => .returns ⟨rfl, Kept.refl w⟩ rfl⟩
    rw [Method.safe_bind]
    refine safe_pollSocket hselect fun res => ?_
    rw [Method.forth_returned, Method.safe_ite, Method.safe_ite, Method.safe_bind]
    refine ⟨fun _ => ?_, fun _ => ⟨fun _ => .throws ⟨rfl, Kept.refl w⟩, fun _ => ?_⟩⟩
    · unfold getErrorCode
      rw [Method.safe_bind]
      refine safe_still (fun _ h => h.elim) trivial fun errnum => ?_
      rw [Method.forth_returned]
      refine safe_still (fun _ h => h.elim) trivial fun code => ?_
      rw [Method.forth_returned, Method.safe_bind]
      refine safe_still (fun _ h => h.elim) trivial fun errno => ?_
      rw [Method.forth_returned]
      exact .throws ⟨rfl, Kept.refl w⟩
    · exact .returns ⟨rfl, Kept.refl w⟩ rfl
  unfold TCPServerSocket.accept
  refine hwait.andThen fun _ o₁ w₁ h₁ hw₁ => ?_
  obtain ⟨rfl, -⟩ := h₁
  subst hw₁
  rw [Method.safe_bind, Method.safe_this, Method.forth_returned, Method.safe_bind]
  refine safe_sys.2 ⟨h.lawful rfl fun s hs => ⟨hs.2, hs.1⟩, fun x w₂ hx => ?_⟩
  have hkept := accept_kept hx
  rw [Method.forth_returned, Method.safe_ite]
  refine ⟨fun _ => .throws ⟨rfl, hkept⟩, fun hvalid => ?_⟩
  have hfd : x.fd ≠ -1 := fun h => hvalid (isInvalidSocket_iff.2 h)
  rw [Method.safe_bind]
  refine safe_getAddress fun host => ?_
  rw [Method.forth_returned]
  cases host with
  | none => exact .throws ⟨rfl, hkept⟩
  | some hostname =>
    obtain ⟨-, s, hs, hsuits⟩ := accepted_mine hfd hx
    exact .returns ⟨rfl, hkept⟩ (Or.inr ⟨s, hs, hsuits⟩)

end TCPServerSocket

/-! ## `StreamIPCSocket` -/

theorem streamClose_safe {o : StreamIPCSocket} (hK : Kept K w) (h : o.socket = -1 ∨ ∃ s, Mine K w o.socket s)
    {Q : Outcome Exn Unit → StreamIPCSocket → Table Unit → Prop}
    (hQ : ∀ w', Kept K w' → Q (.returned ()) { o with socket := -1 } w') : Sound StreamIPCSocket.close Q o w := by
  unfold StreamIPCSocket.close
  rw [Sound, Method.safe_bind, Method.safe_this, Method.forth_returned, Method.safe_bind]
  exact safe_close hK h fun w' hw' => hQ w' hw'

theorem streamConstruct_safe (socketPath : Bytes) {o : StreamIPCSocket} (hK : Kept K w) :
    Sound (StreamIPCSocket.construct socketPath)
      (Method.Ending (fun _ => Kept K) fun _ o' w' => Owned K .streamIPCSocket o' w') o w := by
  unfold StreamIPCSocket.construct StreamIPCSocket.constructSocket
  rw [Sound, Method.safe_bind, Method.safe_modify, Method.forth_returned, Method.safe_bind, Method.safe_modify,
    Method.forth_returned, Method.safe_bind, Method.safe_this, Method.forth_returned, Method.safe_bind]
  apply safe_socket hK
  · rw [Method.forth_returned, Method.safe_bind, Method.safe_modify, Method.forth_returned, Method.safe_ite]
    refine ⟨fun _ => ?_, fun h => absurd (isInvalidSocket_iff.2 rfl) h⟩
    exact safe_failure hK
  · intro fd w₁ hfd hK₁ hmine
    rw [Method.forth_returned, Method.safe_bind, Method.safe_modify, Method.forth_returned, Method.safe_ite]
    refine ⟨fun h => absurd (isInvalidSocket_iff.1 h) hfd, fun _ => ?_⟩
    rw [Method.safe_bind]
    refine safe_sys.2 ⟨hmine.lawful rfl ⟨rfl, rfl, rfl⟩, fun x w₂ hx => ?_⟩
    rw [Method.forth_returned, Method.safe_ite]
    rcases hmine.moved hK₁ hx with ⟨rfl, rfl⟩ | ⟨rfl, hK₂, hmine₂⟩
    · refine ⟨fun h => absurd h (by decide : ¬ (-1 : ℤ) = 0), fun _ => ?_⟩
      exact safe_failure hK₁
    · refine ⟨fun _ => ?_, fun h => absurd rfl h⟩
      exact .returns hK₂ (Or.inr ⟨_, hmine₂, rfl, rfl⟩)

/-! ## `IPCServerSocket` -/

section IPCServerSocket

open IPCServerSocket

/-- The removal of a file. -/
theorem safe_removeSocketPath {S : Type} {o : S} {path : Bytes} {Q : Outcome Exn ℤ → S → Table Unit → Prop}
    (hQ : ∀ x, Q (.returned x) o w) : Sound (IPCSocket.removeSocketPath path) Q o w :=
  safe_still (fun _ h => h.elim) trivial hQ

theorem ipcServerClose_safe {o : IPCServerSocket} (hK : Kept K w) (h : o.socket = -1 ∨ ∃ s, Mine K w o.socket s)
    {Q : Outcome Exn Unit → IPCServerSocket → Table Unit → Prop}
    (hQ : ∀ w', Kept K w' → Q (.returned ()) { o with socket := -1 } w') : Sound IPCServerSocket.close Q o w := by
  unfold IPCServerSocket.close
  rw [Sound, Method.safe_bind, Method.safe_this, Method.forth_returned, Method.safe_bind]
  refine safe_close hK h fun w' hw' => ?_
  rw [Method.forth_returned, Method.safe_bind, Method.safe_modify, Method.forth_returned, Method.safe_bind]
  exact safe_removeSocketPath fun _ => hQ w' hw'

/-- The descriptor is one of a stream socket for a path. -/
def OpenedPath (K : Table Unit) (o : IPCServerSocket) (w : Table Unit) : Prop :=
  Mine K w o.socket ⟨AF_UNIX, SOCK_STREAM, .fresh⟩

theorem ipcServerOpen_safe {o : IPCServerSocket} (hK : Kept K w) :
    Sound IPCServerSocket.openSocket (Method.Ending (fun _ => Kept K) fun _ o' w' => OpenedPath K o' w') o w := by
  unfold IPCServerSocket.openSocket
  rw [Sound, Method.safe_bind]
  apply safe_socket hK
  · rw [Method.forth_returned, Method.safe_bind, Method.safe_modify, Method.forth_returned, Method.safe_ite]
    refine ⟨fun _ => ?_, fun h => absurd (isInvalidSocket_iff.2 rfl) h⟩
    exact safe_failure hK
  · intro fd w₁ hfd hK₁ hmine
    rw [Method.forth_returned, Method.safe_bind, Method.safe_modify, Method.forth_returned, Method.safe_ite]
    refine ⟨fun h => absurd (isInvalidSocket_iff.1 h) hfd, fun _ => ?_⟩
    exact .returns hK₁ hmine

theorem bindPath_safe {o : IPCServerSocket} (hK : Kept K w) (h : OpenedPath K o w) :
    Sound bindPath (Method.Ending (fun _ => Kept K) fun _ o' w' => BoundStream K o'.socket w') o w := by
  unfold bindPath
  rw [Sound, Method.safe_bind, Method.safe_this, Method.forth_returned, Method.safe_bind]
  refine safe_sys.2 ⟨h.lawful rfl ⟨rfl, rfl⟩, fun x w₁ hx => ?_⟩
  rw [Method.forth_returned, Method.safe_ite]
  rcases h.moved hK hx with ⟨rfl, rfl⟩ | ⟨rfl, hK₁, hmine⟩
  · refine ⟨fun _ => ?_, fun h => absurd rfl h⟩
    rw [Method.safe_bind]
    refine ipcServerClose_safe hK (Or.inr ⟨_, h⟩) fun w' hw' => ?_
    exact safe_failure hw'
  · refine ⟨fun h => absurd h (by decide : ¬ (0 : ℤ) = -1), fun _ => ?_⟩
    exact .returns hK₁ ⟨_, hmine, rfl, rfl⟩

theorem ipcServerListen_safe (connectionBacklogSize : UInt32) {o : IPCServerSocket} (hK : Kept K w)
    (h : BoundStream K o.socket w) : Sound (IPCServerSocket.startListening connectionBacklogSize)
      (Method.Ending (fun _ => Kept K) fun _ o' w' => Owned K .ipcServerSocket o' w') o w := by
  obtain ⟨s, hs, htype, hstage⟩ := h
  unfold IPCServerSocket.startListening
  rw [Sound, Method.safe_bind, Method.safe_this, Method.forth_returned, Method.safe_bind]
  refine safe_sys.2 ⟨hs.lawful rfl ⟨hstage, htype⟩, fun x w₁ hx => ?_⟩
  rw [Method.forth_returned, Method.safe_ite]
  rcases hs.moved hK hx with ⟨rfl, rfl⟩ | ⟨rfl, hK₁, hmine⟩
  · refine ⟨fun _ => ?_, fun h => absurd rfl h⟩
    rw [Method.safe_bind]
    refine ipcServerClose_safe hK (Or.inr ⟨s, hs⟩) fun w' hw' => ?_
    exact safe_failure hw'
  · refine ⟨fun h => absurd h (by decide : ¬ (0 : ℤ) = -1), fun _ => ?_⟩
    exact .returns hK₁ (Or.inr ⟨_, hmine, htype, rfl⟩)

theorem ipcServerConstruct_safe (socketPath : Bytes) (override : Bool) (connectionBacklogSize : UInt32)
    (preBindSocketOperation : Option Callback) {o : IPCServerSocket} (hK : Kept K w) :
    Sound (IPCServerSocket.construct socketPath override connectionBacklogSize preBindSocketOperation)
      (Method.Ending (fun _ => Kept K) fun _ o' w' => Owned K .ipcServerSocket o' w') o w := by
  unfold IPCServerSocket.construct IPCServerSocket.constructSocket
  rw [Sound, Method.safe_bind, Method.safe_modify, Method.forth_returned, Method.safe_bind, Method.safe_modify,
    Method.forth_returned]
  have hremove : ∀ o : IPCServerSocket, Sound (IPCServerSocket.removeOnOverride override)
      (Method.Ending (fun _ => Kept K) fun _ _ w' => w' = w) o w := by
    intro o
    unfold IPCServerSocket.removeOnOverride
    rw [Sound, Method.safe_bind, Method.safe_this, Method.forth_returned, Method.safe_ite, Method.safe_bind]
    constructor
    · intro _
      refine safe_removeSocketPath fun _ => ?_
      rw [Method.forth_returned]
      exact .returns hK rfl
    · intro _
      exact .returns hK rfl
  refine (hremove _).andThen fun _ o₁ w₁ hK₁ _ => ?_
  have hbind : Sound (openAndBind preBindSocketOperation)
      (Method.Ending (fun _ => Kept K) fun _ o' w' => BoundStream K o'.socket w') o₁ w₁ := by
    unfold openAndBind
    refine (ipcServerOpen_safe hK₁).andThen fun _ o₂ w₂ hK₂ h₂ => ?_
    rw [Method.safe_bind, Method.safe_this, Method.forth_returned, Method.safe_bind]
    apply safe_runOperation
    · intro f
      exact h₂.lawful rfl rfl
    · exact bindPath_safe hK₂ h₂
    · intro e
      rw [Method.forth_threw, Method.ending_threw]
      exact hK₂
  exact hbind.andThen fun _ o₂ w₂ hK₂ h₂ => ipcServerListen_safe connectionBacklogSize hK₂ h₂

theorem ipcAccept_safe (timeout : ℤ) {o : IPCServerSocket} (h : Owned K .ipcServerSocket o w) :
    Sound (IPCServerSocket.accept timeout)
      (Method.Ending (fun o' w' => o' = o ∧ Kept w w') fun accepted _ w' => Owned w .streamIPCSocket accepted w') o w := by
  have hselect : ∀ nfds t, Lawful () w (.select nfds o.socket t) := by
    intro nfds t
    refine h.lawful rfl fun s hs => ?_
    show s.stage ≠ .fresh
    rw [hs.2]
    decide
  have hwait : Sound (awaitConnection timeout) (Method.Ending (fun o' w' => o' = o ∧ Kept w w') fun _ _ w' => w' = w) o w := by
    unfold awaitConnection
    rw [Sound, Method.safe_bind, Method.safe_this, Method.forth_returned, Method.safe_ite]
    refine ⟨fun _ => ?_, fun _ => .returns ⟨rfl, Kept.refl w⟩ rfl⟩
    rw [Method.safe_bind]
    refine safe_pollSocket hselect fun res => ?_
    rw [Method.forth_returned, Method.safe_ite, Method.safe_ite]
    refine ⟨fun _ => .throws ⟨rfl, Kept.refl w⟩, fun _ => ⟨fun _ => .throws ⟨rfl, Kept.refl w⟩, fun _ => ?_⟩⟩
    exact .returns ⟨rfl, Kept.refl w⟩ rfl
  unfold IPCServerSocket.accept
  refine hwait.andThen fun _ o₁ w₁ h₁ hw₁ => ?_
  obtain ⟨rfl, -⟩ := h₁
  subst hw₁
  rw [Method.safe_bind, Method.safe_this, Method.forth_returned, Method.safe_bind]
  refine safe_sys.2 ⟨h.lawful rfl fun s hs => ⟨hs.2, hs.1⟩, fun x w₂ hx => ?_⟩
  have hkept := accept_kept hx
  rw [Method.forth_returned, Method.safe_ite]
  refine ⟨fun _ => .throws ⟨rfl, hkept⟩, fun hvalid => ?_⟩
  have hfd : x.fd ≠ -1 := fun h => hvalid (isInvalidSocket_iff.2 h)
  obtain ⟨-, s, hs, hsuits⟩ := accepted_mine hfd hx
  exact .returns ⟨rfl, hkept⟩ (Or.inr ⟨s, hs, hsuits⟩)

end IPCServerSocket

end SocketLibrary.Protocol
