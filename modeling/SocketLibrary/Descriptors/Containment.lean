import Mathlib.Tactic
import SocketLibrary.Descriptors.Leaks
import SocketLibrary.Interaction.Capability

/-!
# The methods only use descriptors of their own

Every method of the library makes its calls on the descriptor its object stores, or on one that a call of the same
method has just answered.
-/

namespace SocketLibrary.Descriptors

open SocketLibrary.Interaction SocketLibrary.Posix SocketLibrary.Model

/-- Descriptors as the resources of the calls. -/
def descriptors : Capability Sys Ans SOCKET where
  target
    | .setsockopt fd .. | .connect fd .. | .bind fd .. | .listen fd _ | .accept fd _ | .close fd | .getsockname fd
    | .select _ fd _ | .send fd .. | .recv fd .. | .sendto fd .. | .recvfrom fd .. | .callback _ fd => {fd}
    | _ => ∅
  handed
    | .socket .., fd => {fd}
    | .accept .., accepted => {accepted.fd}
    | _, _ => ∅
  null := -1

/-- `descriptors.Contains` for a result that carries no descriptor. -/
abbrev Contained {S α : Type} (fd : S → SOCKET) (F : Set SOCKET) (m : M S α) : Prop :=
  descriptors.Contains fd F m fun _ => ∅

open Capability (Contains)

variable {S α : Type} {fd : S → SOCKET} {F : Set SOCKET} {socket : SOCKET} (dm : DataModel)

theorem contains_sys {c : Sys} (hc : ∀ f ∈ descriptors.target c, f = -1 ∨ f ∈ F) :
    descriptors.Contains fd F (sys c : M S (Ans c)) (descriptors.handed c) :=
  Contains.call hc

theorem pure_contained (a : α) : Contained fd F (pure a : M S α) :=
  Contains.pure (Set.empty_subset F)

/-- A call whose result is not looked at. -/
theorem discard_contained {m : M S α} (h : Contained fd F m) : Contained fd F (do let _ ← m : M S Unit) :=
  Contains.seq h fun _ => pure_contained _

/-! ## The base class -/

theorem getErrorCode_contained : Contained fd F (getErrorCode : M S Bytes) :=
  Contains.seq (contains_sys (by simp [descriptors])) fun _ => contains_sys (by simp [descriptors])

theorem throwCode_contained (what : Bytes → Exn) :
    Contained fd F (do
      let code ← getErrorCode
      Method.throw (what code) : M S α) :=
  Contains.seq getErrorCode_contained fun _ => Contains.throw _

theorem pollSocket_contained (hs : socket = -1 ∨ socket ∈ F) (timeout : ℤ) (timeOutVal : Option TimeVal) :
    Contained fd F (Socket.pollSocket socket timeout timeOutVal : M S ℤ) :=
  Contains.ite (pure_contained _) (contains_sys (by simpa [descriptors] using hs))

theorem socketClose_contained (hs : socket = -1 ∨ socket ∈ F) : Contained fd F (Socket.close socket : M S Unit) :=
  contains_sys (by simpa [descriptors] using hs)

theorem runOperation_contained (hs : socket = -1 ∨ socket ∈ F) (operation : Option Callback) :
    Contained fd F (runOperation operation socket : M S Unit) := by
  cases operation with
  | none => exact pure_contained _
  | some f =>
    refine Contains.seq (contains_sys (by simpa [descriptors] using hs)) ?_
    rintro (_ | _)
    · exact pure_contained _
    · exact Contains.throw _

/-! ## Byte streams -/

section Streams

open ConnectionOrientedSocket

variable (hs : socket = -1 ∨ socket ∈ F)

include hs

theorem ready_contained (timeout : ULong dm) : Contained fd F (ready dm socket timeout : M S Bool) :=
  Contains.seq (pollSocket_contained hs _ _) fun _ => pure_contained _

theorem connected_contained (timeout : ULong dm) : Contained fd F (connected dm socket timeout : M S Bool) :=
  Contains.seq (pollSocket_contained hs _ _) fun _ => pure_contained _

theorem sendBuffer_contained (message : Bytes) (messageLength flags : ℤ) :
    Contained fd F (sendBuffer socket message messageLength flags : M S ℤ) :=
  contains_sys (by simpa [descriptors] using hs)

theorem receiveAmountTurn_contained (amountToReceive : UInt32) (flags : ℤ) (p : ℤ × Bytes) :
    Contained fd F (receiveAmountTurn dm socket amountToReceive flags p : M S ((ℤ × Bytes) ⊕ (ℤ × Bytes))) := by
  refine Contains.seq (contains_sys (by simpa [descriptors] using hs)) fun received => ?_
  refine Contains.ite (pure_contained _) (Contains.ite (Contains.throw _) (Contains.ite ?_ (pure_contained _)))
  refine Contains.seq (ready_contained dm hs _) fun isReady => ?_
  exact Contains.ite (pure_contained _) (pure_contained _)

theorem receiveAmountInto_contained (buffer : Bytes) (amountToReceive : UInt32) (flags : ℤ) :
    Contained fd F (receiveAmountInto dm socket buffer amountToReceive flags : M S (ℤ × Bytes)) :=
  Contains.ite (pure_contained _) (Contains.iterate (receiveAmountTurn_contained dm hs _ _) _ _)

theorem receiveAmount_contained (amountToReceive : UInt32) (flags : ℤ) :
    Contained fd F (receiveAmount dm socket amountToReceive flags : M S Bytes) :=
  Contains.seq (receiveAmountInto_contained dm hs _ _ _) fun _ => pure_contained _

theorem get_contained (flags : ℤ) : Contained fd F (ConnectionOrientedSocket.get dm socket flags : M S (Option UInt8)) :=
  Contains.seq (receiveAmount_contained dm hs _ _) fun _ => pure_contained _

theorem receiveToDelimiterTurn_contained (delimiter : UInt8) (flags : ℤ) (data : Bytes) :
    Contained fd F (receiveToDelimiterTurn dm socket delimiter flags data : M S (Bytes ⊕ Bytes)) := by
  refine Contains.seq (get_contained dm hs _) ?_
  rintro (_ | c)
  · exact pure_contained _
  · refine Contains.ite (pure_contained _) (Contains.seq (ready_contained dm hs _) fun isReady => ?_)
    exact Contains.ite (pure_contained _) (pure_contained _)

theorem receiveToDelimiter_contained (fuel : ℕ) (delimiter : UInt8) (flags : ℤ) :
    Contained fd F (receiveToDelimiter dm socket fuel delimiter flags : M S Bytes) := by
  refine Contains.ite (Contains.throw _) (Contains.seq (ready_contained dm hs _) fun isReady => ?_)
  exact Contains.ite (Contains.iterate (receiveToDelimiterTurn_contained dm hs _ _) _ _) (pure_contained _)

theorem receiveAllTurn_contained (timeout : ULong dm) (flags : ℤ) (p : Bytes × Bool) :
    Contained fd F (receiveAllTurn dm socket timeout flags p : M S ((Bytes × Bool) ⊕ Bytes)) := by
  refine Contains.seq (ready_contained dm hs _) fun isReady => Contains.ite ?_ (pure_contained _)
  refine Contains.seq (pollSocket_contained hs _ _) fun amount => ?_
  refine Contains.seq (receiveAmount_contained dm hs _ _) fun res => ?_
  exact Contains.ite (pure_contained _) (pure_contained _)

theorem receiveAll_contained (fuel : ℕ) (timeout : ULong dm) (flags : ℤ) :
    Contained fd F (receiveAll dm socket fuel timeout flags : M S Bytes) :=
  Contains.iterate (receiveAllTurn_contained dm hs _ _) _ _

end Streams

/-! ## Addresses -/

theorem getAddress_contained (address : SocketAddress) : Contained fd F (getAddress address : M S (Option Bytes)) :=
  Contains.seq (contains_sys (by simp [descriptors])) fun _ => pure_contained _

theorem resolveToAddresses_contained (hostname : Bytes) (port : UInt16) (hints : AddrInfo) :
    Contained fd F (resolveToAddresses hostname port hints : M S (List SocketAddress × ℤ)) := by
  refine Contains.seq (contains_sys (by simp [descriptors])) ?_
  rintro ⟨result, resolvedAddresses⟩
  exact Contains.ite (pure_contained _) (pure_contained _)

theorem socketToAddress_contained (hs : socket = -1 ∨ socket ∈ F) :
    Contained fd F (socketToAddress socket : M S (Option SocketAddress × ℤ)) :=
  Contains.seq (contains_sys (by simpa [descriptors] using hs)) fun _ => pure_contained _

/-! ## `TCPSocket` -/

section TCPSocket

open TCPSocket

theorem tcpClose_contained : Contained socketDescriptor F TCPSocket.close := by
  refine Contains.bind Contains.this fun this => Contains.seq (socketClose_contained (by simp)) fun _ => ?_
  exact Contains.modify fun o => Or.inl rfl

theorem connectFirst_contained (hints : AddrInfo) (addresses : List SocketAddress) :
    ∀ {F : Set SOCKET}, Contained socketDescriptor F (connectFirst hints addresses) := by
  induction addresses with
  | nil =>
    intro F
    exact Contains.bind Contains.this fun this => throwCode_contained _
  | cons address addresses ih =>
    intro F
    refine Contains.bind (contains_sys (by simp [descriptors])) fun new => ?_
    have hnew : new ∈ F ∪ descriptors.handed (.socket address.sa_family.toNat hints.ai_socktype hints.ai_protocol) new :=
      Or.inr rfl
    refine Contains.seq (Contains.modify fun o => Or.inr (Or.inr hnew)) fun _ => Contains.ite ?_ ?_
    · exact Contains.seq tcpClose_contained fun _ => ih
    · refine Contains.seq (contains_sys (by simp [descriptors])) fun result => Contains.ite ?_ ?_
      · exact Contains.modify fun o => Or.inr (Or.inl rfl)
      · exact Contains.seq tcpClose_contained fun _ => ih

theorem tcpConstruct_contained (hostname : Bytes) (port : UInt16) (protocolVersion : InternetProtocolVersion) :
    Contained socketDescriptor F (TCPSocket.construct hostname port protocolVersion) := by
  refine Contains.seq (Contains.modify fun o => Or.inl rfl) fun _ => Contains.bind Contains.this fun this => ?_
  refine Contains.seq (resolveToAddresses_contained _ _ _) ?_
  rintro ⟨addresses, result⟩
  exact Contains.ite (throwCode_contained _) (connectFirst_contained _ _)

theorem tcpConstructFromAddress_contained (address : SocketAddress) :
    Contained socketDescriptor F (TCPSocket.constructFromAddress address) := by
  refine Contains.seq (getAddress_contained _) fun resolvedHostname => ?_
  refine Contains.bind (contains_sys (by simp [descriptors])) fun new => ?_
  refine Contains.seq (Contains.modify fun o => Or.inr (Or.inr (Or.inr rfl))) fun _ => Contains.ite ?_ ?_
  · exact throwCode_contained _
  · refine Contains.seq (contains_sys (by simp [descriptors])) fun result => Contains.ite ?_ ?_
    · exact Contains.modify fun o => Or.inr (Or.inl rfl)
    · exact throwCode_contained _

end TCPSocket

/-! ## `TCPServerSocket` -/

section TCPServerSocket

open TCPServerSocket

theorem tcpServerClose_contained : Contained TCPServerSocket.socketDescriptor F TCPServerSocket.close := by
  refine Contains.bind Contains.this fun this => Contains.seq (socketClose_contained (by simp)) fun _ => ?_
  exact Contains.modify fun o => Or.inl rfl

theorem initialisePortNumber_contained : Contained TCPServerSocket.socketDescriptor F initialisePortNumber := by
  refine Contains.bind Contains.this fun this => Contains.seq (socketToAddress_contained (by simp)) ?_
  rintro ⟨_ | address, result⟩
  · refine Contains.ite (Contains.seq tcpServerClose_contained fun _ => ?_) (Contains.throw _)
    exact throwCode_contained _
  · exact Contains.modify fun o => Or.inr (Or.inl rfl)

theorem tcpOpenSocket_contained (localHostname : Option Bytes) :
    Contained TCPServerSocket.socketDescriptor F (TCPServerSocket.openSocket localHostname) := by
  refine Contains.bind Contains.this fun this => Contains.seq (resolveToAddresses_contained _ _ _) ?_
  rintro ⟨addresses, result⟩
  refine Contains.ite (throwCode_contained _) ?_
  refine Contains.bind (contains_sys (by simp [descriptors])) fun new => ?_
  refine Contains.seq (Contains.modify fun o => Or.inr (Or.inr (Or.inr rfl))) fun _ => ?_
  exact Contains.ite (throwCode_contained _) (pure_contained _)

theorem enableReuse_contained : Contained TCPServerSocket.socketDescriptor F enableReuse := by
  refine Contains.bind Contains.this fun this => Contains.seq (contains_sys (by simp [descriptors])) fun result => ?_
  exact Contains.ite (throwCode_contained _) (pure_contained _)

theorem bindAddress_contained : Contained TCPServerSocket.socketDescriptor F bindAddress := by
  refine Contains.bind Contains.this fun this => Contains.seq (contains_sys (by simp [descriptors])) fun result => ?_
  refine Contains.ite ?_ (Contains.ite ?_ (pure_contained _))
  · exact Contains.seq tcpServerClose_contained fun _ => throwCode_contained _
  · exact Contains.seq initialisePortNumber_contained fun _ => Contains.modify fun o => Or.inr (Or.inl rfl)

theorem tcpStartListening_contained (connectionBacklogSize : UInt32) :
    Contained TCPServerSocket.socketDescriptor F (TCPServerSocket.startListening connectionBacklogSize) := by
  refine Contains.bind Contains.this fun this => Contains.seq (contains_sys (by simp [descriptors])) fun result => ?_
  refine Contains.ite (Contains.seq tcpServerClose_contained fun _ => ?_) (pure_contained _)
  exact throwCode_contained _

theorem tcpServerConstruct_contained (localHostname : Option Bytes) (port : UInt16) (connectionBacklogSize : UInt32)
    (protocolVersion : InternetProtocolVersion) (preBindSocketOperation : Option Callback) :
    Contained TCPServerSocket.socketDescriptor F
      (TCPServerSocket.construct localHostname port connectionBacklogSize protocolVersion preBindSocketOperation) := by
  refine Contains.seq (Contains.modify fun o => Or.inl rfl) fun _ => Contains.seq (tcpOpenSocket_contained _) fun _ => ?_
  refine Contains.seq enableReuse_contained fun _ => Contains.bind Contains.this fun this => ?_
  refine Contains.seq (runOperation_contained (by simp) _) fun _ => Contains.seq bindAddress_contained fun _ => ?_
  exact tcpStartListening_contained _

theorem tcpAwaitConnection_contained (timeout : ℤ) :
    Contained TCPServerSocket.socketDescriptor F (TCPServerSocket.awaitConnection timeout) := by
  refine Contains.bind Contains.this fun this => Contains.ite ?_ (pure_contained _)
  refine Contains.seq (pollSocket_contained (by simp) _ _) fun res => Contains.ite ?_ ?_
  · refine Contains.seq getErrorCode_contained fun code => ?_
    exact Contains.seq (contains_sys (by simp [descriptors])) fun errno => Contains.throw _
  · exact Contains.ite (Contains.throw _) (pure_contained _)

/-- `accept` gives away the descriptor it was handed. -/
theorem tcpAccept_contains (timeout : ℤ) :
    descriptors.Contains TCPServerSocket.socketDescriptor F (TCPServerSocket.accept timeout) fun socket =>
      {socket.socketDescriptor} := by
  refine Contains.seq (tcpAwaitConnection_contained _) fun _ => Contains.bind Contains.this fun this => ?_
  refine Contains.bind (contains_sys (by simp [descriptors])) fun accepted => Contains.ite (Contains.throw _) ?_
  refine Contains.seq (getAddress_contained _) ?_
  rintro (_ | hostname)
  · exact Contains.throw _
  · exact Contains.pure (by simp [TCPSocket.ofDescriptor, descriptors])

end TCPServerSocket

/-! ## `StreamIPCSocket` and `IPCServerSocket` -/

section Paths

theorem removeSocketPath_contained (socketPath : Bytes) :
    Contained fd F (IPCSocket.removeSocketPath socketPath : M S ℤ) :=
  contains_sys (by simp [descriptors])

theorem streamClose_contained : Contained StreamIPCSocket.socket F StreamIPCSocket.close := by
  refine Contains.bind Contains.this fun this => Contains.seq (socketClose_contained (by simp)) fun _ => ?_
  exact Contains.modify fun o => Or.inl rfl

theorem streamConstruct_contained (socketPath : Bytes) :
    Contained StreamIPCSocket.socket F (StreamIPCSocket.construct socketPath) := by
  refine Contains.seq (Contains.modify fun o => Or.inr (Or.inl rfl)) fun _ => ?_
  refine Contains.seq (Contains.modify fun o => Or.inr (Or.inl rfl)) fun _ => Contains.bind Contains.this fun this => ?_
  refine Contains.bind (contains_sys (by simp [descriptors])) fun new => ?_
  refine Contains.seq (Contains.modify fun o => Or.inr (Or.inr (Or.inr rfl))) fun _ => ?_
  have hfail : ∀ {F : Set SOCKET} {what : Bytes → Exn},
      Contained StreamIPCSocket.socket F (getErrorCode >>= fun code => Method.throw (what code) : M _ Unit) :=
    throwCode_contained _
  refine Contains.ite hfail (Contains.seq (contains_sys (by simp [descriptors])) fun connectionResult => ?_)
  exact Contains.ite (pure_contained _) hfail

theorem ipcServerClose_contained : Contained IPCServerSocket.socket F IPCServerSocket.close := by
  refine Contains.bind Contains.this fun this => Contains.seq (socketClose_contained (by simp)) fun _ => ?_
  refine Contains.seq (Contains.modify fun o => Or.inl rfl) fun _ => ?_
  exact discard_contained (removeSocketPath_contained _)

theorem ipcServerConstruct_contained (socketPath : Bytes) (override : Bool) (connectionBacklogSize : UInt32)
    (preBindSocketOperation : Option Callback) : Contained IPCServerSocket.socket F
      (IPCServerSocket.construct socketPath override connectionBacklogSize preBindSocketOperation) := by
  have hfail : ∀ {F : Set SOCKET} {what : Bytes → Exn}, Contained IPCServerSocket.socket F (do
      IPCServerSocket.close
      let code ← getErrorCode
      Method.throw (what code) : M IPCServerSocket Unit) :=
    Contains.seq ipcServerClose_contained fun _ => throwCode_contained _
  have hremove : ∀ {F : Set SOCKET}, Contained IPCServerSocket.socket F (IPCServerSocket.removeOnOverride override) := by
    intro F
    refine Contains.bind Contains.this fun this => ?_
    exact Contains.ite (discard_contained (removeSocketPath_contained _)) (pure_contained _)
  have hopen : ∀ {F : Set SOCKET}, Contained IPCServerSocket.socket F IPCServerSocket.openSocket := by
    intro F
    refine Contains.bind (contains_sys (by simp [descriptors])) fun new => ?_
    refine Contains.seq (Contains.modify fun o => Or.inr (Or.inr (Or.inr rfl))) fun _ => ?_
    exact Contains.ite (throwCode_contained _) (pure_contained _)
  have hbind : ∀ {F : Set SOCKET}, Contained IPCServerSocket.socket F IPCServerSocket.bindPath := by
    intro F
    refine Contains.bind Contains.this fun this => Contains.seq (contains_sys (by simp [descriptors])) fun result => ?_
    exact Contains.ite hfail (pure_contained _)
  refine Contains.seq (Contains.modify fun o => Or.inr (Or.inl rfl)) fun _ => ?_
  refine Contains.seq (Contains.modify fun o => Or.inr (Or.inl rfl)) fun _ => Contains.seq hremove fun _ => ?_
  refine Contains.seq (Contains.seq hopen fun _ => Contains.bind Contains.this fun this =>
    Contains.seq (runOperation_contained (by simp) _) fun _ => hbind) fun _ => ?_
  refine Contains.bind Contains.this fun this => Contains.seq (contains_sys (by simp [descriptors])) fun result => ?_
  exact Contains.ite hfail (pure_contained _)

theorem ipcAwaitConnection_contained (timeout : ℤ) :
    Contained IPCServerSocket.socket F (IPCServerSocket.awaitConnection timeout) := by
  refine Contains.bind Contains.this fun this => Contains.ite ?_ (pure_contained _)
  refine Contains.seq (pollSocket_contained (by simp) _ _) fun res => Contains.ite (Contains.throw _) ?_
  exact Contains.ite (Contains.throw _) (pure_contained _)

theorem ipcAccept_contains (timeout : ℤ) :
    descriptors.Contains IPCServerSocket.socket F (IPCServerSocket.accept timeout) fun socket => {socket.socket} := by
  refine Contains.seq (ipcAwaitConnection_contained _) fun _ => Contains.bind Contains.this fun this => ?_
  refine Contains.bind (contains_sys (by simp [descriptors])) fun accepted => Contains.ite (Contains.throw _) ?_
  exact Contains.pure (by simp [StreamIPCSocket.ofDescriptor, descriptors])

end Paths

/-! ## `UDPSocket` -/

section UDPSocket

theorem udpClose_contained : Contained UDPSocket.receiveSocket F UDPSocket.close := by
  refine Contains.bind Contains.this fun this => Contains.seq (socketClose_contained (by simp)) fun _ => ?_
  exact Contains.modify fun o => Or.inl rfl

theorem initialiseListeningPortNumber_contained :
    Contained UDPSocket.receiveSocket F UDPSocket.initialiseListeningPortNumber := by
  refine Contains.bind Contains.this fun this => Contains.seq (socketToAddress_contained (by simp)) ?_
  rintro ⟨_ | address, result⟩
  · refine Contains.ite (Contains.seq udpClose_contained fun _ => ?_) (Contains.throw _)
    exact throwCode_contained _
  · exact Contains.modify fun o => Or.inr (Or.inl rfl)

theorem bindReceiveSocket_contained (address : SocketAddress) (preBindSocketOperation : Option Callback) :
    Contained UDPSocket.receiveSocket F (UDPSocket.bindReceiveSocket address preBindSocketOperation) := by
  refine Contains.seq (Contains.bind Contains.this fun this => ?_) fun _ => Contains.bind Contains.this fun this => ?_
  · exact Contains.ite udpClose_contained (pure_contained _)
  refine Contains.seq (runOperation_contained (by simp) _) fun _ => ?_
  refine Contains.seq (contains_sys (by simp [descriptors])) fun bindResult => ?_
  refine Contains.seq (Contains.modify fun o => Or.inr (Or.inl rfl)) fun _ => ?_
  refine Contains.ite (pure_contained _) (Contains.seq initialiseListeningPortNumber_contained fun _ => ?_)
  refine Contains.bind Contains.this fun this => ?_
  cases this.listeningPort with
  | none => exact Contains.throw _
  | some port => exact pure_contained _

theorem udpBind_contained (addressOpt : Option SocketAddress) (preBindSocketOperation : Option Callback) :
    Contained UDPSocket.receiveSocket F (UDPSocket.bind addressOpt preBindSocketOperation) := by
  cases addressOpt with
  | none => exact Contains.throw _
  | some address =>
    refine Contains.bind Contains.this fun this => Contains.bind (contains_sys (by simp [descriptors])) fun new => ?_
    refine Contains.seq (Contains.modify fun o => Or.inr (Or.inr (Or.inr rfl))) fun _ => ?_
    exact Contains.ite (throwCode_contained _) (bindReceiveSocket_contained _ _)

theorem udpBindHost_contained (protocolVersion : InternetProtocolVersion) (localHostname : Option Bytes)
    (port : UInt16) (preBindSocketOperation : Option Callback) : Contained UDPSocket.receiveSocket F
      (UDPSocket.bindHost protocolVersion localHostname port preBindSocketOperation) := by
  refine Contains.seq (resolveToAddresses_contained _ _ _) ?_
  rintro ⟨addresses, result⟩
  exact Contains.ite (Contains.throw _) (udpBind_contained _ _)

theorem udpSendBufferTo_contained (address : SocketAddress) (buffer : Bytes) (bufferLength flags : ℤ) :
    Contained UDPSocket.receiveSocket F (UDPSocket.sendBufferTo address buffer bufferLength flags) := by
  refine Contains.bind (contains_sys (by simp [descriptors])) fun tempSocket => ?_
  refine Contains.ite (pure_contained _) (Contains.bind Contains.this fun this => ?_)
  refine Contains.seq (runOperation_contained (by simp [descriptors]) _) fun _ => ?_
  refine Contains.seq (contains_sys (by simp [descriptors])) fun result => ?_
  exact Contains.seq (socketClose_contained (by simp [descriptors])) fun _ => pure_contained _

theorem udpSendBufferToHost_contained (hostname : Bytes) (port : UInt16) (buffer : Bytes) (bufferLength flags : ℤ)
    (protocolVersion : InternetProtocolVersion) : Contained UDPSocket.receiveSocket F
      (UDPSocket.sendBufferToHost hostname port buffer bufferLength flags protocolVersion) := by
  refine Contains.seq (resolveToAddresses_contained _ _ _) ?_
  rintro ⟨addresses, result⟩
  refine Contains.ite (pure_contained _) ?_
  exact Contains.seq (udpSendBufferTo_contained _ _ _ _) fun _ => pure_contained _

theorem udpReceiveFromInto_contained (buffer : Bytes) (receiveLength flags : ℤ) :
    Contained UDPSocket.receiveSocket F (UDPSocket.receiveFromInto buffer receiveLength flags) := by
  refine Contains.bind Contains.this fun this => Contains.ite (pure_contained _) ?_
  exact Contains.seq (contains_sys (by simp [descriptors])) fun datagram => pure_contained _

theorem udpReceiveFrom_contained (receiveLength flags : ℤ) :
    Contained UDPSocket.receiveSocket F (UDPSocket.receiveFrom receiveLength flags) :=
  Contains.ite (Contains.throw _)
    (Contains.seq (udpReceiveFromInto_contained _ _ _) fun _ => pure_contained _)

theorem udpReady_contained (timeout : ULong dm) : Contained UDPSocket.receiveSocket F (UDPSocket.ready dm timeout) := by
  refine Contains.bind Contains.this fun this => Contains.ite ?_ (pure_contained _)
  refine Contains.seq (Contains.ite (pure_contained _) ?_) fun result => pure_contained _
  exact pollSocket_contained (by simp) _ _

theorem udpCall_contained (c : UDPCall dm) : Contained UDPSocket.receiveSocket F c.perform := by
  cases c with
  | bind addressOpt operation => exact discard_contained (udpBind_contained _ _)
  | bindHost version host port operation =>
    exact discard_contained (udpBindHost_contained _ _ _ _)
  | sendTo address message flags =>
    exact discard_contained (udpSendBufferTo_contained _ _ _ _)
  | sendBufferTo address buffer bufferLength flags =>
    exact discard_contained (udpSendBufferTo_contained _ _ _ _)
  | sendToHost hostname port message flags version =>
    exact discard_contained (udpSendBufferToHost_contained _ _ _ _ _ _)
  | sendBufferToHost hostname port buffer bufferLength flags version =>
    exact discard_contained (udpSendBufferToHost_contained _ _ _ _ _ _)
  | receiveFrom receiveLength flags =>
    exact discard_contained (udpReceiveFrom_contained _ _)
  | receiveFromInto buffer receiveLength flags =>
    exact discard_contained (udpReceiveFromInto_contained _ _ _)
  | ready timeout => exact discard_contained (udpReady_contained dm timeout)
  | setPreSendSocketOperation newOperation => exact Contains.modify fun o => Or.inr (Or.inl rfl)
  | close => exact udpClose_contained

end UDPSocket

/-! ## `DatagramIPCSocket` -/

section DatagramIPCSocket

theorem datagramClose_contained : Contained DatagramIPCSocket.receiveSocket F DatagramIPCSocket.close := by
  refine Contains.bind Contains.this fun this => Contains.seq (socketClose_contained (by simp)) fun _ => ?_
  refine Contains.seq (Contains.modify fun o => Or.inl rfl) fun _ => ?_
  refine Contains.seq (Contains.bind Contains.this fun this => ?_) fun _ => Contains.modify fun o => Or.inr (Or.inl rfl)
  cases this.socketPath with
  | none => exact pure_contained _
  | some socketPath =>
    exact Contains.ite (discard_contained (removeSocketPath_contained _)) (pure_contained _)

theorem datagramOpenAndBind_contained (path : Bytes) (preBindSocketOperation : Option Callback) :
    Contained DatagramIPCSocket.receiveSocket F (DatagramIPCSocket.openAndBind path preBindSocketOperation) := by
  refine Contains.bind (contains_sys (by simp [descriptors])) fun new => ?_
  refine Contains.seq (Contains.modify fun o => Or.inr (Or.inr (Or.inr rfl))) fun _ => ?_
  refine Contains.ite (throwCode_contained _) ?_
  refine Contains.seq (Contains.bind Contains.this fun this => ?_) fun _ => Contains.bind Contains.this fun this => ?_
  · exact Contains.ite datagramClose_contained (pure_contained _)
  refine Contains.seq (runOperation_contained (by simp) _) fun _ => ?_
  refine Contains.seq (contains_sys (by simp [descriptors])) fun bindResult => ?_
  refine Contains.seq (Contains.modify fun o => Or.inr (Or.inl rfl)) fun _ => Contains.ite (pure_contained _) ?_
  refine Contains.seq (Contains.modify fun o => Or.inr (Or.inl rfl)) fun _ => Contains.bind Contains.this fun this => ?_
  cases this.socketPath with
  | none => exact Contains.throw _
  | some socketPath => exact pure_contained _

theorem bindOverride_contained (override : Bool) (socketPathOpt : Option Bytes)
    (preBindSocketOperation : Option Callback) : Contained DatagramIPCSocket.receiveSocket F
      (DatagramIPCSocket.bindOverride override socketPathOpt preBindSocketOperation) := by
  cases socketPathOpt with
  | none => exact Contains.throw _
  | some socketPath =>
    refine Contains.seq (Contains.ite ?_ (pure_contained _)) fun _ => datagramOpenAndBind_contained _ _
    exact discard_contained (removeSocketPath_contained _)

theorem datagramSendBufferTo_contained (path buffer : Bytes) (bufferLength flags : ℤ) :
    Contained DatagramIPCSocket.receiveSocket F (DatagramIPCSocket.sendBufferTo path buffer bufferLength flags) := by
  refine Contains.bind (contains_sys (by simp [descriptors])) fun tempSocket => ?_
  refine Contains.ite (pure_contained _) (Contains.bind Contains.this fun this => ?_)
  refine Contains.seq (runOperation_contained (by simp [descriptors]) _) fun _ => ?_
  refine Contains.seq (contains_sys (by simp [descriptors])) fun result => ?_
  exact Contains.seq (socketClose_contained (by simp [descriptors])) fun _ => pure_contained _

theorem datagramReceiveFromInto_contained (buffer : Bytes) (receiveLength flags : ℤ) :
    Contained DatagramIPCSocket.receiveSocket F (DatagramIPCSocket.receiveFromInto buffer receiveLength flags) := by
  refine Contains.bind Contains.this fun this => Contains.ite (pure_contained _) ?_
  refine Contains.seq (contains_sys (by simp [descriptors])) fun datagram => ?_
  cases this.socketPath with
  | none => exact Contains.throw _
  | some socketPath => exact pure_contained _

theorem datagramReceiveFrom_contained (receiveLength flags : ℤ) :
    Contained DatagramIPCSocket.receiveSocket F (DatagramIPCSocket.receiveFrom receiveLength flags) :=
  Contains.ite (Contains.throw _)
    (Contains.seq (datagramReceiveFromInto_contained _ _ _) fun _ => pure_contained _)

theorem datagramReady_contained (timeout : ULong dm) :
    Contained DatagramIPCSocket.receiveSocket F (DatagramIPCSocket.ready dm timeout) := by
  refine Contains.bind Contains.this fun this => Contains.ite ?_ (pure_contained _)
  exact Contains.seq (pollSocket_contained (by simp) _ _) fun result => pure_contained _

theorem datagramCall_contained (c : DatagramCall dm) : Contained DatagramIPCSocket.receiveSocket F c.perform := by
  cases c with
  | bind socketPath operation =>
    exact discard_contained (bindOverride_contained false _ _)
  | bindOverride override socketPathOpt operation =>
    exact discard_contained (bindOverride_contained _ _ _)
  | sendTo path message flags =>
    exact discard_contained (datagramSendBufferTo_contained _ _ _ _)
  | sendBufferTo path buffer bufferLength flags =>
    exact discard_contained (datagramSendBufferTo_contained _ _ _ _)
  | receiveFrom receiveLength flags =>
    exact discard_contained (datagramReceiveFrom_contained _ _)
  | receiveFromInto buffer receiveLength flags =>
    exact discard_contained (datagramReceiveFromInto_contained _ _ _)
  | ready timeout => exact discard_contained (datagramReady_contained dm timeout)
  | setPreSendSocketOperation operation => exact Contains.modify fun o => Or.inr (Or.inl rfl)
  | close => exact datagramClose_contained

end DatagramIPCSocket

end SocketLibrary.Descriptors
