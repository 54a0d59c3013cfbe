import SocketLibrary.Descriptors.Sharing

/-!
# What neither sends nor receives

The constructors, `accept` and `close` of all classes, and all methods of the datagram sockets, make no call of `send` or
`recv`, whatever the system answers.
-/

namespace SocketLibrary.Service

open SocketLibrary.Interaction SocketLibrary.Posix SocketLibrary.Model SocketLibrary.Descriptors

/-- The call carries no bytes of a connection. -/
def Mute : Sys → Prop
  | .send .. | .recv .. => False
  | _ => True

variable {S α : Type}

abbrev Silent (m : M S α) : Prop := Method.Only Mute m

theorem silent_errorCode {f : Bytes → M S α} (hf : ∀ code, Silent (f code)) : Silent (getErrorCode >>= f) :=
  .bind (.bind (.call trivial) fun _ => .call trivial) hf

theorem silent_runOperation (operation : Option Callback) (socket : SOCKET) :
    Silent (runOperation operation socket : M S Unit) := by
  cases operation with
  | none => exact .pure _
  | some f =>
    refine .bind (.call trivial) fun x => ?_
    cases x with
    | returned => exact .pure _
    | threw => exact .throw _

theorem silent_pollSocket (socket : SOCKET) (timeout : ℤ) (timeOutVal : Option TimeVal) :
    Silent (Socket.pollSocket socket timeout timeOutVal : M S ℤ) :=
  .ite (.pure _) (.call trivial)

theorem silent_resolveToAddresses (hostname : Bytes) (port : UInt16) (hints : AddrInfo) :
    Silent (resolveToAddresses hostname port hints : M S (List SocketAddress × ℤ)) :=
  .bind (.call trivial) fun _ => .ite (.pure _) (.pure _)

theorem silent_tcpClose : Silent TCPSocket.close := .bind .this fun _ => .bind (.call trivial) fun _ => .modify _

theorem silent_connectFirst (hints : AddrInfo) (addresses : List SocketAddress) :
    Silent (TCPSocket.connectFirst hints addresses) := by
  induction addresses with
  | nil => exact .bind .this fun _ => silent_errorCode fun _ => .throw _
  | cons address addresses ih =>
    refine .bind (.call trivial) fun _ => .bind (.modify _) fun _ => .ite (.bind silent_tcpClose fun _ => ih) ?_
    exact .bind (.call trivial) fun _ => .ite (.modify _) (.bind silent_tcpClose fun _ => ih)

theorem silent_tcpServerClose : Silent TCPServerSocket.close :=
  .bind .this fun _ => .bind (.call trivial) fun _ => .modify _

theorem silent_initialisePortNumber : Silent TCPServerSocket.initialisePortNumber := by
  refine .bind .this fun _ => .bind (.bind (.call trivial) fun _ => .pure _) fun r => ?_
  obtain ⟨address, result⟩ := r
  cases address with
  | none => exact .ite (.bind silent_tcpServerClose fun _ => silent_errorCode fun _ => .throw _) (.throw _)
  | some address => exact .modify _

theorem silent_tcpServerConstructSocket (localHostname : Option Bytes) (connectionBacklogSize : UInt32)
    (preBindSocketOperation : Option Callback) :
    Silent (TCPServerSocket.constructSocket localHostname connectionBacklogSize preBindSocketOperation) := by
  have hopen : Silent (TCPServerSocket.openSocket localHostname) := by
    refine .bind .this fun _ => .bind (silent_resolveToAddresses _ _ _) fun _ => .ite ?_ ?_
    · exact silent_errorCode fun _ => .throw _
    · refine .bind (.call trivial) fun _ => .bind (.modify _) fun _ => .ite ?_ (.pure _)
      exact silent_errorCode fun _ => .throw _
  have hreuse : Silent TCPServerSocket.enableReuse :=
    .bind .this fun _ => .bind (.call trivial) fun _ => .ite (silent_errorCode fun _ => .throw _) (.pure _)
  have hbind : Silent TCPServerSocket.bindAddress := by
    refine .bind .this fun _ => .bind (.call trivial) fun _ => .ite ?_ (.ite ?_ (.pure _))
    · exact .bind silent_tcpServerClose fun _ => silent_errorCode fun _ => .throw _
    · exact .bind silent_initialisePortNumber fun _ => .modify _
  have hlisten : Silent (TCPServerSocket.startListening connectionBacklogSize) := by
    refine .bind .this fun _ => .bind (.call trivial) fun _ => .ite ?_ (.pure _)
    exact .bind silent_tcpServerClose fun _ => silent_errorCode fun _ => .throw _
  exact .bind hopen fun _ => .bind hreuse fun _ => .bind .this fun _ => .bind (silent_runOperation _ _) fun _ =>
    .bind hbind fun _ => hlisten

theorem silent_ipcServerClose : Silent IPCServerSocket.close :=
  .bind .this fun _ => .bind (.call trivial) fun _ => .bind (.modify _) fun _ => .bind (.call trivial) fun _ => .pure _

theorem silent_ipcServerConstructSocket (override : Bool) (connectionBacklogSize : UInt32)
    (preBindSocketOperation : Option Callback) :
    Silent (IPCServerSocket.constructSocket override connectionBacklogSize preBindSocketOperation) := by
  have hremove : Silent (IPCServerSocket.removeOnOverride override) :=
    .bind .this fun _ => .ite (.bind (.call trivial) fun _ => .pure _) (.pure _)
  have hopen : Silent IPCServerSocket.openSocket :=
    .bind (.call trivial) fun _ => .bind (.modify _) fun _ => .ite (silent_errorCode fun _ => .throw _) (.pure _)
  have hbind : Silent IPCServerSocket.bindPath := by
    refine .bind .this fun _ => .bind (.call trivial) fun _ => .ite ?_ (.pure _)
    exact .bind silent_ipcServerClose fun _ => silent_errorCode fun _ => .throw _
  have hlisten : Silent (IPCServerSocket.startListening connectionBacklogSize) := by
    refine .bind .this fun _ => .bind (.call trivial) fun _ => .ite ?_ (.pure _)
    exact .bind silent_ipcServerClose fun _ => silent_errorCode fun _ => .throw _
  have hboth : Silent (IPCServerSocket.openAndBind preBindSocketOperation) :=
    .bind hopen fun _ => .bind .this fun _ => .bind (silent_runOperation _ _) fun _ => hbind
  exact .bind (.modify _) fun _ => .bind hremove fun _ => .bind hboth fun _ => hlisten

/-- **Every constructor.** -/
theorem construction_silent {c : SocketClass} (m : Construction c) : Silent m.perform := by
  cases m with
  | tcp hostname port version =>
    refine .bind (.modify _) fun _ => .bind .this fun _ => .bind (silent_resolveToAddresses _ _ _) fun _ => .ite ?_ ?_
    · exact silent_errorCode fun _ => .throw _
    · exact silent_connectFirst _ _
  | tcpFromAddress address =>
    refine .bind (.bind (.call trivial) fun _ => .pure _) fun _ => .bind (.call trivial) fun _ => .bind (.modify _)
      fun _ => .ite (silent_errorCode fun _ => .throw _) ?_
    exact .bind (.call trivial) fun _ => .ite (.modify _) (silent_errorCode fun _ => .throw _)
  | tcpServer host port backlog version operation =>
    exact .bind (.modify _) fun _ => silent_tcpServerConstructSocket _ _ _
  | streamIPC path =>
    refine .bind (.modify _) fun _ => .bind (.modify _) fun _ => .bind .this fun _ => .bind (.call trivial) fun _ =>
      .bind (.modify _) fun _ => .ite (silent_errorCode fun _ => .throw _) ?_
    exact .bind (.call trivial) fun _ => .ite (.pure _) (silent_errorCode fun _ => .throw _)
  | ipcServer path override backlog operation =>
    exact .bind (.modify _) fun _ => silent_ipcServerConstructSocket _ _ _
  | udp => exact .modify _
  | datagramIPC => exact .modify _

/-- **`accept`.** -/
theorem accept_silent {c d : SocketClass} (m : Accept c d) : Silent m.perform := by
  cases m with
  | tcp timeout =>
    have hawait : Silent (TCPServerSocket.awaitConnection timeout) := by
      refine .bind .this fun _ => .ite (.bind (silent_pollSocket _ _ _) fun _ => .ite ?_ (.ite (.throw _) (.pure _))) (.pure _)
      exact silent_errorCode fun _ => .bind (.call trivial) fun _ => .throw _
    refine .bind hawait fun _ => .bind .this fun _ => .bind (.call trivial) fun _ => .ite (.throw _) ?_
    refine .bind (.bind (.call trivial) fun _ => .pure _) fun hostname => ?_
    cases hostname with
    | none => exact .throw _
    | some hostname => exact .pure _
  | ipc timeout =>
    have hawait : Silent (IPCServerSocket.awaitConnection timeout) := by
      refine .bind .this fun _ => .ite ?_ (.pure _)
      exact .bind (silent_pollSocket _ _ _) fun _ => .ite (.throw _) (.ite (.throw _) (.pure _))
    exact .bind hawait fun _ => .bind .this fun _ => .bind (.call trivial) fun _ => .ite (.throw _) (.pure _)

/-! ## The methods -/

theorem silent_udpClose : Silent UDPSocket.close := .bind .this fun _ => .bind (.call trivial) fun _ => .modify _

theorem silent_initialiseListeningPortNumber : Silent UDPSocket.initialiseListeningPortNumber := by
  refine .bind .this fun _ => .bind (.bind (.call trivial) fun _ => .pure _) fun r => ?_
  obtain ⟨address, result⟩ := r
  cases address with
  | none => exact .ite (.bind silent_udpClose fun _ => silent_errorCode fun _ => .throw _) (.throw _)
  | some address => exact .modify _

theorem silent_udpBind (addressOpt : Option SocketAddress) (preBindSocketOperation : Option Callback) :
    Silent (UDPSocket.bind addressOpt preBindSocketOperation) := by
  cases addressOpt with
  | none => exact .throw _
  | some address =>
    refine .bind .this fun _ => .bind (.call trivial) fun _ => .bind (.modify _) fun _ => .ite ?_ ?_
    · exact silent_errorCode fun _ => .throw _
    · refine .bind (.bind .this fun _ => .ite silent_udpClose (.pure _)) fun _ => .bind .this fun _ => ?_
      refine .bind (silent_runOperation _ _) fun _ => .bind (.call trivial) fun _ => .bind (.modify _) fun _ =>
        .ite (.pure _) (.bind silent_initialiseListeningPortNumber fun _ => .bind .this fun this => ?_)
      cases this.listeningPort with
      | none => exact .throw _
      | some port => exact .pure _

theorem silent_udpSendBufferTo (address : SocketAddress) (buffer : Bytes) (bufferLength flags : ℤ) :
    Silent (UDPSocket.sendBufferTo address buffer bufferLength flags) := by
  refine .bind (.call trivial) fun _ => .ite (.pure _) (.bind .this fun _ => .bind (silent_runOperation _ _) fun _ => ?_)
  exact .bind (.call trivial) fun _ => .bind (.call trivial) fun _ => .pure _

theorem silent_udpSendBufferToHost (hostname : Bytes) (port : UInt16) (buffer : Bytes) (bufferLength flags : ℤ)
    (protocolVersion : InternetProtocolVersion) :
    Silent (UDPSocket.sendBufferToHost hostname port buffer bufferLength flags protocolVersion) := by
  refine .bind (silent_resolveToAddresses _ _ _) fun r => ?_
  obtain ⟨addresses, result⟩ := r
  exact .ite (.pure _) (.bind (silent_udpSendBufferTo _ _ _ _) fun _ => .pure _)

theorem silent_udpReceiveFromInto (buffer : Bytes) (receiveLength flags : ℤ) :
    Silent (UDPSocket.receiveFromInto buffer receiveLength flags) :=
  .bind .this fun _ => .ite (.pure _) (.bind (.call trivial) fun _ => .pure _)

variable {dm : DataModel}

theorem udpCall_silent (m : UDPCall dm) : Silent m.perform := by
  cases m with
  | bind addressOpt operation => exact .bind (silent_udpBind _ _) fun _ => .pure _
  | bindHost version host port operation =>
    refine .bind (.bind (silent_resolveToAddresses _ _ _) fun r => ?_) fun _ => .pure _
    obtain ⟨addresses, result⟩ := r
    exact .ite (.throw _) (silent_udpBind _ _)
  | sendTo address message flags => exact .bind (silent_udpSendBufferTo _ _ _ _) fun _ => .pure _
  | sendBufferTo address buffer bufferLength flags => exact .bind (silent_udpSendBufferTo _ _ _ _) fun _ => .pure _
  | sendToHost hostname port message flags version =>
    exact .bind (silent_udpSendBufferToHost _ _ _ _ _ _) fun _ => .pure _
  | sendBufferToHost hostname port buffer bufferLength flags version =>
    exact .bind (silent_udpSendBufferToHost _ _ _ _ _ _) fun _ => .pure _
  | receiveFrom receiveLength flags =>
    exact .bind (.ite (.throw _) (.bind (silent_udpReceiveFromInto _ _ _) fun _ => .pure _)) fun _ => .pure _
  | receiveFromInto buffer receiveLength flags => exact .bind (silent_udpReceiveFromInto _ _ _) fun _ => .pure _
  | ready timeout =>
    refine .bind (.bind .this fun _ => .ite ?_ (.pure _)) fun _ => .pure _
    exact .bind (.ite (.pure _) (silent_pollSocket _ _ _)) fun _ => .pure _
  | setPreSendSocketOperation operation => exact .modify _
  | close => exact silent_udpClose

theorem silent_datagramClose : Silent DatagramIPCSocket.close := by
  have hremove : Silent DatagramIPCSocket.removeBoundPath := by
    refine .bind .this fun this => ?_
    cases this.socketPath with
    | none => exact .pure _
    | some path => exact .ite (.bind (.call trivial) fun _ => .pure _) (.pure _)
  exact .bind .this fun _ => .bind (.call trivial) fun _ => .bind (.modify _) fun _ => .bind hremove fun _ => .modify _

theorem silent_bindOverride (override : Bool) (socketPathOpt : Option Bytes) (preBindSocketOperation : Option Callback) :
    Silent (DatagramIPCSocket.bindOverride override socketPathOpt preBindSocketOperation) := by
  cases socketPathOpt with
  | none => exact .throw _
  | some path =>
    refine .bind (.ite (.bind (.call trivial) fun _ => .pure _) (.pure _)) fun _ => .bind (.call trivial) fun _ =>
      .bind (.modify _) fun _ => .ite (silent_errorCode fun _ => .throw _) ?_
    refine .bind (.bind .this fun _ => .ite silent_datagramClose (.pure _)) fun _ => .bind .this fun _ => ?_
    refine .bind (silent_runOperation _ _) fun _ => .bind (.call trivial) fun _ => .bind (.modify _) fun _ =>
      .ite (.pure _) (.bind (.modify _) fun _ => .bind .this fun this => ?_)
    cases this.socketPath with
    | none => exact .throw _
    | some path => exact .pure _

theorem silent_datagramSendBufferTo (path buffer : Bytes) (bufferLength flags : ℤ) :
    Silent (DatagramIPCSocket.sendBufferTo path buffer bufferLength flags) := by
  refine .bind (.call trivial) fun _ => .ite (.pure _) (.bind .this fun _ => .bind (silent_runOperation _ _) fun _ => ?_)
  exact .bind (.call trivial) fun _ => .bind (.call trivial) fun _ => .pure _

theorem silent_datagramReceiveFromInto (buffer : Bytes) (receiveLength flags : ℤ) :
    Silent (DatagramIPCSocket.receiveFromInto buffer receiveLength flags) := by
  refine .bind .this fun this => .ite (.pure _) (.bind (.call trivial) fun _ => ?_)
  cases this.socketPath with
  | none => exact .throw _
  | some path => exact .pure _

theorem datagramCall_silent (m : DatagramCall dm) : Silent m.perform := by
  cases m with
  | bind socketPath operation => exact .bind (silent_bindOverride false _ _) fun _ => .pure _
  | bindOverride override socketPathOpt operation => exact .bind (silent_bindOverride _ _ _) fun _ => .pure _
  | sendTo path message flags => exact .bind (silent_datagramSendBufferTo _ _ _ _) fun _ => .pure _
  | sendBufferTo path buffer bufferLength flags => exact .bind (silent_datagramSendBufferTo _ _ _ _) fun _ => .pure _
  | receiveFrom receiveLength flags =>
    exact .bind (.ite (.throw _) (.bind (silent_datagramReceiveFromInto _ _ _) fun _ => .pure _)) fun _ => .pure _
  | receiveFromInto buffer receiveLength flags => exact .bind (silent_datagramReceiveFromInto _ _ _) fun _ => .pure _
  | ready timeout =>
    exact .bind (.bind .this fun _ => .ite (.bind (silent_pollSocket _ _ _) fun _ => .pure _) (.pure _)) fun _ => .pure _
  | setPreSendSocketOperation operation => exact .modify _
  | close => exact silent_datagramClose

/-- A method that is not one of the streams, or `close`. -/
def Apart : {c : SocketClass} → Call dm c → Prop
  | _, .tcp _ | _, .streamIPC _ => False
  | _, _ => True

/-- **The other methods.** -/
theorem call_silent {c : SocketClass} (m : Call dm c) (h : Apart m) : Silent m.perform := by
  cases m with
  | tcp m => exact h.elim
  | tcpClose => exact silent_tcpClose
  | tcpServerClose => exact silent_tcpServerClose
  | streamIPC m => exact h.elim
  | streamIPCClose => exact .bind .this fun _ => .bind (.call trivial) fun _ => .modify _
  | ipcServerClose => exact silent_ipcServerClose
  | udp m => exact udpCall_silent m
  | datagramIPC m => exact datagramCall_silent m

end SocketLibrary.Service
