import SocketLibrary.Model.TCPSocket

/-!
# TCP listeners: `serversocket/TCPServerSocket.cpp`
-/

namespace SocketLibrary.Model

open SocketLibrary.Interaction SocketLibrary.Posix

/-- `kt::TCPServerSocket`. -/
structure TCPServerSocket where
  port : UInt16
  protocolVersion : InternetProtocolVersion
  serverAddress : SocketAddress
  socketDescriptor : SOCKET

namespace TCPServerSocket

def close : M TCPServerSocket Unit := do
  let this ← Method.this
  Socket.close this.socketDescriptor
  Method.modify fun this => { this with socketDescriptor := getInvalidSocketValue }

def initialisePortNumber : M TCPServerSocket Unit := do
  let this ← Method.this
  let (address, result) ← socketToAddress this.socketDescriptor
  match address with
  | none =>
    if result ≠ 0 then
      close
      let code ← getErrorCode
      Method.throw (.bindingException
        (text "Unable to retrieve randomly bound port number during socket creation. " ++ code))
    else
      Method.throw .badOptionalAccess
  | some address => Method.modify fun this => { this with port := getPortNumber address }

/-! ### The steps of `constructSocket` -/

/-- Resolve the address, store it and open the descriptor. -/
def openSocket (localHostname : Option Bytes) : M TCPServerSocket Unit := do
  let this ← Method.this
  let hints := createTcpHints this.protocolVersion AI_PASSIVE
  let hostname := (localHostname.map c_str).getD (getLocalAddress this.protocolVersion)
  let (addresses, result) ← resolveToAddresses hostname this.port hints
  if result ≠ 0 ∨ addresses = [] then
    let code ← getErrorCode
    Method.throw (.socketException (text "Failed to retrieve address info of local hostname. " ++ code))
  else
    let address := addresses.headD .zero
    let protocolVersion := InternetProtocolVersion.ofFamily address.sa_family
    let socketDescriptor ← sys (.socket protocolVersion.toInt hints.ai_socktype hints.ai_protocol)
    Method.modify fun this => { this with
      protocolVersion := protocolVersion, serverAddress := address, socketDescriptor := socketDescriptor }
    if isInvalidSocket socketDescriptor then
      let code ← getErrorCode
      Method.throw (.socketException (text "Error establishing TCP server socket: " ++ code))

/-- Set `SO_REUSEADDR`. -/
def enableReuse : M TCPServerSocket Unit := do
  let this ← Method.this
  let result ← sys (.setsockopt this.socketDescriptor SOL_SOCKET SO_REUSEADDR 1)
  if result ≠ 0 then
    -- the descriptor is left open
    let code ← getErrorCode
    Method.throw (.socketException (text "Failed to set SO_REUSEADDR socket option: " ++ code))

/-- Bind, and store the port the system chose if none was asked for. -/
def bindAddress : M TCPServerSocket Unit := do
  let this ← Method.this
  let result ← sys (.bind this.socketDescriptor (.inet this.serverAddress) (getAddressLength this.serverAddress))
  if result = -1 then
    close
    let code ← getErrorCode
    Method.throw (.bindingException (text "Error binding connection, the port " ++ to_string this.port.toNat ++
      text " is already being used: " ++ code))
  else if this.port = 0 then
    initialisePortNumber
    Method.modify fun this => { this with serverAddress := this.serverAddress.setSinPort (htons this.port) }

def startListening (connectionBacklogSize : UInt32) : M TCPServerSocket Unit := do
  let this ← Method.this
  let result ← sys (.listen this.socketDescriptor (toInt32 connectionBacklogSize.toNat))
  if result = -1 then
    close
    let code ← getErrorCode
    Method.throw (.socketException
      (text "Error Listening on port " ++ to_string this.port.toNat ++ text ": " ++ code))

def constructSocket (localHostname : Option Bytes) (connectionBacklogSize : UInt32)
    (preBindSocketOperation : Option Callback) : M TCPServerSocket Unit := do
  openSocket localHostname
  enableReuse
  let this ← Method.this
  runOperation preBindSocketOperation this.socketDescriptor
  bindAddress
  startListening connectionBacklogSize

def construct (localHostname : Option Bytes) (port : UInt16) (connectionBacklogSize : UInt32)
    (protocolVersion : InternetProtocolVersion) (preBindSocketOperation : Option Callback) :
    M TCPServerSocket Unit := do
  Method.modify fun _ => ⟨port, protocolVersion, .zero, getInvalidSocketValue⟩
  constructSocket localHostname connectionBacklogSize preBindSocketOperation

/-- Wait for a connection, if a timeout is given. -/
def awaitConnection (timeout : ℤ) : M TCPServerSocket Unit := do
  let this ← Method.this
  if 0 < timeout then
    let res ← Socket.pollSocket this.socketDescriptor timeout none
    if res = -1 then
      let code ← getErrorCode
      let errno ← sys .errno
      Method.throw (.socketException (text "Failed to poll as socket is no longer valid: " ++ code ++ text "(" ++
        to_string errno ++ text ")"))
    else if res = 0 then
      Method.throw (.timeoutException
        (text "No applicable connections could be accepted during the time period specified " ++ to_string timeout ++
          text " microseconds."))

def accept (timeout : ℤ) : M TCPServerSocket TCPSocket := do
  awaitConnection timeout
  let this ← Method.this
  let accepted ← sys (.accept this.socketDescriptor sizeofSocketAddress)
  if isInvalidSocket accepted.fd then
    Method.throw (.socketException (text "Failed to accept connection. Socket is in an invalid state."))
  else
    let portNum :=
      if this.protocolVersion = .IPV6 then htons accepted.address.sin6_port else htons accepted.address.sin_port
    let hostname ← getAddress accepted.address
    match hostname with
    | none =>
      -- the accepted descriptor is left open
      Method.throw (.socketException (text "Unable to resolve accepted hostname from accepted socket."))
    | some hostname =>
      return TCPSocket.ofDescriptor accepted.fd hostname portNum this.protocolVersion accepted.address

/-- The copy constructor. -/
def copy (socket : TCPServerSocket) : TCPServerSocket :=
  ⟨socket.port, socket.protocolVersion, socket.serverAddress, socket.socketDescriptor⟩

/-- `operator=`. -/
def assign (socket : TCPServerSocket) : M TCPServerSocket Unit :=
  Method.modify fun _ => ⟨socket.port, socket.protocolVersion, socket.serverAddress, socket.socketDescriptor⟩

end TCPServerSocket

end SocketLibrary.Model
