import SocketLibrary.Model.ConnectionOrientedSocket

/-!
# UNIX domain streams: `ipc/IPCSocket.cpp`, `ipc/StreamIPCSocket.cpp` and `ipc/IPCServerSocket.cpp`
-/

namespace SocketLibrary.Model

open SocketLibrary.Interaction SocketLibrary.Posix

/-! ## What the three classes share -/

/-- A path of `std::size(addr.sun_path)` bytes or more is cut there. -/
def resizePath (path : Bytes) : Bytes :=
  if sunPathSize ≤ path.length then path.take sunPathSize else path

/-- The `sockaddr_un` of a path. -/
def pathAddress (path : Bytes) : SockAddr := .un (strncpy path sunPathSize)

/-- `sizeof(sockaddr_un)`. -/
def sizeofPathAddress : ℕ := 2 + sunPathSize

def IPCSocket.removeSocketPath {S : Type} (socketPath : Bytes) : M S ℤ := sys (.remove (c_str socketPath))

/-- `kt::StreamIPCSocket`. -/
structure StreamIPCSocket where
  socket : SOCKET
  socketPath : Bytes

/-- `kt::IPCServerSocket`. -/
structure IPCServerSocket where
  socket : SOCKET
  socketPath : Bytes

namespace StreamIPCSocket

def constructSocket : M StreamIPCSocket Unit := do
  Method.modify fun this => { this with socketPath := resizePath this.socketPath }
  let this ← Method.this
  let socket ← sys (.socket AF_UNIX SOCK_STREAM 0)
  Method.modify fun this => { this with socket := socket }
  let fail : M StreamIPCSocket Unit := do
    let code ← getErrorCode
    Method.throw (.socketException
      (text "Unable to connect to provided IPC path: [" ++ this.socketPath ++ text "] " ++ code))
  if isInvalidSocket socket then
    fail
  else
    let connectionResult ← sys (.connect socket (pathAddress this.socketPath) sizeofPathAddress)
    if connectionResult = 0 then
      return ()
    else
      -- the descriptor is left open
      fail

/-- `StreamIPCSocket(const std::string&)`; `socket` is not initialised. -/
def construct (socketPath : Bytes) : M StreamIPCSocket Unit := do
  Method.modify fun memory => { memory with socketPath := socketPath }
  constructSocket

/-- `StreamIPCSocket(const SOCKET&, const std::string&)`. -/
def ofDescriptor (socket : SOCKET) (socketPath : Bytes) : StreamIPCSocket := ⟨socket, socketPath⟩

def close : M StreamIPCSocket Unit := do
  let this ← Method.this
  Socket.close this.socket
  Method.modify fun this => { this with socket := getInvalidSocketValue }

/-- The copy constructor. -/
def copy (socket : StreamIPCSocket) : StreamIPCSocket := ⟨socket.socket, socket.socketPath⟩

/-- `operator=`. -/
def assign (socket : StreamIPCSocket) : M StreamIPCSocket Unit :=
  Method.modify fun _ => ⟨socket.socket, socket.socketPath⟩

end StreamIPCSocket

namespace IPCServerSocket

def close : M IPCServerSocket Unit := do
  let this ← Method.this
  Socket.close this.socket
  Method.modify fun this => { this with socket := getInvalidSocketValue }
  let _ ← IPCSocket.removeSocketPath this.socketPath

/-! ### The steps of `constructSocket` -/

/-- Remove the file at the path when `override` is set. -/
def removeOnOverride (override : Bool) : M IPCServerSocket Unit := do
  let this ← Method.this
  if override then
    let _ ← IPCSocket.removeSocketPath this.socketPath

def openSocket : M IPCServerSocket Unit := do
  let socket ← sys (.socket AF_UNIX SOCK_STREAM 0)
  Method.modify fun this => { this with socket := socket }
  if isInvalidSocket socket then
    let code ← getErrorCode
    Method.throw (.socketException (text "Error creating IPC server socket: " ++ code))

def bindPath : M IPCServerSocket Unit := do
  let this ← Method.this
  let result ← sys (.bind this.socket (pathAddress this.socketPath) sizeofPathAddress)
  if result = -1 then
    close
    let code ← getErrorCode
    Method.throw (.bindingException
      (text "Error binding to socket path [" ++ this.socketPath ++ text "]. " ++ code))

def startListening (connectionBacklogSize : UInt32) : M IPCServerSocket Unit := do
  let this ← Method.this
  let result ← sys (.listen this.socket (toInt32 connectionBacklogSize.toNat))
  if result = -1 then
    close
    let code ← getErrorCode
    Method.throw (.socketException
      (text "Error listening on socket path " ++ this.socketPath ++ text ": " ++ code))

/-- From the opening of the descriptor to the bind. -/
def openAndBind (preBindSocketOperation : Option Callback) : M IPCServerSocket Unit := do
  openSocket
  let this ← Method.this
  runOperation preBindSocketOperation this.socket
  bindPath

def constructSocket (override : Bool) (connectionBacklogSize : UInt32)
    (preBindSocketOperation : Option Callback) : M IPCServerSocket Unit := do
  Method.modify fun this => { this with socketPath := resizePath this.socketPath }
  removeOnOverride override
  openAndBind preBindSocketOperation
  startListening connectionBacklogSize

/-- `IPCServerSocket(const std::string&, …)`; `socket` is not initialised. -/
def construct (socketPath : Bytes) (override : Bool) (connectionBacklogSize : UInt32)
    (preBindSocketOperation : Option Callback) : M IPCServerSocket Unit := do
  Method.modify fun memory => { memory with socketPath := socketPath }
  constructSocket override connectionBacklogSize preBindSocketOperation

/-- Wait for a connection, if a timeout is given. -/
def awaitConnection (timeout : ℤ) : M IPCServerSocket Unit := do
  let this ← Method.this
  if 0 < timeout then
    let res ← Socket.pollSocket this.socket timeout none
    if res = -1 then
      Method.throw (.socketException (text "Failed to poll as socket is no longer valid."))
    else if res = 0 then
      Method.throw (.timeoutException
        (text "No applicable connections could be accepted during the time period specified " ++ to_string timeout ++
          text " microseconds."))

def accept (timeout : ℤ) : M IPCServerSocket StreamIPCSocket := do
  awaitConnection timeout
  let this ← Method.this
  let accepted ← sys (.accept this.socket sizeofPathAddress)
  if isInvalidSocket accepted.fd then
    Method.throw (.socketException (text "Failed to accept connection. Socket is in an invalid state."))
  else
    return StreamIPCSocket.ofDescriptor accepted.fd (c_str accepted.sun_path)

/-- The copy constructor. -/
def copy (socket : IPCServerSocket) : IPCServerSocket := ⟨socket.socket, socket.socketPath⟩

/-- `operator=`. -/
def assign (socket : IPCServerSocket) : M IPCServerSocket Unit :=
  Method.modify fun _ => ⟨socket.socket, socket.socketPath⟩

end IPCServerSocket

end SocketLibrary.Model
