import SocketLibrary.Model.IPCSocket

/-!
# UNIX domain datagrams: `ipc/DatagramIPCSocket.cpp`
-/

namespace SocketLibrary.Model

open SocketLibrary.Interaction SocketLibrary.Posix

/-- `kt::DatagramIPCSocket`. -/
structure DatagramIPCSocket where
  bound : Bool := false
  socketPath : Option Bytes := none
  receiveSocket : SOCKET := getInvalidSocketValue
  preSendSocketOperation : Option Callback := none

namespace DatagramIPCSocket

variable (dm : DataModel)

/-- The removal of the file in `close`. -/
def removeBoundPath : M DatagramIPCSocket Unit := do
  let this ← Method.this
  match this.socketPath with
  | none => pure ()
  | some socketPath =>
    if this.bound then
      let _ ← IPCSocket.removeSocketPath socketPath

def close : M DatagramIPCSocket Unit := do
  let this ← Method.this
  Socket.close this.receiveSocket
  Method.modify fun this => { this with receiveSocket := getInvalidSocketValue }
  removeBoundPath
  Method.modify fun this => { this with socketPath := none, bound := false }

/-- Remove the file at the path when `override` is set. -/
def removeOnOverride (override : Bool) (path : Bytes) : M DatagramIPCSocket Unit := do
  if override then
    let _ ← IPCSocket.removeSocketPath path

/-- The test of `isBound()` in `bind`: the descriptor that is closed there is the one just opened. -/
def closeIfBound : M DatagramIPCSocket Unit := do
  let this ← Method.this
  if this.bound then
    close

/-- From the opening of `receiveSocket` to the end of `bind`. -/
def openAndBind (path : Bytes) (preBindSocketOperation : Option Callback) : M DatagramIPCSocket (ℤ × Bytes) := do
  let receiveSocket ← sys (.socket AF_UNIX SOCK_DGRAM 0)
  Method.modify fun this => { this with receiveSocket := receiveSocket }
  if isInvalidSocket receiveSocket then
    let code ← getErrorCode
    Method.throw (.socketException (text "Error creating binding socket: " ++ code))
  else
    closeIfBound
    let this ← Method.this
    runOperation preBindSocketOperation this.receiveSocket
    let bindResult ← sys (.bind this.receiveSocket (pathAddress path) sizeofPathAddress)
    Method.modify fun this => { this with bound := bindResult != -1 }
    if bindResult = -1 then
      return (bindResult, [])
    else
      Method.modify fun this => { this with socketPath := some path }
      let this ← Method.this
      match this.socketPath with
      | none => Method.throw .badOptionalAccess
      | some socketPath => return (bindResult, socketPath)

/-- `bind(const bool&, const std::optional<std::string>&, …)`. -/
def bindOverride (override : Bool) (socketPathOpt : Option Bytes) (preBindSocketOperation : Option Callback) :
    M DatagramIPCSocket (ℤ × Bytes) :=
  match socketPathOpt with
  | none => Method.throw (.bindingException (text "Failed to bind to empty socket path"))
  | some socketPath => do
    let path := resizePath socketPath
    removeOnOverride override path
    openAndBind path preBindSocketOperation

/-- `bind(const std::optional<std::string>&, …)`. -/
def bind (socketPath : Option Bytes) (preBindSocketOperation : Option Callback) : M DatagramIPCSocket (ℤ × Bytes) :=
  bindOverride false socketPath preBindSocketOperation

def setPreSendSocketOperation (preSendSocketOperation : Callback) : M DatagramIPCSocket Unit :=
  Method.modify fun this => { this with preSendSocketOperation := some preSendSocketOperation }

def ready (timeout : ULong dm) : M DatagramIPCSocket Bool := do
  let this ← Method.this
  if this.bound then
    let result ← Socket.pollSocket this.receiveSocket timeout.toInt none
    return 0 < result
  else
    return false

/-- `sendTo(const std::string&, const char*, const int&, const int&)`. -/
def sendBufferTo (path : Bytes) (buffer : Bytes) (bufferLength flags : ℤ) : M DatagramIPCSocket ℤ := do
  let tempSocket ← sys (.socket AF_UNIX SOCK_DGRAM 0)
  if isInvalidSocket tempSocket then
    return -2
  else
    let this ← Method.this
    runOperation this.preSendSocketOperation tempSocket
    let sendPath := resizePath path
    let result ← sys (.sendto tempSocket buffer bufferLength flags (pathAddress sendPath) sizeofPathAddress)
    Socket.close tempSocket
    return result

/-- `sendTo(const std::string&, const std::string&, const int&)`. -/
def sendTo (path : Bytes) (message : Bytes) (flags : ℤ) : M DatagramIPCSocket ℤ :=
  sendBufferTo path message (toInt32 message.length) flags

/-- `receiveFrom(char*, const int&, const int&)`, which also gives the buffer back. -/
def receiveFromInto (buffer : Bytes) (receiveLength flags : ℤ) : M DatagramIPCSocket (ℤ × Bytes × Bytes) := do
  let this ← Method.this
  if this.bound = false ∨ receiveLength = 0 then
    return (-1, [], buffer)
  else
    let datagram ← sys (.recvfrom this.receiveSocket receiveLength flags sizeofPathAddress)
    match this.socketPath with
    | none => Method.throw .badOptionalAccess
    | some socketPath => return (datagram.result, socketPath, writeAt buffer 0 datagram.data)

/-- `receiveFrom(const int&, const int&)`. -/
def receiveFrom (receiveLength flags : ℤ) : M DatagramIPCSocket (Option Bytes × ℤ × Bytes) :=
  -- a negative length is a huge `size_t`, which `resize` refuses
  if receiveLength < 0 then
    Method.throw .lengthError
  else do
    let data : Bytes := List.replicate receiveLength.toNat 0
    let (result, path, data) ← receiveFromInto data receiveLength flags
    let data := if 0 ≤ result ∧ result < receiveLength then data.take result.toNat else data
    return (if data = [] then none else some data, result, path)

/-- The copy constructor, which the compiler generates. -/
def copy (socket : DatagramIPCSocket) : DatagramIPCSocket where
  bound := socket.bound
  socketPath := socket.socketPath
  receiveSocket := socket.receiveSocket
  preSendSocketOperation := socket.preSendSocketOperation

/-- `operator=`, likewise. -/
def assign (socket : DatagramIPCSocket) : M DatagramIPCSocket Unit :=
  Method.modify fun _ => copy socket

end DatagramIPCSocket

end SocketLibrary.Model
