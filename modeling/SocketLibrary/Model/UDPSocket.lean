import SocketLibrary.Model.Address
import SocketLibrary.Model.Socket

/-!
# UDP: `socket/UDPSocket.cpp`
-/

namespace SocketLibrary.Model

open SocketLibrary.Interaction SocketLibrary.Posix

/-- `kt::UDPSocket`. -/
structure UDPSocket where
  bound : Bool := false
  receiveSocket : SOCKET := getInvalidSocketValue
  protocolVersion : InternetProtocolVersion := .Any
  listeningPort : Option UInt16 := none
  preSendSocketOperation : Option Callback := none

namespace UDPSocket

variable (dm : DataModel)

def close : M UDPSocket Unit := do
  let this ← Method.this
  Socket.close this.receiveSocket
  Method.modify fun this =>
    { this with receiveSocket := getInvalidSocketValue, bound := false, listeningPort := none }

def initialiseListeningPortNumber : M UDPSocket Unit := do
  let this ← Method.this
  let (address, result) ← socketToAddress this.receiveSocket
  match address with
  | none =>
    if result ≠ 0 then
      close
      let code ← getErrorCode
      Method.throw (.bindingException
        (text "Unable to retrieve randomly bound port number during socket creation. " ++ code))
    else
      Method.throw .badOptionalAccess
  | some address => Method.modify fun this => { this with listeningPort := some (getPortNumber address) }

/-- The test of `isBound()` in `bind`: the descriptor that is closed there is the one just opened. -/
def closeIfBound : M UDPSocket Unit := do
  let this ← Method.this
  if this.bound then
    close

/-- The part of `bind` that follows the opening of `receiveSocket`. -/
def bindReceiveSocket (address : SocketAddress) (preBindSocketOperation : Option Callback) :
    M UDPSocket (ℤ × SocketAddress) := do
  closeIfBound
  let this ← Method.this
  runOperation preBindSocketOperation this.receiveSocket
  let bindResult ← sys (.bind this.receiveSocket (.inet address) (getAddressLength address))
  Method.modify fun this => { this with bound := bindResult != -1 }
  if bindResult = -1 then
    return (bindResult, .zero)
  else
    initialiseListeningPortNumber
    let this ← Method.this
    match this.listeningPort with
    | none => Method.throw .badOptionalAccess
    | some port => return (bindResult, address.setSinPort (htons port))

/-- `bind(const std::optional<kt::SocketAddress>&, …)`. -/
def bind (addressOpt : Option SocketAddress) (preBindSocketOperation : Option Callback) :
    M UDPSocket (ℤ × SocketAddress) :=
  match addressOpt with
  | none => Method.throw (.bindingException (text "Failed to resolve bind address"))
  | some address => do
    let this ← Method.this
    let hints := createUdpHints this.protocolVersion AI_PASSIVE
    let receiveSocket ← sys (.socket address.sa_family.toNat hints.ai_socktype hints.ai_protocol)
    Method.modify fun this =>
      { this with protocolVersion := .ofFamily address.sa_family, receiveSocket := receiveSocket }
    if isInvalidSocket receiveSocket then
      let code ← getErrorCode
      Method.throw (.socketException (text "Unable to construct socket from local host details. " ++ code))
    else
      bindReceiveSocket address preBindSocketOperation

/-- `bind(const kt::InternetProtocolVersion, …)`. -/
def bindHost (protocolVersion : InternetProtocolVersion) (localHostname : Option Bytes) (port : UInt16)
    (preBindSocketOperation : Option Callback) : M UDPSocket (ℤ × SocketAddress) := do
  let hints := createUdpHints protocolVersion AI_PASSIVE
  let hostname := (localHostname.map c_str).getD (getLocalAddress protocolVersion)
  let (addresses, result) ← resolveToAddresses hostname port hints
  if result ≠ 0 ∨ addresses = [] then
    Method.throw (.bindingException
      (text "Failed to resolve bind address with the provided port: " ++ to_string port.toNat))
  else
    bind (some (addresses.headD .zero)) preBindSocketOperation

/-- The overriding `pollSocket` hands `Socket::pollSocket` a `timeval` of its own, which is zero. -/
def pollSocket (socket : SOCKET) (timeout : ℤ) : M UDPSocket ℤ :=
  if isInvalidSocket socket then
    return -1
  else
    Socket.pollSocket socket timeout (some ⟨0, 0⟩)

def ready (timeout : ULong dm) : M UDPSocket Bool := do
  let this ← Method.this
  if this.bound then
    let result ← pollSocket this.receiveSocket timeout.toInt
    return 0 < result
  else
    return false

/-- `sendTo(const kt::SocketAddress&, const char*, const int&, const int&)`. -/
def sendBufferTo (address : SocketAddress) (buffer : Bytes) (bufferLength flags : ℤ) : M UDPSocket ℤ := do
  let tempSocket ← sys (.socket address.sa_family.toNat SOCK_DGRAM IPPROTO_UDP)
  if isInvalidSocket tempSocket then
    return -2
  else
    let this ← Method.this
    runOperation this.preSendSocketOperation tempSocket
    let result ← sys (.sendto tempSocket buffer bufferLength flags (.inet address) (getAddressLength address))
    Socket.close tempSocket
    return result

/-- `sendTo(const kt::SocketAddress&, const std::string&, const int&)`. -/
def sendTo (address : SocketAddress) (message : Bytes) (flags : ℤ) : M UDPSocket ℤ :=
  sendBufferTo address message (toInt32 message.length) flags

/-- `sendTo(const std::string&, const unsigned short&, const char*, …)`. -/
def sendBufferToHost (hostname : Bytes) (port : UInt16) (buffer : Bytes) (bufferLength flags : ℤ)
    (protocolVersion : InternetProtocolVersion) : M UDPSocket (ℤ × SocketAddress) := do
  let hints := createUdpHints protocolVersion 0
  let (addresses, result) ← resolveToAddresses hostname port hints
  if addresses = [] ∨ result ≠ 0 then
    return (0, .zero)
  else
    let firstAddress := addresses.headD .zero
    let result ← sendBufferTo firstAddress buffer bufferLength flags
    return (result, firstAddress)

/-- `sendTo(const std::string&, const unsigned short&, const std::string&, …)`. -/
def sendToHost (hostname : Bytes) (port : UInt16) (message : Bytes) (flags : ℤ)
    (protocolVersion : InternetProtocolVersion) : M UDPSocket (ℤ × SocketAddress) :=
  sendBufferToHost hostname port message (toInt32 message.length) flags protocolVersion

/-- `receiveFrom(char*, const int&, const int&)`, which also gives the buffer back. -/
def receiveFromInto (buffer : Bytes) (receiveLength flags : ℤ) : M UDPSocket (ℤ × SocketAddress × Bytes) := do
  let this ← Method.this
  if this.bound = false ∨ receiveLength = 0 then
    return (-1, .zero, buffer)
  else
    let datagram ← sys (.recvfrom this.receiveSocket receiveLength flags (getAddressLength .zero))
    return (datagram.result, datagram.address, writeAt buffer 0 datagram.data)

/-- `receiveFrom(const int&, const int&)`. -/
def receiveFrom (receiveLength flags : ℤ) : M UDPSocket (Option Bytes × ℤ × SocketAddress) :=
  -- a negative length is a huge `size_t`, which `resize` refuses
  if receiveLength < 0 then
    Method.throw .lengthError
  else do
    let data : Bytes := List.replicate receiveLength.toNat 0
    let (result, address, data) ← receiveFromInto data receiveLength flags
    let data := if 0 ≤ result ∧ result < receiveLength then data.take result.toNat else data
    return (if data = [] then none else some data, result, address)

def getListeningSocket : M UDPSocket SOCKET := do
  let this ← Method.this
  return this.receiveSocket

def isBound : M UDPSocket Bool := do
  let this ← Method.this
  return this.bound

def getInternetProtocolVersion : M UDPSocket InternetProtocolVersion := do
  let this ← Method.this
  return this.protocolVersion

def getListeningPort : M UDPSocket (Option UInt16) := do
  let this ← Method.this
  return this.listeningPort

def setPreSendSocketOperation (newOperation : Callback) : M UDPSocket Unit :=
  Method.modify fun this => { this with preSendSocketOperation := some newOperation }

/-- The copy constructor, which leaves `preSendSocketOperation` at its default. -/
def copy (socket : UDPSocket) : UDPSocket where
  bound := socket.bound
  receiveSocket := socket.receiveSocket
  listeningPort := socket.listeningPort
  protocolVersion := socket.protocolVersion

/-- `operator=`, which leaves `preSendSocketOperation` as it is. -/
def assign (socket : UDPSocket) : M UDPSocket Unit :=
  Method.modify fun this => { this with
    bound := socket.bound, receiveSocket := socket.receiveSocket, listeningPort := socket.listeningPort,
    protocolVersion := socket.protocolVersion }

end UDPSocket

end SocketLibrary.Model
