import SocketLibrary.Model.Address
import SocketLibrary.Model.ConnectionOrientedSocket

/-!
# TCP connections: `socket/TCPSocket.cpp`

A constructor is a method that starts from the memory of the object, whatever it holds, and writes the fields.
-/

namespace SocketLibrary.Model

open SocketLibrary.Interaction SocketLibrary.Posix

/-- `kt::TCPSocket`. -/
structure TCPSocket where
  socketDescriptor : SOCKET
  hostname : Bytes
  port : UInt16
  protocolVersion : InternetProtocolVersion
  serverAddress : SocketAddress

namespace TCPSocket

def close : M TCPSocket Unit := do
  let this ← Method.this
  Socket.close this.socketDescriptor
  Method.modify fun this => { this with socketDescriptor := getInvalidSocketValue }

/-- The `for` loop of `constructSocket` over the addresses that are left. -/
def connectFirst (hints : AddrInfo) : List SocketAddress → M TCPSocket Unit
  | [] => do
    let this ← Method.this
    let code ← getErrorCode
    Method.throw (.socketException (text "Unable to connect to resolved addresses for provided hostname [" ++
      this.hostname ++ text ":" ++ to_string this.port.toNat ++ text "] " ++ code))
  | address :: addresses => do
    let socketDescriptor ← sys (.socket address.sa_family.toNat hints.ai_socktype hints.ai_protocol)
    Method.modify fun this => { this with socketDescriptor := socketDescriptor }
    if isInvalidSocket socketDescriptor then
      close
      connectFirst hints addresses
    else
      let connectionResult ← sys (.connect socketDescriptor (.inet address) sizeofSocketAddress)
      if connectionResult = 0 then
        Method.modify fun this =>
          { this with serverAddress := address, protocolVersion := .ofFamily address.sa_family }
      else
        close
        connectFirst hints addresses

def constructSocket : M TCPSocket Unit := do
  let this ← Method.this
  let hints := createTcpHints this.protocolVersion 0
  let (addresses, result) ← resolveToAddresses this.hostname this.port hints
  if result ≠ 0 then
    let code ← getErrorCode
    Method.throw (.socketException (text "Unable to resolve IP of destination address with hostname: [" ++
      this.hostname ++ text ":" ++ to_string this.port.toNat ++ text "]. Look up response code: [" ++
      to_string result ++ text "]. " ++ code))
  else
    connectFirst hints addresses

/-- `TCPSocket(const std::string&, const unsigned short&, const kt::InternetProtocolVersion)`. -/
def construct (hostname : Bytes) (port : UInt16) (protocolVersion : InternetProtocolVersion) : M TCPSocket Unit := do
  Method.modify fun _ => ⟨getInvalidSocketValue, hostname, port, protocolVersion, .zero⟩
  constructSocket

/-- `TCPSocket(const SOCKET&, …, const kt::SocketAddress&)`. -/
def ofDescriptor (socket : SOCKET) (hostname : Bytes) (port : UInt16) (protocolVersion : InternetProtocolVersion)
    (acceptedAddress : SocketAddress) : TCPSocket :=
  ⟨socket, hostname, port, protocolVersion, acceptedAddress⟩

/-- `TCPSocket(const kt::SocketAddress)`. -/
def constructFromAddress (address : SocketAddress) : M TCPSocket Unit := do
  let resolvedHostname ← getAddress address
  let hostname := resolvedHostname.getD []
  let port := getPortNumber address
  let hints := createTcpHints .Any 0
  let socketDescriptor ← sys (.socket address.sa_family.toNat hints.ai_socktype hints.ai_protocol)
  Method.modify fun _ => ⟨socketDescriptor, hostname, port, getInternetProtocolVersion address, .zero⟩
  if isInvalidSocket socketDescriptor then
    let code ← getErrorCode
    Method.throw (.socketException (text "Unable to construct socket to provided addresses with hostname [" ++
      hostname ++ text ":" ++ to_string port.toNat ++ text "] " ++ code))
  else
    let connectionResult ← sys (.connect socketDescriptor (.inet address) sizeofSocketAddress)
    if connectionResult = 0 then
      Method.modify fun this =>
        { this with serverAddress := address, protocolVersion := .ofFamily address.sa_family }
    else
      -- the descriptor is left open
      let code ← getErrorCode
      Method.throw (.socketException (text "Unable to connect to provided address with hostname [" ++
        hostname ++ text ":" ++ to_string port.toNat ++ text "] " ++ code))

/-- The copy constructor. -/
def copy (socket : TCPSocket) : TCPSocket :=
  ⟨socket.socketDescriptor, socket.hostname, socket.port, socket.protocolVersion, socket.serverAddress⟩

/-- `operator=`. -/
def assign (socket : TCPSocket) : M TCPSocket Unit :=
  Method.modify fun _ =>
    ⟨socket.socketDescriptor, socket.hostname, socket.port, socket.protocolVersion, socket.serverAddress⟩

end TCPSocket

end SocketLibrary.Model
