import SocketLibrary.Posix.Calls

/-!
# Addresses: `enums/InternetProtocolVersion.h` and `address/SocketAddress.cpp`

The definitions of `SocketLibrary.Model` keep the names of the source, one module for each class or file of functions.
-/

namespace SocketLibrary.Model

open SocketLibrary.Interaction SocketLibrary.Posix

/-- `kt::InternetProtocolVersion`. The source casts address families to it, so it also holds other values than its
enumerators. -/
inductive InternetProtocolVersion where
  | Any
  | IPV4
  | IPV6
  | other (family : UInt16)
  deriving DecidableEq

/-- `static_cast<kt::InternetProtocolVersion>(sa_family)`. -/
def InternetProtocolVersion.ofFamily (family : UInt16) : InternetProtocolVersion :=
  if family = 0 then .Any else if family = 2 then .IPV4 else if family = 10 then .IPV6 else .other family

/-- `static_cast<int>(protocolVersion)`. -/
def InternetProtocolVersion.toInt : InternetProtocolVersion → ℤ
  | .Any => AF_UNSPEC
  | .IPV4 => AF_INET
  | .IPV6 => AF_INET6
  | .other family => family.toNat

def getInternetProtocolVersion (address : SocketAddress) : InternetProtocolVersion :=
  let resolvedVersion := InternetProtocolVersion.ofFamily address.sa_family
  if resolvedVersion = .IPV4 ∨ resolvedVersion = .IPV6 then resolvedVersion else .Any

def getPortNumber (address : SocketAddress) : UInt16 :=
  if getInternetProtocolVersion address = .IPV6 then htons address.sin6_port else htons address.sin_port

def createUdpHints (protocolVersion : InternetProtocolVersion) (aiFlags : ℤ) : AddrInfo :=
  ⟨protocolVersion.toInt, SOCK_DGRAM, IPPROTO_UDP, aiFlags⟩

def createTcpHints (protocolVersion : InternetProtocolVersion) (aiFlags : ℤ) : AddrInfo :=
  ⟨protocolVersion.toInt, SOCK_STREAM, IPPROTO_TCP, aiFlags⟩

def getEmptyAddress : InternetProtocolVersion → Option Bytes
  | .IPV4 => some (text "0.0.0.0")
  | .IPV6 => some (text "::")
  | _ => none

def getLocalAddress : InternetProtocolVersion → Bytes
  | .IPV4 => text "127.0.0.1"
  | .IPV6 => text "::1"
  | _ => text "localhost"

def getAddressLength (address : SocketAddress) : ℕ :=
  if getInternetProtocolVersion address = .IPV4 then sizeofIpv4 else sizeofIpv6

/-- What `getAddress` makes of the answer of `inet_ntop`: the text of the host address, unless it could not be written
or is the unspecified address. -/
def hostText (protocolVersion : InternetProtocolVersion) (addressLength : ℕ) (written : Option Bytes) : Option Bytes :=
  let asString : Bytes := List.replicate addressLength 0
  let asString := match written with
    | some host => writeAt asString 0 (host ++ [0])
    | none => asString
  -- the first NUL of the string ends it
  let asString := c_str asString
  if asString ≠ [] ∧ some asString ≠ getEmptyAddress protocolVersion then some asString else none

def getAddress {S : Type} (address : SocketAddress) : M S (Option Bytes) := do
  let protocolVersion := getInternetProtocolVersion address
  let addressLength := if protocolVersion = .IPV6 then INET6_ADDRSTRLEN else INET_ADDRSTRLEN
  let source := if protocolVersion = .IPV6 then address.sin6_addr else address.sin_addr
  let written ← sys (.inet_ntop protocolVersion.toInt source addressLength)
  return hostText protocolVersion addressLength written

def socketToAddress {S : Type} (socket : SOCKET) : M S (Option SocketAddress × ℤ) := do
  let (result, address) ← sys (.getsockname socket)
  return (if result = -1 then none else some address, result)

def resolveToAddresses {S : Type} (hostname : Bytes) (port : UInt16) (hints : AddrInfo) :
    M S (List SocketAddress × ℤ) := do
  let (result, resolvedAddresses) ← sys (.getaddrinfo (c_str hostname) (to_string port.toNat) hints)
  if result ≠ 0 ∨ resolvedAddresses = [] then
    return ([], result)
  else
    return (resolvedAddresses, result)

end SocketLibrary.Model
