import Mathlib.Algebra.Group.Int.Defs
import Mathlib.Algebra.Group.Nat.Defs

/-!
# The data the library hands to the system

Bytes and C strings, the conversions between the machine integers, and the socket addresses. The platform is Linux:
the `_WIN32` branches of the source are left out, an `int` has 32 bits, the host is little endian, and the constants
are those of the Linux headers. Only the width of `long` is kept open (`DataModel`).
-/

namespace SocketLibrary.Posix

/-! ## Bytes and strings -/

/-- The bytes of a `std::string` or of a buffer. -/
abbrev Bytes := List UInt8

/-- The bytes of a literal of the source. -/
def text (s : String) : Bytes := s.toUTF8.data.toList

/-- `std::to_string`. -/
def to_string (n : ℤ) : Bytes := text (toString n)

/-- What a callee that takes a `const char*` sees of `s.c_str()`: the bytes up to the first NUL. -/
def c_str (s : Bytes) : Bytes := s.takeWhile (· != 0)

theorem c_str_append {s : Bytes} (h : 0 ∉ s) (t : Bytes) : c_str (s ++ t) = s ++ c_str t := by
  refine List.takeWhile_append_of_pos fun c hc => ?_
  have hne : c ≠ 0 := fun h0 => h (h0 ▸ hc)
  simpa using hne

theorem c_str_of_no_nul {s : Bytes} (h : 0 ∉ s) : c_str s = s := by
  have happend : c_str (s ++ []) = s ++ c_str [] := c_str_append h []
  simpa [c_str] using happend

/-- `strncpy(dest, src, n)` into an array of `n` bytes: the source string up to its NUL, cut at `n` bytes and filled up
with NUL bytes. -/
def strncpy (src : Bytes) (n : ℕ) : Bytes := (c_str src).take n ++ List.replicate (n - (c_str src).length) 0

/-- The buffer after `data` has been stored at the offset `at`. -/
def writeAt (buffer : Bytes) (offset : ℕ) (data : Bytes) : Bytes :=
  buffer.take offset ++ data ++ buffer.drop (offset + data.length)

/-! ## Machine integers -/

/-- The value of a number converted to `int`. -/
def toInt32 (i : ℤ) : ℤ := i.bmod (2 ^ 32)

/-- The value of a number converted to `unsigned int`. -/
def toUInt32 (i : ℤ) : UInt32 := UInt32.ofNat (i % 2 ^ 32).toNat

theorem toInt32_of_le {i : ℤ} (h : -2 ^ 31 ≤ i) (h' : i < 2 ^ 31) : toInt32 i = i := by
  unfold toInt32
  rw [Int.bmod_def]
  omega

theorem toNat_toUInt32 {i : ℤ} (h : 0 ≤ i) (h' : i < 2 ^ 32) : ((toUInt32 i).toNat : ℤ) = i := by
  unfold toUInt32
  rw [UInt32.toNat_ofNat']
  omega

/-- The two data models of the supported systems: `long` has 64 bits on Linux and 32 bits on Windows. -/
inductive DataModel where
  | lp64
  | llp64
  deriving DecidableEq, Repr

/-- The number of bits of a `long`. -/
def DataModel.longBits : DataModel → ℕ
  | .lp64 => 64
  | .llp64 => 32

/-- A value of type `unsigned long`; converted to `long` it is `BitVec.toInt`. -/
abbrev ULong (dm : DataModel) := BitVec dm.longBits

/-! ## Descriptors -/

/-- A `SOCKET`, which is an `int` on POSIX systems. -/
abbrev SOCKET := ℤ

/-- A `timeval`. -/
structure TimeVal where
  tv_sec : ℤ
  tv_usec : ℤ
  deriving DecidableEq, Repr

/-! ## Constants of the headers -/

def AF_UNSPEC : ℤ := 0
def AF_UNIX : ℤ := 1
def AF_INET : ℤ := 2
def AF_INET6 : ℤ := 10
def SOCK_STREAM : ℤ := 1
def SOCK_DGRAM : ℤ := 2
def IPPROTO_TCP : ℤ := 6
def IPPROTO_UDP : ℤ := 17
def AI_PASSIVE : ℤ := 1
def SOL_SOCKET : ℤ := 1
def SO_REUSEADDR : ℤ := 2
def INET_ADDRSTRLEN : ℕ := 16
def INET6_ADDRSTRLEN : ℕ := 46
def MSG_PEEK : ℤ := 2

/-- The number of bits of an `fd_set`. -/
def FD_SETSIZE : ℤ := 1024

/-- The size of `sockaddr_un::sun_path`. -/
def sunPathSize : ℕ := 108

/-! ## Addresses -/

/-- `kt::SocketAddress`: the 28 bytes of the union of `sockaddr`, `sockaddr_in` and `sockaddr_in6`. -/
structure SocketAddress where
  bytes : Vector UInt8 28
  deriving DecidableEq

/-- `sizeof(kt::SocketAddress)`, and of its members `ipv4` and `ipv6`. -/
def sizeofSocketAddress : ℕ := 28
def sizeofIpv4 : ℕ := 16
def sizeofIpv6 : ℕ := 28

/-- A 16-bit field in host order. -/
def u16 (lo hi : UInt8) : UInt16 := lo.toUInt16 ||| (hi.toUInt16 <<< 8)

/-- `htons` of a little endian host. -/
def htons (x : UInt16) : UInt16 := (x <<< 8) ||| (x >>> 8)

namespace SocketAddress

/-- `kt::SocketAddress{}`. -/
def zero : SocketAddress := ⟨Vector.replicate 28 0⟩

variable (a : SocketAddress)

/-- `address.sa_family`. -/
def sa_family : UInt16 := u16 a.bytes[0] a.bytes[1]

/-- `ipv4.sin_port`. -/
def sin_port : UInt16 := u16 a.bytes[2] a.bytes[3]

/-- `ipv6.sin6_port`, at the same offset. -/
def sin6_port : UInt16 := u16 a.bytes[2] a.bytes[3]

/-- `ipv4.sin_addr`. -/
def sin_addr : Bytes := (a.bytes.toList.drop 4).take 4

/-- `ipv6.sin6_addr`. -/
def sin6_addr : Bytes := (a.bytes.toList.drop 8).take 16

/-- `ipv6.sin6_flowinfo`. -/
def sin6_flowinfo : Bytes := (a.bytes.toList.drop 4).take 4

/-- `ipv6.sin6_scope_id`. -/
def sin6_scope_id : Bytes := (a.bytes.toList.drop 24).take 4

/-- The assignment `ipv4.sin_port = p`. -/
def setSinPort (p : UInt16) : SocketAddress := ⟨(a.bytes.set 2 p.toUInt8).set 3 (p >>> 8).toUInt8⟩

end SocketAddress

/-- What `bind`, `connect` and `sendto` are given: an internet address, or the `sun_path` of a `sockaddr_un`. -/
inductive SockAddr where
  | inet (address : SocketAddress)
  | un (sun_path : Bytes)
  deriving DecidableEq

/-- The fields of the `addrinfo` hints the library sets. -/
structure AddrInfo where
  ai_family : ℤ
  ai_socktype : ℤ
  ai_protocol : ℤ
  ai_flags : ℤ
  deriving DecidableEq

end SocketLibrary.Posix
