import SocketLibrary.Interaction.AnyAnswer
import SocketLibrary.Interaction.Run
import SocketLibrary.Posix.Data

/-!
# The calls the library makes

The system and C library functions the source calls, with the arguments it passes, and the type of what they answer.
The operations a user passes in (`preBindSocketOperation`, `preSendSocketOperation`) are calls too: such an operation
sets options of the descriptor it is handed, and returns or throws.
-/

namespace SocketLibrary.Posix

open SocketLibrary.Interaction

/-- A `std::function<void(SOCKET&)>` of the user, by its name. -/
abbrev Callback := ℕ

/-- The calls. -/
inductive Sys where
  | socket (domain type protocol : ℤ)
  | setsockopt (fd : SOCKET) (level name value : ℤ)
  | connect (fd : SOCKET) (address : SockAddr) (length : ℕ)
  | bind (fd : SOCKET) (address : SockAddr) (length : ℕ)
  | listen (fd : SOCKET) (backlog : ℤ)
  | accept (fd : SOCKET) (addressLength : ℕ)
  | close (fd : SOCKET)
  | getsockname (fd : SOCKET)
  /-- `select(nfds, &readfds, nullptr, nullptr, timeout)` with `fd` the one member of `readfds`. -/
  | select (nfds : ℤ) (fd : SOCKET) (timeout : TimeVal)
  | send (fd : SOCKET) (message : Bytes) (length flags : ℤ)
  /-- `recv(fd, &buffer[offset], length, flags)`. -/
  | recv (fd : SOCKET) (offset length flags : ℤ)
  | sendto (fd : SOCKET) (buffer : Bytes) (length flags : ℤ) (address : SockAddr) (addressLength : ℕ)
  | recvfrom (fd : SOCKET) (length flags : ℤ) (addressLength : ℕ)
  | getaddrinfo (node service : Bytes) (hints : AddrInfo)
  | inet_ntop (family : ℤ) (source : Bytes) (size : ℕ)
  | remove (path : Bytes)
  | errno
  | strerror (errnum : ℤ)
  | callback (operation : Callback) (fd : SOCKET)
  deriving DecidableEq

/-- What `recv` answers: an error, or the bytes it stored (none at the end of the stream). -/
inductive Received where
  | error
  | bytes (data : Bytes)
  deriving DecidableEq, Repr

/-- The bytes stored by `recv`. -/
def Received.data : Received → Bytes
  | .error => []
  | .bytes data => data

/-- The result of `recv`. -/
def Received.result : Received → ℤ
  | .error => -1
  | .bytes data => data.length

/-- What `accept` answers: the new descriptor, and the address it stored, read as a `kt::SocketAddress` and as the
`sun_path` of a `sockaddr_un`. -/
structure Accepted where
  fd : SOCKET
  address : SocketAddress
  sun_path : Bytes

/-- What `recvfrom` answers: its result, the bytes it stored and the address of the sender. -/
structure Datagram where
  result : ℤ
  data : Bytes
  address : SocketAddress

/-- How an operation of the user ends. -/
inductive CallbackEnd where
  | returned
  | threw
  deriving DecidableEq, Repr

/-- The types of the answers. The result of `close` is never read. -/
@[reducible] def Ans : Sys → Type
  | .accept .. => Accepted
  | .close _ => Unit
  | .getsockname _ => ℤ × SocketAddress
  | .recv .. => Received
  | .recvfrom .. => Datagram
  | .getaddrinfo .. => ℤ × List SocketAddress
  | .inet_ntop .. => Option Bytes
  | .strerror _ => Bytes
  | .callback .. => CallbackEnd
  | _ => ℤ

/-- Some answer to each call: it fails where it can. -/
def refuse : (c : Sys) → Ans c
  | .accept .. => ⟨-1, .zero, []⟩
  | .close _ => ()
  | .getsockname _ => (-1, .zero)
  | .recv .. => .error
  | .recvfrom .. => ⟨-1, [], .zero⟩
  | .getaddrinfo .. => (-1, [])
  | .inet_ntop .. => none
  | .strerror _ => []
  | .callback .. => .threw
  | .socket .. | .setsockopt .. | .connect .. | .bind .. | .listen .. | .select .. | .send .. | .sendto .. | .remove ..
  | .errno => (-1 : ℤ)

/-- How a method can end other than by returning. -/
inductive Exn where
  | socketException (what : Bytes)
  | bindingException (what : Bytes)
  | timeoutException (what : Bytes)
  /-- `std::length_error`, thrown by `std::string::resize`. -/
  | lengthError
  /-- `std::bad_optional_access`, thrown by `std::optional::value`. -/
  | badOptionalAccess
  /-- What an operation of the user threw. -/
  | user (operation : Callback)
  /-- An `int` overflowed: the behaviour is undefined from here on. -/
  | signedOverflow
  deriving DecidableEq

/-- A method of an object with fields `S`. -/
abbrev M (S α : Type) := Method Sys Ans Exn S α

/-- Make a call. -/
def sys {S : Type} (c : Sys) : M S (Ans c) := Method.call c

@[simp] theorem wp_sys {σ S : Type} {env : Env Sys Ans σ} {c : Sys} {Q : Method.Post Sys Ans σ Exn S (Ans c)} {o : S}
    {s : σ} : @Method.wp _ _ _ _ _ (no_index (Ans c)) env (sys c) Q o s ↔
      ∀ x s', env c s x s' → Q [⟨s, c, x⟩] (.returned x) o s' :=
  Iff.rfl

@[simp] theorem always_sys {S : Type} {P : Sys → Prop} {c : Sys} {Q : Outcome Exn (Ans c) → S → Prop} {o : S} :
    @Method.Always _ _ _ _ (no_index (Ans c)) P (sys c) o Q ↔ P c ∧ ∀ x, Q (.returned x) o :=
  Iff.rfl

end SocketLibrary.Posix
