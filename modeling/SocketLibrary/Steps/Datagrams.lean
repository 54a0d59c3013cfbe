import Mathlib.Tactic
import SocketLibrary.Model.DatagramIPCSocket
import SocketLibrary.Model.UDPSocket

/-!
# The calls that leave a datagram socket as it is

Whatever is answered, sending, receiving and waiting change no field of a `UDPSocket` or a `DatagramIPCSocket`. The only
`value()` of an empty optional among them is the one in `DatagramIPCSocket::receiveFrom`, on a bound socket that has no
path.
-/

namespace SocketLibrary.Steps

open SocketLibrary.Interaction SocketLibrary.Posix SocketLibrary.Model

/-- The socket address that a call is given. -/
def addressOf : Sys → Option SockAddr
  | .bind _ address _ | .connect _ address _ | .sendto _ _ _ _ address _ => some address
  | _ => none

/-- The file name that a call is given. -/
def removedName : Sys → Option Bytes
  | .remove name => some name
  | _ => none

/-- A call with neither. -/
def Quiet (c : Sys) : Prop := addressOf c = none ∧ removedName c = none

/-- The method has left the object as it was, and has not read an empty optional. -/
def Unchanged {S α : Type} (o : S) (r : Outcome Exn α) (o' : S) : Prop := o' = o ∧ r ≠ .threw .badOptionalAccess

theorem Unchanged.wrap {S α β : Type} {g : α → β} {o o' : S} {r : Outcome Exn α} (h : Unchanged o r o') :
    Unchanged o (r.map g) o' := by
  unfold Unchanged
  rwa [Ne, Outcome.map_eq_threw]

section UDP

variable (dm : DataModel) (o : UDPSocket)

theorem udpSend_unchanged (address : SocketAddress) (buffer : Bytes) (bufferLength flags : ℤ) :
    (UDPSocket.sendBufferTo address buffer bufferLength flags).Always (fun _ => True) o (Unchanged o) := by
  simp [UDPSocket.sendBufferTo, Socket.close, Unchanged]

theorem udpSendToHost_unchanged (hostname : Bytes) (port : UInt16) (buffer : Bytes) (bufferLength flags : ℤ)
    (protocolVersion : InternetProtocolVersion) :
    (UDPSocket.sendBufferToHost hostname port buffer bufferLength flags protocolVersion).Always (fun _ => True) o
      (Unchanged o) := by
  simp only [UDPSocket.sendBufferToHost, resolveToAddresses, Method.always_bind, always_sys, Method.onward_returned,
    true_and]
  rintro ⟨code, addresses⟩
  have hsend : ∀ address, (do
      let result ← UDPSocket.sendBufferTo address buffer bufferLength flags
      return (result, address) : M UDPSocket (ℤ × SocketAddress)).Always (fun _ => True) o (Unchanged o) :=
    fun address => (udpSend_unchanged o address buffer bufferLength flags).wrap fun _ _ => Unchanged.wrap
  by_cases h : code ≠ 0 ∨ addresses = []
  · simp [h, Unchanged]
  · simp only [h, if_false, Method.always_pure, Method.onward_returned, Method.always_ite]
    exact ⟨fun _ => ⟨rfl, by simp⟩, fun _ => hsend _⟩

theorem udpReceiveInto_unchanged (buffer : Bytes) (receiveLength flags : ℤ) :
    (UDPSocket.receiveFromInto buffer receiveLength flags).Always Quiet o (Unchanged o) := by
  simp [UDPSocket.receiveFromInto, Unchanged, Quiet, addressOf, removedName]

theorem udpReceive_unchanged (receiveLength flags : ℤ) :
    (UDPSocket.receiveFrom receiveLength flags).Always Quiet o (Unchanged o) := by
  simp [UDPSocket.receiveFrom, UDPSocket.receiveFromInto, Unchanged, Quiet, addressOf, removedName]

theorem udpReady_unchanged (timeout : ULong dm) :
    (UDPSocket.ready dm timeout).Always Quiet o (Unchanged o) := by
  simp [UDPSocket.ready, UDPSocket.pollSocket, Socket.pollSocket, Unchanged, Quiet, addressOf, removedName]

end UDP

section Datagram

variable (dm : DataModel) (o : DatagramIPCSocket)

/-- A call to `sendto` with the address of `path` is the only one that carries a name. -/
theorem datagramSend_unchanged (path buffer : Bytes) (bufferLength flags : ℤ) :
    (DatagramIPCSocket.sendBufferTo path buffer bufferLength flags).Always
      (fun c => (addressOf c = none ∨ addressOf c = some (pathAddress (resizePath path))) ∧ removedName c = none) o
      (Unchanged o) := by
  simp [DatagramIPCSocket.sendBufferTo, Socket.close, Unchanged, addressOf, removedName]

/-- The object is as before, and the path was read only if it is missing. -/
def ReadsPath {α : Type} (o : DatagramIPCSocket) (r : Outcome Exn α) (o' : DatagramIPCSocket) : Prop :=
  o' = o ∧ (r = .threw .badOptionalAccess → o.bound = true ∧ o.socketPath = none)

theorem ReadsPath.wrap {α β : Type} {g : α → β} {o o' : DatagramIPCSocket} {r : Outcome Exn α} (h : ReadsPath o r o') :
    ReadsPath o (r.map g) o' := by
  unfold ReadsPath
  rwa [Outcome.map_eq_threw]

theorem datagramReceiveInto_reads (buffer : Bytes) (receiveLength flags : ℤ) :
    (DatagramIPCSocket.receiveFromInto buffer receiveLength flags).Always Quiet o (ReadsPath o) := by
  simp only [DatagramIPCSocket.receiveFromInto, Method.always_bind, Method.always_this, Method.onward_returned,
    Method.always_ite]
  constructor
  · intro _
    exact ⟨rfl, by simp⟩
  · intro hbound
    rw [always_sys]
    refine ⟨⟨rfl, rfl⟩, fun datagram => ?_⟩
    rw [Method.onward_returned]
    cases hpath : o.socketPath with
    | none => exact ⟨rfl, fun _ => ⟨by simpa using fun hb => hbound (Or.inl hb), hpath⟩⟩
    | some path => exact ⟨rfl, by simp⟩

theorem datagramReceive_reads (receiveLength flags : ℤ) :
    (DatagramIPCSocket.receiveFrom receiveLength flags).Always Quiet o (ReadsPath o) := by
  unfold DatagramIPCSocket.receiveFrom
  rw [Method.always_ite]
  constructor
  · intro _
    exact ⟨rfl, by simp⟩
  · intro _
    exact (datagramReceiveInto_reads o _ receiveLength flags).wrap fun _ _ => ReadsPath.wrap

theorem datagramReady_unchanged (timeout : ULong dm) :
    (DatagramIPCSocket.ready dm timeout).Always Quiet o (Unchanged o) := by
  simp [DatagramIPCSocket.ready, Socket.pollSocket, Unchanged, Quiet, addressOf, removedName]

end Datagram

end SocketLibrary.Steps
