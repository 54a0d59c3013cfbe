import SocketLibrary.Protocol.Streams

/-!
# Every class keeps to the rules

The datagram sockets may store the descriptor of a socket that is not bound, and open another one for each message. A
second `bind` stores a new descriptor, closes it again, and goes on with `-1`. `call_safe` is about every method of the
six classes, `construction_safe` about the constructors and `accept_safe` about `accept`.
-/

namespace SocketLibrary.Protocol

open SocketLibrary.Interaction SocketLibrary.Posix SocketLibrary.Model SocketLibrary.Descriptors

variable {K w : Table Unit} {dm : DataModel}

/-- The object stores a descriptor of its own, and the others are still there. -/
abbrev Held (K : Table Unit) (c : SocketClass) (o : c.Obj) (w : Table Unit) : Prop := Kept K w ∧ Owned K c o w

/-- A result that is not looked at. -/
theorem safe_discard {S α : Type} {I : S → Table Unit → Prop} {m : M S α} {o : S}
    (hm : Sound m (fun _ o' w' => I o' w') o w) :
    Sound (do let _ ← m : M S Unit) (fun _ o' w' => I o' w') o w :=
  Method.Safe.seq hm fun _ _ _ h => h

/-- A method that changes neither the object nor the table. -/
theorem held_of_still {α : Type} {c : SocketClass} {o : c.Obj} {m : M c.Obj α} (hK : Kept K w) (h : Owned K c o w)
    (hm : Sound m (fun _ o' w' => o' = o ∧ w' = w) o w) : Sound m (fun _ o' w' => Held K c o' w') o w := by
  refine hm.mono ?_
  rintro r o' w' ⟨rfl, rfl⟩
  exact ⟨hK, h⟩

/-- A method that only adds to the table. -/
theorem held_of_kept {α : Type} {c : SocketClass} {o : c.Obj} {m : M c.Obj α} (hK : Kept K w) (h : Owned K c o w)
    (hm : Sound m (fun _ o' w' => o' = o ∧ Kept w w') o w) : Sound m (fun _ o' w' => Held K c o' w') o w := by
  refine hm.mono ?_
  rintro r o' w' ⟨rfl, hkept⟩
  exact ⟨hK.trans hkept, h.kept hkept⟩

/-! ## Messages -/

/-- The descriptor that a message is sent over is opened for it, and closed. -/
theorem sendOver_safe {S : Type} {domain protocol : ℤ} {operation : S → Option Callback} {address : SockAddr}
    {addressLength : ℕ} {buffer : Bytes} {bufferLength flags : ℤ} {o : S} (hdomain : domain = familyOf address) :
    Sound (do
      let tempSocket ← sys (.socket domain SOCK_DGRAM protocol)
      if isInvalidSocket tempSocket then
        return -2
      else
        let this ← Method.this
        runOperation (operation this) tempSocket
        let result ← sys (.sendto tempSocket buffer bufferLength flags address addressLength)
        Socket.close tempSocket
        return result) (fun _ o' w' => o' = o ∧ Kept w w') o w := by
  rw [Sound, Method.safe_bind]
  apply safe_socket (Kept.refl w)
  · rw [Method.forth_returned, Method.safe_ite]
    exact ⟨fun _ => ⟨rfl, Kept.refl w⟩, fun h => absurd (isInvalidSocket_iff.2 rfl) h⟩
  · intro fd w₁ hfd hK₁ hmine
    rw [Method.forth_returned, Method.safe_ite]
    refine ⟨fun h => absurd (isInvalidSocket_iff.1 h) hfd, fun _ => ?_⟩
    rw [Method.safe_bind, Method.safe_this, Method.forth_returned, Method.safe_bind]
    refine safe_runOperation (fun f => hmine.lawful rfl rfl) ?_ fun e => ⟨rfl, hK₁⟩
    rw [Method.forth_returned, Method.safe_bind]
    refine safe_still (hmine.lawful rfl ⟨rfl, rfl, hdomain⟩) trivial fun result => ?_
    rw [Method.forth_returned, Method.safe_bind]
    refine safe_close hK₁ (Or.inr ⟨_, hmine⟩) fun w₂ hK₂ => ?_
    exact ⟨rfl, hK₂⟩

/-! ## `UDPSocket` -/

section UDPSocket

open UDPSocket

theorem udpClose_safe {o : UDPSocket} (hK : Kept K w) (h : o.receiveSocket = -1 ∨ ∃ s, Mine K w o.receiveSocket s)
    {Q : Outcome Exn Unit → UDPSocket → Table Unit → Prop} (hQ : ∀ w', Kept K w' →
      Q (.returned ()) { o with receiveSocket := -1, bound := false, listeningPort := none } w') :
    Sound UDPSocket.close Q o w := by
  unfold UDPSocket.close
  rw [Sound, Method.safe_bind, Method.safe_this, Method.forth_returned, Method.safe_bind]
  exact safe_close hK h fun w' hw' => hQ w' hw'

theorem initialiseListeningPortNumber_safe {o : UDPSocket} (hK : Kept K w) {s : Sock}
    (h : Mine K w o.receiveSocket s) (htype : s.type = SOCK_DGRAM) (hstage : s.stage = .bound) :
    Sound initialiseListeningPortNumber (fun _ o' w' => Held K .udpSocket o' w') o w := by
  unfold initialiseListeningPortNumber
  rw [Sound, Method.safe_bind, Method.safe_this, Method.forth_returned, Method.safe_bind]
  refine safe_socketToAddress (h.lawful rfl hstage) fun r => ?_
  obtain ⟨address, result⟩ := r
  have hheld : ∀ port, Owned K .udpSocket { o with listeningPort := port } w := fun _ =>
    Or.inr ⟨s, h, htype, fun _ => hstage⟩
  rw [Method.forth_returned]
  cases address with
  | none =>
    rw [Method.safe_ite, Method.safe_bind]
    constructor
    · intro _
      refine udpClose_safe hK (Or.inr ⟨s, h⟩) fun w' hw' => ?_
      rw [Method.forth_returned]
      exact safe_throwCode fun e => ⟨hw', Or.inl rfl⟩
    · intro _
      exact ⟨hK, hheld o.listeningPort⟩
  | some address => exact ⟨hK, hheld _⟩

/-- The test of `isBound()` in `bind`. -/
theorem udpCloseIfBound_safe {o : UDPSocket} (hK : Kept K w) {s : Sock} (h : Mine K w o.receiveSocket s)
    {Q : Outcome Exn Unit → UDPSocket → Table Unit → Prop} (hQ : ∀ o' w', Kept K w' → o'.bound = false →
      (o'.receiveSocket = -1 ∨ Mine K w' o'.receiveSocket s) → Q (.returned ()) o' w') :
    Sound UDPSocket.closeIfBound Q o w := by
  unfold UDPSocket.closeIfBound
  rw [Sound, Method.safe_bind, Method.safe_this, Method.forth_returned, Method.safe_ite]
  constructor
  · intro _
    exact udpClose_safe hK (Or.inr ⟨s, h⟩) fun w' hw' => hQ _ w' hw' rfl (Or.inl rfl)
  · intro hbound
    exact hQ o w hK (by simpa using hbound) (Or.inr h)

theorem bindReceiveSocket_safe {o : UDPSocket} (hK : Kept K w) (address : SocketAddress)
    (preBindSocketOperation : Option Callback)
    (h : Mine K w o.receiveSocket ⟨familyOf (.inet address), SOCK_DGRAM, .fresh⟩) :
    Sound (bindReceiveSocket address preBindSocketOperation) (fun _ o' w' => Held K .udpSocket o' w') o w := by
  unfold bindReceiveSocket
  rw [Sound, Method.safe_bind]
  refine udpCloseIfBound_safe hK h fun o₁ w₁ hK₁ hbound h₁ => ?_
  have hlawful : ∀ c, descriptors.target c = {o₁.receiveSocket} →
      Accepts c ⟨familyOf (.inet address), SOCK_DGRAM, .fresh⟩ → Lawful () w₁ c := by
    intro c htarget hc
    rcases h₁ with h₁ | h₁
    · refine lawful_none ?_
      rw [htarget, h₁]
    · exact h₁.lawful htarget hc
  have hheld : Held K .udpSocket o₁ w₁ := by
    refine ⟨hK₁, h₁.imp_right fun h₁ => ⟨_, h₁, rfl, fun h => ?_⟩⟩
    rw [hbound] at h
    cases h
  rw [Method.forth_returned, Method.safe_bind, Method.safe_this, Method.forth_returned, Method.safe_bind]
  refine safe_runOperation (fun f => hlawful _ rfl rfl) ?_ fun e => hheld
  rw [Method.forth_returned, Method.safe_bind]
  refine safe_sys.2 ⟨hlawful _ rfl ⟨rfl, rfl⟩, fun x w₂ hx => ?_⟩
  rw [Method.forth_returned, Method.safe_bind, Method.safe_modify, Method.forth_returned, Method.safe_ite]
  have hmoved : (x : ℤ) = -1 ∧ w₂ = w₁ ∨ (x : ℤ) = 0 ∧ Kept K w₂ ∧
      Mine K w₂ o₁.receiveSocket ⟨familyOf (.inet address), SOCK_DGRAM, .bound⟩ := by
    rcases h₁ with h₁ | h₁
    · rw [h₁] at hx
      exact Or.inl (moved_none hx)
    · exact h₁.moved hK₁ hx
  rcases hmoved with ⟨rfl, rfl⟩ | ⟨rfl, hK₂, hmine⟩
  · refine ⟨fun _ => ?_, fun h => absurd rfl h⟩
    exact ⟨hK₁, h₁.imp_right fun h₁ => ⟨_, h₁, rfl, fun h => absurd h (by decide : ¬ ((-1 : ℤ) != -1) = true)⟩⟩
  · refine ⟨fun h => absurd h (by decide : ¬ (0 : ℤ) = -1), fun _ => ?_⟩
    apply Method.Safe.seq
    · exact initialiseListeningPortNumber_safe hK₂ hmine rfl rfl
    · intro _ o₃ w₃ h₃
      rw [Method.safe_bind, Method.safe_this, Method.forth_returned]
      cases o₃.listeningPort with
      | none => exact h₃
      | some port => exact h₃

theorem udpBind_safe {o : UDPSocket} (hK : Kept K w) (h : Owned K .udpSocket o w) (addressOpt : Option SocketAddress)
    (preBindSocketOperation : Option Callback) :
    Sound (UDPSocket.bind addressOpt preBindSocketOperation) (fun _ o' w' => Held K .udpSocket o' w') o w := by
  cases addressOpt with
  | none => exact ⟨hK, h⟩
  | some address =>
    unfold UDPSocket.bind
    rw [Sound, Method.safe_bind, Method.safe_this, Method.forth_returned, Method.safe_bind]
    apply safe_socket hK
    · rw [Method.forth_returned, Method.safe_bind, Method.safe_modify, Method.forth_returned, Method.safe_ite]
      refine ⟨fun _ => ?_, fun h => absurd (isInvalidSocket_iff.2 rfl) h⟩
      exact safe_throwCode fun e => ⟨hK, Or.inl rfl⟩
    · intro fd w₁ hfd hK₁ hmine
      rw [Method.forth_returned, Method.safe_bind, Method.safe_modify, Method.forth_returned, Method.safe_ite]
      refine ⟨fun h => absurd (isInvalidSocket_iff.1 h) hfd, fun _ => ?_⟩
      exact bindReceiveSocket_safe hK₁ address preBindSocketOperation hmine

theorem udpBindHost_safe {o : UDPSocket} (hK : Kept K w) (h : Owned K .udpSocket o w)
    (protocolVersion : InternetProtocolVersion) (localHostname : Option Bytes) (port : UInt16)
    (preBindSocketOperation : Option Callback) : Sound (UDPSocket.bindHost protocolVersion localHostname port
      preBindSocketOperation) (fun _ o' w' => Held K .udpSocket o' w') o w := by
  unfold UDPSocket.bindHost
  rw [Sound, Method.safe_bind]
  refine safe_resolveToAddresses fun r => ?_
  obtain ⟨addresses, result⟩ := r
  rw [Method.forth_returned, Method.safe_ite]
  exact ⟨fun _ => ⟨hK, h⟩, fun _ => udpBind_safe hK h _ _⟩

theorem udpSendBufferTo_safe {o : UDPSocket} (address : SocketAddress) (buffer : Bytes) (bufferLength flags : ℤ) :
    Sound (UDPSocket.sendBufferTo address buffer bufferLength flags) (fun _ o' w' => o' = o ∧ Kept w w') o w :=
  sendOver_safe rfl

theorem udpSendBufferToHost_safe {o : UDPSocket} (hostname : Bytes) (port : UInt16) (buffer : Bytes)
    (bufferLength flags : ℤ) (protocolVersion : InternetProtocolVersion) :
    Sound (UDPSocket.sendBufferToHost hostname port buffer bufferLength flags protocolVersion)
      (fun _ o' w' => o' = o ∧ Kept w w') o w := by
  unfold UDPSocket.sendBufferToHost
  rw [Sound, Method.safe_bind]
  refine safe_resolveToAddresses fun r => ?_
  obtain ⟨addresses, result⟩ := r
  rw [Method.forth_returned, Method.safe_ite]
  refine ⟨fun _ => ⟨rfl, Kept.refl w⟩, fun _ => ?_⟩
  exact (udpSendBufferTo_safe _ buffer bufferLength flags).seq fun _ _ _ h => h

theorem udpReady_safe {o : UDPSocket} (h : Owned K .udpSocket o w) (timeout : ULong dm) :
    Sound (UDPSocket.ready dm timeout) (fun _ o' w' => o' = o ∧ w' = w) o w := by
  unfold UDPSocket.ready
  rw [Sound, Method.safe_bind, Method.safe_this, Method.forth_returned, Method.safe_ite]
  refine ⟨fun hbound => ?_, fun _ => ⟨rfl, rfl⟩⟩
  have hselect : ∀ nfds t, Lawful () w (.select nfds o.receiveSocket t) := by
    intro nfds t
    refine h.lawful rfl fun s hs => ?_
    show s.stage ≠ .fresh
    rw [hs.2 hbound]
    decide
  unfold UDPSocket.pollSocket
  rw [Method.safe_bind, Method.safe_ite]
  refine ⟨fun _ => ⟨rfl, rfl⟩, fun _ => ?_⟩
  exact safe_pollSocket hselect fun _ => ⟨rfl, rfl⟩

theorem udpReceiveFromInto_safe {o : UDPSocket} (h : Owned K .udpSocket o w) (buffer : Bytes)
    (receiveLength flags : ℤ) : Sound (UDPSocket.receiveFromInto buffer receiveLength flags)
      (fun _ o' w' => o' = o ∧ w' = w) o w := by
  unfold UDPSocket.receiveFromInto
  rw [Sound, Method.safe_bind, Method.safe_this, Method.forth_returned, Method.safe_ite]
  refine ⟨fun _ => ⟨rfl, rfl⟩, fun hbound => ?_⟩
  have hbound' : o.bound = true := by
    by_contra hne
    exact hbound (Or.inl (by simpa using hne))
  rw [Method.safe_bind]
  refine safe_still (h.lawful rfl fun s hs => ⟨hs.2 hbound', hs.1⟩) trivial fun x => ?_
  exact ⟨rfl, rfl⟩

theorem udpReceiveFrom_safe {o : UDPSocket} (h : Owned K .udpSocket o w) (receiveLength flags : ℤ) :
    Sound (UDPSocket.receiveFrom receiveLength flags) (fun _ o' w' => o' = o ∧ w' = w) o w := by
  unfold UDPSocket.receiveFrom
  rw [Sound, Method.safe_ite]
  refine ⟨fun _ => ⟨rfl, rfl⟩, fun _ => ?_⟩
  exact (udpReceiveFromInto_safe h _ receiveLength flags).seq fun _ _ _ h => h

theorem udpCall_safe {o : UDPSocket} (hK : Kept K w) (h : Owned K .udpSocket o w) (c : UDPCall dm) :
    Sound c.perform (fun _ o' w' => Held K .udpSocket o' w') o w := by
  cases c with
  | bind addressOpt operation => exact safe_discard (udpBind_safe hK h addressOpt operation)
  | bindHost version host port operation => exact safe_discard (udpBindHost_safe hK h version host port operation)
  | sendTo address message flags =>
    exact held_of_kept hK h (safe_discard (udpSendBufferTo_safe address message _ flags))
  | sendBufferTo address buffer bufferLength flags =>
    exact held_of_kept hK h (safe_discard (udpSendBufferTo_safe address buffer bufferLength flags))
  | sendToHost hostname port message flags version =>
    exact held_of_kept hK h (safe_discard (udpSendBufferToHost_safe hostname port message _ flags version))
  | sendBufferToHost hostname port buffer bufferLength flags version =>
    exact held_of_kept hK h (safe_discard (udpSendBufferToHost_safe hostname port buffer bufferLength flags version))
  | receiveFrom receiveLength flags =>
    exact held_of_still hK h (safe_discard (udpReceiveFrom_safe h receiveLength flags))
  | receiveFromInto buffer receiveLength flags =>
    exact held_of_still hK h (safe_discard (udpReceiveFromInto_safe h buffer receiveLength flags))
  | ready timeout => exact held_of_still hK h (safe_discard (udpReady_safe h timeout))
  | setPreSendSocketOperation operation => exact ⟨hK, h⟩
  | close => exact udpClose_safe hK h.mine fun w' hw' => ⟨hw', Or.inl rfl⟩

end UDPSocket

/-! ## `DatagramIPCSocket` -/

section DatagramIPCSocket

open DatagramIPCSocket

theorem datagramClose_safe {o : DatagramIPCSocket} (hK : Kept K w)
    (h : o.receiveSocket = -1 ∨ ∃ s, Mine K w o.receiveSocket s)
    {Q : Outcome Exn Unit → DatagramIPCSocket → Table Unit → Prop} (hQ : ∀ w', Kept K w' →
      Q (.returned ()) { o with receiveSocket := -1, socketPath := none, bound := false } w') :
    Sound DatagramIPCSocket.close Q o w := by
  unfold DatagramIPCSocket.close
  rw [Sound, Method.safe_bind, Method.safe_this, Method.forth_returned, Method.safe_bind]
  refine safe_close hK h fun w' hw' => ?_
  unfold removeBoundPath
  rw [Method.forth_returned, Method.safe_bind, Method.safe_modify, Method.forth_returned, Method.safe_bind,
    Method.safe_bind, Method.safe_this, Method.forth_returned]
  cases o.socketPath with
  | none => exact hQ w' hw'
  | some path =>
    rw [Method.safe_ite, Method.safe_bind]
    exact ⟨fun _ => safe_removeSocketPath fun _ => hQ w' hw', fun _ => hQ w' hw'⟩

/-- The test of `isBound()` in `bind`. -/
theorem datagramCloseIfBound_safe {o : DatagramIPCSocket} (hK : Kept K w) {s : Sock} (h : Mine K w o.receiveSocket s)
    {Q : Outcome Exn Unit → DatagramIPCSocket → Table Unit → Prop} (hQ : ∀ o' w', Kept K w' → o'.bound = false →
      (o'.receiveSocket = -1 ∨ Mine K w' o'.receiveSocket s) → Q (.returned ()) o' w') :
    Sound DatagramIPCSocket.closeIfBound Q o w := by
  unfold DatagramIPCSocket.closeIfBound
  rw [Sound, Method.safe_bind, Method.safe_this, Method.forth_returned, Method.safe_ite]
  constructor
  · intro _
    exact datagramClose_safe hK (Or.inr ⟨s, h⟩) fun w' hw' => hQ _ w' hw' rfl (Or.inl rfl)
  · intro hbound
    exact hQ o w hK (by simpa using hbound) (Or.inr h)

theorem openAndBind_safe {o : DatagramIPCSocket} (hK : Kept K w) (path : Bytes)
    (preBindSocketOperation : Option Callback) : Sound (openAndBind path preBindSocketOperation)
      (fun _ o' w' => Held K .datagramIPCSocket o' w') o w := by
  unfold openAndBind
  rw [Sound, Method.safe_bind]
  apply safe_socket hK
  · rw [Method.forth_returned, Method.safe_bind, Method.safe_modify, Method.forth_returned, Method.safe_ite]
    refine ⟨fun _ => ?_, fun h => absurd (isInvalidSocket_iff.2 rfl) h⟩
    exact safe_throwCode fun e => ⟨hK, Or.inl rfl⟩
  · intro fd w₁ hfd hK₁ hmine
    rw [Method.forth_returned, Method.safe_bind, Method.safe_modify, Method.forth_returned, Method.safe_ite]
    refine ⟨fun h => absurd (isInvalidSocket_iff.1 h) hfd, fun _ => ?_⟩
    rw [Method.safe_bind]
    refine datagramCloseIfBound_safe hK₁ hmine fun o₂ w₂ hK₂ hbound h₂ => ?_
    have hlawful : ∀ c, descriptors.target c = {o₂.receiveSocket} → Accepts c ⟨AF_UNIX, SOCK_DGRAM, .fresh⟩ →
        Lawful () w₂ c := by
      intro c htarget hc
      rcases h₂ with h₂ | h₂
      · refine lawful_none ?_
        rw [htarget, h₂]
      · exact h₂.lawful htarget hc
    have hheld : Held K .datagramIPCSocket o₂ w₂ := by
      refine ⟨hK₂, h₂.imp_right fun h₂ => ⟨_, h₂, rfl, fun h => ?_⟩⟩
      rw [hbound] at h
      cases h
    rw [Method.forth_returned, Method.safe_bind, Method.safe_this, Method.forth_returned, Method.safe_bind]
    refine safe_runOperation (fun f => hlawful _ rfl rfl) ?_ fun e => hheld
    rw [Method.forth_returned, Method.safe_bind]
    refine safe_sys.2 ⟨hlawful _ rfl ⟨rfl, rfl⟩, fun x w₃ hx => ?_⟩
    rw [Method.forth_returned, Method.safe_bind, Method.safe_modify, Method.forth_returned, Method.safe_ite]
    have hmoved : (x : ℤ) = -1 ∧ w₃ = w₂ ∨ (x : ℤ) = 0 ∧ Kept K w₃ ∧
        Mine K w₃ o₂.receiveSocket ⟨AF_UNIX, SOCK_DGRAM, .bound⟩ := by
      rcases h₂ with h₂ | h₂
      · rw [h₂] at hx
        exact Or.inl (moved_none hx)
      · exact h₂.moved hK₂ hx
    rcases hmoved with ⟨rfl, rfl⟩ | ⟨rfl, hK₃, hmine₃⟩
    · refine ⟨fun _ => ?_, fun h => absurd rfl h⟩
      exact ⟨hK₂, h₂.imp_right fun h₂ => ⟨_, h₂, rfl, fun h => absurd h (by decide : ¬ ((-1 : ℤ) != -1) = true)⟩⟩
    · refine ⟨fun h => absurd h (by decide : ¬ (0 : ℤ) = -1), fun _ => ?_⟩
      exact ⟨hK₃, Or.inr ⟨_, hmine₃, rfl, fun _ => rfl⟩⟩

theorem datagramBind_safe {o : DatagramIPCSocket} (hK : Kept K w) (h : Owned K .datagramIPCSocket o w)
    (override : Bool) (socketPathOpt : Option Bytes) (preBindSocketOperation : Option Callback) :
    Sound (bindOverride override socketPathOpt preBindSocketOperation)
      (fun _ o' w' => Held K .datagramIPCSocket o' w') o w := by
  cases socketPathOpt with
  | none => exact ⟨hK, h⟩
  | some socketPath =>
    unfold bindOverride DatagramIPCSocket.removeOnOverride
    apply Method.Safe.seq
    · rw [Method.safe_ite, Method.safe_bind]
      exact ⟨fun _ => safe_removeSocketPath fun _ => ⟨hK, h⟩, fun _ => ⟨hK, h⟩⟩
    · intro _ o₁ w₁ h₁
      exact openAndBind_safe h₁.1 _ preBindSocketOperation

theorem datagramSendBufferTo_safe {o : DatagramIPCSocket} (path buffer : Bytes) (bufferLength flags : ℤ) :
    Sound (DatagramIPCSocket.sendBufferTo path buffer bufferLength flags) (fun _ o' w' => o' = o ∧ Kept w w') o w :=
  sendOver_safe rfl

theorem datagramReady_safe {o : DatagramIPCSocket} (h : Owned K .datagramIPCSocket o w) (timeout : ULong dm) :
    Sound (DatagramIPCSocket.ready dm timeout) (fun _ o' w' => o' = o ∧ w' = w) o w := by
  unfold DatagramIPCSocket.ready
  rw [Sound, Method.safe_bind, Method.safe_this, Method.forth_returned, Method.safe_ite]
  refine ⟨fun hbound => ?_, fun _ => ⟨rfl, rfl⟩⟩
  have hselect : ∀ nfds t, Lawful () w (.select nfds o.receiveSocket t) := by
    intro nfds t
    refine h.lawful rfl fun s hs => ?_
    show s.stage ≠ .fresh
    rw [hs.2 hbound]
    decide
  rw [Method.safe_bind]
  exact safe_pollSocket hselect fun _ => ⟨rfl, rfl⟩

theorem datagramReceiveFromInto_safe {o : DatagramIPCSocket} (h : Owned K .datagramIPCSocket o w) (buffer : Bytes)
    (receiveLength flags : ℤ) : Sound (DatagramIPCSocket.receiveFromInto buffer receiveLength flags)
      (fun _ o' w' => o' = o ∧ w' = w) o w := by
  unfold DatagramIPCSocket.receiveFromInto
  rw [Sound, Method.safe_bind, Method.safe_this, Method.forth_returned, Method.safe_ite]
  refine ⟨fun _ => ⟨rfl, rfl⟩, fun hbound => ?_⟩
  have hbound' : o.bound = true := by
    by_contra hne
    exact hbound (Or.inl (by simpa using hne))
  rw [Method.safe_bind]
  refine safe_still (h.lawful rfl fun s hs => ⟨hs.2 hbound', hs.1⟩) trivial fun x => ?_
  rw [Method.forth_returned]
  cases o.socketPath with
  | none => exact ⟨rfl, rfl⟩
  | some path => exact ⟨rfl, rfl⟩

theorem datagramReceiveFrom_safe {o : DatagramIPCSocket} (h : Owned K .datagramIPCSocket o w)
    (receiveLength flags : ℤ) : Sound (DatagramIPCSocket.receiveFrom receiveLength flags)
      (fun _ o' w' => o' = o ∧ w' = w) o w := by
  unfold DatagramIPCSocket.receiveFrom
  rw [Sound, Method.safe_ite]
  refine ⟨fun _ => ⟨rfl, rfl⟩, fun _ => ?_⟩
  exact (datagramReceiveFromInto_safe h _ receiveLength flags).seq fun _ _ _ h => h

theorem datagramCall_safe {o : DatagramIPCSocket} (hK : Kept K w) (h : Owned K .datagramIPCSocket o w)
    (c : DatagramCall dm) : Sound c.perform (fun _ o' w' => Held K .datagramIPCSocket o' w') o w := by
  cases c with
  | bind path operation => exact safe_discard (datagramBind_safe hK h false path operation)
  | bindOverride override path operation => exact safe_discard (datagramBind_safe hK h override path operation)
  | sendTo path message flags =>
    exact held_of_kept hK h (safe_discard (datagramSendBufferTo_safe path message _ flags))
  | sendBufferTo path buffer bufferLength flags =>
    exact held_of_kept hK h (safe_discard (datagramSendBufferTo_safe path buffer bufferLength flags))
  | receiveFrom receiveLength flags =>
    exact held_of_still hK h (safe_discard (datagramReceiveFrom_safe h receiveLength flags))
  | receiveFromInto buffer receiveLength flags =>
    exact held_of_still hK h (safe_discard (datagramReceiveFromInto_safe h buffer receiveLength flags))
  | ready timeout => exact held_of_still hK h (safe_discard (datagramReady_safe h timeout))
  | setPreSendSocketOperation operation => exact ⟨hK, h⟩
  | close => exact datagramClose_safe hK h.mine fun w' hw' => ⟨hw', Or.inl rfl⟩

end DatagramIPCSocket

/-! ## All classes -/

/-- A connection that is used. -/
theorem connected_of_owned {c : SocketClass} {o : c.Obj} (h : Owned K c o w)
    (hc : ∀ s, Suits c o s → s.type = SOCK_STREAM ∧ s.stage = .connected) :
    c.stored o = -1 ∨ ∃ s, w (c.stored o) = some ((), s) ∧ s.type = SOCK_STREAM ∧ s.stage = .connected :=
  h.imp_right fun ⟨s, hs, hsuits⟩ => ⟨s, hs.mine, hc s hsuits⟩

/-- **Every method.** -/
theorem call_safe {c : SocketClass} {o : c.Obj} (hK : Kept K w) (h : Owned K c o w) (m : Call dm c) :
    Sound m.perform (fun _ o' w' => Held K c o' w') o w := by
  cases m with
  | tcp c =>
    have huse : Sound (c.perform (SocketClass.stored .tcpSocket o) : M TCPSocket Unit)
        (fun _ o' w' => o' = o ∧ w' = w) o w := streamCall_safe (connected_of_owned h fun _ hs => hs) c
    exact held_of_still hK h huse
  | tcpClose => exact tcpClose_safe hK h.mine fun w' hw' => ⟨hw', Or.inl rfl⟩
  | tcpServerClose => exact tcpServerClose_safe hK h.mine fun w' hw' => ⟨hw', Or.inl rfl⟩
  | streamIPC c =>
    have huse : Sound (c.perform (SocketClass.stored .streamIPCSocket o) : M StreamIPCSocket Unit)
        (fun _ o' w' => o' = o ∧ w' = w) o w := streamCall_safe (connected_of_owned h fun _ hs => hs) c
    exact held_of_still hK h huse
  | streamIPCClose => exact streamClose_safe hK h.mine fun w' hw' => ⟨hw', Or.inl rfl⟩
  | ipcServerClose => exact ipcServerClose_safe hK h.mine fun w' hw' => ⟨hw', Or.inl rfl⟩
  | udp c => exact udpCall_safe hK h c
  | datagramIPC c => exact datagramCall_safe hK h c

/-- **Every constructor.** -/
theorem construction_safe {c : SocketClass} (hK : Kept K w) (m : Construction c) (memory : c.Obj) :
    Sound m.perform (Method.Ending (fun _ => Kept K) fun _ o' w' => Owned K c o' w') memory w := by
  cases m with
  | tcp hostname port version => exact tcpConstruct_safe hostname port version hK
  | tcpFromAddress address => exact tcpConstructFromAddress_safe address hK
  | tcpServer host port backlog version operation => exact tcpServerConstruct_safe host port backlog version operation hK
  | streamIPC path => exact streamConstruct_safe path hK
  | ipcServer path override backlog operation => exact ipcServerConstruct_safe path override backlog operation hK
  | udp =>
    refine ⟨hK, ?_⟩
    rintro u ⟨⟩
    exact Or.inl rfl
  | datagramIPC =>
    refine ⟨hK, ?_⟩
    rintro u ⟨⟩
    exact Or.inl rfl

/-- **`accept`.** -/
theorem accept_safe {c d : SocketClass} {o : c.Obj} (h : Owned K c o w) (m : Accept c d) :
    Sound m.perform (Method.Ending (fun o' w' => o' = o ∧ Kept w w') fun accepted _ w' => Owned w d accepted w') o w := by
  cases m with
  | tcp timeout => exact tcpAccept_safe timeout h
  | ipc timeout => exact ipcAccept_safe timeout h

end SocketLibrary.Protocol
