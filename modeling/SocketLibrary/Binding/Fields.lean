import SocketLibrary.Descriptors.Leaks
import SocketLibrary.Interaction.Reachable
import SocketLibrary.Steps.Binding
import SocketLibrary.Steps.Datagrams

/-!
# The flag and the address of a bound socket

`bind` sets the flag `bound` and the stored port or path at different moments, with exits in between.
`bound_iff_stored` says that in every state an object can reach the two agree, and that therefore no `value()` of an
empty optional is ever called.
-/

namespace SocketLibrary.Binding

open SocketLibrary.Interaction SocketLibrary.Posix SocketLibrary.Model SocketLibrary.Steps SocketLibrary.Descriptors

/-! ## Agreement -/

section Agreement

variable {S α β γ : Type} {bound : S → Bool} {stored : S → Option γ}

/-- The flag agrees with the presence of the stored address. -/
def Matches (bound : S → Bool) (stored : S → Option γ) (o : S) : Prop := bound o = true ↔ (stored o).isSome = true

/-- A call ends with the two in agreement, and has not read an empty optional. -/
def Kept (bound : S → Bool) (stored : S → Option γ) (r : Outcome Exn α) (o' : S) : Prop :=
  Matches bound stored o' ∧ r ≠ .threw .badOptionalAccess

theorem matches_of_unbound {o : S} (hbound : bound o = false) (hstored : stored o = none) : Matches bound stored o := by
  simp [Matches, hbound, hstored]

/-- Of an object that is not bound no address is stored. -/
theorem Matches.stored_eq_none {o : S} (h : Matches bound stored o) (hbound : bound o = false) : stored o = none := by
  simpa [Matches, hbound] using h

theorem Kept.wrap {g : α → β} {r : Outcome Exn α} {o' : S} (h : Kept bound stored r o') :
    Kept bound stored (r.map g) o' := by
  unfold Kept
  rwa [Ne, Outcome.map_eq_threw]

/-- A call whose result is thrown away. -/
theorem kept_discard {P : Sys → Prop} {m : M S α} {o : S} (hm : m.Always P o (Kept bound stored)) :
    (m >>= fun _ => pure ()).Always (fun _ => True) o (Kept bound stored) := by
  have htrue : m.Always (fun _ => True) o (Kept bound stored) := hm.mono (fun _ _ => trivial) fun _ _ h => h
  exact htrue.wrap fun _ _ => Kept.wrap

/-- A call that changes nothing keeps the two in agreement. -/
theorem kept_of_unchanged {P : Sys → Prop} {m : M S α} {o : S} (h : Matches bound stored o)
    (hm : m.Always P o (Unchanged o)) : m.Always P o (Kept bound stored) := by
  refine hm.mono (fun _ h => h) ?_
  rintro r o' ⟨rfl, hr⟩
  exact ⟨h, hr⟩

end Agreement

/-! ## `UDPSocket` -/

/-- The flag agrees with the presence of the port. -/
abbrev PortMatches : UDPSocket → Prop := Matches UDPSocket.bound UDPSocket.listeningPort

abbrev PortKept {α : Type} : Outcome Exn α → UDPSocket → Prop := Kept UDPSocket.bound UDPSocket.listeningPort

section UDP

variable {o : UDPSocket}

/-- What `close` leaves: nothing is bound, and no port is stored. -/
theorem udpClose_unbinds : UDPSocket.close.Always (fun _ => True) o fun r o' =>
    r = .returned () ∧ o'.bound = false ∧ o'.listeningPort = none := by
  simp [UDPSocket.close, Socket.close]

/-- The port is found, or the socket is closed. -/
theorem initialiseListeningPort_keeps (hbound : o.bound = true) :
    UDPSocket.initialiseListeningPortNumber.Always (fun _ => True) o fun r o' =>
      PortKept r o' ∧ ∀ u, r = .returned u → o'.listeningPort.isSome = true := by
  simp only [UDPSocket.initialiseListeningPortNumber, socketToAddress, Method.always_bind, Method.always_this,
    Method.onward_returned, always_sys, Method.always_pure]
  refine ⟨trivial, ?_⟩
  rintro ⟨result, address⟩
  by_cases hresult : result = -1
  · simp [hresult, UDPSocket.close, Socket.close, Kept, Matches]
  · simp [hresult, hbound, Kept, Matches]

/-- After the test of `isBound()` nothing is bound. -/
theorem udpCloseIfBound_unbinds (h : PortMatches o) : UDPSocket.closeIfBound.Always (fun _ => True) o fun r o' =>
    r = .returned () ∧ o'.bound = false ∧ o'.listeningPort = none := by
  simp only [UDPSocket.closeIfBound, Method.always_bind, Method.always_this, Method.onward_returned, Method.always_ite]
  constructor
  · intro _
    exact udpClose_unbinds
  · intro hbound
    have hfalse : o.bound = false := by simpa using hbound
    exact ⟨rfl, hfalse, h.stored_eq_none hfalse⟩

theorem udpStorePort_keeps (hbound : o.bound = true) (address : SocketAddress) (bindResult : ℤ) :
    (udpStorePort address bindResult).Always (fun _ => True) o PortKept := by
  rw [udpStorePort, Method.always_bind]
  refine (initialiseListeningPort_keeps hbound).mono (fun _ h => h) ?_
  rintro (u | e | _) o₁ ⟨hkept, hsome⟩
  · obtain ⟨port, hport⟩ := Option.isSome_iff_exists.1 (hsome u rfl)
    simp only [Method.onward_returned, Method.always_bind, Method.always_this, hport, Method.always_pure]
    exact ⟨hkept.1, by simp⟩
  · exact ⟨hkept.1, fun he => hkept.2 (by cases he; rfl)⟩
  · exact ⟨hkept.1, by simp⟩

theorem bindReceiveSocket_keeps (h : PortMatches o) (address : SocketAddress) (operation : Option Callback) :
    (UDPSocket.bindReceiveSocket address operation).Always (fun _ => True) o PortKept := by
  rw [bindReceiveSocket_eq, Method.always_bind]
  refine (udpCloseIfBound_unbinds h).mono (fun _ h => h) ?_
  rintro _ o₁ ⟨rfl, hbound, hport⟩
  have hmatches : PortMatches o₁ := matches_of_unbound hbound hport
  -- from the call of `bind` on: a bind that fails, or one that has to find the port
  have hbind : ∀ bindResult : ℤ, (if bindResult = -1 then pure (bindResult, SocketAddress.zero)
      else udpStorePort address bindResult : M UDPSocket (ℤ × SocketAddress)).Always (fun _ => True)
        { o₁ with bound := bindResult != -1 } PortKept := by
    intro bindResult
    rw [Method.always_ite]
    constructor
    · rintro rfl
      exact ⟨by simp [Matches, hport], by simp⟩
    · intro hresult
      exact udpStorePort_keeps (by simpa using hresult) address bindResult
  simp only [Method.onward_returned, bindStored, Method.always_bind (m := Method.this), Method.always_this,
    Method.always_bind (m := runOperation _ _), always_runOperation, Method.always_bind (m := sys _), always_sys,
    Method.always_bind (m := Method.modify _), Method.always_modify, true_and]
  exact ⟨fun _ => hbind, fun f _ => ⟨hbind, hmatches, by simp⟩⟩

theorem udpBind_keeps (h : PortMatches o) (addressOpt : Option SocketAddress) (operation : Option Callback) :
    (UDPSocket.bind addressOpt operation).Always (fun _ => True) o PortKept := by
  cases addressOpt with
  | none => exact ⟨h, by simp⟩
  | some address =>
    simp only [UDPSocket.bind, Method.always_bind, Method.always_this, Method.onward_returned, always_sys,
      Method.always_modify, Method.always_ite, true_and, isInvalidSocket_iff]
    intro fd
    constructor
    · intro _
      simpa [Kept, Matches] using h
    · intro _
      refine bindReceiveSocket_keeps ?_ address operation
      exact h

theorem udpBindHost_keeps (h : PortMatches o) (protocolVersion : InternetProtocolVersion) (localHostname : Option Bytes)
    (port : UInt16) (operation : Option Callback) :
    (UDPSocket.bindHost protocolVersion localHostname port operation).Always (fun _ => True) o PortKept := by
  simp only [UDPSocket.bindHost, resolveToAddresses, Method.always_bind, always_sys, Method.onward_returned, true_and]
  rintro ⟨code, addresses⟩
  by_cases hcode : code ≠ 0 ∨ addresses = []
  · simpa [hcode, Kept] using h
  · simp only [hcode, if_false, Method.always_pure, Method.onward_returned]
    exact udpBind_keeps h _ operation

/-- **Every call of a `UDPSocket`.** -/
theorem udpCall_keeps {dm : DataModel} (call : UDPCall dm) (h : PortMatches o) :
    call.perform.Always (fun _ => True) o PortKept := by
  cases call with
  | bind addressOpt operation => exact kept_discard (udpBind_keeps h _ _)
  | bindHost version host port operation => exact kept_discard (udpBindHost_keeps h _ _ _ _)
  | sendTo address message flags => exact kept_discard (kept_of_unchanged h (udpSend_unchanged o _ _ _ _))
  | sendBufferTo address buffer bufferLength flags =>
    exact kept_discard (kept_of_unchanged h (udpSend_unchanged o _ _ _ _))
  | sendToHost hostname port message flags version =>
    exact kept_discard (kept_of_unchanged h (udpSendToHost_unchanged o _ _ _ _ _ _))
  | sendBufferToHost hostname port buffer bufferLength flags version =>
    exact kept_discard (kept_of_unchanged h (udpSendToHost_unchanged o _ _ _ _ _ _))
  | receiveFrom receiveLength flags => exact kept_discard (kept_of_unchanged h (udpReceive_unchanged o _ _))
  | receiveFromInto buffer receiveLength flags =>
    exact kept_discard (kept_of_unchanged h (udpReceiveInto_unchanged o _ _ _))
  | ready timeout => exact kept_discard (kept_of_unchanged h (udpReady_unchanged dm o timeout))
  | setPreSendSocketOperation operation => exact ⟨h, by simp⟩
  | close =>
    refine udpClose_unbinds.mono (fun _ h => h) ?_
    rintro _ o' ⟨rfl, hbound, hport⟩
    exact ⟨matches_of_unbound hbound hport, by simp⟩

end UDP

/-! ## `DatagramIPCSocket` -/

/-- The flag agrees with the presence of the path. -/
abbrev PathMatches : DatagramIPCSocket → Prop := Matches DatagramIPCSocket.bound DatagramIPCSocket.socketPath

abbrev PathKept {α : Type} : Outcome Exn α → DatagramIPCSocket → Prop :=
  Kept DatagramIPCSocket.bound DatagramIPCSocket.socketPath

section Datagram

variable {o : DatagramIPCSocket}

theorem datagramClose_unbinds : DatagramIPCSocket.close.Always (fun _ => True) o fun r o' =>
    r = .returned () ∧ o'.bound = false ∧ o'.socketPath = none := by
  cases hpath : o.socketPath with
  | none => simp [DatagramIPCSocket.close, DatagramIPCSocket.removeBoundPath, Socket.close, hpath]
  | some path =>
    simp [DatagramIPCSocket.close, DatagramIPCSocket.removeBoundPath, Socket.close, IPCSocket.removeSocketPath, hpath]

theorem datagramCloseIfBound_unbinds (h : PathMatches o) :
    DatagramIPCSocket.closeIfBound.Always (fun _ => True) o fun r o' =>
      r = .returned () ∧ o'.bound = false ∧ o'.socketPath = none := by
  simp only [DatagramIPCSocket.closeIfBound, Method.always_bind, Method.always_this, Method.onward_returned,
    Method.always_ite]
  constructor
  · intro _
    exact datagramClose_unbinds
  · intro hbound
    have hfalse : o.bound = false := by simpa using hbound
    exact ⟨rfl, hfalse, h.stored_eq_none hfalse⟩

theorem datagramOpenAndBind_keeps (h : PathMatches o) (path : Bytes) (operation : Option Callback) :
    (DatagramIPCSocket.openAndBind path operation).Always (fun _ => True) o PathKept := by
  simp only [DatagramIPCSocket.openAndBind, Method.always_bind (m := sys _), Method.always_bind (m := Method.modify _),
    always_sys, Method.always_modify, Method.onward_returned, Method.always_ite, true_and, isInvalidSocket_iff]
  intro fd
  constructor
  · intro _
    simpa [Kept, Matches] using h
  · intro _
    rw [Method.always_bind]
    refine (datagramCloseIfBound_unbinds (o := { o with receiveSocket := fd }) h).mono (fun _ h => h) ?_
    rintro _ o₁ ⟨rfl, hbound, hpath⟩
    simp [Kept, Matches, hbound, hpath]

theorem datagramBind_keeps (h : PathMatches o) (override : Bool) (path : Option Bytes) (operation : Option Callback) :
    (DatagramIPCSocket.bindOverride override path operation).Always (fun _ => True) o PathKept := by
  cases path with
  | none => exact ⟨h, by simp⟩
  | some path =>
    have hbind := datagramOpenAndBind_keeps h (resizePath path) operation
    cases override
    · simpa [DatagramIPCSocket.bindOverride, DatagramIPCSocket.removeOnOverride] using hbind
    · simpa [DatagramIPCSocket.bindOverride, DatagramIPCSocket.removeOnOverride, IPCSocket.removeSocketPath] using hbind

/-- The path of a bound socket is there to be read. -/
theorem pathKept_of_reads {α : Type} {P : Sys → Prop} {m : M DatagramIPCSocket α} (h : PathMatches o)
    (hm : m.Always P o (ReadsPath o)) : m.Always P o PathKept := by
  refine hm.mono (fun _ h => h) ?_
  rintro r o' ⟨rfl, hr⟩
  refine ⟨h, fun he => ?_⟩
  obtain ⟨hbound, hnone⟩ := hr he
  have hsome := h.1 hbound
  rw [hnone] at hsome
  cases hsome

/-- **Every call of a `DatagramIPCSocket`.** -/
theorem datagramCall_keeps {dm : DataModel} (call : DatagramCall dm) (h : PathMatches o) :
    call.perform.Always (fun _ => True) o PathKept := by
  cases call with
  | bind path operation => exact kept_discard (datagramBind_keeps h false path operation)
  | bindOverride override path operation => exact kept_discard (datagramBind_keeps h override path operation)
  | sendTo path message flags => exact kept_discard (kept_of_unchanged h (datagramSend_unchanged o _ _ _ _))
  | sendBufferTo path buffer bufferLength flags =>
    exact kept_discard (kept_of_unchanged h (datagramSend_unchanged o _ _ _ _))
  | receiveFrom receiveLength flags => exact kept_discard (pathKept_of_reads h (datagramReceive_reads o _ _))
  | receiveFromInto buffer receiveLength flags =>
    exact kept_discard (pathKept_of_reads h (datagramReceiveInto_reads o _ _ _))
  | ready timeout => exact kept_discard (kept_of_unchanged h (datagramReady_unchanged dm o timeout))
  | setPreSendSocketOperation operation => exact ⟨h, by simp⟩
  | close =>
    refine datagramClose_unbinds.mono (fun _ h => h) ?_
    rintro _ o' ⟨rfl, hbound, hpath⟩
    exact ⟨matches_of_unbound hbound hpath, by simp⟩

end Datagram

/-! ## Every reachable state -/

/-- The states of a `UDPSocket` after any calls, copies and assignments. -/
abbrev UDPReachable (dm : DataModel) (o : UDPSocket) : Prop :=
  Reachable (@UDPCall.perform dm) UDPSocket.copy UDPSocket.assign {} o

/-- The states of a `DatagramIPCSocket`, likewise. -/
abbrev DatagramReachable (dm : DataModel) (o : DatagramIPCSocket) : Prop :=
  Reachable (@DatagramCall.perform dm) DatagramIPCSocket.copy DatagramIPCSocket.assign {} o

theorem UDPReachable.portMatches {dm : DataModel} {o : UDPSocket} (h : UDPReachable dm o) : PortMatches o := by
  refine Reachable.invariant h (matches_of_unbound rfl rfl) ?_ (fun o ho => ho) fun o source _ hsource => hsource
  intro call o ho
  exact (udpCall_keeps call ho).mono (fun _ h => h) fun _ _ hk => hk.1

theorem DatagramReachable.pathMatches {dm : DataModel} {o : DatagramIPCSocket} (h : DatagramReachable dm o) :
    PathMatches o := by
  refine Reachable.invariant h (matches_of_unbound rfl rfl) ?_ (fun o ho => ho) fun o source _ hsource => hsource
  intro call o ho
  exact (datagramCall_keeps call ho).mono (fun _ h => h) fun _ _ hk => hk.1

/-- **The flag and the stored address agree.** In every reachable state a `UDPSocket` is bound just if its port is
present, and a `DatagramIPCSocket` just if its path is; and no call from there reads an empty optional. -/
theorem bound_iff_stored (dm : DataModel) :
    (∀ o, UDPReachable dm o → (o.bound = true ↔ o.listeningPort.isSome = true) ∧
      ∀ (call : UDPCall dm) (σ : Type) (env : Env Sys Ans σ) s tr r o' s',
        call.perform.Runs env o s tr r o' s' → r ≠ .threw .badOptionalAccess) ∧
    ∀ o, DatagramReachable dm o → (o.bound = true ↔ o.socketPath.isSome = true) ∧
      ∀ (call : DatagramCall dm) (σ : Type) (env : Env Sys Ans σ) s tr r o' s',
        call.perform.Runs env o s tr r o' s' → r ≠ .threw .badOptionalAccess := by
  constructor
  · intro o ho
    refine ⟨ho.portMatches, fun call σ env s tr r o' s' hrun => ?_⟩
    exact ((udpCall_keeps call ho.portMatches).runs hrun).2.2
  · intro o ho
    refine ⟨ho.pathMatches, fun call σ env s tr r o' s' hrun => ?_⟩
    exact ((datagramCall_keeps call ho.pathMatches).runs hrun).2.2

end SocketLibrary.Binding
