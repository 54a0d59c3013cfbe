import SocketLibrary.Binding.Fields
import SocketLibrary.Interaction.Behaviour
import SocketLibrary.Model.TCPServerSocket
import SocketLibrary.Model.IPCSocket

/-!
# What a copy does

The copy constructors and assignments list the fields one by one. Those of `TCPSocket`, `TCPServerSocket`,
`StreamIPCSocket` and `IPCServerSocket` list them all, so that no method can tell a copy from its source. Those of
`UDPSocket` leave out `preSendSocketOperation`, which only `sendTo` reads: `copies_behave_iff`.
-/

namespace SocketLibrary.Copies

open SocketLibrary.Interaction SocketLibrary.Posix SocketLibrary.Model SocketLibrary.Binding SocketLibrary.Descriptors

/-! ## The operations of a `UDPSocket` -/

/-- The public methods. -/
inductive UDPOperation (dm : DataModel) where
  | call (c : UDPCall dm)
  | getListeningSocket
  | isBound
  | getInternetProtocolVersion
  | getListeningPort

namespace UDPOperation

variable {dm : DataModel}

/-- What a method returns. -/
@[reducible] def Result : UDPOperation dm → Type
  | call (.bind ..) | call (.bindHost ..) | call (.sendToHost ..) | call (.sendBufferToHost ..) => ℤ × SocketAddress
  | call (.sendTo ..) | call (.sendBufferTo ..) => ℤ
  | call (.receiveFrom ..) => Option Bytes × ℤ × SocketAddress
  | call (.receiveFromInto ..) => ℤ × SocketAddress × Bytes
  | call (.ready ..) | isBound => Bool
  | call (.setPreSendSocketOperation _) | call .close => Unit
  | getListeningSocket => SOCKET
  | getInternetProtocolVersion => InternetProtocolVersion
  | getListeningPort => Option UInt16

def perform : (op : UDPOperation dm) → M UDPSocket op.Result
  | call (.bind addressOpt operation) => UDPSocket.bind addressOpt operation
  | call (.bindHost protocolVersion localHostname port operation) =>
    UDPSocket.bindHost protocolVersion localHostname port operation
  | call (.sendTo address message flags) => UDPSocket.sendTo address message flags
  | call (.sendBufferTo address buffer bufferLength flags) => UDPSocket.sendBufferTo address buffer bufferLength flags
  | call (.sendToHost hostname port message flags protocolVersion) =>
    UDPSocket.sendToHost hostname port message flags protocolVersion
  | call (.sendBufferToHost hostname port buffer bufferLength flags protocolVersion) =>
    UDPSocket.sendBufferToHost hostname port buffer bufferLength flags protocolVersion
  | call (.receiveFrom receiveLength flags) => UDPSocket.receiveFrom receiveLength flags
  | call (.receiveFromInto buffer receiveLength flags) => UDPSocket.receiveFromInto buffer receiveLength flags
  | call (.ready timeout) => UDPSocket.ready dm timeout
  | call (.setPreSendSocketOperation operation) => UDPSocket.setPreSendSocketOperation operation
  | call .close => UDPSocket.close
  | getListeningSocket => UDPSocket.getListeningSocket
  | isBound => UDPSocket.isBound
  | getInternetProtocolVersion => UDPSocket.getInternetProtocolVersion
  | getListeningPort => UDPSocket.getListeningPort

/-- The method is a `sendTo`. -/
def Sends : UDPOperation dm → Prop
  | call c => c.kind = .send
  | _ => False

end UDPOperation

/-! ## The methods that do not read the operation -/

/-- Another operation to run before sending. -/
def withPreSend (x : Option Callback) (o : UDPSocket) : UDPSocket := { o with preSendSocketOperation := x }

section Ignoring

variable {x : Option Callback}

theorem ignores_getErrorCode {S : Type} {f : S → S} : Method.Ignores f getErrorCode :=
  .bind (.call _) fun _ => .call _

theorem ignores_runOperation {S : Type} {f : S → S} (operation : Option Callback) (socket : SOCKET) :
    Method.Ignores f (runOperation operation socket) := by
  cases operation with
  | none => exact .pure _
  | some g =>
    refine .bind (.call _) fun ending => ?_
    cases ending with
    | returned => exact .pure _
    | threw => exact .throw _

theorem close_ignores : Method.Ignores (withPreSend x) UDPSocket.close := by
  refine .this_bind (fun _ => rfl) fun this => .bind (.call _) fun _ => ?_
  exact .modify fun _ => rfl

theorem initialiseListeningPortNumber_ignores :
    Method.Ignores (withPreSend x) UDPSocket.initialiseListeningPortNumber := by
  refine .this_bind (fun _ => rfl) fun this => ?_
  refine .bind (.bind (.call _) fun _ => .pure _) fun told => ?_
  obtain ⟨address, result⟩ := told
  cases address with
  | none => exact .ite (.bind close_ignores fun _ => .bind ignores_getErrorCode fun _ => .throw _) (.throw _)
  | some address => exact .modify fun _ => rfl

theorem bindReceiveSocket_ignores (address : SocketAddress) (operation : Option Callback) :
    Method.Ignores (withPreSend x) (UDPSocket.bindReceiveSocket address operation) := by
  have hclose : Method.Ignores (withPreSend x) UDPSocket.closeIfBound :=
    .this_bind (fun _ => rfl) fun this => .ite close_ignores (.pure _)
  refine .bind hclose fun _ => .this_bind (fun _ => rfl) fun this => ?_
  refine .bind (ignores_runOperation _ _) fun _ => .bind (.call _) fun bindResult => ?_
  refine .bind (.modify fun _ => rfl) fun _ => .ite (.pure _) ?_
  refine .bind initialiseListeningPortNumber_ignores fun _ => .this_bind (fun _ => rfl) fun this => ?_
  cases this.listeningPort with
  | none => exact .throw _
  | some port => exact .pure _

theorem bind_ignores (addressOpt : Option SocketAddress) (operation : Option Callback) :
    Method.Ignores (withPreSend x) (UDPSocket.bind addressOpt operation) := by
  cases addressOpt with
  | none => exact .throw _
  | some address =>
    refine .this_bind (fun _ => rfl) fun this => .bind (.call _) fun fd => .bind (.modify fun _ => rfl) fun _ => ?_
    exact .ite (.bind ignores_getErrorCode fun _ => .throw _) (bindReceiveSocket_ignores address operation)

theorem bindHost_ignores (protocolVersion : InternetProtocolVersion) (localHostname : Option Bytes) (port : UInt16)
    (operation : Option Callback) :
    Method.Ignores (withPreSend x) (UDPSocket.bindHost protocolVersion localHostname port operation) := by
  refine .bind (.bind (.call _) fun answer => ?_) fun resolved => ?_
  · exact .ite (.pure _) (.pure _)
  · exact .ite (.throw _) (bind_ignores _ _)

theorem ready_ignores (dm : DataModel) (timeout : ULong dm) :
    Method.Ignores (withPreSend x) (UDPSocket.ready dm timeout) := by
  have hpoll : ∀ socket time, Method.Ignores (withPreSend x) (UDPSocket.pollSocket socket time) :=
    fun socket time => .ite (.pure _) (.ite (.pure _) (.call _))
  refine .this_bind (fun _ => rfl) fun this => .ite (.bind (hpoll _ _) fun _ => .pure _) (.pure _)

theorem receiveFromInto_ignores (buffer : Bytes) (receiveLength flags : ℤ) :
    Method.Ignores (withPreSend x) (UDPSocket.receiveFromInto buffer receiveLength flags) :=
  .this_bind (fun _ => rfl) fun _ => .ite (.pure _) (.bind (.call _) fun _ => .pure _)

theorem receiveFrom_ignores (receiveLength flags : ℤ) :
    Method.Ignores (withPreSend x) (UDPSocket.receiveFrom receiveLength flags) :=
  .ite (.throw _) (.bind (receiveFromInto_ignores _ _ _) fun _ => .pure _)

/-- **Only `sendTo` reads the operation.** -/
theorem same_of_not_sends {dm : DataModel} (op : UDPOperation dm) (h : ¬ op.Sends) (o : UDPSocket) :
    Method.SameBehaviour op.perform o (withPreSend x o) := by
  have hread : ∀ {α : Type} (get : UDPSocket → α), (∀ o, get (withPreSend x o) = get o) →
      Method.Ignores (withPreSend x) (do
        let this ← Method.this
        return get this : M UDPSocket α) := by
    intro α get hget
    refine .this_bind (fun o => ?_) fun this => .pure _
    rw [hget]
  cases op with
  | call c =>
    cases c with
    | bind addressOpt operation => exact (bind_ignores addressOpt operation).sameBehaviour o
    | bindHost version host port operation => exact (bindHost_ignores version host port operation).sameBehaviour o
    | receiveFrom receiveLength flags => exact (receiveFrom_ignores receiveLength flags).sameBehaviour o
    | receiveFromInto buffer receiveLength flags =>
      exact (receiveFromInto_ignores buffer receiveLength flags).sameBehaviour o
    | ready timeout => exact (ready_ignores dm timeout).sameBehaviour o
    | close => exact close_ignores.sameBehaviour o
    | setPreSendSocketOperation operation =>
      -- the operation is overwritten, on both objects
      intro σ env s tr r s'
      exact Iff.rfl
    | sendTo address message flags => exact absurd rfl h
    | sendBufferTo address buffer bufferLength flags => exact absurd rfl h
    | sendToHost hostname port message flags version => exact absurd rfl h
    | sendBufferToHost hostname port buffer bufferLength flags version => exact absurd rfl h
  | getListeningSocket => exact (hread UDPSocket.receiveSocket fun _ => rfl).sameBehaviour o
  | isBound => exact (hread UDPSocket.bound fun _ => rfl).sameBehaviour o
  | getInternetProtocolVersion => exact (hread UDPSocket.protocolVersion fun _ => rfl).sameBehaviour o
  | getListeningPort => exact (hread UDPSocket.listeningPort fun _ => rfl).sameBehaviour o

end Ignoring

/-! ## The methods that do -/

section Sending

/-- An environment that can answer anything. -/
def anything : Env Sys Ans Unit := fun _ _ _ _ => True

/-- The call runs an operation other than `operation`. -/
def RunsOther (operation : Option Callback) : Sys → Prop
  | .callback f _ => operation ≠ some f
  | _ => False

/-- The operation `f` of the user is run. -/
def RunsCallback (f : Callback) : Event Sys Ans Unit → Prop
  | ⟨_, .callback g _, _⟩ => g = f
  | _ => False

variable {o : UDPSocket}

/-- `sendTo` runs no operation but the one of the object. -/
theorem sendBufferTo_runs_own (address : SocketAddress) (buffer : Bytes) (bufferLength flags : ℤ) :
    (UDPSocket.sendBufferTo address buffer bufferLength flags).Always
      (fun c => ¬ RunsOther o.preSendSocketOperation c) o fun _ _ => True := by
  simp [UDPSocket.sendBufferTo, Socket.close, RunsOther]

theorem sendBufferToHost_runs_own (hostname : Bytes) (port : UInt16) (buffer : Bytes) (bufferLength flags : ℤ)
    (protocolVersion : InternetProtocolVersion) :
    (UDPSocket.sendBufferToHost hostname port buffer bufferLength flags protocolVersion).Always
      (fun c => ¬ RunsOther o.preSendSocketOperation c) o fun _ _ => True := by
  have hsend : ∀ address, (do
      let result ← UDPSocket.sendBufferTo address buffer bufferLength flags
      return (result, address) : M UDPSocket (ℤ × SocketAddress)).Always
        (fun c => ¬ RunsOther o.preSendSocketOperation c) o fun _ _ => True :=
    fun address => (sendBufferTo_runs_own address buffer bufferLength flags).wrap fun _ _ _ => trivial
  simp only [UDPSocket.sendBufferToHost, resolveToAddresses, Method.always_bind, always_sys, Method.onward_returned]
  refine ⟨id, ?_⟩
  rintro ⟨code, addresses⟩
  by_cases h : code ≠ 0 ∨ addresses = []
  · simp [h]
  · simp only [h, if_false, Method.always_pure, Method.onward_returned, Method.always_ite]
    exact ⟨fun _ => trivial, fun _ => hsend _⟩

/-- And it runs it, where a descriptor is opened. -/
theorem sendBufferTo_runs {f : Callback} (hf : o.preSendSocketOperation = some f) (address : SocketAddress)
    (buffer : Bytes) (bufferLength flags : ℤ) :
    ∃ tr r o' u, (UDPSocket.sendBufferTo address buffer bufferLength flags).Runs anything o () tr r o' u ∧
      ∃ e ∈ tr, RunsCallback f e := by
  rw [Method.exists_run_iff]
  simp only [UDPSocket.sendBufferTo, Method.wp_bind, wp_sys, Method.after_returned, Method.wp_ite, isInvalidSocket_iff]
  intro hnever
  have hopened := (hnever 3 () trivial).2 (show ¬ (3 : ℤ) = -1 by decide)
  simp only [Method.wp_this, Method.after_returned, hf, runOperation, Method.wp_bind, wp_sys] at hopened
  exact hopened .threw () trivial ⟨_, List.mem_cons_of_mem _ List.mem_cons_self, rfl⟩

theorem sendBufferToHost_runs {f : Callback} (hf : o.preSendSocketOperation = some f) (hostname : Bytes) (port : UInt16)
    (buffer : Bytes) (bufferLength flags : ℤ) (protocolVersion : InternetProtocolVersion) :
    ∃ tr r o' u, (UDPSocket.sendBufferToHost hostname port buffer bufferLength flags protocolVersion).Runs anything o ()
      tr r o' u ∧ ∃ e ∈ tr, RunsCallback f e := by
  rw [Method.exists_run_iff]
  simp only [UDPSocket.sendBufferToHost, resolveToAddresses, Method.wp_bind, wp_sys, Method.after_returned]
  intro hnever
  -- the name is resolved to one address
  have hresolved := hnever (0, [.zero]) () trivial
  obtain ⟨tr, r, o', u, hr, e, he, hcallback⟩ := sendBufferTo_runs hf .zero buffer bufferLength flags
  simp only [ne_eq, not_true_eq_false, List.cons_ne_self, or_self, if_false, Method.wp_pure, Method.after_returned,
    Method.wp_bind] at hresolved
  have hafter := hr.post hresolved
  cases r with
  | returned result =>
    rw [Method.after_returned, Method.wp_pure] at hafter
    exact hafter ⟨e, List.mem_append_right _ (List.mem_append_left _ he), hcallback⟩
  | threw ending => exact hafter ⟨e, List.mem_append_right _ he, hcallback⟩
  | running => exact hafter ⟨e, List.mem_append_right _ he, hcallback⟩

/-- The method may run the operation of the object, and runs no other. -/
structure RunsOwn {α : Type} (m : M UDPSocket α) : Prop where
  own : ∀ o, m.Always (fun c => ¬ RunsOther o.preSendSocketOperation c) o fun _ _ => True
  runs : ∀ o f, o.preSendSocketOperation = some f →
    ∃ tr r o' u, m.Runs anything o () tr r o' u ∧ ∃ e ∈ tr, RunsCallback f e

theorem RunsOwn.operation_of_same {α : Type} {m : M UDPSocket α} (hm : RunsOwn m) {o o' : UDPSocket}
    (h : Method.SameBehaviour m o o') (f : Callback) (hf : o.preSendSocketOperation = some f) :
    o'.preSendSocketOperation = some f := by
  obtain ⟨tr, r, o₁, u, hr, e, he, hcallback⟩ := hm.runs o f hf
  obtain ⟨o₂, hr'⟩ := (h Unit anything () tr r u).1 ⟨o₁, hr⟩
  have hcall := ((hm.own o').runs hr').1 e he
  obtain ⟨pre, c, x⟩ := e
  cases c with
  | callback g fd =>
    obtain rfl : g = f := hcallback
    exact not_not.1 hcall
  | _ => exact absurd hcallback id

/-- Two objects that behave the same under such a method have the same operation. -/
theorem RunsOwn.operation_eq {α : Type} {m : M UDPSocket α} (hm : RunsOwn m) {o o' : UDPSocket}
    (h : Method.SameBehaviour m o o') : o.preSendSocketOperation = o'.preSendSocketOperation := by
  ext f
  exact ⟨hm.operation_of_same h f, hm.operation_of_same h.symm f⟩

/-- **`sendTo` reads the operation.** -/
theorem runsOwn_of_sends {dm : DataModel} (op : UDPOperation dm) (h : op.Sends) : RunsOwn op.perform := by
  cases op with
  | call c =>
    cases c with
    | sendTo address message flags =>
      exact ⟨fun o => sendBufferTo_runs_own _ _ _ _, fun o f hf => sendBufferTo_runs hf _ _ _ _⟩
    | sendBufferTo address buffer bufferLength flags =>
      exact ⟨fun o => sendBufferTo_runs_own _ _ _ _, fun o f hf => sendBufferTo_runs hf _ _ _ _⟩
    | sendToHost hostname port message flags version =>
      exact ⟨fun o => sendBufferToHost_runs_own _ _ _ _ _ _, fun o f hf => sendBufferToHost_runs hf _ _ _ _ _ _⟩
    | sendBufferToHost hostname port buffer bufferLength flags version =>
      exact ⟨fun o => sendBufferToHost_runs_own _ _ _ _ _ _, fun o f hf => sendBufferToHost_runs hf _ _ _ _ _ _⟩
    | _ => exact absurd h (by simp [UDPOperation.Sends, UDPCall.kind])
  | _ => exact absurd h id

end Sending

/-! ## Copies and assignments -/

/-- With another operation, an object behaves the same just if the method is no `sendTo`, or the operation is the same
after all. -/
theorem same_withPreSend_iff {dm : DataModel} (op : UDPOperation dm) (o : UDPSocket) (x : Option Callback) :
    Method.SameBehaviour op.perform o (withPreSend x o) ↔ (op.Sends → o.preSendSocketOperation = x) := by
  constructor
  · intro h hsends
    exact (runsOwn_of_sends op hsends).operation_eq h
  · intro h
    by_cases hsends : op.Sends
    · obtain rfl := h hsends
      exact Method.SameBehaviour.refl op.perform o
    · exact same_of_not_sends op hsends o

section Copying

variable {S : Type} (copy : S → S) (assign : S → M S Unit)

/-- Neither a copy of the source nor any object it has been assigned to can be told from it by a method; and the
assignment itself makes no call. -/
def Indistinguishable : Prop := ∀ (source : S) {α : Type} (m : M S α),
  Method.SameBehaviour m source (copy source) ∧ ∀ target, (assign source).Always (fun _ => False) target fun r o' =>
    r = .returned () ∧ Method.SameBehaviour m source o'

variable {copy assign}

/-- It is so where both carry over the whole object. -/
theorem indistinguishable_of_eq (hcopy : ∀ source, copy source = source)
    (hassign : ∀ source, assign source = Method.modify fun _ => source) : Indistinguishable copy assign := by
  intro source α m
  rw [hcopy, hassign]
  exact ⟨.refl m source, fun target => ⟨rfl, .refl m source⟩⟩

end Copying

/-- **Copies.** A `UDPSocket` that is copied or assigned behaves under a method as its source does, just if the method is
no `sendTo`, or the source has no operation (for a copy) or the same one as the object it is assigned to. Copies and
assignments of the other classes behave as their source under every method. -/
theorem copies_behave_iff (dm : DataModel) :
    (∀ (source : UDPSocket) (op : UDPOperation dm),
      (Method.SameBehaviour op.perform source (UDPSocket.copy source) ↔
        (op.Sends → source.preSendSocketOperation = none)) ∧
      ∀ target : UDPSocket, (UDPSocket.assign source).Always (fun _ => False) target fun r o' => r = .returned () ∧
        (Method.SameBehaviour op.perform source o' ↔
          (op.Sends → source.preSendSocketOperation = target.preSendSocketOperation))) ∧
    Indistinguishable TCPSocket.copy TCPSocket.assign ∧
    Indistinguishable TCPServerSocket.copy TCPServerSocket.assign ∧
    Indistinguishable StreamIPCSocket.copy StreamIPCSocket.assign ∧
    Indistinguishable IPCServerSocket.copy IPCServerSocket.assign := by
  refine ⟨fun source op => ⟨same_withPreSend_iff op source none, fun target => ⟨rfl, ?_⟩⟩, ?_, ?_, ?_, ?_⟩
  · exact same_withPreSend_iff op source target.preSendSocketOperation
  · exact indistinguishable_of_eq (fun _ => rfl) fun _ => rfl
  · exact indistinguishable_of_eq (fun _ => rfl) fun _ => rfl
  · exact indistinguishable_of_eq (fun _ => rfl) fun _ => rfl
  · exact indistinguishable_of_eq (fun _ => rfl) fun _ => rfl

section Examples

/-- A `UDPSocket` with an operation to run before sending: a copy sends without it. -/
theorem copy_forgets : ¬ ∀ (source : UDPSocket) (op : UDPOperation .lp64), UDPReachable .lp64 source →
    Method.SameBehaviour op.perform source (UDPSocket.copy source) := by
  intro h
  have hreachable : UDPReachable .lp64 { preSendSocketOperation := some 7 } :=
    .call .new (Kernel.execute_runs (fun _ => false) 3 (@UDPCall.perform .lp64 (.setPreSendSocketOperation 7)) {}
      (.boot []))
  have hsame := h _ (.call (.sendTo .zero [104, 105] 0)) hreachable
  have hoperation := (runsOwn_of_sends (.call (.sendTo .zero [104, 105] 0)) rfl).operation_eq hsame
  cases hoperation

end Examples

end SocketLibrary.Copies
