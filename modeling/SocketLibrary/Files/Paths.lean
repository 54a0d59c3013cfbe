import SocketLibrary.Descriptors.Leaks
import SocketLibrary.Files.ServerConstruction
import SocketLibrary.Steps.Datagrams

/-!
# The names that calls mean

Four operations turn a path string into a `sun_path`, each with its own copy of the code, and the files at the paths are
removed by their C strings. None of them means anything but the name of its path, whatever is answered
(`PathOperation.perform_means`, `perform_means`).
-/

namespace SocketLibrary.Files

open SocketLibrary.Interaction SocketLibrary.Posix SocketLibrary.Model SocketLibrary.Steps SocketLibrary.Descriptors

/-! ## The bytes of `sun_path` -/

/-- The `sun_path` of a path string. -/
def sunPath (p : Bytes) : Bytes := strncpy (resizePath p) sunPathSize

theorem resizePath_eq_take (p : Bytes) : resizePath p = p.take sunPathSize := by
  unfold resizePath
  split_ifs with h
  · rfl
  · exact (List.take_of_length_le (by omega)).symm

/-- A path that has been cut is not cut again. -/
@[simp] theorem resizePath_resizePath (p : Bytes) : resizePath (resizePath p) = resizePath p := by
  rw [resizePath_eq_take, resizePath_eq_take, List.take_take, Nat.min_self]

@[simp] theorem sunPath_resizePath (p : Bytes) : sunPath (resizePath p) = sunPath p := by
  unfold sunPath
  rw [resizePath_resizePath]

theorem length_c_str_le (s : Bytes) : (c_str s).length ≤ s.length := (List.takeWhile_prefix _).length_le

theorem length_sunPath (p : Bytes) : (sunPath p).length = sunPathSize := by
  have h : (c_str (resizePath p)).length ≤ sunPathSize := (length_c_str_le _).trans (length_resizePath p)
  unfold sunPath strncpy
  rw [List.length_append, List.length_take, List.length_replicate]
  omega

/-- The name held in `sun_path` is the C string of the path after the cut. -/
theorem c_str_sunPath (p : Bytes) : c_str (sunPath p) = c_str (resizePath p) :=
  fileName_pathAddress (length_resizePath p)

/-! ## The calls that carry a path -/

/-- A call that means the path `path`, if there is one: a socket address it is given has the `sun_path` of that path,
and a file name it is given is one of `names`. -/
def Means (path : Option Bytes) (names : Set Bytes) (c : Sys) : Prop :=
  (∀ address, addressOf c = some address → ∃ p, path = some p ∧ address = .un (sunPath p)) ∧
    ∀ name, removedName c = some name → name ∈ names

theorem Quiet.means {path : Option Bytes} {names : Set Bytes} {c : Sys} (h : Quiet c) : Means path names c := by
  obtain ⟨ha, hn⟩ := h
  refine ⟨fun address h => ?_, fun name h => ?_⟩
  · rw [ha] at h
    cases h
  · rw [hn] at h
    cases h

theorem pathAddress_resizePath (p : Bytes) : pathAddress (resizePath p) = .un (sunPath p) := rfl

/-! ## The writers -/

/-- The operations that are given a path. -/
inductive PathOperation where
  | ipcServerSocket (override : Bool) (connectionBacklogSize : UInt32) (preBindSocketOperation : Option Callback)
  | streamIPCSocket
  | datagramBind (override : Bool) (preBindSocketOperation : Option Callback)
  | datagramSendTo (message : Bytes) (flags : ℤ)
  | datagramSendBufferTo (buffer : Bytes) (bufferLength flags : ℤ)

namespace PathOperation

/-- The class of the object the operation is called on, or constructs. -/
def Obj : PathOperation → Type
  | ipcServerSocket .. => IPCServerSocket
  | streamIPCSocket => StreamIPCSocket
  | datagramBind .. | datagramSendTo .. | datagramSendBufferTo .. => DatagramIPCSocket

/-- Perform the operation on the path; the result is the path that is reported, by `getSocketPath()` of what has been
constructed, or by a `bind` that succeeds. -/
def perform (path : Bytes) : (op : PathOperation) → M op.Obj (Option Bytes)
  | ipcServerSocket override connectionBacklogSize preBindSocketOperation => do
    IPCServerSocket.construct path override connectionBacklogSize preBindSocketOperation
    let this ← Method.this
    return some this.socketPath
  | streamIPCSocket => do
    StreamIPCSocket.construct path
    let this ← Method.this
    return some this.socketPath
  | datagramBind override preBindSocketOperation => do
    let (bindResult, boundPath) ← DatagramIPCSocket.bindOverride override (some path) preBindSocketOperation
    return if bindResult = -1 then none else some boundPath
  | datagramSendTo message flags => do
    let _ ← DatagramIPCSocket.sendTo path message flags
    return none
  | datagramSendBufferTo buffer bufferLength flags => do
    let _ ← DatagramIPCSocket.sendBufferTo path buffer bufferLength flags
    return none

end PathOperation

/-! ### `IPCServerSocket` and `StreamIPCSocket` -/

section Server

variable {α β : Type} {p : Bytes}

/-- On a server whose path is that of `p`, whatever is answered: the method means `p` and keeps the path. -/
def ServerMeans (p : Bytes) (m : M IPCServerSocket α) : Prop := ∀ o : IPCServerSocket, o.socketPath = resizePath p →
  m.Always (Means (some p) {c_str (sunPath p)}) o fun _ o' => o'.socketPath = resizePath p

theorem ServerMeans.seq {m : M IPCServerSocket α} {f : α → M IPCServerSocket β} (hm : ServerMeans p m)
    (hf : ∀ a, ServerMeans p (f a)) : ServerMeans p (m >>= f) :=
  fun o ho => Method.Always.seq (I := fun o' : IPCServerSocket => o'.socketPath = resizePath p) (hm o ho) hf

theorem this_means : ServerMeans p (Method.this : M IPCServerSocket IPCServerSocket) := fun _ ho => ho

theorem serverClose_means : ServerMeans p IPCServerSocket.close := by
  intro o ho
  simp [IPCServerSocket.close, Socket.close, IPCSocket.removeSocketPath, Means, addressOf, removedName, c_str_sunPath, ho]

theorem runOperation_means (operation : Option Callback) (fd : SOCKET) :
    ServerMeans p (runOperation operation fd) := by
  intro o ho
  simp [Means, addressOf, removedName, ho]

/-- A step that fails: `close()`, and the exception. -/
theorem closeAndThrow_means (what : Bytes → Exn) : ServerMeans p (do
    IPCServerSocket.close
    let code ← getErrorCode
    Method.throw (what code) : M IPCServerSocket Unit) := by
  refine serverClose_means.seq fun _ o ho => ?_
  simp [Means, addressOf, removedName, ho]

theorem removeOnOverride_means (override : Bool) : ServerMeans p (IPCServerSocket.removeOnOverride override) := by
  intro o ho
  cases override
  · simp [IPCServerSocket.removeOnOverride, ho]
  · simp [IPCServerSocket.removeOnOverride, IPCSocket.removeSocketPath, Means, addressOf, removedName, c_str_sunPath, ho]

theorem openSocket_means : ServerMeans p IPCServerSocket.openSocket := by
  intro o ho
  simp [IPCServerSocket.openSocket, Means, addressOf, removedName, ho]

theorem bindPath_means : ServerMeans p IPCServerSocket.bindPath := by
  intro o ho
  unfold IPCServerSocket.bindPath
  simp only [Method.always_bind (m := Method.this), Method.always_bind (m := sys _), Method.always_this,
    Method.onward_returned, always_sys, ho, pathAddress_resizePath]
  refine ⟨by simp [Means, addressOf, removedName], fun result => ?_⟩
  rw [Method.always_ite]
  exact ⟨fun _ => closeAndThrow_means _ o ho, fun _ => ho⟩

theorem startListening_means (connectionBacklogSize : UInt32) :
    ServerMeans p (IPCServerSocket.startListening connectionBacklogSize) := by
  intro o ho
  unfold IPCServerSocket.startListening
  simp only [Method.always_bind (m := Method.this), Method.always_bind (m := sys _), Method.always_this,
    Method.onward_returned, always_sys]
  refine ⟨by simp [Means, addressOf, removedName], fun result => ?_⟩
  rw [Method.always_ite]
  exact ⟨fun _ => closeAndThrow_means _ o ho, fun _ => ho⟩

/-- The construction, from memory with any contents. -/
theorem serverConstruct_means (override : Bool) (connectionBacklogSize : UInt32)
    (preBindSocketOperation : Option Callback) (o : IPCServerSocket) :
    (IPCServerSocket.construct p override connectionBacklogSize preBindSocketOperation).Always
      (Means (some p) {c_str (sunPath p)}) o fun _ o' => o'.socketPath = resizePath p := by
  have hbind : ServerMeans p (IPCServerSocket.openAndBind preBindSocketOperation) :=
    openSocket_means.seq fun _ => this_means.seq fun _ => (runOperation_means _ _).seq fun _ => bindPath_means
  have hsteps := (removeOnOverride_means (p := p) override).seq fun _ =>
    hbind.seq fun _ => startListening_means connectionBacklogSize
  unfold IPCServerSocket.construct IPCServerSocket.constructSocket
  rw [Method.always_bind, Method.always_modify, Method.onward_returned, Method.always_bind, Method.always_modify,
    Method.onward_returned]
  exact hsteps _ rfl

theorem streamConstruct_means (o : StreamIPCSocket) : (StreamIPCSocket.construct p).Always (Means (some p) ∅) o
    fun _ o' => o'.socketPath = resizePath p := by
  simp [StreamIPCSocket.construct, StreamIPCSocket.constructSocket, pathAddress_resizePath, Means, addressOf, removedName]

/-- The calls of a server that has been constructed. -/
inductive ServerCall where
  | accept (timeout : ℤ)
  | close

def ServerCall.perform : ServerCall → M IPCServerSocket Unit
  | .accept timeout => do let _ ← IPCServerSocket.accept timeout
  | .close => IPCServerSocket.close

theorem ServerCall.perform_means (call : ServerCall) : ServerMeans p call.perform := by
  cases call with
  | accept timeout =>
    intro o ho
    simp [perform, IPCServerSocket.accept, IPCServerSocket.awaitConnection, Socket.pollSocket, Means, addressOf,
      removedName, ho]
  | close => exact serverClose_means

end Server

/-! ### `DatagramIPCSocket` -/

section Datagram

variable {p : Bytes} {path : Option Bytes} {names : Set Bytes} {o : DatagramIPCSocket}

theorem datagramClose_means (ho : ∀ q, o.socketPath = some q → c_str q ∈ names) :
    DatagramIPCSocket.close.Always (Means path names) o fun r o' => r = .returned () ∧ o'.socketPath = none := by
  cases hpath : o.socketPath with
  | none =>
    simp [DatagramIPCSocket.close, DatagramIPCSocket.removeBoundPath, Socket.close, Means, addressOf, removedName, hpath]
  | some q =>
    have hq := ho q hpath
    simp [DatagramIPCSocket.close, DatagramIPCSocket.removeBoundPath, Socket.close, IPCSocket.removeSocketPath, Means,
      addressOf, removedName, hpath, hq]

/-- What a `bind` to the path of `p` reports is this path, and it stores no other. -/
def BindReports (p : Bytes) (o : DatagramIPCSocket) (r : Outcome Exn (ℤ × Bytes)) (o' : DatagramIPCSocket) : Prop :=
  (∀ bindResult q, r = .returned (bindResult, q) → bindResult ≠ -1 → q = resizePath p ∧ o'.socketPath = some q) ∧
    ∀ q, o'.socketPath = some q → o.socketPath = some q ∨ q = resizePath p

theorem datagramCloseIfBound_means (ho : ∀ q, o.socketPath = some q → c_str q ∈ names) :
    DatagramIPCSocket.closeIfBound.Always (Means path names) o fun r o' =>
      r = .returned () ∧ ∀ q, o'.socketPath = some q → o.socketPath = some q := by
  unfold DatagramIPCSocket.closeIfBound
  rw [Method.always_bind, Method.always_this, Method.onward_returned, Method.always_ite]
  constructor
  · intro _
    refine (datagramClose_means ho).mono (fun _ h => h) ?_
    rintro r o' ⟨rfl, hnone⟩
    simp [hnone]
  · intro _
    simp

theorem datagramOpenAndBind_means (ho : ∀ q, o.socketPath = some q → c_str q ∈ names)
    (preBindSocketOperation : Option Callback) :
    (DatagramIPCSocket.openAndBind (resizePath p) preBindSocketOperation).Always (Means (some p) names) o
      (BindReports p o) := by
  unfold DatagramIPCSocket.openAndBind
  rw [Method.always_bind, always_sys]
  refine ⟨by simp [Means, addressOf, removedName], fun fd => ?_⟩
  rw [Method.onward_returned, Method.always_bind, Method.always_modify, Method.onward_returned, Method.always_ite]
  constructor
  · intro _
    simp +contextual [Means, addressOf, removedName, BindReports]
  · intro _
    rw [Method.always_bind]
    refine (datagramCloseIfBound_means (o := { o with receiveSocket := fd }) ho).mono (fun _ h => h) ?_
    rintro r o₁ ⟨rfl, ho₁⟩
    have hold : ∀ q, o₁.socketPath = some q → o.socketPath = some q ∨ q = resizePath p := fun q hq => Or.inl (ho₁ q hq)
    simp +contextual [Means, addressOf, removedName, pathAddress_resizePath, BindReports, hold]

/-- The stored path has been cut. -/
def Cut (o : DatagramIPCSocket) : Prop := ∀ q, o.socketPath = some q → resizePath q = q

theorem Cut.c_str_eq (h : Cut o) {q : Bytes} (hq : o.socketPath = some q) : c_str q = c_str (sunPath q) := by
  rw [c_str_sunPath, h q hq]

/-- The names that may be removed where the path `overridden` is: its own, and that of the stored path. -/
def removable (overridden : Option Bytes) (o : DatagramIPCSocket) : Set Bytes :=
  {name | ∃ q, (overridden = some q ∨ o.socketPath = some q) ∧ name = c_str (sunPath q)}

theorem Cut.stored_removable (h : Cut o) (overridden : Option Bytes) (q : Bytes) (hq : o.socketPath = some q) :
    c_str q ∈ removable overridden o :=
  ⟨q, Or.inr hq, h.c_str_eq hq⟩

theorem datagramBind_means (override : Bool) (preBindSocketOperation : Option Callback)
    (ho : ∀ q, o.socketPath = some q → c_str q ∈ names) (hp : override = true → c_str (sunPath p) ∈ names) :
    (DatagramIPCSocket.bindOverride override (some p) preBindSocketOperation).Always (Means (some p) names) o
      (BindReports p o) := by
  have hbind := datagramOpenAndBind_means (p := p) ho preBindSocketOperation
  unfold DatagramIPCSocket.bindOverride
  rw [Method.always_bind]
  cases override with
  | false => exact hbind
  | true =>
    have hname : c_str (resizePath p) ∈ names := by
      rw [← c_str_sunPath]
      exact hp rfl
    simp only [DatagramIPCSocket.removeOnOverride, IPCSocket.removeSocketPath, if_true, Method.always_bind, always_sys,
      Method.onward_returned, Method.always_pure]
    exact ⟨by simp [Means, addressOf, removedName, hname], fun _ => hbind⟩

theorem datagramSend_means (buffer : Bytes) (bufferLength flags : ℤ) :
    (DatagramIPCSocket.sendBufferTo p buffer bufferLength flags).Always (Means (some p) names) o fun _ o' => o' = o := by
  refine (datagramSend_unchanged o p buffer bufferLength flags).mono ?_ fun _ _ h => h.1
  rintro c ⟨haddress, hname⟩
  refine ⟨fun address h => ?_, fun name h => ?_⟩
  · rcases haddress with hnone | hsome
    · rw [hnone] at h
      cases h
    · rw [hsome] at h
      exact ⟨p, rfl, (Option.some.inj h).symm⟩
  · rw [hname] at h
    cases h

end Datagram

/-! ## Sequences of calls -/

section Calls

variable {dm : DataModel}

/-- The path a call is given. -/
def pathOf : DatagramCall dm → Option Bytes
  | .bind socketPath _ | .bindOverride _ socketPath _ => socketPath
  | .sendTo path .. | .sendBufferTo path .. => some path
  | _ => none

/-- The path whose file a call is to remove. -/
def overridden : DatagramCall dm → Option Bytes
  | .bindOverride true socketPath _ => socketPath
  | _ => none

/-- What a call leaves stored: the path of before, or the path it has bound. -/
def Stores (call : DatagramCall dm) (o o' : DatagramIPCSocket) : Prop := ∀ q, o'.socketPath = some q →
  o.socketPath = some q ∨ ∃ p, pathOf call = some p ∧ call.kind = .bind ∧ q = resizePath p

/-- A `bind` with or without a path. -/
theorem bindCall_means {o : DatagramIPCSocket} (h : Cut o) (override : Bool) (path : Option Bytes)
    (preBindSocketOperation : Option Callback) :
    (DatagramIPCSocket.bindOverride override path preBindSocketOperation).Always
      (Means path (removable (if override then path else none) o)) o fun _ o' =>
        ∀ q, o'.socketPath = some q → o.socketPath = some q ∨ ∃ p, path = some p ∧ q = resizePath p := by
  cases path with
  | none =>
    unfold DatagramIPCSocket.bindOverride
    rw [Method.always_throw]
    exact fun q hq => Or.inl hq
  | some p =>
    have hnew : override = true → c_str (sunPath p) ∈ removable (if override then some p else none) o := by
      rintro rfl
      exact ⟨p, Or.inl rfl, rfl⟩
    refine (datagramBind_means override preBindSocketOperation (h.stored_removable _) hnew).mono (fun _ h => h) ?_
    rintro r o' ⟨-, hstored⟩ q hq
    exact (hstored q hq).imp_right fun hq => ⟨p, rfl, hq⟩

/-- A call whose result is thrown away. -/
theorem stores_of {α : Type} {P : Sys → Prop} {m : M DatagramIPCSocket α} {call : DatagramCall dm}
    {o : DatagramIPCSocket} (h : m.Always P o fun _ o' => o' = o) :
    (m >>= fun _ => pure ()).Always P o fun _ o' => Stores call o o' := by
  refine h.wrap ?_
  rintro r o' rfl q hq
  exact Or.inl hq

/-- **What any call does with paths.** -/
theorem perform_means (call : DatagramCall dm) {o : DatagramIPCSocket} (h : Cut o) :
    call.perform.Always (Means (pathOf call) (removable (overridden call) o)) o fun _ o' => Stores call o o' := by
  cases call with
  | bind path operation =>
    refine (bindCall_means h false path operation).wrap ?_
    intro r o' ho' q hq
    exact (ho' q hq).imp_right fun ⟨p, hp, hq⟩ => ⟨p, hp, rfl, hq⟩
  | bindOverride override path operation =>
    have hnames : overridden (.bindOverride override path operation : DatagramCall dm) =
        if override then path else none := by cases override <;> rfl
    rw [hnames]
    refine (bindCall_means h override path operation).wrap ?_
    intro r o' ho' q hq
    exact (ho' q hq).imp_right fun ⟨p, hp, hq⟩ => ⟨p, hp, rfl, hq⟩
  | sendTo path message flags => exact stores_of (datagramSend_means _ _ _)
  | sendBufferTo path buffer bufferLength flags => exact stores_of (datagramSend_means _ _ _)
  | receiveFrom receiveLength flags =>
    exact stores_of ((datagramReceive_reads o _ _).mono (fun _ => Quiet.means) fun _ _ h => h.1)
  | receiveFromInto buffer receiveLength flags =>
    exact stores_of ((datagramReceiveInto_reads o _ _ _).mono (fun _ => Quiet.means) fun _ _ h => h.1)
  | ready timeout => exact stores_of ((datagramReady_unchanged dm o timeout).mono (fun _ => Quiet.means) fun _ _ h => h.1)
  | setPreSendSocketOperation operation => exact fun q hq => Or.inl hq
  | close =>
    refine (datagramClose_means (h.stored_removable _)).mono (fun _ h => h) ?_
    rintro r o' ⟨-, hnone⟩ q hq
    rw [hnone] at hq
    cases hq

end Calls

/-! ## The operations -/

section Operations

variable {p : Bytes}

/-- An object that has been constructed reports the path of `p`. -/
theorem reports_of {S : Type} {m : M S Unit} {names : Set Bytes} {o : S} (socketPath : S → Bytes)
    (h : m.Always (Means (some p) names) o fun _ o' => socketPath o' = resizePath p) :
    Method.Always (Means (some p) Set.univ) (do
      m
      let this ← Method.this
      return some (socketPath this) : M S (Option Bytes)) o fun r _ => ∀ q, r = .returned (some q) → sunPath q = sunPath p := by
  rw [Method.always_bind]
  refine h.mono (fun c hc => ⟨hc.1, fun _ _ => Set.mem_univ _⟩) ?_
  rintro (_ | e | _) o' ho'
  · rw [Method.onward_returned, Method.always_bind, Method.always_this, Method.onward_returned, Method.always_pure]
    rintro q ⟨⟩
    rw [ho', sunPath_resizePath]
  · exact nofun
  · exact nofun

/-- Each operation writes the `sun_path` of the path it is given, and reports a path with the same. -/
theorem PathOperation.perform_means (op : PathOperation) (o : op.Obj) :
    (op.perform p).Always (Means (some p) Set.univ) o fun r _ => ∀ q, r = .returned (some q) → sunPath q = sunPath p := by
  cases op with
  | ipcServerSocket override connectionBacklogSize operation =>
    exact reports_of IPCServerSocket.socketPath (serverConstruct_means override connectionBacklogSize operation o)
  | streamIPCSocket => exact reports_of StreamIPCSocket.socketPath (streamConstruct_means o)
  | datagramBind override operation =>
    refine (datagramBind_means override operation (fun _ _ => Set.mem_univ _) fun _ => Set.mem_univ _).wrap ?_
    rintro (⟨bindResult, boundPath⟩ | e | _) o' ⟨hreport, -⟩ q hq
    · by_cases hresult : bindResult = -1
      · simp [Outcome.map, hresult] at hq
      · obtain ⟨hpath, -⟩ := hreport _ _ rfl hresult
        simp only [Outcome.map, hresult, if_false, Outcome.returned.injEq, Option.some.injEq] at hq
        rw [← hq, hpath, sunPath_resizePath]
    · cases hq
    · cases hq
  | datagramSendTo message flags => exact (datagramSend_means _ _ _).wrap fun r _ _ q hq => by cases r <;> cases hq
  | datagramSendBufferTo buffer bufferLength flags =>
    exact (datagramSend_means _ _ _).wrap fun r _ _ q hq => by cases r <;> cases hq

end Operations

end SocketLibrary.Files
