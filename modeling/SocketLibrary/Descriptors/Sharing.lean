import SocketLibrary.Descriptors.Containment
import SocketLibrary.Interaction.Path

/-!
# Copies share a descriptor

Any number of objects of the six classes in one process, which are constructed, copied, assigned, used, closed and
destroyed in any order. A copy stores the same number, and `close` forgets it in one object only; so a number can be
given out again while an object still stores it. `shared_descriptors_iff` says what follows when this does not happen.
-/

namespace SocketLibrary.Descriptors

open SocketLibrary.Interaction SocketLibrary.Posix SocketLibrary.Model

/-! ## The classes and what can be done with their objects -/

inductive SocketClass where
  | tcpSocket
  | tcpServerSocket
  | streamIPCSocket
  | ipcServerSocket
  | udpSocket
  | datagramIPCSocket

namespace SocketClass

def Obj : SocketClass → Type
  | tcpSocket => TCPSocket
  | tcpServerSocket => TCPServerSocket
  | streamIPCSocket => StreamIPCSocket
  | ipcServerSocket => IPCServerSocket
  | udpSocket => UDPSocket
  | datagramIPCSocket => DatagramIPCSocket

/-- The descriptor that an object stores. -/
def stored : (c : SocketClass) → c.Obj → SOCKET
  | tcpSocket => TCPSocket.socketDescriptor
  | tcpServerSocket => TCPServerSocket.socketDescriptor
  | streamIPCSocket => StreamIPCSocket.socket
  | ipcServerSocket => IPCServerSocket.socket
  | udpSocket => UDPSocket.receiveSocket
  | datagramIPCSocket => DatagramIPCSocket.receiveSocket

def copy : (c : SocketClass) → c.Obj → c.Obj
  | tcpSocket => TCPSocket.copy
  | tcpServerSocket => TCPServerSocket.copy
  | streamIPCSocket => StreamIPCSocket.copy
  | ipcServerSocket => IPCServerSocket.copy
  | udpSocket => UDPSocket.copy
  | datagramIPCSocket => DatagramIPCSocket.copy

def assign : (c : SocketClass) → c.Obj → M c.Obj Unit
  | tcpSocket => TCPSocket.assign
  | tcpServerSocket => TCPServerSocket.assign
  | streamIPCSocket => StreamIPCSocket.assign
  | ipcServerSocket => IPCServerSocket.assign
  | udpSocket => UDPSocket.assign
  | datagramIPCSocket => DatagramIPCSocket.assign

end SocketClass

/-- The constructors, other than the one that is handed a descriptor. -/
inductive Construction : SocketClass → Type where
  | tcp (hostname : Bytes) (port : UInt16) (protocolVersion : InternetProtocolVersion) : Construction .tcpSocket
  | tcpFromAddress (address : SocketAddress) : Construction .tcpSocket
  | tcpServer (localHostname : Option Bytes) (port : UInt16) (connectionBacklogSize : UInt32)
      (protocolVersion : InternetProtocolVersion) (preBindSocketOperation : Option Callback) :
      Construction .tcpServerSocket
  | streamIPC (socketPath : Bytes) : Construction .streamIPCSocket
  | ipcServer (socketPath : Bytes) (override : Bool) (connectionBacklogSize : UInt32)
      (preBindSocketOperation : Option Callback) : Construction .ipcServerSocket
  | udp : Construction .udpSocket
  | datagramIPC : Construction .datagramIPCSocket

def Construction.perform : {c : SocketClass} → Construction c → M c.Obj Unit
  | _, tcp hostname port protocolVersion => TCPSocket.construct hostname port protocolVersion
  | _, tcpFromAddress address => TCPSocket.constructFromAddress address
  | _, tcpServer localHostname port connectionBacklogSize protocolVersion preBindSocketOperation =>
    TCPServerSocket.construct localHostname port connectionBacklogSize protocolVersion preBindSocketOperation
  | _, streamIPC socketPath => StreamIPCSocket.construct socketPath
  | _, ipcServer socketPath override connectionBacklogSize preBindSocketOperation =>
    IPCServerSocket.construct socketPath override connectionBacklogSize preBindSocketOperation
  | _, udp => Method.modify fun _ => ({} : UDPSocket)
  | _, datagramIPC => Method.modify fun _ => ({} : DatagramIPCSocket)

/-- The methods of `ConnectionOrientedSocket`. -/
inductive StreamCall (dm : DataModel) where
  | ready (timeout : ULong dm)
  | connected (timeout : ULong dm)
  | sendBuffer (message : Bytes) (messageLength flags : ℤ)
  | send (message : Bytes) (flags : ℤ)
  | get (flags : ℤ)
  | receiveAmount (amountToReceive : UInt32) (flags : ℤ)
  | receiveAmountInto (buffer : Bytes) (amountToReceive : UInt32) (flags : ℤ)
  | receiveToDelimiter (fuel : ℕ) (delimiter : UInt8) (flags : ℤ)
  | receiveAll (fuel : ℕ) (timeout : ULong dm) (flags : ℤ)

variable {dm : DataModel}

def StreamCall.perform {S : Type} (socket : SOCKET) : StreamCall dm → M S Unit
  | .ready timeout => do let _ ← ConnectionOrientedSocket.ready dm socket timeout
  | .connected timeout => do let _ ← ConnectionOrientedSocket.connected dm socket timeout
  | .sendBuffer message messageLength flags => do
    let _ ← ConnectionOrientedSocket.sendBuffer socket message messageLength flags
  | .send message flags => do let _ ← ConnectionOrientedSocket.send socket message flags
  | .get flags => do let _ ← ConnectionOrientedSocket.get dm socket flags
  | .receiveAmount amountToReceive flags => do
    let _ ← ConnectionOrientedSocket.receiveAmount dm socket amountToReceive flags
  | .receiveAmountInto buffer amountToReceive flags => do
    let _ ← ConnectionOrientedSocket.receiveAmountInto dm socket buffer amountToReceive flags
  | .receiveToDelimiter fuel delimiter flags => do
    let _ ← ConnectionOrientedSocket.receiveToDelimiter dm socket fuel delimiter flags
  | .receiveAll fuel timeout flags => do
    let _ ← ConnectionOrientedSocket.receiveAll dm socket fuel timeout flags

/-- The methods of the classes, other than `accept`. -/
inductive Call (dm : DataModel) : SocketClass → Type where
  | tcp (c : StreamCall dm) : Call dm .tcpSocket
  | tcpClose : Call dm .tcpSocket
  | tcpServerClose : Call dm .tcpServerSocket
  | streamIPC (c : StreamCall dm) : Call dm .streamIPCSocket
  | streamIPCClose : Call dm .streamIPCSocket
  | ipcServerClose : Call dm .ipcServerSocket
  | udp (c : UDPCall dm) : Call dm .udpSocket
  | datagramIPC (c : DatagramCall dm) : Call dm .datagramIPCSocket

def Call.perform : {c : SocketClass} → Call dm c → M c.Obj Unit
  | _, tcp c => do
    let this ← (Method.this : M TCPSocket TCPSocket)
    c.perform this.socketDescriptor
  | _, tcpClose => TCPSocket.close
  | _, tcpServerClose => TCPServerSocket.close
  | _, streamIPC c => do
    let this ← (Method.this : M StreamIPCSocket StreamIPCSocket)
    c.perform this.socket
  | _, streamIPCClose => StreamIPCSocket.close
  | _, ipcServerClose => IPCServerSocket.close
  | _, udp c => c.perform
  | _, datagramIPC c => c.perform

/-- `accept` of a listener, and the class of what it returns. -/
inductive Accept : SocketClass → SocketClass → Type where
  | tcp (timeout : ℤ) : Accept .tcpServerSocket .tcpSocket
  | ipc (timeout : ℤ) : Accept .ipcServerSocket .streamIPCSocket

def Accept.perform : {c d : SocketClass} → Accept c d → M c.Obj d.Obj
  | _, _, tcp timeout => TCPServerSocket.accept timeout
  | _, _, ipc timeout => IPCServerSocket.accept timeout

/-! ### They only use descriptors of their own -/

theorem stored_copy (c : SocketClass) (o : c.Obj) : c.stored (c.copy o) = c.stored o := by
  cases c <;> rfl

theorem assign_stores {c : SocketClass} {source o o' : c.Obj} {k k' : Kernel} {tr : List (Event Sys Ans Kernel)}
    {r : Outcome Exn Unit} (h : (c.assign source).Runs Kernel.env o k tr r o' k') :
    c.stored o' = c.stored source ∧ k' = k ∧ tr = [] := by
  cases c <;> cases h <;> exact ⟨rfl, rfl, rfl⟩

theorem construction_contained {c : SocketClass} (m : Construction c) {F : Set SOCKET} :
    Contained c.stored F m.perform := by
  cases m with
  | tcp hostname port version => exact tcpConstruct_contained _ _ _
  | tcpFromAddress address => exact tcpConstructFromAddress_contained _
  | tcpServer host port backlog version operation => exact tcpServerConstruct_contained _ _ _ _ _
  | streamIPC path => exact streamConstruct_contained _
  | ipcServer path override backlog operation => exact ipcServerConstruct_contained _ _ _ _
  | udp => exact Capability.Contains.modify fun _ => Or.inl rfl
  | datagramIPC => exact Capability.Contains.modify fun _ => Or.inl rfl

theorem streamCall_contained {S : Type} {fd : S → SOCKET} {F : Set SOCKET} {socket : SOCKET}
    (hs : socket = -1 ∨ socket ∈ F) (c : StreamCall dm) : Contained fd F (c.perform socket : M S Unit) := by
  cases c with
  | ready timeout => exact discard_contained (ready_contained dm hs _)
  | connected timeout => exact discard_contained (connected_contained dm hs _)
  | sendBuffer message messageLength flags => exact discard_contained (sendBuffer_contained hs _ _ _)
  | send message flags => exact discard_contained (sendBuffer_contained hs _ _ _)
  | get flags => exact discard_contained (get_contained dm hs _)
  | receiveAmount amountToReceive flags => exact discard_contained (receiveAmount_contained dm hs _ _)
  | receiveAmountInto buffer amountToReceive flags => exact discard_contained (receiveAmountInto_contained dm hs _ _ _)
  | receiveToDelimiter fuel delimiter flags => exact discard_contained (receiveToDelimiter_contained dm hs _ _ _)
  | receiveAll fuel timeout flags => exact discard_contained (receiveAll_contained dm hs _ _ _)

theorem call_contained {c : SocketClass} (m : Call dm c) {F : Set SOCKET} : Contained c.stored F m.perform := by
  cases m with
  | tcp c =>
    exact Capability.Contains.bind Capability.Contains.this fun this => streamCall_contained (Or.inr (Or.inr rfl)) c
  | tcpClose => exact tcpClose_contained
  | tcpServerClose => exact tcpServerClose_contained
  | streamIPC c =>
    exact Capability.Contains.bind Capability.Contains.this fun this => streamCall_contained (Or.inr (Or.inr rfl)) c
  | streamIPCClose => exact streamClose_contained
  | ipcServerClose => exact ipcServerClose_contained
  | udp c => exact udpCall_contained dm c
  | datagramIPC c => exact datagramCall_contained dm c

theorem accept_contains {c d : SocketClass} (m : Accept c d) {F : Set SOCKET} :
    descriptors.Contains c.stored F m.perform fun o => {d.stored o} := by
  cases m with
  | tcp timeout => exact tcpAccept_contains timeout
  | ipc timeout => exact ipcAccept_contains timeout

/-- The memory that a constructor starts from makes no difference. -/
theorem construction_memory {c : SocketClass} (m : Construction c) (memory : c.Obj) :
    ∃ memory', c.stored memory' = -1 ∧ m.perform memory = m.perform memory' := by
  cases m with
  | tcp hostname port version => exact ⟨(⟨-1, [], 0, .Any, .zero⟩ : TCPSocket), rfl, rfl⟩
  | tcpFromAddress address => exact ⟨(⟨-1, [], 0, .Any, .zero⟩ : TCPSocket), rfl, rfl⟩
  | tcpServer host port backlog version operation => exact ⟨(⟨0, .Any, .zero, -1⟩ : TCPServerSocket), rfl, rfl⟩
  | streamIPC path => exact ⟨(⟨-1, []⟩ : StreamIPCSocket), rfl, rfl⟩
  | ipcServer path override backlog operation =>
    refine ⟨(⟨-1, []⟩ : IPCServerSocket), rfl, ?_⟩
    cases override <;> rfl
  | udp => exact ⟨({} : UDPSocket), rfl, rfl⟩
  | datagramIPC => exact ⟨({} : DatagramIPCSocket), rfl, rfl⟩

/-- `accept` leaves the listener as it is, and what it returns stores a new descriptor. -/
theorem accept_spec {c d : SocketClass} (m : Accept c d) (o : c.Obj) (k : Kernel) :
    m.perform.wp Kernel.env (fun _ r o' k' => o' = o ∧
      ∀ accepted, r = .returned accepted → ∃ h0, k' = k.opened (d.stored accepted) h0) o k := by
  cases m with
  | tcp timeout =>
    refine Method.wp_mono (Steps.tcpAccept_spec timeout o k) ?_
    rintro tr r o' k' ⟨rfl, l, -, ⟨hr, -, -⟩ | ⟨accepted, h0, l', -, rfl, hdecoded, -⟩⟩
    · obtain ⟨e, rfl⟩ := hr.exists_eq
      exact ⟨rfl, by simp⟩
    · obtain ⟨source, size, written, -, ⟨-, hr⟩ | ⟨socket, -, rfl, hfd⟩⟩ := hdecoded
      · obtain ⟨e, rfl⟩ := hr.exists_eq
        exact ⟨rfl, by simp⟩
      · refine ⟨rfl, ?_⟩
        rintro _ ⟨⟩
        simp only [SocketClass.stored, hfd]
        exact ⟨h0, trivial⟩
  | ipc timeout =>
    refine Method.wp_mono (Steps.ipcAccept_spec timeout o k) ?_
    rintro tr r o' k' ⟨rfl, l, -, ⟨hr, -, -⟩ | ⟨accepted, h0, socket, -, rfl, rfl, hfd, -⟩⟩
    · obtain ⟨e, rfl⟩ := hr.exists_eq
      exact ⟨rfl, by simp⟩
    · refine ⟨rfl, ?_⟩
      rintro _ ⟨⟩
      simp only [SocketClass.stored, hfd]
      exact ⟨h0, trivial⟩

/-! ## The system -/

/-- An object, and the sockets that it or the object it was copied from has opened. -/
structure Entry where
  cls : SocketClass
  obj : cls.Obj
  lineage : Set ℕ

def Entry.stored (e : Entry) : SOCKET := e.cls.stored e.obj

/-- The sockets opened between two states. -/
def opened (k k' : Kernel) : Set ℕ := {id | k.fresh ≤ id ∧ id < k'.fresh}

structure World where
  kernel : Kernel
  entries : ℕ → Option Entry

/-- Before there is any object. -/
def World.start (kernel : Kernel) : World := ⟨kernel, fun _ => none⟩

/-- A step that was made: the lineage of the object that made it, the objects that it changed, where it started and
ended, and its calls. -/
structure Moment where
  lineage : Set ℕ
  changed : Set ℕ
  before : World
  after : World
  trace : List (Event Sys Ans Kernel)

/-- The steps of a program that uses the library. A constructor starts from any memory; a method may also end in an
exception, or go on for ever. -/
inductive Step (dm : DataModel) : World → Moment → World → Prop where
  | construct {w w' : World} {i : ℕ} {c : SocketClass} (m : Construction c) {memory o' : c.Obj}
      {tr : List (Event Sys Ans Kernel)} {k' : Kernel} : w.entries i = none →
      m.perform.Runs Kernel.env memory w.kernel tr (.returned ()) o' k' →
      w' = ⟨k', Function.update w.entries i (some ⟨c, o', opened w.kernel k'⟩)⟩ →
      Step dm w ⟨∅, {i}, w, w', tr⟩ w'
  /-- There is no object after an exception. -/
  | constructThrows {w w' : World} {c : SocketClass} (m : Construction c) {memory o' : c.Obj} {e : Exn}
      {tr : List (Event Sys Ans Kernel)} {k' : Kernel} :
      m.perform.Runs Kernel.env memory w.kernel tr (.threw e) o' k' →
      w' = ⟨k', w.entries⟩ →
      Step dm w ⟨∅, ∅, w, w', tr⟩ w'
  | call {w w' : World} {i : ℕ} {c : SocketClass} {o o' : c.Obj} {lineage : Set ℕ} (m : Call dm c)
      {tr : List (Event Sys Ans Kernel)} {r : Outcome Exn Unit} {k' : Kernel} :
      w.entries i = some ⟨c, o, lineage⟩ → m.perform.Runs Kernel.env o w.kernel tr r o' k' →
      w' = ⟨k', Function.update w.entries i (some ⟨c, o', lineage ∪ opened w.kernel k'⟩)⟩ →
      Step dm w ⟨lineage, {i}, w, w', tr⟩ w'
  | accept {w w' : World} {i j : ℕ} {c d : SocketClass} {o o' : c.Obj} {accepted : d.Obj} {lineage : Set ℕ}
      (m : Accept c d) {tr : List (Event Sys Ans Kernel)} {k' : Kernel} :
      w.entries i = some ⟨c, o, lineage⟩ → w.entries j = none →
      m.perform.Runs Kernel.env o w.kernel tr (.returned accepted) o' k' →
      w' = ⟨k', Function.update (Function.update w.entries i (some ⟨c, o', lineage⟩)) j
        (some ⟨d, accepted, opened w.kernel k'⟩)⟩ →
      Step dm w ⟨lineage, {j}, w, w', tr⟩ w'
  | acceptThrows {w w' : World} {i : ℕ} {c d : SocketClass} {o o' : c.Obj} {lineage : Set ℕ} (m : Accept c d) {e : Exn}
      {tr : List (Event Sys Ans Kernel)} {k' : Kernel} : w.entries i = some ⟨c, o, lineage⟩ →
      m.perform.Runs Kernel.env o w.kernel tr (.threw e) o' k' →
      w' = ⟨k', Function.update w.entries i (some ⟨c, o', lineage⟩)⟩ →
      Step dm w ⟨lineage, ∅, w, w', tr⟩ w'
  | copy {w w' : World} {i j : ℕ} {c : SocketClass} {o : c.Obj} {lineage : Set ℕ} :
      w.entries i = some ⟨c, o, lineage⟩ → w.entries j = none →
      w' = ⟨w.kernel, Function.update w.entries j (some ⟨c, c.copy o, lineage⟩)⟩ →
      Step dm w ⟨lineage, {j}, w, w', []⟩ w'
  | assign {w w' : World} {i j : ℕ} {c : SocketClass} {o o' source : c.Obj} {lineage sourceLineage : Set ℕ}
      {tr : List (Event Sys Ans Kernel)} {k' : Kernel} : w.entries j = some ⟨c, o, lineage⟩ →
      w.entries i = some ⟨c, source, sourceLineage⟩ →
      (c.assign source).Runs Kernel.env o w.kernel tr (.returned ()) o' k' →
      w' = ⟨k', Function.update w.entries j (some ⟨c, o', lineage ∪ sourceLineage⟩)⟩ →
      Step dm w ⟨lineage, {j}, w, w', tr⟩ w'
  /-- No class has a destructor. -/
  | destroy {w w' : World} (i : ℕ) :
      w' = ⟨w.kernel, Function.update w.entries i none⟩ →
      Step dm w ⟨∅, {i}, w, w', []⟩ w'

/-! ## The property, and its condition -/

/-- Every call on a descriptor acts on a socket that the object, or the one it was copied from, has opened; or on none,
and then it fails. -/
def Moment.Related (m : Moment) : Prop :=
  ∀ e ∈ m.trace, ∀ fd ∈ descriptors.target e.call, ∀ id, e.pre.table fd = some id →
    id ∈ m.lineage ∨ m.before.kernel.fresh ≤ id

/-- No descriptor that the step has opened and left open has a number that another object stores. -/
def Moment.Unreused (m : Moment) : Prop :=
  ∀ i e, m.before.entries i = some e → i ∉ m.changed → ∀ id, m.after.kernel.table e.stored = some id →
    id < m.before.kernel.fresh

/-- What every object stores is its own, or not open. -/
def World.Owned (w : World) : Prop :=
  ∀ i e, w.entries i = some e → ∀ id, w.kernel.table e.stored = some id → id ∈ e.lineage

/-- A step that opens nothing. -/
theorem Moment.unreused_of_fresh {m : Moment} (h : m.after.kernel.fresh ≤ m.before.kernel.fresh) : m.Unreused :=
  fun _ _ _ _ id hid => (m.after.kernel.table_valid _ id hid).2.trans_le h

/-! ## One step, and a run -/

structure World.Ok (w : World) : Prop where
  owned : w.Owned
  lineage_lt : ∀ i e, w.entries i = some e → ∀ id ∈ e.lineage, id < w.kernel.fresh

theorem World.start_ok (k : Kernel) : (World.start k).Ok :=
  ⟨by simp [World.Owned, World.start], by simp [World.start]⟩

/-- The descriptor stands for no socket, for one of the lineage or for a new one. -/
def Reach (lineage : Set ℕ) (n : ℕ) (k : Kernel) (fd : SOCKET) : Prop :=
  n ≤ k.fresh ∧ ∀ id, k.table fd = some id → id ∈ lineage ∨ n ≤ id

theorem opens_of_handed {c : Sys} {k k' : Kernel} {x : Ans c} {fd : SOCKET} (h : Kernel.env c k x k')
    (hfd : fd ∈ descriptors.handed c x) : k.Opens fd k' := by
  cases c with
  | socket domain type protocol =>
    obtain rfl : fd = x := hfd
    exact h
  | accept f length =>
    obtain rfl : fd = x.fd := hfd
    exact h
  | _ => exact hfd.elim

/-- The calls of a method on an object that stores what is its own. -/
theorem runs_related {c : SocketClass} {α : Type} {m : M c.Obj α} {o o' : c.Obj} {k k' : Kernel}
    {tr : List (Event Sys Ans Kernel)} {r : Outcome Exn α} {carried : α → Set SOCKET}
    (hm : descriptors.Contains c.stored ∅ m carried) (h : m.Runs Kernel.env o k tr r o' k') {lineage : Set ℕ}
    (ho : ∀ id, k.table (c.stored o) = some id → id ∈ lineage) :
    (∀ e ∈ tr, ∀ fd ∈ descriptors.target e.call, ∀ id, e.pre.table fd = some id → id ∈ lineage ∨ k.fresh ≤ id) ∧
      ∀ id, k'.table (c.stored o') = some id → id ∈ lineage ∪ opened k k' := by
  have hkeep : ∀ c k₁ x k₂ fd, Kernel.env c k₁ x k₂ → Reach lineage k.fresh k₁ fd → Reach lineage k.fresh k₂ fd := by
    rintro call k₁ x k₂ fd hc ⟨hle, htable⟩
    obtain ⟨hle', htable'⟩ := Kernel.env_table hc
    refine ⟨hle.trans hle', fun id hid => ?_⟩
    rcases htable' fd id hid with hid | hid
    · exact htable id hid
    · exact Or.inr (hle.trans hid)
  have hhanded : ∀ c k₁ x k₂ fd, Kernel.env c k₁ x k₂ → Reach lineage k.fresh k₁ (-1) → fd ∈ descriptors.handed c x →
      Reach lineage k.fresh k₂ fd := by
    intro call k₁ x k₂ fd hc hnull hfd
    have hopens : k₁.Opens fd k₂ := opens_of_handed hc hfd
    rcases hopens with ⟨rfl, rfl⟩ | ⟨h0, -, rfl⟩
    · exact hnull
    · refine ⟨hnull.1.trans (Nat.le_succ _), fun id hid => Or.inr ?_⟩
      obtain rfl : k₁.fresh = id := by simpa using hid
      exact hnull.1
  have hnull : Reach lineage k.fresh k (-1) := ⟨le_rfl, fun id hid => by simp [Kernel.table_neg_one] at hid⟩
  have hstored : Reach lineage k.fresh k (c.stored o) := ⟨le_rfl, fun id hid => Or.inl (ho id hid)⟩
  obtain ⟨htr, ho', -⟩ := hm.runs hkeep hhanded h hnull hstored (by simp)
  refine ⟨fun e he fd hfd => (htr e he fd hfd).2, fun id hid => ?_⟩
  rcases ho'.2 id hid with hl | hn
  · exact Or.inl hl
  · exact Or.inr ⟨hn, (k'.table_valid _ _ hid).2⟩

/-- The calls of a constructor. -/
theorem construction_related {c : SocketClass} (m : Construction c) {memory o' : c.Obj} {k k' : Kernel}
    {tr : List (Event Sys Ans Kernel)} {r : Outcome Exn Unit} (h : m.perform.Runs Kernel.env memory k tr r o' k') :
    (∀ e ∈ tr, ∀ fd ∈ descriptors.target e.call, ∀ id, e.pre.table fd = some id →
      id ∈ (∅ : Set ℕ) ∨ k.fresh ≤ id) ∧ ∀ id, k'.table (c.stored o') = some id → id ∈ opened k k' := by
  obtain ⟨memory', hneg, hmem⟩ := construction_memory m memory
  rw [Method.Runs, hmem] at h
  have hnone : ∀ id, k.table (c.stored memory') = some id → id ∈ (∅ : Set ℕ) := by
    simp [hneg, Kernel.table_neg_one]
  obtain ⟨hrel, hown⟩ := runs_related (construction_contained m) h hnone
  rw [Set.empty_union] at hown
  exact ⟨hrel, hown⟩

/-- The rest of a step, once the objects that it changed store what is their own. -/
theorem owned_iff_unreused {w w' : World} {changed : Set ℕ} {lineage : Set ℕ} {tr : List (Event Sys Ans Kernel)}
    (h : w.Ok) (hfresh : w.kernel.fresh ≤ w'.kernel.fresh)
    (htable : ∀ fd id, w'.kernel.table fd = some id → w.kernel.table fd = some id ∨ w.kernel.fresh ≤ id)
    (hsame : ∀ i ∉ changed, w'.entries i = w.entries i)
    (hnew : ∀ i ∈ changed, ∀ e, w'.entries i = some e →
      (∀ id, w'.kernel.table e.stored = some id → id ∈ e.lineage) ∧ ∀ id ∈ e.lineage, id < w'.kernel.fresh) :
    (w'.Owned ↔ Moment.Unreused ⟨lineage, changed, w, w', tr⟩) ∧
      (Moment.Unreused ⟨lineage, changed, w, w', tr⟩ → w'.Ok) := by
  have howned : Moment.Unreused ⟨lineage, changed, w, w', tr⟩ → w'.Owned := by
    intro hu i e hi id hid
    by_cases hc : i ∈ changed
    · exact (hnew i hc e hi).1 id hid
    · rw [hsame i hc] at hi
      rcases htable _ _ hid with hold | hnew
      · exact h.owned i e hi id hold
      · exact absurd (hu i e hi hc id hid) (not_lt.2 hnew)
  refine ⟨⟨fun ho i e hi hc id hid => ?_, howned⟩, fun hu => ⟨howned hu, fun i e hi id hid => ?_⟩⟩
  · have hmem : id ∈ e.lineage := ho i e ((hsame i hc).trans hi) id hid
    exact h.lineage_lt i e hi id hmem
  · by_cases hc : i ∈ changed
    · exact (hnew i hc e hi).2 id hid
    · rw [hsame i hc] at hi
      exact (h.lineage_lt i e hi id hid).trans_le hfresh

/-- A step that changed one object. -/
theorem owned_iff_unreused_update {w : World} {k' : Kernel} {i : ℕ} {c : SocketClass} {o : c.Obj}
    {actor lineage : Set ℕ} {tr : List (Event Sys Ans Kernel)} (h : w.Ok) (hfresh : w.kernel.fresh ≤ k'.fresh)
    (htable : ∀ fd id, k'.table fd = some id → w.kernel.table fd = some id ∨ w.kernel.fresh ≤ id)
    (hown : ∀ id, k'.table (c.stored o) = some id → id ∈ lineage) (hlt : ∀ id ∈ lineage, id < k'.fresh) :
    let w' : World := ⟨k', Function.update w.entries i (some ⟨c, o, lineage⟩)⟩
    (w'.Owned ↔ Moment.Unreused ⟨actor, {i}, w, w', tr⟩) ∧
      (Moment.Unreused ⟨actor, {i}, w, w', tr⟩ → w'.Ok) := by
  refine owned_iff_unreused h hfresh htable (fun j hj => Function.update_of_ne hj _ _) ?_
  rintro j rfl e he
  obtain rfl : ⟨c, o, lineage⟩ = e := by simpa using he
  exact ⟨hown, hlt⟩

/-- A step that changed none. -/
theorem owned_iff_unreused_same {w : World} {k' : Kernel} {lineage : Set ℕ} {tr : List (Event Sys Ans Kernel)}
    (h : w.Ok) (hfresh : w.kernel.fresh ≤ k'.fresh)
    (htable : ∀ fd id, k'.table fd = some id → w.kernel.table fd = some id ∨ w.kernel.fresh ≤ id) :
    let w' : World := ⟨k', w.entries⟩
    (w'.Owned ↔ Moment.Unreused ⟨lineage, ∅, w, w', tr⟩) ∧
      (Moment.Unreused ⟨lineage, ∅, w, w', tr⟩ → w'.Ok) :=
  owned_iff_unreused h hfresh htable (fun _ _ => rfl) fun _ hi => absurd hi (Set.notMem_empty _)

/-- **One step.** From objects that store what is their own, every call is on a related socket; and the objects store
what is their own afterwards just if no number was given out again that is stored. -/
theorem step_owned_iff {w w' : World} {m : Moment} (h : w.Ok) (hs : Step dm w m w') :
    ((m.after.Owned ↔ m.Unreused) ∧ (m.Unreused → w'.Ok)) ∧ m.Related := by
  -- what was opened in the step is below the next number
  have hlt : ∀ {lineage : Set ℕ} {k' : Kernel}, w.kernel.fresh ≤ k'.fresh → (∀ id ∈ lineage, id < w.kernel.fresh) →
      ∀ id ∈ lineage ∪ opened w.kernel k', id < k'.fresh := by
    rintro lineage k' hle hl id (hid | hid)
    · exact (hl id hid).trans_le hle
    · exact hid.2
  cases hs with
  | @construct _ i c m memory o' tr k' hnone hrun hw =>
    subst hw
    obtain ⟨hfresh, htable⟩ := Kernel.runs_table hrun
    obtain ⟨hrel, hown⟩ := construction_related m hrun
    exact ⟨owned_iff_unreused_update h hfresh htable hown fun id hid => hid.2, hrel⟩
  | @constructThrows _ c m memory o' e tr k' hrun hw =>
    subst hw
    obtain ⟨hfresh, htable⟩ := Kernel.runs_table hrun
    obtain ⟨hrel, -⟩ := construction_related m hrun
    exact ⟨owned_iff_unreused_same h hfresh htable, hrel⟩
  | @call _ i c o o' lineage m tr r k' hi hrun hw =>
    subst hw
    obtain ⟨hfresh, htable⟩ := Kernel.runs_table hrun
    obtain ⟨hrel, hown⟩ := runs_related (call_contained m) hrun (h.owned i _ hi)
    exact ⟨owned_iff_unreused_update h hfresh htable hown (hlt hfresh (h.lineage_lt i _ hi)), hrel⟩
  | @accept _ i j c d o o' accepted lineage m tr k' hi hj hrun hw =>
    subst hw
    obtain ⟨hfresh, htable⟩ := Kernel.runs_table hrun
    obtain ⟨hrel, -⟩ := runs_related (accept_contains m) hrun (h.owned i _ hi)
    obtain ⟨rfl, hopen⟩ := hrun.post (accept_spec m o w.kernel)
    obtain ⟨h0, rfl⟩ := hopen accepted rfl
    rw [← hi, Function.update_eq_self]
    have hown : ∀ id, (w.kernel.opened (d.stored accepted) h0).table (d.stored accepted) = some id →
        id ∈ opened w.kernel (w.kernel.opened (d.stored accepted) h0) := by
      intro id hid
      obtain rfl : w.kernel.fresh = id := by simpa using hid
      exact ⟨le_rfl, Nat.lt_succ_self _⟩
    exact ⟨owned_iff_unreused_update h hfresh htable hown fun id hid => hid.2, hrel⟩
  | @acceptThrows _ i c d o o' lineage m e tr k' hi hrun hw =>
    subst hw
    obtain ⟨hfresh, htable⟩ := Kernel.runs_table hrun
    obtain ⟨hrel, -⟩ := runs_related (accept_contains m) hrun (h.owned i _ hi)
    obtain ⟨rfl, -⟩ := hrun.post (accept_spec m o w.kernel)
    rw [← hi, Function.update_eq_self]
    exact ⟨owned_iff_unreused_same h hfresh htable, hrel⟩
  | @copy _ i j c o lineage hi hj hw =>
    subst hw
    have hown : ∀ id, w.kernel.table (c.stored (c.copy o)) = some id → id ∈ lineage := by
      rw [stored_copy]
      exact h.owned i _ hi
    exact ⟨owned_iff_unreused_update h le_rfl (fun _ _ => Or.inl) hown (h.lineage_lt i _ hi), by simp [Moment.Related]⟩
  | @assign _ i j c o o' source lineage sourceLineage tr k' hj hi hrun hw =>
    subst hw
    obtain ⟨hstored, rfl, rfl⟩ := assign_stores hrun
    have hown : ∀ id, w.kernel.table (c.stored o') = some id → id ∈ lineage ∪ sourceLineage := by
      rw [hstored]
      exact fun id hid => Or.inr (h.owned i _ hi id hid)
    exact ⟨owned_iff_unreused_update h le_rfl (fun _ _ => Or.inl) hown fun id hid =>
      hid.elim (h.lineage_lt j _ hj id) (h.lineage_lt i _ hi id), by simp [Moment.Related]⟩
  | @destroy _ i hw =>
    subst hw
    refine ⟨owned_iff_unreused h le_rfl (fun _ _ => Or.inl) (fun j hj => Function.update_of_ne hj _ _) ?_,
      by simp [Moment.Related]⟩
    rintro j rfl e he
    simp at he

/-- **Sharing.** Along any run of a program that uses the library, every object stores only what is its own or closed,
if and only if no step gives out a number that another object stores and leaves it open. And then every call on a
descriptor acts on a socket that the object, or the one it was copied from, has opened, or fails. -/
theorem shared_descriptors_iff {k : Kernel} {ms : List Moment} {w : World}
    (h : Path (Step dm) (World.start k) ms w) :
    ((∀ m ∈ ms, m.after.Owned) ↔ ∀ m ∈ ms, m.Unreused) ∧
      ((∀ m ∈ ms, m.Unreused) → ∀ m ∈ ms, m.Related) := by
  constructor
  · exact Path.forall_iff (I := World.Ok) (fun _ _ _ hw hs => (step_owned_iff hw hs).1) h (World.start_ok k)
  · intro hu
    refine (Path.invariant (I := World.Ok) (T := Moment.Unreused) (fun _ _ _ hw hu hs => ?_) h (World.start_ok k) hu).2
    obtain ⟨⟨-, hok⟩, hrel⟩ := step_owned_iff hw hs
    exact ⟨hok hu, hrel⟩

section Examples

/-- A connection is copied, used through the copy, and closed. -/
theorem shared_descriptors_iff_copy_send : ∃ ms w, Path (Step .lp64) (World.start (.boot [])) ms w ∧
    ms.length = 4 ∧ ∀ m ∈ ms, m.Related := by
  have hrun {S α : Type} (m : M S α) (o : S) (k : Kernel) := Kernel.execute_runs (fun _ => false) 3 m o k
  have hpath : Path (Step .lp64) (World.start (.boot [])) _ _ :=
    .cons (.construct (i := 0) (.streamIPC [115]) rfl (hrun _ (⟨0, []⟩ : StreamIPCSocket) _) rfl)
      (.cons (.copy (i := 0) (j := 1) rfl rfl rfl)
        (.cons (.call (i := 1) (.streamIPC (.send [104, 105] 0)) rfl (hrun _ _ _) rfl)
          (.cons (.call (i := 0) .streamIPCClose rfl (hrun _ _ _) rfl) (.nil _))))
  refine ⟨_, _, hpath, rfl, (shared_descriptors_iff hpath).2 ?_⟩
  simp only [List.forall_mem_cons]
  -- only the first step opens a descriptor, and there is no object yet
  refine ⟨?_, Moment.unreused_of_fresh le_rfl, Moment.unreused_of_fresh le_rfl, Moment.unreused_of_fresh le_rfl,
    by simp⟩
  rintro i e ⟨⟩

/-- A connection is copied and closed, another one is opened and gets the same number, and the copy is closed: this
closes the other connection. -/
theorem copy_acts_on_foreign : ¬ ∀ dm k ms w, Path (Step dm) (World.start k) ms w → ∀ m ∈ ms, m.Related := by
  intro h
  have hrun {S α : Type} (m : M S α) (o : S) (k : Kernel) := Kernel.execute_runs (fun _ => false) 3 m o k
  have hpath : Path (Step .lp64) (World.start (.boot [])) _ _ :=
    .cons (.construct (i := 0) (.streamIPC [115]) rfl (hrun _ (⟨0, []⟩ : StreamIPCSocket) _) rfl)
      (.cons (.copy (i := 0) (j := 1) rfl rfl rfl)
        (.cons (.call (i := 0) .streamIPCClose rfl (hrun _ _ _) rfl)
          (.cons (.construct (i := 2) (.streamIPC [116]) rfl (hrun _ (⟨0, []⟩ : StreamIPCSocket) _) rfl)
            (.cons (.call (i := 1) .streamIPCClose rfl (hrun _ _ _) rfl) (.nil _)))))
  have hrel := h _ _ _ _ hpath
  simp only [List.forall_mem_cons] at hrel
  obtain ⟨-, -, -, -, hclose, -⟩ := hrel
  rcases hclose _ List.mem_cons_self 3 rfl 1 rfl with hmem | hle
  · exact absurd hmem.2 (lt_irrefl 1)
  · exact absurd (hle : 2 ≤ 1) (by decide)

end Examples

end SocketLibrary.Descriptors
