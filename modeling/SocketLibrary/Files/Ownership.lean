import Mathlib.Tactic
import SocketLibrary.Files.Bindings
import SocketLibrary.Interaction.Path

/-!
# Whose file `close` removes

Any number of `IPCServerSocket` and `DatagramIPCSocket` objects on one file system, their steps interleaved in any
order. `close` knows its file by the name only; `close_removes_own_iff` says when the file is the socket's own.
-/

namespace SocketLibrary.Files

open SocketLibrary.Interaction SocketLibrary.Posix SocketLibrary.Model

/-! ## The system -/

/-- How far the construction of a server is. -/
inductive Phase where
  | prepared
  | cleared
  | bound
  | listening
  deriving DecidableEq

/-- An object. For a datagram socket, `pending` is the path of a `bind` that has passed the removal on override. -/
inductive Member where
  | server (o : IPCServerSocket) (phase : Phase)
  | datagram (o : DatagramIPCSocket) (pending : Option Bytes)

/-- Does `close` go on to remove a file? -/
def Member.Removing : Member → Prop
  | .server _ _ => True
  | .datagram o _ => o.bound = true

structure World where
  kernel : Kernel
  members : ℕ → Option Member
  records : Records

/-- Before there is any object. -/
def World.start (kernel : Kernel) : World := ⟨kernel, fun _ => none, fun _ => none⟩

/-- The object `i` has made a step. -/
def World.after (w : World) (i : ℕ) (member : Member) (kernel : Kernel) (records : Records) : World :=
  ⟨kernel, Function.update w.members i (some member), records⟩

@[simp] theorem World.after_self (w : World) (i : ℕ) (member : Member) (kernel : Kernel) (records : Records) :
    (w.after i member kernel records).members i = some member :=
  Function.update_self ..

inductive Act where
  | prepare
  | clear
  | bind
  | listen
  | close
  deriving DecidableEq

/-- A step that was made: by which object, from where, with which calls. -/
structure Moment where
  index : ℕ
  act : Act
  before : World
  trace : List (Event Sys Ans Kernel)

/-- The steps of the objects, each the run of a piece of the code that succeeds. A server that is listening, and a
datagram socket, can be closed any number of times. -/
inductive Step : World → Moment → World → Prop where
  | prepare {w : World} {i : ℕ} (memory : IPCServerSocket) (socketPath : Bytes) : w.members i = none →
      Step w ⟨i, .prepare, w, []⟩
        (w.after i (.server ⟨memory.socket, resizePath socketPath⟩ .prepared) w.kernel w.records)
  | clear {w : World} {i : ℕ} {o o' : IPCServerSocket} (override : Bool) {tr : List (Event Sys Ans Kernel)}
      {k' : Kernel} : w.members i = some (.server o .prepared) →
      (IPCServerSocket.removeOnOverride override).Runs Kernel.env o w.kernel tr (.returned ()) o' k' →
      Step w ⟨i, .clear, w, tr⟩ (w.after i (.server o' .cleared) k'
        (if override then w.records.supersede (c_str o.socketPath) else w.records))
  | bind {w : World} {i : ℕ} {o o' : IPCServerSocket} {preBindSocketOperation : Option Callback}
      {tr : List (Event Sys Ans Kernel)} {k' : Kernel} : w.members i = some (.server o .cleared) →
      (IPCServerSocket.openAndBind preBindSocketOperation).Runs Kernel.env o w.kernel tr (.returned ()) o' k' →
      Step w ⟨i, .bind, w, tr⟩ (w.after i (.server o' .bound) k'
        (w.records.bind i (c_str o'.socketPath) (k'.table o'.socket)))
  | listen {w : World} {i : ℕ} {o o' : IPCServerSocket} {connectionBacklogSize : UInt32}
      {tr : List (Event Sys Ans Kernel)} {k' : Kernel} : w.members i = some (.server o .bound) →
      (IPCServerSocket.startListening connectionBacklogSize).Runs Kernel.env o w.kernel tr (.returned ()) o' k' →
      Step w ⟨i, .listen, w, tr⟩ (w.after i (.server o' .listening) k' w.records)
  | close {w : World} {i : ℕ} {o o' : IPCServerSocket} {tr : List (Event Sys Ans Kernel)} {k' : Kernel} :
      w.members i = some (.server o .listening) →
      IPCServerSocket.close.Runs Kernel.env o w.kernel tr (.returned ()) o' k' →
      Step w ⟨i, .close, w, tr⟩ (w.after i (.server o' .listening) k' (w.records.retire i))
  | prepareDatagram {w : World} {i : ℕ} : w.members i = none →
      Step w ⟨i, .prepare, w, []⟩ (w.after i (.datagram {} none) w.kernel w.records)
  | clearDatagram {w : World} {i : ℕ} {o o' : DatagramIPCSocket} {pending : Option Bytes} (override : Bool)
      (socketPath : Bytes) {tr : List (Event Sys Ans Kernel)} {k' : Kernel} :
      w.members i = some (.datagram o pending) →
      (DatagramIPCSocket.removeOnOverride override (resizePath socketPath)).Runs Kernel.env o w.kernel tr
        (.returned ()) o' k' →
      Step w ⟨i, .clear, w, tr⟩ (w.after i (.datagram o' (some (resizePath socketPath))) k'
        (if override then w.records.supersede (pathName socketPath) else w.records))
  | bindDatagram {w : World} {i : ℕ} {o o' : DatagramIPCSocket} {path : Bytes}
      {preBindSocketOperation : Option Callback} {bindResult : ℤ} {name : Bytes} {tr : List (Event Sys Ans Kernel)}
      {k' : Kernel} : w.members i = some (.datagram o (some path)) → bindResult ≠ -1 →
      (DatagramIPCSocket.openAndBind path preBindSocketOperation).Runs Kernel.env o w.kernel tr
        (.returned (bindResult, name)) o' k' →
      Step w ⟨i, .bind, w, tr⟩ (w.after i (.datagram o' none) k'
        (w.records.bind i (c_str path) (k'.table o'.receiveSocket)))
  | closeDatagram {w : World} {i : ℕ} {o o' : DatagramIPCSocket} {pending : Option Bytes}
      {tr : List (Event Sys Ans Kernel)} {k' : Kernel} : w.members i = some (.datagram o pending) →
      DatagramIPCSocket.close.Runs Kernel.env o w.kernel tr (.returned ()) o' k' →
      Step w ⟨i, .close, w, tr⟩ (w.after i (.datagram o' pending) k'
        (if o.bound then w.records.retire i else w.records))

/-- The construction of a server, when it succeeds, is four steps in a row. -/
theorem construct_steps {w : World} {i : ℕ} {socketPath : Bytes} {override : Bool} {connectionBacklogSize : UInt32}
    {preBindSocketOperation : Option Callback} {memory o' : IPCServerSocket} {tr : List (Event Sys Ans Kernel)}
    {k' : Kernel} (hnone : w.members i = none)
    (h : (IPCServerSocket.construct socketPath override connectionBacklogSize preBindSocketOperation).Runs Kernel.env
      memory w.kernel tr (.returned ()) o' k') :
    ∃ ms w', Path Step w ms w' ∧ ms.flatMap Moment.trace = tr ∧ w'.kernel = k' ∧
      w'.members = Function.update w.members i (some (.server o' .listening)) := by
  obtain ⟨_, _, o₁, k₁, _, hpath, h₁, rfl⟩ := Method.Runs.of_bind h
  obtain ⟨_, _, o₂, k₂, _, hresize, h₂, rfl⟩ := Method.Runs.of_bind h₁
  obtain ⟨tr₁, _, o₃, k₃, _, hclear, h₃, rfl⟩ := Method.Runs.of_bind h₂
  obtain ⟨tr₂, _, o₄, k₄, tr₃, hbind, hlisten, rfl⟩ := Method.Runs.of_bind h₃
  cases hpath
  cases hresize
  refine ⟨_, _, .cons (.prepare memory socketPath hnone) (.cons (.clear override (World.after_self ..) hclear)
    (.cons (.bind (World.after_self ..) hbind) (.cons (.listen (World.after_self ..) hlisten) (.nil _)))),
    by simp, rfl, ?_⟩
  simp [World.after]

/-- A `bind` of a datagram socket that succeeds is two steps. -/
theorem bindOverride_steps {w : World} {i : ℕ} {o o' : DatagramIPCSocket} {override : Bool}
    {socketPathOpt : Option Bytes} {preBindSocketOperation : Option Callback} {bindResult : ℤ} {name : Bytes}
    {tr : List (Event Sys Ans Kernel)} {k' : Kernel} (hmember : w.members i = some (.datagram o none))
    (hres : bindResult ≠ -1) (h : (DatagramIPCSocket.bindOverride override socketPathOpt preBindSocketOperation).Runs
      Kernel.env o w.kernel tr (.returned (bindResult, name)) o' k') :
    ∃ ms w', Path Step w ms w' ∧ ms.flatMap Moment.trace = tr ∧ w'.kernel = k' ∧
      w'.members = Function.update w.members i (some (.datagram o' none)) := by
  cases socketPathOpt with
  | none => cases h
  | some socketPath =>
    obtain ⟨tr₁, _, o₁, k₁, tr₂, hclear, hbind, rfl⟩ := Method.Runs.of_bind h
    refine ⟨_, _, .cons (.clearDatagram override socketPath hmember hclear)
      (.cons (.bindDatagram (World.after_self ..) hres hbind) (.nil _)), by simp, rfl, ?_⟩
    simp [World.after]

/-! ## The property, and its condition -/

/-- The file that `close` removes, if there is one, was made by the last binding of the socket that is closed. -/
def OwnRemoval (m : Moment) : Prop :=
  m.act = .close → ∀ e ∈ m.trace, ∀ path owner, e.call = .remove path → e.pre.files path = some owner →
    ∃ b, m.before.records m.index = some b ∧ owner = .socket b.id

/-- When `close` goes on to remove a file, the last binding of the socket still stands, or no file lies at its path. -/
def Undisturbed (m : Moment) : Prop :=
  m.act = .close → ∀ member, m.before.members m.index = some member → member.Removing →
    ∀ b, m.before.records m.index = some b → b.stands = true ∨ m.before.kernel.files b.name = none

theorem ownRemoval_iff {w : World} {i : ℕ} {tr : List (Event Sys Ans Kernel)} {b : Record}
    (hb : w.records i = some b) (htr : Removes w.kernel.files b.name tr) :
    OwnRemoval ⟨i, .close, w, tr⟩ ↔ ∀ owner, w.kernel.files b.name = some owner → owner = .socket b.id := by
  obtain ⟨⟨e, he, hcall, hpre⟩, honly⟩ := htr
  constructor
  · intro h owner howner
    have hfile : e.pre.files b.name = some owner := by rwa [hpre]
    obtain ⟨c, hc, hown⟩ := h rfl e he b.name owner hcall hfile
    obtain rfl : b = c := Option.some_inj.1 (hb.symm.trans hc)
    exact hown
  · intro h _ e' he' path owner hcall' hfile
    obtain ⟨rfl, hpre'⟩ := honly e' he' path hcall'
    rw [hpre'] at hfile
    exact ⟨b, hb, h owner hfile⟩

/-! ## The invariant -/

/-- An object that can remove a file has a binding of that name on record. -/
def Consistent (records : Records) (i : ℕ) : Member → Prop
  | .server o phase => o.socketPath.length ≤ sunPathSize ∧
      (phase = .bound ∨ phase = .listening → ∃ b, records i = some b ∧ b.name = c_str o.socketPath)
  | .datagram o pending => (∀ path ∈ pending, path.length ≤ sunPathSize) ∧
      (o.bound = true → ∃ path, o.socketPath = some path ∧ ∃ b, records i = some b ∧ b.name = c_str path)

structure World.Ok (w : World) : Prop where
  sound : Sound w.kernel.files w.kernel.fresh w.records
  consistent : ∀ i member, w.members i = some member → Consistent w.records i member

theorem Consistent.mono {records records' : Records} {i : ℕ} {member : Member} (h : Consistent records i member)
    (hr : ∀ b, records i = some b → ∃ b', records' i = some b' ∧ b'.name = b.name) :
    Consistent records' i member := by
  cases member with
  | server o phase =>
    refine ⟨h.1, fun hp => ?_⟩
    obtain ⟨b, hb, hname⟩ := h.2 hp
    obtain ⟨b', hb', hname'⟩ := hr b hb
    exact ⟨b', hb', hname'.trans hname⟩
  | datagram o pending =>
    refine ⟨h.1, fun hp => ?_⟩
    obtain ⟨path, hpath, b, hb, hname⟩ := h.2 hp
    obtain ⟨b', hb', hname'⟩ := hr b hb
    exact ⟨path, hpath, b', hb', hname'.trans hname⟩

namespace World

variable {w : World} {i : ℕ} {member : Member} {k' : Kernel} {records' : Records}

theorem start_ok (k : Kernel) : (World.start k).Ok := by
  have hrecords : ∀ i b, (World.start k).records i ≠ some b := by simp [World.start]
  have hmembers : ∀ i member, (World.start k).members i ≠ some member := by simp [World.start]
  refine ⟨⟨k.files_valid, ?_, ?_, ?_, ?_⟩, ?_⟩
  · intro i b hi
    exact absurd hi (hrecords i b)
  · intro i j b c hi
    exact absurd hi (hrecords i b)
  · intro i b hi
    exact absurd hi (hrecords i b)
  · intro i b path hi
    exact absurd hi (hrecords i b)
  · intro i member hi
    exact absurd hi (hmembers i member)

theorem Ok.after (h : w.Ok) (hs : Sound k'.files k'.fresh records') (hi : Consistent records' i member)
    (hr : ∀ j ≠ i, ∀ b, w.records j = some b → ∃ b', records' j = some b' ∧ b'.name = b.name) :
    (w.after i member k' records').Ok := by
  refine ⟨hs, fun j m hj => ?_⟩
  by_cases hji : j = i
  · subst hji
    obtain rfl : member = m := by simpa [World.after] using hj
    exact hi
  · have hj : w.members j = some m := by simpa [World.after, hji] using hj
    exact (h.consistent j m hj).mono (hr j hji)

/-- The files are as they were, and so are the records. -/
theorem Ok.keep (h : w.Ok) (hfiles : k'.files = w.kernel.files) (hfresh : k'.fresh = w.kernel.fresh)
    (hi : Consistent w.records i member) : (w.after i member k' w.records).Ok := by
  have hs : Sound k'.files k'.fresh w.records := by
    rw [hfiles, hfresh]
    exact h.sound
  exact h.after hs hi fun _ _ b hb => ⟨b, hb, rfl⟩

/-- The removal on override. -/
theorem Ok.clear (h : w.Ok) {override : Bool} {name : Bytes} (hfiles : k'.files = cleared override name w.kernel.files)
    (hfresh : k'.fresh = w.kernel.fresh)
    (hi : ∀ records', (∀ b, w.records i = some b → ∃ b', records' i = some b' ∧ b'.name = b.name) →
      Consistent records' i member) :
    (w.after i member k' (if override then w.records.supersede name else w.records)).Ok := by
  cases override with
  | false => exact h.keep hfiles hfresh (hi _ fun b hb => ⟨b, hb, rfl⟩)
  | true =>
    have hs : Sound k'.files k'.fresh (w.records.supersede name) := by
      rw [hfiles, hfresh]
      exact h.sound.supersede name
    exact h.after hs (hi _ fun _ hb => Records.supersede_name hb) fun _ _ _ hb => Records.supersede_name hb

/-- The binding of a name by the next socket. -/
theorem Ok.bind (h : w.Ok) {name : Bytes} (hbound : Bound w.kernel.files name w.kernel.fresh k'.files)
    (hfresh : k'.fresh = w.kernel.fresh + 1)
    (hi : ∀ records' : Records, records' i = some ⟨name, w.kernel.fresh, true⟩ → Consistent records' i member) :
    (w.after i member k' (w.records.bind i name (some w.kernel.fresh))).Ok := by
  have hs : Sound k'.files k'.fresh (w.records.bind i name (some w.kernel.fresh)) := by
    rw [hfresh]
    exact h.sound.bind hbound i
  refine h.after hs (hi _ (Function.update_self ..)) fun j hj b hb => ⟨b, ?_, rfl⟩
  rw [Records.bind_of_ne hj]
  exact hb

/-- The closing of a socket that goes on to remove a file. -/
theorem Ok.close (h : w.Ok) {b : Record} (hb : w.records i = some b)
    (hfiles : k'.files = Function.update w.kernel.files b.name none) (hfresh : k'.fresh = w.kernel.fresh)
    (hown : b.stands = true ∨ w.kernel.files b.name = none)
    (hi : ∀ records', (∀ b, w.records i = some b → ∃ b', records' i = some b' ∧ b'.name = b.name) →
      Consistent records' i member) : (w.after i member k' (w.records.retire i)).Ok := by
  have hs : Sound k'.files k'.fresh (w.records.retire i) := by
    have hfile : ∀ owner, w.kernel.files b.name = some owner → owner = .socket b.id :=
      (h.sound.removes_own_iff w.kernel.files_nil hb).2 hown
    rw [hfiles, hfresh]
    exact h.sound.retire hb hfile
  exact h.after hs (hi _ fun _ hb => Records.retire_name hb) fun _ _ _ hb => Records.retire_name hb

end World

/-- At a closing that removes a file, the property is the condition. -/
theorem ownRemoval_iff_undisturbed {w : World} {i : ℕ} {member : Member} {b : Record}
    {tr : List (Event Sys Ans Kernel)} (h : w.Ok) (hmember : w.members i = some member) (hrem : member.Removing)
    (hb : w.records i = some b) (htr : Removes w.kernel.files b.name tr) :
    (OwnRemoval ⟨i, .close, w, tr⟩ ↔ Undisturbed ⟨i, .close, w, tr⟩) ∧
      (Undisturbed ⟨i, .close, w, tr⟩ → b.stands = true ∨ w.kernel.files b.name = none) := by
  have hcond : Undisturbed ⟨i, .close, w, tr⟩ ↔ b.stands = true ∨ w.kernel.files b.name = none := by
    constructor
    · intro hu
      exact hu rfl member hmember hrem b hb
    · intro hown _ _ _ _ c hc
      obtain rfl : b = c := Option.some_inj.1 (hb.symm.trans hc)
      exact hown
  rw [hcond]
  exact ⟨(ownRemoval_iff hb htr).trans (h.sound.removes_own_iff w.kernel.files_nil hb), id⟩

/-- **One step.** A step removes only its own file just if it is undisturbed, and then keeps the invariant. -/
theorem step_ownRemoval_iff {w w' : World} {m : Moment} (h : w.Ok) (hstep : Step w m w') :
    (OwnRemoval m ↔ Undisturbed m) ∧ (Undisturbed m → w'.Ok) := by
  -- a step that is not a closing has nothing to show but the invariant
  have hother : ∀ (act : Act) {i tr} {w' : World}, act ≠ .close → w'.Ok →
      (OwnRemoval ⟨i, act, w, tr⟩ ↔ Undisturbed ⟨i, act, w, tr⟩) ∧ (Undisturbed ⟨i, act, w, tr⟩ → w'.Ok) :=
    fun act _ _ _ hact hw => ⟨iff_of_true (fun h => absurd h hact) (fun h => absurd h hact), fun _ => hw⟩
  cases hstep with
  | prepare memory socketPath hnone =>
    have hlen : (resizePath socketPath).length ≤ sunPathSize := length_resizePath socketPath
    exact hother .prepare (by decide) (h.keep rfl rfl ⟨hlen, by simp⟩)
  | clear override hmember hrun =>
    obtain ⟨rfl, hfresh, hfiles⟩ := removeOnOverride_clears hrun
    have hlen := (h.consistent _ _ hmember).1
    exact hother .clear (by decide) (h.clear hfiles hfresh fun _ _ => ⟨hlen, by simp⟩)
  | bind hmember hrun =>
    have hlen := (h.consistent _ _ hmember).1
    obtain ⟨hpath, htable, hfresh, hbound⟩ := openAndBind_binds hlen hrun
    rw [htable, hpath]
    refine hother .bind (by decide) (h.bind hbound hfresh fun records' hr => ?_)
    rw [Consistent, hpath]
    exact ⟨hlen, fun _ => ⟨_, hr, rfl⟩⟩
  | listen hmember hrun =>
    obtain ⟨rfl, rfl⟩ := startListening_keeps hrun
    obtain ⟨hlen, hrec⟩ := h.consistent _ _ hmember
    have hbound := hrec (Or.inl rfl)
    exact hother .listen (by decide) (h.keep rfl rfl ⟨hlen, fun _ => hbound⟩)
  | close hmember hrun =>
    obtain ⟨hpath, htr, hfresh, hfiles⟩ := close_removes hrun
    have hcons := h.consistent _ _ hmember
    obtain ⟨b, hb, hname⟩ := hcons.2 (Or.inr rfl)
    rw [← hname] at htr hfiles
    obtain ⟨hiff, hown⟩ := ownRemoval_iff_undisturbed h hmember trivial hb htr
    refine ⟨hiff, fun hu => h.close hb hfiles hfresh (hown hu) fun records' hr => ?_⟩
    have hmono := hcons.mono hr
    rw [Consistent, hpath]
    exact hmono
  | prepareDatagram hnone =>
    exact hother .prepare (by decide) (h.keep rfl rfl ⟨by simp, by simp⟩)
  | clearDatagram override socketPath hmember hrun =>
    obtain ⟨rfl, hfresh, hfiles⟩ := datagram_removeOnOverride_clears hrun
    refine hother .clear (by decide) (h.clear hfiles hfresh fun records' hr => ⟨?_, ?_⟩)
    · rintro path ⟨⟩
      exact length_resizePath socketPath
    · exact ((h.consistent _ _ hmember).mono hr).2
  | bindDatagram hmember hres hrun =>
    have hlen := (h.consistent _ _ hmember).1 _ rfl
    obtain ⟨-, hpath, htable, hfresh, hbound⟩ := datagram_openAndBind_binds hlen hres hrun
    rw [htable]
    refine hother .bind (by decide) (h.bind hbound hfresh fun records' hr => ?_)
    exact ⟨by simp, fun _ => ⟨_, hpath, _, hr, rfl⟩⟩
  | @closeDatagram i o o' pending tr k' hmember hrun =>
    have hcons := h.consistent _ _ hmember
    by_cases hbound : o.bound = true
    · rw [if_pos hbound]
      obtain ⟨path, hpath, b, hb, hname⟩ := hcons.2 hbound
      obtain ⟨hclosed, htr, hfresh, hfiles⟩ := datagram_close_removes hbound hpath hrun
      rw [← hname] at htr hfiles
      obtain ⟨hiff, hown⟩ := ownRemoval_iff_undisturbed h hmember hbound hb htr
      have hcons' : ∀ records', Consistent records' i (.datagram o' pending) :=
        fun _ => ⟨hcons.1, by simp [hclosed]⟩
      exact ⟨hiff, fun hu => h.close hb hfiles hfresh (hown hu) fun records' _ => hcons' records'⟩
    · have hunbound : o.bound = false := by simpa using hbound
      rw [if_neg hbound]
      obtain ⟨hclosed, htr, hfresh, hfiles⟩ := datagram_close_keeps hunbound hrun
      have hcons' : Consistent w.records i (.datagram o' pending) := ⟨hcons.1, by simp [hclosed]⟩
      refine ⟨iff_of_true ?_ ?_, fun _ => h.keep hfiles hfresh hcons'⟩
      · intro _ e he path owner hcall
        exact absurd hcall (htr e he path)
      · intro _ member hmem hrem
        obtain rfl : Member.datagram o pending = member := Option.some_inj.1 (hmember.symm.trans hmem)
        exact absurd hrem hbound

/-- **Own files.** Along any interleaving every `close` removes only a file that the closed socket made by its last
binding, if and only if every `close` that removes a file finds that binding still standing, or no file at the path.
And then every binding that stands has its file. -/
theorem close_removes_own_iff {k : Kernel} {ms : List Moment} {w : World} (h : Path Step (World.start k) ms w) :
    ((∀ m ∈ ms, OwnRemoval m) ↔ ∀ m ∈ ms, Undisturbed m) ∧
      ((∀ m ∈ ms, Undisturbed m) → ∀ i b, w.records i = some b → b.stands = true →
        b.name = [] ∨ w.kernel.files b.name = some (.socket b.id)) := by
  constructor
  · exact h.forall_iff (fun _ _ _ hw hs => step_ownRemoval_iff hw hs) (World.start_ok k)
  · intro hu
    have hstep : ∀ w m w', World.Ok w → Undisturbed m → Step w m w' → World.Ok w' ∧ True :=
      fun _ _ _ hw hu hs => ⟨(step_ownRemoval_iff hw hs).2 hu, trivial⟩
    have hok : w.Ok := (Path.invariant hstep h (World.start_ok k) hu).1
    exact hok.sound.own

section Examples

/-- A datagram socket and a server, both at the path "s": the socket is bound and closed, and then the server, which was
prepared in the meantime, listens there and is closed. -/
theorem close_removes_own_iff_bind_close : ∃ ms w, Path Step (World.start (.boot [])) ms w ∧
    ms.map (fun m => (m.index, m.act)) = [(0, .prepare), (0, .clear), (0, .bind), (1, .prepare), (0, .close), (1, .clear),
      (1, .bind), (1, .listen), (1, .close)] ∧ ∀ m ∈ ms, OwnRemoval m := by
  have hrun {S α : Type} (m : M S α) (o : S) (k : Kernel) := Kernel.execute_runs (fun _ => false) 3 m o k
  have hpath : Path Step (World.start (.boot [])) _ _ :=
    .cons (.prepareDatagram (i := 0) rfl) (.cons (.clearDatagram false [115]
      (World.after_self ..) (hrun _ _ _)) (.cons (.bindDatagram (World.after_self ..) (by decide : (0 : ℤ) ≠ -1)
        (hrun (DatagramIPCSocket.openAndBind [115] none) {} _))
          (.cons (.prepare (i := 1) ⟨0, []⟩ [115] rfl) (.cons (.closeDatagram (i := 0) rfl
            (hrun DatagramIPCSocket.close ⟨true, some [115], 3, none⟩ _))
              (.cons (.clear (i := 1) false rfl (hrun _ _ _))
                (.cons (.bind (World.after_self ..) (hrun (IPCServerSocket.openAndBind none) ⟨0, [115]⟩ _))
                  (.cons (.listen (World.after_self ..) (hrun (IPCServerSocket.startListening 0) ⟨3, [115]⟩ _))
                    (.cons (.close (World.after_self ..) (hrun IPCServerSocket.close ⟨3, [115]⟩ _)) (.nil _)))))))))
  refine ⟨_, _, hpath, rfl, (close_removes_own_iff hpath).1.2 ?_⟩
  simp only [List.forall_mem_cons]
  refine ⟨nofun, nofun, nofun, nofun, ?_, nofun, nofun, nofun, ?_, by simp⟩
  · rintro - - - - b ⟨⟩
    exact Or.inl rfl
  · rintro - - - - b ⟨⟩
    exact Or.inl rfl

/-- A server listens at the path "s" and is closed, a datagram socket is bound to "s", and the server is closed again:
this removes the file of the datagram socket. -/
theorem close_removes_foreign : ¬ ∀ k ms w, Path Step (World.start k) ms w → ∀ m ∈ ms, OwnRemoval m := by
  intro h
  have hrun {S α : Type} (m : M S α) (o : S) (k : Kernel) := Kernel.execute_runs (fun _ => false) 3 m o k
  have hpath : Path Step (World.start (.boot [])) _ _ :=
    .cons (.prepare (i := 0) ⟨0, []⟩ [115] rfl) (.cons (.clear false (World.after_self ..) (hrun _ _ _))
      (.cons (.bind (World.after_self ..) (hrun (IPCServerSocket.openAndBind none) ⟨0, [115]⟩ _))
        (.cons (.listen (World.after_self ..) (hrun (IPCServerSocket.startListening 0) ⟨3, [115]⟩ _))
          (.cons (.close (World.after_self ..) (hrun IPCServerSocket.close ⟨3, [115]⟩ _))
            (.cons (.prepareDatagram (i := 1) rfl) (.cons (.clearDatagram false [115]
              (World.after_self ..) (hrun _ _ _)) (.cons (.bindDatagram (World.after_self ..) (by decide : (0 : ℤ) ≠ -1)
                (hrun (DatagramIPCSocket.openAndBind [115] none) {} _))
                  (.cons (.close (i := 0) rfl (hrun IPCServerSocket.close ⟨-1, [115]⟩ _)) (.nil _)))))))))
  have hown := h _ _ _ hpath
  simp only [List.forall_mem_cons] at hown
  obtain ⟨-, -, -, -, -, -, -, -, hclose, -⟩ := hown
  obtain ⟨b, ⟨⟩, hown⟩ := hclose rfl _ (List.mem_cons_of_mem _ List.mem_cons_self) [115] (.socket 1) rfl rfl
  exact absurd hown (by decide)

end Examples

end SocketLibrary.Files
