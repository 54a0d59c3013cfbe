import SocketLibrary.Files.Paths

/-!
# Operations get to their paths

No operation refuses a path: unless there is no descriptor, or the operation of the user throws, each goes on to the call
that uses its path (`perform_hands`). An override, and the `close` of a bound socket, call `std::remove`.
-/

namespace SocketLibrary.Files

open SocketLibrary.Interaction SocketLibrary.Posix SocketLibrary.Model SocketLibrary.Steps

section Handing

variable {σ S α β : Type} {env : Env Sys Ans σ} {I : S → Prop} {a : SockAddr} {p : Bytes}

/-- What ends an operation before it uses its path: there is no descriptor, or the operation of the user throws. -/
def Interrupts : Event Sys Ans σ → Prop
  | ⟨_, .socket .., fd⟩ => fd = -1
  | ⟨_, .callback .., ending⟩ => ending = .threw
  | _ => False

/-- The address has been handed over in the course of the trace, unless something has come between. -/
def Handed (a : SockAddr) (tr : List (Event Sys Ans σ)) : Prop :=
  (∃ e ∈ tr, Interrupts e) ∨ ∃ e ∈ tr, addressOf e.call = some a

theorem Handed.append_left {tr : List (Event Sys Ans σ)} (h : Handed a tr) (tr' : List (Event Sys Ans σ)) :
    Handed a (tr ++ tr') := by
  rcases h with ⟨e, he, h⟩ | ⟨e, he, h⟩
  · exact Or.inl ⟨e, List.mem_append_left _ he, h⟩
  · exact Or.inr ⟨e, List.mem_append_left _ he, h⟩

theorem Handed.append_right {tr' : List (Event Sys Ans σ)} (h : Handed a tr') (tr : List (Event Sys Ans σ)) :
    Handed a (tr ++ tr') := by
  rcases h with ⟨e, he, h⟩ | ⟨e, he, h⟩
  · exact Or.inl ⟨e, List.mem_append_right _ he, h⟩
  · exact Or.inr ⟨e, List.mem_append_right _ he, h⟩

/-- The method hands the address over, on an object in the invariant. -/
def Hands (env : Env Sys Ans σ) (I : S → Prop) (a : SockAddr) (m : M S α) : Prop :=
  ∀ o s, I o → m.wp env (fun tr _ _ _ => Handed a tr) o s

/-- The method returns and keeps the invariant, unless something comes between. -/
def Passes (env : Env Sys Ans σ) (I : S → Prop) (m : M S α) : Prop :=
  ∀ o s, I o → m.wp env (fun tr r o' _ => (∃ e ∈ tr, Interrupts e) ∨ (∃ b, r = .returned b) ∧ I o') o s

/-- What follows a part that hands the address over makes no difference. -/
theorem Hands.first {m : M S α} {f : α → M S β} (hm : Hands env I a m) : Hands env I a (m >>= f) := by
  intro o s ho
  apply Method.wp_bind_of_first (hm o s ho)
  intro tr tr' r o' s' h
  exact h.append_left tr'

/-- A part that passes leads on to the one that hands the address over. -/
theorem Passes.hands {m : M S α} {f : α → M S β} (hm : Passes env I m) (hf : ∀ b, Hands env I a (f b)) :
    Hands env I a (m >>= f) := by
  intro o s ho
  rw [Method.wp_bind]
  refine Method.wp_mono (hm o s ho) ?_
  rintro tr (b | e | _) o' s' h
  · rw [Method.after_returned, Method.wp_iff]
    intro tr' r o'' s'' hrun
    rcases h with h | ⟨-, ho'⟩
    · exact Handed.append_left (Or.inl h) tr'
    · exact Handed.append_right (hrun.post (hf b o' s' ho')) tr
  · rcases h with h | ⟨⟨b, hb⟩, -⟩
    · exact Or.inl h
    · cases hb
  · rcases h with h | ⟨⟨b, hb⟩, -⟩
    · exact Or.inl h
    · cases hb

theorem runOperation_passes (operation : Option Callback) (fd : SOCKET) :
    Passes env I (runOperation operation fd) := by
  intro o s ho
  cases operation with
  | none => exact Or.inr ⟨⟨(), rfl⟩, ho⟩
  | some f =>
    simp only [runOperation, Method.wp_bind, wp_sys]
    rintro (_ | _) s' -
    · exact Or.inr ⟨⟨(), rfl⟩, ho⟩
    · exact Or.inl ⟨_, List.mem_cons_self, rfl⟩

/-- A call that comes between, or leads on to the method that hands the address over. -/
theorem hands_sys {c : Sys} {f : Ans c → M S β} (hf : ∀ (s : σ) x, Interrupts ⟨s, c, x⟩ ∨ Hands env I a (f x)) :
    Hands env I a (sys c >>= f) := by
  intro o s ho
  rw [Method.wp_bind, wp_sys]
  intro x s' _
  rw [Method.after_returned, Method.wp_iff]
  intro tr r o' s'' hrun
  rcases hf s x with h | h
  · exact Or.inl ⟨_, List.mem_cons_self, h⟩
  · exact Handed.append_right (hrun.post (h o s' ho)) [_]

/-- A method that begins with a call has made it, whatever follows. -/
theorem first_made {m : M S α} {o : S} {c : Sys} {k : Ans c → Prog Sys Ans (Outcome Exn α × S)} (h : m o = .call c k)
    (s : σ) : m.wp env (fun tr _ _ _ => ∃ e ∈ tr, e.call = c) o s := by
  rw [Method.wp_iff]
  intro tr r o' s' hr
  obtain ⟨x, s₁, tr', -, -, rfl⟩ := Method.Runs.of_call h hr
  exact ⟨_, List.mem_cons_self, rfl⟩

/-- The call with the address. -/
theorem hands_address {c : Sys} (h : addressOf c = some a) {f : Ans c → M S β} : Hands env I a (sys c >>= f) := by
  intro o s _
  refine Method.wp_mono (first_made rfl s) ?_
  rintro tr r o' s' ⟨e, he, rfl⟩
  exact Or.inr ⟨e, he, h⟩

theorem hands_modify {g : S → S} {f : Unit → M S β} (hg : ∀ o, I o → I (g o)) (hf : Hands env I a (f ())) :
    Hands env I a (Method.modify g >>= f) := fun o s ho => hf (g o) s (hg o ho)

theorem hands_this {f : S → M S β} (hf : ∀ o, I o → Hands env (· = o) a (f o)) :
    Hands env I a (Method.this >>= f) := fun o s ho => hf o ho o s rfl

theorem hands_ite {q : Prop} [Decidable q] {m m' : M S β} (hq : ¬ q) (h : Hands env I a m') :
    Hands env I a (if q then m else m') := by
  rwa [if_neg hq]

/-! ## The operations -/

theorem server_hands (override : Bool) (connectionBacklogSize : UInt32) (operation : Option Callback) :
    Hands env (fun _ => True) (.un (sunPath p))
      (IPCServerSocket.construct p override connectionBacklogSize operation) := by
  have hclear : Passes env (fun o => o.socketPath = resizePath p) (IPCServerSocket.removeOnOverride override) := by
    intro o s ho
    cases override <;> simp [IPCServerSocket.removeOnOverride, IPCSocket.removeSocketPath, ho]
  have hopen : Passes env (fun o => o.socketPath = resizePath p) IPCServerSocket.openSocket := by
    intro o s ho
    simp only [IPCServerSocket.openSocket, Method.wp_bind, wp_sys, Method.after_returned, Method.wp_modify]
    intro fd s' _
    by_cases hfd : fd = -1
    · simp [hfd, getErrorCode, Interrupts]
    · simp [hfd, ho]
  have hbind : Hands env (fun o => o.socketPath = resizePath p) (.un (sunPath p)) IPCServerSocket.bindPath := by
    refine hands_this fun o ho => hands_address ?_
    rw [ho]
    rfl
  have hthis : Passes env (fun o => o.socketPath = resizePath p) (Method.this : M IPCServerSocket _) := by
    intro o s ho
    exact Or.inr ⟨⟨o, rfl⟩, ho⟩
  have hsteps := hclear.hands fun _ => Hands.first (f := fun _ => IPCServerSocket.startListening connectionBacklogSize)
    (hopen.hands fun _ => hthis.hands fun o => (runOperation_passes operation o.socket).hands fun _ => hbind)
  exact fun o s _ => hsteps _ s rfl

theorem stream_hands : Hands env (fun _ => True) (.un (sunPath p)) (StreamIPCSocket.construct p) := by
  intro o s _
  simp only [StreamIPCSocket.construct, StreamIPCSocket.constructSocket, Method.wp_bind (m := Method.modify _),
    Method.wp_bind (m := Method.this), Method.wp_modify, Method.wp_this, Method.after_returned]
  refine hands_sys (I := fun _ => True) (fun s fd => ?_) _ s trivial
  by_cases hfd : fd = -1
  · exact Or.inl hfd
  · refine Or.inr (hands_modify (fun _ h => h) ?_)
    exact hands_ite (by simpa using hfd) (hands_address rfl)

theorem datagramSend_hands (buffer : Bytes) (bufferLength flags : ℤ) :
    Hands env (fun _ => True) (.un (sunPath p)) (DatagramIPCSocket.sendBufferTo p buffer bufferLength flags) := by
  refine hands_sys fun s fd => ?_
  by_cases hfd : fd = -1
  · exact Or.inl hfd
  · refine Or.inr (hands_ite (by simpa using hfd) (hands_this fun o _ => ?_))
    exact (runOperation_passes _ _).hands fun _ => hands_address rfl

theorem datagramCloseIfBound_passes : Passes env (fun _ => True) DatagramIPCSocket.closeIfBound := by
  intro o s _
  have h : DatagramIPCSocket.closeIfBound.Always (Means none Set.univ) o fun r o' =>
      r = .returned () ∧ ∀ q, o'.socketPath = some q → o.socketPath = some q :=
    datagramCloseIfBound_means fun _ _ => Set.mem_univ _
  rw [Method.wp_iff]
  intro tr r o' s' hrun
  exact Or.inr ⟨⟨(), (h.runs hrun).2.1⟩, trivial⟩

theorem datagramBind_hands (override : Bool) (operation : Option Callback) :
    Hands env (fun _ => True) (.un (sunPath p)) (DatagramIPCSocket.bindOverride override (some p) operation) := by
  have hclear : Passes env (fun _ => True) (DatagramIPCSocket.removeOnOverride override (resizePath p)) := by
    intro o s _
    cases override <;> simp [DatagramIPCSocket.removeOnOverride, IPCSocket.removeSocketPath]
  refine hclear.hands fun _ => hands_sys fun s fd => ?_
  by_cases hfd : fd = -1
  · exact Or.inl hfd
  · refine Or.inr (hands_modify (fun _ h => h) (hands_ite (by simpa using hfd) ?_))
    refine datagramCloseIfBound_passes.hands fun _ => hands_this fun o _ => ?_
    exact (runOperation_passes _ _).hands fun _ => hands_address rfl

/-- **Every operation goes on with the path it is given**, whatever its length. -/
theorem perform_hands (op : PathOperation) : Hands env (fun _ => True) (.un (sunPath p)) (op.perform p) := by
  cases op with
  | ipcServerSocket override connectionBacklogSize operation => exact (server_hands _ _ _).first
  | streamIPCSocket => exact stream_hands.first
  | datagramBind override operation => exact (datagramBind_hands _ _).first
  | datagramSendTo message flags => exact (datagramSend_hands _ _ _).first
  | datagramSendBufferTo buffer bufferLength flags => exact (datagramSend_hands _ _ _).first

/-! ## Removal -/

/-- The file `name` is removed in the course of the trace. -/
def RemovesFile (name : Bytes) (tr : List (Event Sys Ans σ)) : Prop := ∃ e ∈ tr, removedName e.call = some name

/-- A method that begins by removing the path after the cut. -/
theorem removes_of_first {m : M S α} {o : S}
    {k : Ans (.remove (c_str (resizePath p))) → Prog Sys Ans (Outcome Exn α × S)}
    (h : m o = .call (.remove (c_str (resizePath p))) k) (s : σ) :
    m.wp env (fun tr _ _ _ => RemovesFile (c_str (sunPath p)) tr) o s := by
  refine Method.wp_mono (first_made h s) ?_
  rintro tr r o' s' ⟨e, he, hcall⟩
  refine ⟨e, he, ?_⟩
  rw [hcall, c_str_sunPath]
  rfl

theorem server_removes (connectionBacklogSize : UInt32) (operation : Option Callback) (o : IPCServerSocket) (s : σ) :
    (IPCServerSocket.construct p true connectionBacklogSize operation).wp env
      (fun tr _ _ _ => RemovesFile (c_str (sunPath p)) tr) o s := removes_of_first rfl s

theorem datagramBind_removes (operation : Option Callback) (o : DatagramIPCSocket) (s : σ) :
    (DatagramIPCSocket.bindOverride true (some p) operation).wp env
      (fun tr _ _ _ => RemovesFile (c_str (sunPath p)) tr) o s := removes_of_first rfl s

theorem serverClose_removes {o : IPCServerSocket} (ho : o.socketPath = resizePath p) (s : σ) :
    IPCServerSocket.close.wp env (fun tr _ _ _ => RemovesFile (c_str (sunPath p)) tr) o s := by
  simp [IPCServerSocket.close, Socket.close, IPCSocket.removeSocketPath, RemovesFile, removedName, c_str_sunPath, ho]

theorem datagramClose_removes {o : DatagramIPCSocket} (hcut : Cut o) (hbound : o.bound = true)
    (ho : o.socketPath = some p) (s : σ) :
    DatagramIPCSocket.close.wp env (fun tr _ _ _ => RemovesFile (c_str (sunPath p)) tr) o s := by
  simp [DatagramIPCSocket.close, DatagramIPCSocket.removeBoundPath, Socket.close, IPCSocket.removeSocketPath,
    RemovesFile, removedName, hbound, ho, hcut.c_str_eq ho]

end Handing

end SocketLibrary.Files
