import SocketLibrary.Binding.Fields

/-!
# What a bound object holds

`bind` writes `receiveSocket` before it tests the old flag, and can throw in between. Which sequences of calls on a new
object keep the flag truthful, so that a bound object always holds an open descriptor with the name that is stored, is
`bound_truthful_iff`: those in which `socket` never fails in a `bind` of an object that is bound.
-/

namespace SocketLibrary.Binding

open SocketLibrary.Interaction SocketLibrary.Posix SocketLibrary.Model SocketLibrary.Steps SocketLibrary.Descriptors

/-! ## One call -/

section Calls

variable {S K R : Type} (bound : S → Bool) (fd : S → SOCKET) (stores : S → SockAddr → Prop) (kind : K → Kind)

/-- If the object is bound, its descriptor is open and was bound to what is stored. -/
def Truthful (o : S) (n : Net) : Prop := bound o = true → ∃ name, Serves bound fd stores o n name

/-- The state after a call is truthful. -/
def TruthfulAfter (v : Visit Sys Ans Net Exn S K R) : Prop := Truthful bound fd stores v.obj' v.world'

/-- In a `bind` of an object that is bound, `socket` does not fail. -/
def GetsSocket (v : Visit Sys Ans Net Exn S K R) : Prop :=
  kind v.call = .bind → bound v.obj = true → ¬ ∃ e ∈ v.trace, NoSocket e

/-- What a call does to the binding: a `bind` ends as it can, and another call loses the binding or leaves it. -/
inductive CallEnd (kind : Kind) (o : S) (n : Net) (tr : List (Event Sys Ans Net)) (o' : S) (n' : Net) : Prop where
  | bind {B : Type} {address : SockAddr} {r : Outcome Exn (ℤ × B)} : kind = .bind →
      BindEnd bound fd stores address o tr r o' n' → CallEnd kind o n tr o' n'
  | left : (kind = .bind → ¬ ∃ e ∈ tr, NoSocket e) → bound o' = bound o →
      (∀ name, Serves bound fd stores o n name → Serves bound fd stores o' n' name) → CallEnd kind o n tr o' n'
  | lost : kind ≠ .bind → bound o' = false → CallEnd kind o n tr o' n'

variable {bound fd stores kind}

theorem truthful_of_unbound {o : S} {n : Net} (h : bound o = false) : Truthful bound fd stores o n := by
  intro htrue
  rw [h] at htrue
  cases htrue

/-- **A call from a truthful state** leads to one just if it does not fail to open a descriptor for a bound object. -/
theorem Truthful.step {k : K} {o o' : S} {n n' : Net} {tr : List (Event Sys Ans Net)} {r : Outcome Exn R}
    (h : Truthful bound fd stores o n) (hend : CallEnd bound fd stores (kind k) o n tr o' n') :
    TruthfulAfter bound fd stores (⟨k, o, n, tr, r, o', n'⟩ : Visit Sys Ans Net Exn S K R) ↔
      GetsSocket bound kind (⟨k, o, n, tr, r, o', n'⟩ : Visit Sys Ans Net Exn S K R) := by
  unfold TruthfulAfter GetsSocket
  cases hend with
  | bind hk hbind =>
    cases hbind with
    | noSocket hs hthrew hkept hfd =>
      constructor
      · -- the flag is still set, but there is no descriptor
        intro hafter _ htrue
        obtain ⟨name, -, ⟨id, hid, -⟩, -⟩ := hafter (hkept.trans htrue)
        rw [hfd, Kernel.table_neg_one] at hid
        cases hid
      · intro hsocket htrue
        exact absurd hs (hsocket hk (hkept.symm.trans htrue))
    | failed hs hfails hbound => exact iff_of_true (truthful_of_unbound hbound) fun _ _ => hs
    | bound b name hs hfalse hr hserves hassigned => exact iff_of_true (fun _ => ⟨name, hserves⟩) fun _ _ => hs
  | left hs hkept hserves =>
    refine iff_of_true ?_ fun hk _ => hs hk
    intro htrue
    obtain ⟨name, hname⟩ := h (hkept.symm.trans htrue)
    exact ⟨name, hserves name hname⟩
  | lost hk hbound => exact iff_of_true (truthful_of_unbound hbound) fun hbind => absurd hbind hk

/-- **Sequences of calls.** They stay truthful just if no call fails to open a descriptor for a bound object. -/
theorem truthful_iff {perform : K → M S R}
    (hend : ∀ k o n, (perform k).wp Net.env (fun tr _ o' n' => CallEnd bound fd stores (kind k) o n tr o' n') o n)
    {visits : List (Visit Sys Ans Net Exn S K R)} {o o' : S} {n n' : Net} (ho : bound o = false)
    (h : Session Net.env perform o n visits o' n') :
    (∀ v ∈ visits, TruthfulAfter bound fd stores v) ↔ ∀ v ∈ visits, GetsSocket bound kind v := by
  refine Session.forall_iff (I := Truthful bound fd stores) ?_ h (truthful_of_unbound ho)
  intro k o n tr r o' n' hI hr
  have hstep := hI.step (r := r) (hr.post (hend k o n))
  exact ⟨hstep, hstep.2⟩

/-- A call that only sends, receives or waits. -/
theorem callEnd_of_unchanged {P : Sys → Prop} {k : Kind} (hk : k = .send ∨ k = .other) {m : M S R} {o : S} {n : Net}
    (heff : m.wp Kernel.env (Effect fd k o n.kernel) o n.kernel) (hm : m.Always P o fun _ o' => o' = o) :
    m.wp Net.env (fun tr _ o' n' => CallEnd bound fd stores k o n tr o' n') o n := by
  rw [Method.wp_iff]
  intro tr r o' n' hr
  obtain ⟨-, rfl⟩ := hm.runs hr
  obtain ⟨tr', hr'⟩ := Net.runs_kernel hr
  have htable : ∀ id, n.kernel.table (fd o') = some id → n'.kernel.table (fd o') = some id := by
    intro id hid
    have heff := Method.Runs.post hr' heff
    rcases hk with rfl | rfl
    · obtain ⟨-, ⟨-, htable⟩ | ⟨-, new, hnew, htable⟩⟩ := heff
      · rw [htable, hid]
      · have hne : fd o' ≠ new := by
          rintro rfl
          rw [hnew] at hid
          cases hid
        rw [htable, Function.update_of_ne hne, hid]
    · rw [heff.2, hid]
  refine .left (fun hbind => ?_) rfl ?_
  · subst hbind
    simp at hk
  · rintro name ⟨htrue, ⟨id, hid, hname⟩, hstores⟩
    exact ⟨htrue, ⟨id, htable id hid, Net.runs_names hr hname⟩, hstores⟩

/-- The result of a call makes no difference. -/
theorem CallEnd.discard {B : Type} {k : Kind} {m : M S B} {o : S} {n : Net}
    (hm : m.wp Net.env (fun tr _ o' n' => CallEnd bound fd stores k o n tr o' n') o n) :
    Method.wp Net.env (do let _ ← m; return () : M S Unit)
      (fun tr _ o' n' => CallEnd bound fd stores k o n tr o' n') o n := by
  rw [Method.wp_bind]
  refine Method.wp_mono hm ?_
  rintro tr (a | e | _) o' n' h
  · rw [Method.after_returned, Method.wp_pure, List.append_nil]
    exact h
  · exact h
  · exact h

theorem callEnd_of_bind {B : Type} {address : SockAddr} {m : M S (ℤ × B)} {o : S} {n : Net}
    (hm : m.wp Net.env (BindEnd bound fd stores address o) o n) : Method.wp Net.env (do let _ ← m; return () : M S Unit)
      (fun tr _ o' n' => CallEnd bound fd stores .bind o n tr o' n') o n :=
  CallEnd.discard (Method.wp_mono hm fun _ _ _ _ h => .bind rfl h)

/-- A call that has not reached the system, and has changed nothing of the binding. -/
theorem callEnd_refl {k : Kind} {o o' : S} {n : Net} (hbound : bound o' = bound o) (hfd : fd o' = fd o)
    (hstores : ∀ name, stores o name → stores o' name) : CallEnd bound fd stores k o n [] o' n := by
  refine .left (fun _ => not_exists_nil) hbound ?_
  rintro name ⟨htrue, hname, hstored⟩
  exact ⟨hbound.trans htrue, hfd ▸ hname, hstores name hstored⟩

end Calls

/-! ## The calls of the two classes -/

section UDP

variable {dm : DataModel}

/-- A call that makes a result and leaves the object as it is. -/
theorem always_discard {S α : Type} {P : Sys → Prop} {m : M S α} {o : S} (hm : m.Always P o (Unchanged o)) :
    (m >>= fun _ => pure ()).Always P o fun _ o' => o' = o :=
  hm.wrap fun _ _ h => h.1

theorem udpBindHost_ends (o : UDPSocket) (n : Net) (protocolVersion : InternetProtocolVersion)
    (localHostname : Option Bytes) (port : UInt16) (operation : Option Callback) :
    (UDPSocket.bindHost protocolVersion localHostname port operation).wp Net.env (fun tr _ o' n' =>
      CallEnd UDPSocket.bound UDPSocket.receiveSocket StoresPort .bind o n tr o' n') o n := by
  simp only [UDPSocket.bindHost, resolveToAddresses, Method.wp_bind, wp_sys, Method.after_returned]
  rintro ⟨code, addresses⟩ n₁ ⟨hk, hnames⟩
  obtain rfl : n₁ = n := Net.ext hk hnames
  have hresolved : ∀ node service hints,
      ¬ ∃ e ∈ [(⟨n₁, .getaddrinfo node service hints, (code, addresses)⟩ : Event Sys Ans Net)], NoSocket e :=
    fun _ _ _ => not_exists_cons id not_exists_nil
  by_cases hcode : code ≠ 0 ∨ addresses = []
  · simp only [hcode, if_true, Method.wp_pure, Method.after_returned, Method.wp_throw, or_true]
    exact .left (fun _ => hresolved _ _ _) rfl fun _ h => h
  · simp only [hcode, if_false, Method.wp_pure, Method.after_returned, List.append_nil]
    refine Method.wp_mono (udpBind_ends o n₁ _ operation) ?_
    intro tr r o' n' h
    exact .bind rfl (h.prepend (hresolved _ _ _))

/-- **Every call of a `UDPSocket`.** -/
theorem udpCall_ends (call : UDPCall dm) (o : UDPSocket) (n : Net) : call.perform.wp Net.env
    (fun tr _ o' n' => CallEnd UDPSocket.bound UDPSocket.receiveSocket StoresPort call.kind o n tr o' n') o n := by
  have heff := call.perform_effect o n.kernel
  cases call with
  | bind addressOpt operation =>
    cases addressOpt with
    | none => exact callEnd_refl rfl rfl fun _ h => h
    | some address => exact callEnd_of_bind (udpBind_ends o n address operation)
  | bindHost version host port operation => exact CallEnd.discard (udpBindHost_ends o n version host port operation)
  | sendTo address message flags =>
    exact callEnd_of_unchanged (Or.inl rfl) heff (always_discard (udpSend_unchanged o _ _ _ _))
  | sendBufferTo address buffer bufferLength flags =>
    exact callEnd_of_unchanged (Or.inl rfl) heff (always_discard (udpSend_unchanged o _ _ _ _))
  | sendToHost hostname port message flags version =>
    exact callEnd_of_unchanged (Or.inl rfl) heff (always_discard (udpSendToHost_unchanged o _ _ _ _ _ _))
  | sendBufferToHost hostname port buffer bufferLength flags version =>
    exact callEnd_of_unchanged (Or.inl rfl) heff (always_discard (udpSendToHost_unchanged o _ _ _ _ _ _))
  | receiveFrom receiveLength flags =>
    exact callEnd_of_unchanged (Or.inr rfl) heff (always_discard (udpReceive_unchanged o _ _))
  | receiveFromInto buffer receiveLength flags =>
    exact callEnd_of_unchanged (Or.inr rfl) heff (always_discard (udpReceiveInto_unchanged o _ _ _))
  | ready timeout => exact callEnd_of_unchanged (Or.inr rfl) heff (always_discard (udpReady_unchanged dm o timeout))
  | setPreSendSocketOperation operation => exact callEnd_refl rfl rfl fun _ h => h
  | close =>
    rw [Method.wp_iff]
    intro tr r o' n' hr
    have hunbound := ((udpClose_unbinds (o := o)).runs hr).2.2.1
    exact .lost (by simp [UDPCall.kind]) hunbound

end UDP

section Datagram

variable {dm : DataModel}

/-- The path of the name is the one stored. -/
def StoresPath (o : DatagramIPCSocket) (name : SockAddr) : Prop := ∃ path, KeepsPath path o name

theorem datagramBind_callEnd (o : DatagramIPCSocket) (n : Net) (override : Bool) (path : Option Bytes)
    (operation : Option Callback) :
    Method.wp Net.env (do let _ ← DatagramIPCSocket.bindOverride override path operation)
      (fun tr _ o' n' =>
        CallEnd DatagramIPCSocket.bound DatagramIPCSocket.receiveSocket StoresPath .bind o n tr o' n') o n := by
  cases path with
  | none => exact callEnd_refl rfl rfl fun _ h => h
  | some path =>
    refine CallEnd.discard (Method.wp_mono (datagramBind_ends o n override path operation) ?_)
    intro tr r o' n' h
    exact .bind rfl (h.mono fun o name hkeeps => ⟨_, hkeeps⟩)

/-- A receiving call of a `DatagramIPCSocket`. -/
theorem always_discard_reads {α : Type} {P : Sys → Prop} {m : M DatagramIPCSocket α} {o : DatagramIPCSocket}
    (hm : m.Always P o (ReadsPath o)) : (m >>= fun _ => pure ()).Always P o fun _ o' => o' = o :=
  hm.wrap fun _ _ h => h.1

/-- **Every call of a `DatagramIPCSocket`.** -/
theorem datagramCall_ends (call : DatagramCall dm) (o : DatagramIPCSocket) (n : Net) : call.perform.wp Net.env
    (fun tr _ o' n' =>
      CallEnd DatagramIPCSocket.bound DatagramIPCSocket.receiveSocket StoresPath call.kind o n tr o' n') o n := by
  have heff := call.perform_effect o n.kernel
  cases call with
  | bind path operation => exact datagramBind_callEnd o n false path operation
  | bindOverride override path operation => exact datagramBind_callEnd o n override path operation
  | sendTo path message flags =>
    exact callEnd_of_unchanged (Or.inl rfl) heff (always_discard (datagramSend_unchanged o _ _ _ _))
  | sendBufferTo path buffer bufferLength flags =>
    exact callEnd_of_unchanged (Or.inl rfl) heff (always_discard (datagramSend_unchanged o _ _ _ _))
  | receiveFrom receiveLength flags =>
    exact callEnd_of_unchanged (Or.inr rfl) heff (always_discard_reads (datagramReceive_reads o _ _))
  | receiveFromInto buffer receiveLength flags =>
    exact callEnd_of_unchanged (Or.inr rfl) heff (always_discard_reads (datagramReceiveInto_reads o _ _ _))
  | ready timeout =>
    exact callEnd_of_unchanged (Or.inr rfl) heff (always_discard (datagramReady_unchanged dm o timeout))
  | setPreSendSocketOperation operation => exact callEnd_refl rfl rfl fun _ h => h
  | close =>
    rw [Method.wp_iff]
    intro tr r o' n' hr
    have hunbound := ((datagramClose_unbinds (o := o)).runs hr).2.2.1
    exact .lost (by simp [DatagramCall.kind]) hunbound

end Datagram

/-- **A bound object holds what it is bound to.** For a new `UDPSocket`, and likewise a new `DatagramIPCSocket`: after
every call of a sequence a bound object has an open descriptor that was bound to the stored address, if and only if in
no `bind` of an object that is bound `socket` fails. -/
theorem bound_truthful_iff (dm : DataModel) (n n' : Net) :
    (∀ visits o', Session Net.env (@UDPCall.perform dm) {} n visits o' n' →
      ((∀ v ∈ visits, TruthfulAfter UDPSocket.bound UDPSocket.receiveSocket StoresPort v) ↔
        ∀ v ∈ visits, GetsSocket UDPSocket.bound UDPCall.kind v)) ∧
    ∀ visits o', Session Net.env (@DatagramCall.perform dm) {} n visits o' n' →
      ((∀ v ∈ visits, TruthfulAfter DatagramIPCSocket.bound DatagramIPCSocket.receiveSocket StoresPath v) ↔
        ∀ v ∈ visits, GetsSocket DatagramIPCSocket.bound DatagramCall.kind v) :=
  ⟨fun _ _ h => truthful_iff udpCall_ends rfl h, fun _ _ h => truthful_iff datagramCall_ends rfl h⟩

section Examples

/-- A system on which opening a socket fails. -/
def noSockets : Sys → Bool
  | .socket .. => true
  | _ => false

/-- Binding and closing keeps the flag truthful. -/
theorem bound_truthful_iff_bind_close : ∃ visits o' n',
    Session Net.env (@UDPCall.perform .lp64) {} .boot visits o' n' ∧
      visits.map (·.call) = [.bind (some .zero) none, .close] ∧
      ∀ v ∈ visits, TruthfulAfter UDPSocket.bound UDPSocket.receiveSocket StoresPort v := by
  have h1 := Net.execute_runs (fun _ => false) 3 (@UDPCall.perform .lp64 (.bind (some .zero) none)) {} .boot
  have hs := Path.cons (VisitStep.mk h1) (.cons (VisitStep.mk
    (Net.execute_runs (fun _ => false) 4 (@UDPCall.perform .lp64 .close) _ _)) (.nil _))
  refine ⟨_, _, _, hs, rfl, ((bound_truthful_iff .lp64 _ _).1 _ _ hs).2 fun v hv => ?_⟩
  rcases List.mem_cons.1 hv with rfl | hv
  · intro _ htrue
    exact absurd htrue (by simp)
  · rcases List.mem_singleton.1 hv with rfl
    intro hbind
    exact absurd hbind (by simp [UDPCall.kind])

/-- When a second `bind` gets no descriptor, the object is bound and has none. -/
theorem rebind_lies : ¬ ∀ (n n' : Net) (visits : List (Visit Sys Ans Net Exn UDPSocket (UDPCall .lp64) Unit))
    (o' : UDPSocket), Session Net.env (@UDPCall.perform .lp64) {} n visits o' n' →
      ∀ v ∈ visits, TruthfulAfter UDPSocket.bound UDPSocket.receiveSocket StoresPort v := by
  intro h
  have h1 := Net.execute_runs (fun _ => false) 3 (@UDPCall.perform .lp64 (.bind (some .zero) none)) {} .boot
  have hs := Path.cons (VisitStep.mk h1) (.cons (VisitStep.mk
    (Net.execute_runs noSockets 4 (@UDPCall.perform .lp64 (.bind (some .zero) none)) _ _)) (.nil _))
  have hafter := h _ _ _ _ hs _ (List.mem_cons_of_mem _ List.mem_cons_self)
  obtain ⟨name, -, ⟨id, hid, -⟩, -⟩ := hafter rfl
  have hnone : Kernel.table _ (-1) = some id := hid
  rw [Kernel.table_neg_one] at hnone
  cases hnone

end Examples

end SocketLibrary.Binding
