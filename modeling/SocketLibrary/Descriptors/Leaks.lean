import Mathlib.Tactic
import SocketLibrary.Descriptors.Exceptions
import SocketLibrary.Interaction.Session

/-!
# Leaks over a sequence of calls

`UDPSocket` and `DatagramIPCSocket` keep one descriptor, `receiveSocket`, and open others for a moment. What a call of
either class can do to the open descriptors is said once (`Effect`), and from it follows which sequences of calls on a
new object never lose a descriptor (`leak_free_iff`, for both classes `sessions_leak_free_iff`).
-/

namespace SocketLibrary.Descriptors

open SocketLibrary.Interaction SocketLibrary.Posix SocketLibrary.Model

/-- What a call is for. -/
inductive Kind where
  | bind
  | send
  | close
  | other
  deriving DecidableEq

/-- The call has got as far as opening a descriptor. -/
def Reaches : Event Sys Ans Kernel → Prop
  | ⟨_, .socket .., _⟩ => True
  | _ => False

section Classes

variable {S K R : Type} (fd : S → SOCKET)

/-- What a call does to the descriptor that is stored and to the table. -/
def Effect {α : Type} (kind : Kind) (o : S) (k : Kernel) : Method.Post Sys Ans Kernel Exn S α := fun tr _ o' k' =>
  match kind with
  | .bind =>
    (¬ ∃ e ∈ tr, Reaches e) ∧ fd o' = fd o ∧ k'.table = k.table ∨
    (∃ e ∈ tr, Reaches e) ∧ (fd o' = -1 ∧ k'.table = k.table ∨
      k.table (fd o') = none ∧ k'.table = Function.update k.table (fd o') (some k.fresh))
  | .send => fd o' = fd o ∧
    ((¬ ∃ e ∈ tr, Strands e) ∧ k'.table = k.table ∨
      (∃ e ∈ tr, Strands e) ∧ ∃ new, k.table new = none ∧ k'.table = Function.update k.table new (some k.fresh))
  | .close => fd o' = -1 ∧ k'.table = Function.update k.table (fd o) none
  | .other => fd o' = fd o ∧ k'.table = k.table

/-- Of the descriptors opened since `n` only the stored one is open. -/
def Held (n : ℕ) (o : S) (k : Kernel) : Prop := ∀ f id, k.table f = some id → n ≤ id → f = fd o

/-- What holds between the calls as long as they are tidy. -/
structure Ledger (n : ℕ) (o : S) (k : Kernel) : Prop where
  fresh : n ≤ k.fresh
  held : Held fd n o k
  stored : fd o = -1 ∨ ∃ id, n ≤ id ∧ k.table (fd o) = some id

variable (kind : K → Kind)

/-- A call that opens `receiveSocket` finds it closed, and the operation of the user does not throw in `sendTo`. -/
def Tidy (v : Visit Sys Ans Kernel Exn S K R) : Prop := match kind v.call with
  | .bind => (∃ e ∈ v.trace, Reaches e) → fd v.obj = -1
  | .send => ¬ ∃ e ∈ v.trace, Strands e
  | _ => True

/-- After the call no descriptor is lost, and after a `close` none is open. -/
def LeakFree (n : ℕ) (v : Visit Sys Ans Kernel Exn S K R) : Prop :=
  Held fd n v.obj' v.world' ∧
    (kind v.call = .close → ∀ f id, v.world'.table f = some id → id < n)

end Classes

/-! ## From one call to a sequence of calls -/

section Sequences

variable {S K R : Type} {fd : S → SOCKET} {kind : K → Kind} {perform : K → M S R} {n : ℕ}

/-- A call that neither stores another descriptor nor changes the table. -/
theorem Ledger.keep {o o' : S} {w w' : Kernel} (h : Ledger fd n o w) (hfresh : w.fresh ≤ w'.fresh)
    (hfd : fd o' = fd o) (htable : w'.table = w.table) : Ledger fd n o' w' := by
  refine ⟨h.fresh.trans hfresh, ?_, ?_⟩
  · rw [Held, hfd, htable]
    exact h.held
  · rw [hfd, htable]
    exact h.stored

/-- A call that stores no descriptor and leaves none open. -/
theorem Ledger.empty {o' : S} {w w' : Kernel} (hn : n ≤ w.fresh) (hfresh : w.fresh ≤ w'.fresh) (hfd : fd o' = -1)
    (hnone : ∀ f id, w'.table f = some id → id < n) : Ledger fd n o' w' :=
  ⟨hn.trans hfresh, fun f id hid hle => absurd (hnone f id hid) (not_lt.2 hle), Or.inl hfd⟩

/-- The stored descriptor is all that is open of the object. -/
theorem Ledger.closed {o : S} {w : Kernel} (h : Ledger fd n o w) (f : SOCKET) (id : ℕ)
    (hid : Function.update w.table (fd o) none f = some id) : id < n := by
  by_cases hf : f = fd o
  · simp [hf] at hid
  · rw [Function.update_of_ne hf] at hid
    by_contra hle
    exact hf (h.held f id hid (not_lt.1 hle))

/-- With nothing stored, a call that opens a descriptor may store it. -/
theorem Ledger.store {o o' : S} {w w' : Kernel} (h : Ledger fd n o w) (hfresh : w.fresh ≤ w'.fresh) (hfd : fd o = -1)
    (htable : w'.table = Function.update w.table (fd o') (some w.fresh)) : Ledger fd n o' w' := by
  have hopen : w'.table (fd o') = some w.fresh := by simp [htable]
  refine ⟨h.fresh.trans hfresh, fun f id hid hle => ?_, Or.inr ⟨w.fresh, h.fresh, hopen⟩⟩
  by_contra hf
  rw [htable, Function.update_of_ne hf] at hid
  have hneg : f = -1 := (h.held f id hid hle).trans hfd
  rw [hneg, Kernel.table_neg_one] at hid
  cases hid

/-- A descriptor that is opened and not stored is lost. -/
theorem Ledger.lost_new {o o' : S} {w w' : Kernel} (h : Ledger fd n o w) (hfd : fd o' = fd o) {new : SOCKET}
    (hnone : w.table new = none) (htable : w'.table = Function.update w.table new (some w.fresh)) :
    ¬ Held fd n o' w' := by
  intro hheld
  have hid : w'.table new = some w.fresh := by simp [htable]
  have hnew : new = fd o := (hheld new w.fresh hid h.fresh).trans hfd
  rcases h.stored with hneg | ⟨id, -, hid⟩
  · have hopen : w'.table (-1) = some w.fresh := by simp [htable, hnew, hneg]
    rw [Kernel.table_neg_one] at hopen
    cases hopen
  · rw [← hnew, hnone] at hid
    cases hid

/-- A descriptor that is stored and then replaced is lost. -/
theorem Ledger.lost_old {o o' : S} {w w' : Kernel} (h : Ledger fd n o w) (hfd : fd o ≠ -1) (hne : fd o' ≠ fd o)
    (htable : w'.table (fd o) = w.table (fd o)) : ¬ Held fd n o' w' := by
  intro hheld
  obtain ⟨id, hle, hid⟩ := h.stored.resolve_left hfd
  exact hne (hheld (fd o) id (htable.trans hid) hle).symm

/-- **A call from the invariant** is leak-free just if it is tidy, and then the invariant holds again. -/
theorem Ledger.step {k : K} {o o' : S} {w w' : Kernel} {tr : List (Event Sys Ans Kernel)} {r : Outcome Exn R}
    (h : Ledger fd n o w) (hfresh : w.fresh ≤ w'.fresh) (heff : Effect fd (kind k) o w tr r o' w') :
    (LeakFree fd kind n (⟨k, o, w, tr, r, o', w'⟩ : Visit Sys Ans Kernel Exn S K R) ↔
        Tidy fd kind (⟨k, o, w, tr, r, o', w'⟩ : Visit Sys Ans Kernel Exn S K R)) ∧
      (Tidy fd kind (⟨k, o, w, tr, r, o', w'⟩ : Visit Sys Ans Kernel Exn S K R) → Ledger fd n o' w') := by
  simp only [LeakFree, Tidy]
  cases hk : kind k with
  | other =>
    rw [hk] at heff
    have hL := h.keep hfresh heff.1 heff.2
    exact ⟨iff_of_true ⟨hL.held, by simp⟩ trivial, fun _ => hL⟩
  | close =>
    rw [hk] at heff
    obtain ⟨hfd, htable⟩ := heff
    have hnone : ∀ f id, w'.table f = some id → id < n := by
      rw [htable]
      exact h.closed
    have hL := Ledger.empty h.fresh hfresh hfd hnone
    exact ⟨iff_of_true ⟨hL.held, fun _ => hnone⟩ trivial, fun _ => hL⟩
  | send =>
    rw [hk] at heff
    obtain ⟨hfd, ⟨hs, htable⟩ | ⟨hs, new, hnone, htable⟩⟩ := heff
    · have hL := h.keep hfresh hfd htable
      exact ⟨iff_of_true ⟨hL.held, by simp⟩ hs, fun _ => hL⟩
    · have hlost := h.lost_new hfd hnone htable
      exact ⟨iff_of_false (fun hl => hlost hl.1) (not_not_intro hs), fun hs' => absurd hs hs'⟩
  | bind =>
    rw [hk] at heff
    rcases heff with ⟨hr, hfd, htable⟩ | ⟨hr, heff⟩
    · have hL := h.keep hfresh hfd htable
      exact ⟨iff_of_true ⟨hL.held, by simp⟩ fun hr' => absurd hr' hr, fun _ => hL⟩
    · by_cases hstored : fd o = -1
      · have hL : Ledger fd n o' w' := by
          rcases heff with ⟨hfd, htable⟩ | ⟨-, htable⟩
          · exact h.keep hfresh (hfd.trans hstored.symm) htable
          · exact h.store hfresh hstored htable
        exact ⟨iff_of_true ⟨hL.held, by simp⟩ fun _ => hstored, fun _ => hL⟩
      · have hlost : ¬ Held fd n o' w' := by
          obtain ⟨id, -, hid⟩ := h.stored.resolve_left hstored
          rcases heff with ⟨hfd, htable⟩ | ⟨hnone, htable⟩
          · have hne : fd o' ≠ fd o := fun he => hstored (he.symm.trans hfd)
            exact h.lost_old hstored hne (congrFun htable _)
          · have hne : fd o' ≠ fd o := by
              intro he
              rw [he, hid] at hnone
              cases hnone
            have hkept : w'.table (fd o) = w.table (fd o) := by rw [htable, Function.update_of_ne hne.symm]
            exact h.lost_old hstored hne hkept
        exact ⟨iff_of_false (fun hl => hlost hl.1) fun ht => hstored (ht hr), fun ht => absurd (ht hr) hstored⟩

/-- **Sequences of calls.** On an object that stores nothing, a sequence of calls is leak-free just if it is tidy. -/
theorem leak_free_iff (heff : ∀ k o w, (perform k).wp Kernel.env (Effect fd (kind k) o w) o w)
    {visits : List (Visit Sys Ans Kernel Exn S K R)} {o o' : S} {w w' : Kernel} (ho : fd o = -1)
    (h : Session Kernel.env perform o w visits o' w') :
    (∀ v ∈ visits, LeakFree fd kind w.fresh v) ↔ ∀ v ∈ visits, Tidy fd kind v := by
  have hstart : Ledger fd w.fresh o w :=
    ⟨le_rfl, fun f id hid hle => absurd (w.table_valid f id hid).2 (not_lt.2 hle), Or.inl ho⟩
  refine Session.forall_iff (I := Ledger fd w.fresh) ?_ h hstart
  intro k o w tr r o' w' hL hr
  exact hL.step (Kernel.runs_table hr).1 (Method.wp_iff.1 (heff k o w) tr r o' w' hr)

end Sequences

/-! ## The calls of the two classes -/

section Kept

variable {S α β : Type} {fd : S → SOCKET}

/-- What may happen to a stored descriptor: it is kept, or closed and no longer stored. -/
def Kept (fd : S → SOCKET) (o : S) (k : Kernel) : Method.Post Sys Ans Kernel Exn S α := fun _ _ o' k' =>
  fd o' = fd o ∧ k'.table = k.table ∨ fd o' = -1 ∧ k'.table = Function.update k.table (fd o) none

/-- No more happens in any run. -/
def Keeps (fd : S → SOCKET) (m : M S α) : Prop := ∀ o k, m.wp Kernel.env (Kept fd o k) o k

theorem Keeps.bind {m : M S α} {f : α → M S β} (hm : Keeps fd m) (hf : ∀ a, Keeps fd (f a)) : Keeps fd (m >>= f) := by
  intro o k
  rw [Method.wp_bind]
  refine Method.wp_mono (hm o k) ?_
  rintro tr (a | e | _) o₁ k₁ h
  · rw [Method.after_returned]
    refine Method.wp_mono (hf a o₁ k₁) ?_
    rintro tr' r o' k' h'
    rcases h with ⟨h1, h2⟩ | ⟨h1, h2⟩
    · simp only [Kept, h1, h2] at h' ⊢
      exact h'
    · -- nothing is stored any more, and closing that changes nothing
      have hneg : Function.update k₁.table (-1) none = k₁.table := by simp [Kernel.table_neg_one]
      simp only [Kept, h1, hneg] at h'
      right
      rcases h' with ⟨h3, h4⟩ | ⟨h3, h4⟩
      · exact ⟨h3, h4.trans h2⟩
      · exact ⟨h3, h4.trans h2⟩
  · exact h
  · exact h

theorem Keeps.this : Keeps fd (Method.this : M S S) := by
  intro o k
  simp [Kept]

theorem Keeps.pure (a : α) : Keeps fd (Pure.pure a : M S α) := by
  intro o k
  simp [Kept]

theorem Keeps.throw (e : Exn) : Keeps fd (Method.throw e : M S α) := by
  intro o k
  simp [Kept]

theorem Keeps.modify {f : S → S} (hf : ∀ o, fd (f o) = fd o) : Keeps fd (Method.modify f) := by
  intro o k
  simp [Kept, hf]

theorem Keeps.ite {p : Prop} [Decidable p] {m m' : M S α} (hm : Keeps fd m) (hm' : Keeps fd m') :
    Keeps fd (if p then m else m') := by
  split
  · exact hm
  · exact hm'

theorem Keeps.runOperation (operation : Option Callback) (socket : SOCKET) :
    Keeps fd (runOperation operation socket) := by
  intro o k
  refine Method.wp_mono (runOperation_strands operation socket o k) ?_
  rintro tr r o' k' ⟨rfl, rfl, -⟩
  exact Or.inl ⟨rfl, rfl⟩

theorem Keeps.getErrorCode : Keeps fd getErrorCode := by
  intro o k
  simp [Model.getErrorCode, Kept]

theorem Keeps.sysBind (socket : SOCKET) (address : SockAddr) (length : ℕ) :
    Keeps fd (sys (.bind socket address length)) := by
  intro o k
  rw [wp_sys]
  intro result k' hbind
  exact Or.inl ⟨rfl, Kernel.Binds.table hbind⟩

/-- What came before the opening of the descriptor makes no difference. -/
theorem Effect.append {o o' : S} {k k' : Kernel} {l tr : List (Event Sys Ans Kernel)} {r : Outcome Exn α}
    (htr : ¬ ∃ e ∈ l, Reaches e) (h : Effect fd .bind o k tr r o' k') : Effect fd .bind o k (l ++ tr) r o' k' := by
  simp only [Effect, exists_append_iff htr] at h ⊢
  exact h

/-- **The shape of `bind` in both classes**: open a descriptor, store it, and go on with what keeps it. -/
theorem open_effect (domain type protocol : ℤ) (store : SOCKET → S → S) (hstore : ∀ new o, fd (store new o) = new)
    {rest : SOCKET → M S α} (hrest : ∀ new, Keeps fd (rest new)) (o : S) (k : Kernel) :
    Method.wp Kernel.env (do
      let new ← sys (.socket domain type protocol)
      Method.modify (store new)
      rest new : M S α) (Effect fd .bind o k) o k := by
  simp only [Method.wp_bind, wp_sys, Method.after_returned, Method.wp_modify]
  intro new k' hopen
  refine Method.wp_mono (hrest new _ _) ?_
  intro tr r o' k'' h
  right
  refine ⟨⟨_, List.mem_cons_self, trivial⟩, ?_⟩
  rw [Kept, hstore] at h
  rcases hopen with ⟨rfl, rfl⟩ | ⟨h0, hnone, rfl⟩
  · have hneg : Function.update k'.table (-1) none = k'.table := by simp [Kernel.table_neg_one]
    rw [hneg] at h
    rcases h with h | h
    · exact Or.inl h
    · exact Or.inl h
  · rcases h with ⟨h1, h2⟩ | ⟨h1, h2⟩
    · right
      rw [h1]
      exact ⟨hnone, h2⟩
    · have htable : k''.table = k.table := by simp [h2, ← hnone]
      exact Or.inl ⟨h1, htable⟩

/-- The result of a call makes no difference. -/
theorem Effect.discard {kind : Kind} {m : M S α} {o : S} {k : Kernel}
    (h : m.wp Kernel.env (Effect fd kind o k) o k) :
    Method.wp Kernel.env (do let _ ← m; return () : M S Unit) (Effect fd kind o k) o k := by
  rw [Method.wp_bind]
  refine Method.wp_mono h ?_
  rintro tr (a | e | _) o' k' h'
  · rw [Method.after_returned, Method.wp_pure, List.append_nil]
    exact h'
  · exact h'
  · exact h'

theorem Sent.effect {m : M S α} {o : S} {k : Kernel} (h : m.wp Kernel.env (Sent o k) o k) :
    m.wp Kernel.env (Effect fd .send o k) o k := by
  refine Method.wp_mono h ?_
  rintro tr r o' k' ⟨rfl, ⟨-, hk, hs⟩ | ⟨-, hnew, hs⟩⟩
  · exact ⟨rfl, Or.inl ⟨hs, hk⟩⟩
  · exact ⟨rfl, Or.inr ⟨hs, hnew⟩⟩

end Kept

namespace UDPSocket

theorem close_effect (o : UDPSocket) (k : Kernel) :
    UDPSocket.close.wp Kernel.env (Effect UDPSocket.receiveSocket .close o k) o k := by
  simp [UDPSocket.close, Socket.close, getInvalidSocketValue, Effect]

theorem close_keeps : Keeps UDPSocket.receiveSocket UDPSocket.close := fun o k =>
  Method.wp_mono (close_effect o k) fun _ _ _ _ h => Or.inr h

theorem closeIfBound_keeps : Keeps UDPSocket.receiveSocket UDPSocket.closeIfBound := by
  refine Keeps.this.bind fun this => ?_
  exact Keeps.ite close_keeps (Keeps.pure _)

theorem initialiseListeningPortNumber_keeps :
    Keeps UDPSocket.receiveSocket UDPSocket.initialiseListeningPortNumber := by
  intro o k
  simp only [UDPSocket.initialiseListeningPortNumber, socketToAddress, Method.wp_bind, Method.wp_this,
    Method.after_returned, wp_sys]
  rintro ⟨result, address⟩ k' rfl
  by_cases h : result = -1
  · simp [h, UDPSocket.close, Socket.close, getErrorCode, getInvalidSocketValue, Kept]
  · simp [h, Kept]

theorem bindReceiveSocket_keeps (address : SocketAddress) (preBindSocketOperation : Option Callback) :
    Keeps UDPSocket.receiveSocket (UDPSocket.bindReceiveSocket address preBindSocketOperation) := by
  refine Keeps.bind closeIfBound_keeps fun _ => ?_
  refine Keeps.this.bind fun this => (Keeps.runOperation _ _).bind fun _ => (Keeps.sysBind _ _ _).bind fun result => ?_
  refine Keeps.bind (Keeps.modify fun _ => by rfl) fun _ => ?_
  refine Keeps.ite (Keeps.pure _) ?_
  refine initialiseListeningPortNumber_keeps.bind fun _ => Keeps.this.bind fun this => ?_
  cases this.listeningPort with
  | none => exact Keeps.throw _
  | some port => exact Keeps.pure _

theorem bind_effect (addressOpt : Option SocketAddress) (preBindSocketOperation : Option Callback) (o : UDPSocket)
    (k : Kernel) : (UDPSocket.bind addressOpt preBindSocketOperation).wp Kernel.env
      (Effect UDPSocket.receiveSocket .bind o k) o k := by
  cases addressOpt with
  | none => simp [UDPSocket.bind, Effect]
  | some address =>
    simp only [UDPSocket.bind, Method.wp_bind (m := Method.this), Method.wp_this, Method.after_returned]
    refine open_effect _ _ _ (fun new (this : UDPSocket) =>
      { this with protocolVersion := .ofFamily address.sa_family, receiveSocket := new }) (fun _ _ => rfl)
      (fun new => ?_) o k
    exact Keeps.ite (Keeps.getErrorCode.bind fun _ => Keeps.throw _) (bindReceiveSocket_keeps _ _)

theorem bindHost_effect (protocolVersion : InternetProtocolVersion) (localHostname : Option Bytes) (port : UInt16)
    (preBindSocketOperation : Option Callback) (o : UDPSocket) (k : Kernel) :
    (UDPSocket.bindHost protocolVersion localHostname port preBindSocketOperation).wp Kernel.env
      (Effect UDPSocket.receiveSocket .bind o k) o k := by
  simp only [UDPSocket.bindHost, resolveToAddresses, Method.wp_bind, Method.after_returned, wp_sys]
  rintro ⟨result, addresses⟩ k rfl
  by_cases hresult : result ≠ 0 ∨ addresses = []
  · simp [hresult, Effect, Reaches]
  · simp only [hresult, if_false, Method.wp_pure, Method.after_returned]
    refine Method.wp_mono (bind_effect _ _ o k) fun tr r o' k' h => ?_
    exact Effect.append (l := [_]) (by simp [Reaches]) h

theorem receiveFromInto_effect (buffer : Bytes) (receiveLength flags : ℤ) (o : UDPSocket) (k : Kernel) :
    (UDPSocket.receiveFromInto buffer receiveLength flags).wp Kernel.env
      (Effect UDPSocket.receiveSocket .other o k) o k := by
  by_cases h : o.bound = false ∨ receiveLength = 0
  · simp [UDPSocket.receiveFromInto, h, Effect]
  · simp [UDPSocket.receiveFromInto, h, Effect]

theorem receiveFrom_effect (receiveLength flags : ℤ) (o : UDPSocket) (k : Kernel) :
    (UDPSocket.receiveFrom receiveLength flags).wp Kernel.env (Effect UDPSocket.receiveSocket .other o k) o k := by
  by_cases h : receiveLength < 0
  · simp [UDPSocket.receiveFrom, h, Effect]
  · simp only [UDPSocket.receiveFrom, h, if_false, Method.wp_bind]
    refine Method.wp_mono (receiveFromInto_effect _ _ _ o k) ?_
    rintro tr (a | e | _) o' k' h'
    · exact h'
    · exact h'
    · exact h'

theorem ready_effect (dm : DataModel) (timeout : ULong dm) (o : UDPSocket) (k : Kernel) :
    (UDPSocket.ready dm timeout).wp Kernel.env (Effect UDPSocket.receiveSocket .other o k) o k := by
  simp [UDPSocket.ready, UDPSocket.pollSocket, Socket.pollSocket, Effect]

end UDPSocket

/-- The calls on a `UDPSocket`. -/
inductive UDPCall (dm : DataModel) where
  | bind (addressOpt : Option SocketAddress) (preBindSocketOperation : Option Callback)
  | bindHost (protocolVersion : InternetProtocolVersion) (localHostname : Option Bytes) (port : UInt16)
      (preBindSocketOperation : Option Callback)
  | sendTo (address : SocketAddress) (message : Bytes) (flags : ℤ)
  | sendBufferTo (address : SocketAddress) (buffer : Bytes) (bufferLength flags : ℤ)
  | sendToHost (hostname : Bytes) (port : UInt16) (message : Bytes) (flags : ℤ)
      (protocolVersion : InternetProtocolVersion)
  | sendBufferToHost (hostname : Bytes) (port : UInt16) (buffer : Bytes) (bufferLength flags : ℤ)
      (protocolVersion : InternetProtocolVersion)
  | receiveFrom (receiveLength flags : ℤ)
  | receiveFromInto (buffer : Bytes) (receiveLength flags : ℤ)
  | ready (timeout : ULong dm)
  | setPreSendSocketOperation (newOperation : Callback)
  | close

namespace UDPCall

variable {dm : DataModel}

def kind : UDPCall dm → Kind
  | bind .. | bindHost .. => .bind
  | sendTo .. | sendBufferTo .. | sendToHost .. | sendBufferToHost .. => .send
  | close => .close
  | _ => .other

def perform : UDPCall dm → M UDPSocket Unit
  | bind addressOpt preBindSocketOperation => do let _ ← UDPSocket.bind addressOpt preBindSocketOperation
  | bindHost protocolVersion localHostname port preBindSocketOperation => do
    let _ ← UDPSocket.bindHost protocolVersion localHostname port preBindSocketOperation
  | sendTo address message flags => do let _ ← UDPSocket.sendTo address message flags
  | sendBufferTo address buffer bufferLength flags => do
    let _ ← UDPSocket.sendBufferTo address buffer bufferLength flags
  | sendToHost hostname port message flags protocolVersion => do
    let _ ← UDPSocket.sendToHost hostname port message flags protocolVersion
  | sendBufferToHost hostname port buffer bufferLength flags protocolVersion => do
    let _ ← UDPSocket.sendBufferToHost hostname port buffer bufferLength flags protocolVersion
  | receiveFrom receiveLength flags => do let _ ← UDPSocket.receiveFrom receiveLength flags
  | receiveFromInto buffer receiveLength flags => do let _ ← UDPSocket.receiveFromInto buffer receiveLength flags
  | ready timeout => do let _ ← UDPSocket.ready dm timeout
  | setPreSendSocketOperation newOperation => UDPSocket.setPreSendSocketOperation newOperation
  | close => UDPSocket.close

/-- Every call does what its kind allows. -/
theorem perform_effect (c : UDPCall dm) (o : UDPSocket) (k : Kernel) :
    c.perform.wp Kernel.env (Effect UDPSocket.receiveSocket c.kind o k) o k := by
  cases c with
  | bind addressOpt operation => exact Effect.discard (UDPSocket.bind_effect _ _ o k)
  | bindHost version host port operation => exact Effect.discard (UDPSocket.bindHost_effect _ _ _ _ o k)
  | sendTo address message flags =>
    exact Effect.discard (Sent.effect (send_spec _ _ _ UDPSocket.preSendSocketOperation _ _ _ _ _ o k))
  | sendBufferTo address buffer bufferLength flags =>
    exact Effect.discard (Sent.effect (send_spec _ _ _ UDPSocket.preSendSocketOperation _ _ _ _ _ o k))
  | sendToHost hostname port message flags version =>
    exact Effect.discard (Sent.effect (udpSendBufferToHost_spec _ _ _ _ _ _ o k))
  | sendBufferToHost hostname port buffer bufferLength flags version =>
    exact Effect.discard (Sent.effect (udpSendBufferToHost_spec _ _ _ _ _ _ o k))
  | receiveFrom receiveLength flags => exact Effect.discard (UDPSocket.receiveFrom_effect _ _ o k)
  | receiveFromInto buffer receiveLength flags => exact Effect.discard (UDPSocket.receiveFromInto_effect _ _ _ o k)
  | ready timeout => exact Effect.discard (UDPSocket.ready_effect dm timeout o k)
  | setPreSendSocketOperation newOperation => simp [perform, UDPSocket.setPreSendSocketOperation, kind, Effect]
  | close => exact UDPSocket.close_effect o k

end UDPCall

namespace DatagramIPCSocket

theorem close_effect (o : DatagramIPCSocket) (k : Kernel) :
    DatagramIPCSocket.close.wp Kernel.env (Effect DatagramIPCSocket.receiveSocket .close o k) o k := by
  cases hpath : o.socketPath <;>
    simp [DatagramIPCSocket.close, DatagramIPCSocket.removeBoundPath, Socket.close, IPCSocket.removeSocketPath,
      getInvalidSocketValue, hpath, Effect]

theorem close_keeps : Keeps DatagramIPCSocket.receiveSocket DatagramIPCSocket.close := fun o k =>
  Method.wp_mono (close_effect o k) fun _ _ _ _ h => Or.inr h

theorem closeIfBound_keeps : Keeps DatagramIPCSocket.receiveSocket DatagramIPCSocket.closeIfBound := by
  refine Keeps.this.bind fun this => ?_
  exact Keeps.ite close_keeps (Keeps.pure _)

theorem openAndBind_effect (path : Bytes) (preBindSocketOperation : Option Callback) (o : DatagramIPCSocket)
    (k : Kernel) : (DatagramIPCSocket.openAndBind path preBindSocketOperation).wp Kernel.env
      (Effect DatagramIPCSocket.receiveSocket .bind o k) o k := by
  refine open_effect _ _ _ (fun new (this : DatagramIPCSocket) => { this with receiveSocket := new })
    (fun _ _ => rfl) ?_ o k
  intro new
  refine Keeps.ite (Keeps.getErrorCode.bind fun _ => Keeps.throw _) ?_
  refine Keeps.bind closeIfBound_keeps fun _ => ?_
  refine Keeps.this.bind fun this => (Keeps.runOperation _ _).bind fun _ => (Keeps.sysBind _ _ _).bind fun result => ?_
  refine Keeps.bind (Keeps.modify fun _ => by rfl) fun _ => ?_
  refine Keeps.ite (Keeps.pure _) ?_
  refine Keeps.bind (Keeps.modify fun _ => by rfl) fun _ => Keeps.this.bind fun this => ?_
  cases this.socketPath with
  | none => exact Keeps.throw _
  | some path => exact Keeps.pure _

theorem bindOverride_effect (override : Bool) (socketPathOpt : Option Bytes) (preBindSocketOperation : Option Callback)
    (o : DatagramIPCSocket) (k : Kernel) :
    (DatagramIPCSocket.bindOverride override socketPathOpt preBindSocketOperation).wp Kernel.env
      (Effect DatagramIPCSocket.receiveSocket .bind o k) o k := by
  cases socketPathOpt with
  | none => simp [DatagramIPCSocket.bindOverride, Effect]
  | some socketPath =>
    simp only [DatagramIPCSocket.bindOverride, DatagramIPCSocket.removeOnOverride, IPCSocket.removeSocketPath]
    cases override with
    | false => simpa using openAndBind_effect _ _ o k
    | true =>
      simp only [if_true, Method.wp_bind, wp_sys, Method.after_returned, Method.wp_pure]
      rintro result k' rfl
      refine Method.wp_mono (openAndBind_effect _ _ o _) fun tr r o' k' h => ?_
      have hk : Effect DatagramIPCSocket.receiveSocket .bind o k tr r o' k' := h
      exact Effect.append (l := [_]) (by simp [Reaches]) hk

theorem receiveFromInto_effect (buffer : Bytes) (receiveLength flags : ℤ) (o : DatagramIPCSocket) (k : Kernel) :
    (DatagramIPCSocket.receiveFromInto buffer receiveLength flags).wp Kernel.env
      (Effect DatagramIPCSocket.receiveSocket .other o k) o k := by
  by_cases h : o.bound = false ∨ receiveLength = 0
  · simp [DatagramIPCSocket.receiveFromInto, h, Effect]
  · cases hpath : o.socketPath with
    | none => simp [DatagramIPCSocket.receiveFromInto, h, hpath, Effect]
    | some path => simp [DatagramIPCSocket.receiveFromInto, h, hpath, Effect]

theorem receiveFrom_effect (receiveLength flags : ℤ) (o : DatagramIPCSocket) (k : Kernel) :
    (DatagramIPCSocket.receiveFrom receiveLength flags).wp Kernel.env
      (Effect DatagramIPCSocket.receiveSocket .other o k) o k := by
  by_cases h : receiveLength < 0
  · simp [DatagramIPCSocket.receiveFrom, h, Effect]
  · simp only [DatagramIPCSocket.receiveFrom, h, if_false, Method.wp_bind]
    refine Method.wp_mono (receiveFromInto_effect _ _ _ o k) ?_
    rintro tr (a | e | _) o' k' h'
    · exact h'
    · exact h'
    · exact h'

theorem ready_effect (dm : DataModel) (timeout : ULong dm) (o : DatagramIPCSocket) (k : Kernel) :
    (DatagramIPCSocket.ready dm timeout).wp Kernel.env (Effect DatagramIPCSocket.receiveSocket .other o k) o k := by
  simp [DatagramIPCSocket.ready, Socket.pollSocket, Effect]

end DatagramIPCSocket

/-- The calls on a `DatagramIPCSocket`. -/
inductive DatagramCall (dm : DataModel) where
  | bind (socketPath : Option Bytes) (preBindSocketOperation : Option Callback)
  | bindOverride (override : Bool) (socketPathOpt : Option Bytes) (preBindSocketOperation : Option Callback)
  | sendTo (path message : Bytes) (flags : ℤ)
  | sendBufferTo (path buffer : Bytes) (bufferLength flags : ℤ)
  | receiveFrom (receiveLength flags : ℤ)
  | receiveFromInto (buffer : Bytes) (receiveLength flags : ℤ)
  | ready (timeout : ULong dm)
  | setPreSendSocketOperation (preSendSocketOperation : Callback)
  | close

namespace DatagramCall

variable {dm : DataModel}

def kind : DatagramCall dm → Kind
  | bind .. | bindOverride .. => .bind
  | sendTo .. | sendBufferTo .. => .send
  | close => .close
  | _ => .other

def perform : DatagramCall dm → M DatagramIPCSocket Unit
  | bind socketPath preBindSocketOperation => do let _ ← DatagramIPCSocket.bind socketPath preBindSocketOperation
  | bindOverride override socketPathOpt preBindSocketOperation => do
    let _ ← DatagramIPCSocket.bindOverride override socketPathOpt preBindSocketOperation
  | sendTo path message flags => do let _ ← DatagramIPCSocket.sendTo path message flags
  | sendBufferTo path buffer bufferLength flags => do
    let _ ← DatagramIPCSocket.sendBufferTo path buffer bufferLength flags
  | receiveFrom receiveLength flags => do let _ ← DatagramIPCSocket.receiveFrom receiveLength flags
  | receiveFromInto buffer receiveLength flags => do
    let _ ← DatagramIPCSocket.receiveFromInto buffer receiveLength flags
  | ready timeout => do let _ ← DatagramIPCSocket.ready dm timeout
  | setPreSendSocketOperation operation => DatagramIPCSocket.setPreSendSocketOperation operation
  | close => DatagramIPCSocket.close

theorem perform_effect (c : DatagramCall dm) (o : DatagramIPCSocket) (k : Kernel) :
    c.perform.wp Kernel.env (Effect DatagramIPCSocket.receiveSocket c.kind o k) o k := by
  cases c with
  | bind socketPath operation => exact Effect.discard (DatagramIPCSocket.bindOverride_effect false _ _ o k)
  | bindOverride override socketPathOpt operation =>
    exact Effect.discard (DatagramIPCSocket.bindOverride_effect _ _ _ o k)
  | sendTo path message flags =>
    exact Effect.discard (Sent.effect (send_spec _ _ _ DatagramIPCSocket.preSendSocketOperation _ _ _ _ _ o k))
  | sendBufferTo path buffer bufferLength flags =>
    exact Effect.discard (Sent.effect (send_spec _ _ _ DatagramIPCSocket.preSendSocketOperation _ _ _ _ _ o k))
  | receiveFrom receiveLength flags => exact Effect.discard (DatagramIPCSocket.receiveFrom_effect _ _ o k)
  | receiveFromInto buffer receiveLength flags =>
    exact Effect.discard (DatagramIPCSocket.receiveFromInto_effect _ _ _ o k)
  | ready timeout => exact Effect.discard (DatagramIPCSocket.ready_effect dm timeout o k)
  | setPreSendSocketOperation operation => simp [perform, DatagramIPCSocket.setPreSendSocketOperation, kind, Effect]
  | close => exact DatagramIPCSocket.close_effect o k

end DatagramCall

/-- **Leaks.** For a new `UDPSocket`, and likewise a new `DatagramIPCSocket`: along a sequence of calls the only open
descriptor of those the object has opened is always the stored one, and none is open after a `close`, if and only if no
`bind` opens a descriptor while one is stored, and no operation of the user throws in a `sendTo`. -/
theorem sessions_leak_free_iff (dm : DataModel) (k k' : Kernel) :
    (∀ visits o', Session Kernel.env (@UDPCall.perform dm) {} k visits o' k' →
      ((∀ v ∈ visits, LeakFree UDPSocket.receiveSocket UDPCall.kind k.fresh v) ↔
        ∀ v ∈ visits, Tidy UDPSocket.receiveSocket UDPCall.kind v)) ∧
    ∀ visits o', Session Kernel.env (@DatagramCall.perform dm) {} k visits o' k' →
      ((∀ v ∈ visits, LeakFree DatagramIPCSocket.receiveSocket DatagramCall.kind k.fresh v) ↔
        ∀ v ∈ visits, Tidy DatagramIPCSocket.receiveSocket DatagramCall.kind v) :=
  ⟨fun _ _ h => leak_free_iff UDPCall.perform_effect rfl h, fun _ _ h => leak_free_iff DatagramCall.perform_effect rfl h⟩

section Examples

/-- Binding and closing a `UDPSocket` is tidy, and loses nothing. -/
theorem sessions_leak_free_iff_bind_close : ∃ visits o' k',
    Session Kernel.env (@UDPCall.perform .lp64) {} (.boot []) visits o' k' ∧
      visits.map (·.call) = [.bind (some .zero) none, .close] ∧
      ∀ v ∈ visits, LeakFree UDPSocket.receiveSocket UDPCall.kind 0 v := by
  have h1 := Kernel.execute_runs (fun _ => false) 3 (@UDPCall.perform .lp64 (.bind (some .zero) none)) {}
    (.boot [])
  have hs := Path.cons (VisitStep.mk h1) (.cons (VisitStep.mk
    (Kernel.execute_runs (fun _ => false) 4 (@UDPCall.perform .lp64 .close) _ _)) (.nil _))
  refine ⟨_, _, _, hs, rfl, ((sessions_leak_free_iff .lp64 _ _).1 _ _ hs).2 fun v hv => ?_⟩
  rcases List.mem_cons.1 hv with rfl | hv
  · exact fun _ => rfl
  · rcases List.mem_singleton.1 hv with rfl
    exact trivial

/-- A second `bind` of a bound `UDPSocket` loses the descriptor of the first. -/
theorem rebind_leaks : ¬ ∀ (k k' : Kernel) (visits : List (Visit Sys Ans Kernel Exn UDPSocket (UDPCall .lp64) Unit))
    (o' : UDPSocket), Session Kernel.env (@UDPCall.perform .lp64) {} k visits o' k' →
      ∀ v ∈ visits, LeakFree UDPSocket.receiveSocket UDPCall.kind k.fresh v := by
  intro h
  have h1 := Kernel.execute_runs (fun _ => false) 3 (@UDPCall.perform .lp64 (.bind (some .zero) none)) {}
    (.boot [])
  have hs := Path.cons (VisitStep.mk h1) (.cons (VisitStep.mk
    (Kernel.execute_runs (fun _ => false) 4 (@UDPCall.perform .lp64 (.bind (some .zero) none)) _ _)) (.nil _))
  have hheld := (h _ _ _ _ hs _ (List.mem_cons_of_mem _ List.mem_cons_self)).1
  have heq : (3 : SOCKET) = -1 := hheld 3 0 rfl (Nat.le_refl 0)
  exact absurd heq (by decide)

end Examples

end SocketLibrary.Descriptors
