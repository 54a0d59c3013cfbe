import Mathlib.Tactic
import SocketLibrary.Model.DatagramIPCSocket
import SocketLibrary.Model.UDPSocket
import SocketLibrary.Posix.Names

/-!
# How `bind` ends

`UDPSocket::bind` and `DatagramIPCSocket::bind` open a descriptor, close it again if the object is bound, and go on with
what is then stored. Their endings are the same three (`BindEnd`): without a descriptor the object keeps its flag; a
bind on an object that is bound, or one that fails, leaves it unbound; and else the new descriptor has a name, and the
object stores it.
-/

namespace SocketLibrary.Steps

open SocketLibrary.Interaction SocketLibrary.Posix SocketLibrary.Model

/-- `socket` fails. -/
def NoSocket : Event Sys Ans Net → Prop
  | ⟨_, .socket .., fd⟩ => fd = -1
  | _ => False

/-- The operation of the user throws, an open socket without a name is not bound, or a name is not told. -/
def Fails : Event Sys Ans Net → Prop
  | ⟨_, .callback .., ending⟩ => ending = .threw
  | ⟨n, .bind fd .., result⟩ => n.Unbound fd ∧ result = -1
  | ⟨n, .getsockname fd, answer⟩ => n.kernel.table fd ≠ none ∧ answer.1 = -1
  | _ => False

section Opening

variable {n n' : Net} {fd : SOCKET}

/-- A descriptor just opened is unbound, as its socket is a new one. -/
theorem unbound_of_opens (h : n.kernel.Opens fd n'.kernel) (hnames : n'.names = n.names) (hfd : fd ≠ -1) :
    n'.Unbound fd := by
  obtain ⟨h0, -, hk⟩ := h.of_ne hfd
  refine ⟨n.kernel.fresh, ?_, ?_⟩
  · rw [hk, Kernel.opened_table, Function.update_self]
  · rw [hnames]
    by_contra hne
    obtain ⟨name, hname⟩ := Option.ne_none_iff_exists'.1 hne
    exact absurd (n.names_valid _ _ hname) (lt_irrefl _)

/-- Nothing is bound through no descriptor. -/
theorem binds_neg_one {address : SockAddr} {result : ℤ} (h : n.Binds (-1) address result n') : result = -1 := by
  rcases h with ⟨h, -⟩ | ⟨-, -, id, -, hid, -⟩
  · exact h
  · rw [Kernel.table_neg_one] at hid
    cases hid

/-- A bind that succeeds names the socket. -/
theorem named_of_binds {address : SockAddr} {result : ℤ} (h : n.Binds fd address result n') (hresult : result ≠ -1) :
    result = 0 ∧ ∃ name, n'.Named fd name ∧ Assigned address name := by
  obtain ⟨rfl, hk, id, name, hid, -, hassigned, hnames⟩ := h.resolve_left fun h => hresult h.1
  refine ⟨rfl, name, ⟨id, ?_, ?_⟩, hassigned⟩
  · rw [hk.table, hid]
  · rw [hnames, Function.update_self]

/-- An operation of the user returns, or fails by throwing. -/
theorem runOperation_ends {S : Type} (operation : Option Callback) (socket : SOCKET) (o : S) (n : Net) :
    (runOperation operation socket).wp Net.env (fun tr r o' n' => o' = o ∧ n' = n ∧ (¬ ∃ e ∈ tr, NoSocket e) ∧
      (r = .returned () ∨ r.Threw ∧ ∃ e ∈ tr, Fails e)) o n := by
  cases operation with
  | none => simp [runOperation]
  | some f =>
    simp only [runOperation, Method.wp_bind, wp_sys]
    rintro x n' ⟨hk, hnames⟩
    obtain rfl : n' = n := Net.ext hk hnames
    have hs := not_exists_cons (P := NoSocket) (e := ⟨n', .callback f socket, x⟩) id not_exists_nil
    cases x with
    | returned => exact ⟨rfl, rfl, hs, Or.inl rfl⟩
    | threw => exact ⟨rfl, rfl, hs, Or.inr ⟨Outcome.threw_threw _, _, List.mem_cons_self, rfl⟩⟩

end Opening

/-! ## The common part -/

section Endings

variable {S B : Type} (bound : S → Bool) (fd : S → SOCKET) (stores : S → SockAddr → Prop)

/-- The object is bound, its descriptor is open and has the name, and this name is stored. -/
def Serves (o : S) (n : Net) (name : SockAddr) : Prop := bound o = true ∧ n.Named (fd o) name ∧ stores o name

/-- The endings of a `bind` from the object `o` to an address. -/
inductive BindEnd (address : SockAddr) (o : S) : Method.Post Sys Ans Net Exn S (ℤ × B) where
  | noSocket {tr r o' n'} : (∃ e ∈ tr, NoSocket e) → r.Threw → bound o' = bound o → fd o' = -1 →
      BindEnd address o tr r o' n'
  | failed {tr r o' n'} : (¬ ∃ e ∈ tr, NoSocket e) → (bound o = true ∨ ∃ e ∈ tr, Fails e) → bound o' = false →
      BindEnd address o tr r o' n'
  | bound {tr r o' n'} (b : B) (name : SockAddr) : (¬ ∃ e ∈ tr, NoSocket e) → bound o = false →
      r = .returned (0, b) → Serves bound fd stores o' n' name → Assigned address name → BindEnd address o tr r o' n'

variable {bound fd stores} in
/-- Other calls may come before. -/
theorem BindEnd.prepend {address : SockAddr} {o o' : S} {n' : Net} {pre tr : List (Event Sys Ans Net)}
    {r : Outcome Exn (ℤ × B)} (hpre : ¬ ∃ e ∈ pre, NoSocket e) (h : BindEnd bound fd stores address o tr r o' n') :
    BindEnd bound fd stores address o (pre ++ tr) r o' n' := by
  cases h with
  | noSocket hs hthrew hbound hfd =>
    obtain ⟨e, he, hno⟩ := hs
    exact .noSocket ⟨e, List.mem_append_right _ he, hno⟩ hthrew hbound hfd
  | failed hs hfails hbound =>
    refine .failed (not_exists_append hpre hs) ?_ hbound
    rcases hfails with htrue | ⟨e, he, hfails⟩
    · exact Or.inl htrue
    · exact Or.inr ⟨e, List.mem_append_right _ he, hfails⟩
  | bound b name hs hfalse hr hserves hassigned =>
    exact .bound b name (not_exists_append hpre hs) hfalse hr hserves hassigned

variable {bound fd stores} in
theorem BindEnd.mono {stores' : S → SockAddr → Prop} {address : SockAddr} {o o' : S} {n' : Net}
    {tr : List (Event Sys Ans Net)} {r : Outcome Exn (ℤ × B)} (hstores : ∀ o name, stores o name → stores' o name)
    (h : BindEnd bound fd stores address o tr r o' n') : BindEnd bound fd stores' address o tr r o' n' := by
  cases h with
  | noSocket hs hthrew hbound hfd => exact .noSocket hs hthrew hbound hfd
  | failed hs hfails hbound => exact .failed hs hfails hbound
  | bound b name hs hfalse hr hserves hassigned =>
    exact .bound b name hs hfalse hr ⟨hserves.1, hserves.2.1, hstores _ _ hserves.2.2⟩ hassigned

/-- What the test of `isBound()` leaves: a bound object has lost the descriptor it has just opened. -/
def Released (o : S) (n : Net) : Method.Post Sys Ans Net Exn S Unit := fun tr r o' n' =>
  r = .returned () ∧ (¬ ∃ e ∈ tr, NoSocket e) ∧ bound o' = false ∧
    (bound o = true ∧ fd o' = -1 ∨ bound o = false ∧ o' = o ∧ n' = n)

/-- The endings of what follows the test, from an open and unbound descriptor. -/
def Settled (address : SockAddr) : Method.Post Sys Ans Net Exn S (ℤ × B) := fun tr r o' n' =>
  (¬ ∃ e ∈ tr, NoSocket e) ∧ ((∃ e ∈ tr, Fails e) ∧ bound o' = false ∨
    ∃ b name, r = .returned (0, b) ∧ Serves bound fd stores o' n' name ∧ Assigned address name)

variable (flag : Bool → S → S) (address : SockAddr) (addressLength : ℕ) (failed : B) (rest : ℤ → M S (ℤ × B))

/-- The part of `bind` that follows the test: `flag` sets `bound`, and `rest` stores the address. -/
def bindStored (preBindSocketOperation : Option Callback) : M S (ℤ × B) := do
  let this ← Method.this
  runOperation preBindSocketOperation (fd this)
  let bindResult ← sys (.bind (fd this) address addressLength)
  Method.modify (flag (bindResult != -1))
  if bindResult = -1 then
    return (bindResult, failed)
  else
    rest bindResult

variable {bound fd stores flag address addressLength failed rest} {o : S} {n : Net}

/-- Without a descriptor it leaves the object unbound. -/
theorem bindStored_neg_one (hflag : ∀ b o, bound (flag b o) = b) (hbound : bound o = false) (hfd : fd o = -1)
    (operation : Option Callback) : (bindStored fd flag address addressLength failed rest operation).wp Net.env
      (fun tr _ o' _ => (¬ ∃ e ∈ tr, NoSocket e) ∧ bound o' = false) o n := by
  simp only [bindStored, Method.wp_bind (m := Method.this), Method.wp_bind (m := runOperation _ _), Method.wp_this,
    Method.after_returned, List.nil_append]
  refine Method.wp_mono (runOperation_ends operation (fd o) o n) ?_
  rintro tr r o n ⟨rfl, rfl, hs, rfl | ⟨hthrew, -⟩⟩
  · simp only [Method.after_returned, Method.wp_bind (m := sys _), wp_sys, Method.wp_bind (m := Method.modify _),
      Method.wp_modify]
    intro result n' hbind
    rw [hfd] at hbind
    obtain rfl := binds_neg_one hbind
    rw [if_pos rfl, Method.wp_pure]
    exact ⟨not_exists_append hs (by simp [NoSocket]), hflag _ _⟩
  · obtain ⟨e, rfl⟩ := hthrew.exists_eq
    exact ⟨hs, hbound⟩

/-- With a descriptor that is open and unbound it fails, or names its socket. -/
theorem bindStored_unbound (hflag : ∀ b o, bound (flag b o) = b) (hfd : ∀ b o, fd (flag b o) = fd o)
    (hrest : ∀ name o n, bound o = true → n.Named (fd o) name → Assigned address name →
      (rest 0).wp Net.env (Settled bound fd stores address) o n)
    (hbound : bound o = false) (hunbound : n.Unbound (fd o)) (operation : Option Callback) :
    (bindStored fd flag address addressLength failed rest operation).wp Net.env (Settled bound fd stores address) o
      n := by
  simp only [bindStored, Method.wp_bind (m := Method.this), Method.wp_bind (m := runOperation _ _), Method.wp_this,
    Method.after_returned, List.nil_append]
  refine Method.wp_mono (runOperation_ends operation (fd o) o n) ?_
  rintro tr r o n ⟨rfl, rfl, hs, rfl | ⟨hthrew, hfails⟩⟩
  · simp only [Method.after_returned, Method.wp_bind (m := sys _), wp_sys, Method.wp_bind (m := Method.modify _),
      Method.wp_modify]
    intro result n₁ hbind
    by_cases hresult : result = -1
    · subst hresult
      rw [if_pos rfl, Method.wp_pure]
      refine ⟨not_exists_append hs (by simp [NoSocket]), Or.inl ⟨?_, hflag _ _⟩⟩
      exact ⟨_, List.mem_append_right _ List.mem_cons_self, hunbound, rfl⟩
    · obtain ⟨rfl, name, hname, hassigned⟩ := named_of_binds hbind hresult
      rw [if_neg hresult]
      have hname' : n₁.Named (fd (flag (0 != -1) o)) name := by rwa [hfd]
      refine Method.wp_mono (hrest name _ n₁ (hflag _ _) hname' hassigned) ?_
      rintro tr' r o' n' ⟨hs', ⟨⟨e, he, hfails⟩, hbound'⟩ | hserves⟩
      · refine ⟨not_exists_append hs (not_exists_cons id hs'), Or.inl ⟨⟨e, ?_, hfails⟩, hbound'⟩⟩
        exact List.mem_append_right _ (List.mem_cons_of_mem _ he)
      · exact ⟨not_exists_append hs (not_exists_cons id hs'), Or.inr hserves⟩
  · obtain ⟨e, rfl⟩ := hthrew.exists_eq
    exact ⟨hs, Or.inl ⟨hfails, hbound⟩⟩

/-- The end of a `bind` that has opened a descriptor, after the calls `pre`. -/
theorem bindEnd_of_released {closeIfBound : M S Unit} {o₁ : S} {n₁ : Net} {pre : List (Event Sys Ans Net)}
    {operation : Option Callback} (hpre : ¬ ∃ e ∈ pre, NoSocket e) (heq : bound o₁ = bound o)
    (hunbound : n₁.Unbound (fd o₁)) (hclose : closeIfBound.wp Net.env (Released bound fd o₁ n₁) o₁ n₁)
    (hflag : ∀ b o, bound (flag b o) = b) (hfd : ∀ b o, fd (flag b o) = fd o)
    (hrest : ∀ name o n, bound o = true → n.Named (fd o) name → Assigned address name →
      (rest 0).wp Net.env (Settled bound fd stores address) o n) :
    (closeIfBound >>= fun _ => bindStored fd flag address addressLength failed rest operation).wp Net.env
      (fun tr => BindEnd bound fd stores address o (pre ++ tr)) o₁ n₁ := by
  rw [Method.wp_bind]
  refine Method.wp_mono hclose ?_
  rintro tr _ o₂ n₂ ⟨rfl, hs, hbound₂, ⟨htrue, hfd₂⟩ | ⟨hfalse, rfl, rfl⟩⟩
  · rw [Method.after_returned]
    refine Method.wp_mono (bindStored_neg_one hflag hbound₂ hfd₂ operation) ?_
    intro tr' r o' n' ⟨hs', hbound'⟩
    exact BindEnd.prepend hpre (.failed (not_exists_append hs hs') (Or.inl (heq ▸ htrue)) hbound')
  · rw [Method.after_returned]
    refine Method.wp_mono (bindStored_unbound hflag hfd hrest hfalse hunbound operation) ?_
    rintro tr' r o' n' ⟨hs', ⟨⟨e, he, hfails⟩, hbound'⟩ | ⟨b, name, hr, hserves, hassigned⟩⟩
    · refine BindEnd.prepend hpre (.failed (not_exists_append hs hs') (Or.inr ⟨e, ?_, hfails⟩) hbound')
      exact List.mem_append_right _ he
    · exact BindEnd.prepend hpre (.bound b name (not_exists_append hs hs') (heq ▸ hfalse) hr hserves hassigned)

end Endings

/-! ## `UDPSocket` -/

section UDP

variable {o : UDPSocket} {n : Net}

/-- The port of the name is the one stored. -/
def StoresPort (o : UDPSocket) (name : SockAddr) : Prop :=
  ∃ b, name = .inet b ∧ o.listeningPort = some (getPortNumber b)

/-- The end of `bind`, once the bind has succeeded: the port is asked for and stored. -/
def udpStorePort (address : SocketAddress) (bindResult : ℤ) : M UDPSocket (ℤ × SocketAddress) := do
  UDPSocket.initialiseListeningPortNumber
  let this ← Method.this
  match this.listeningPort with
  | none => Method.throw .badOptionalAccess
  | some port => return (bindResult, address.setSinPort (htons port))

theorem bindReceiveSocket_eq (address : SocketAddress) (operation : Option Callback) :
    UDPSocket.bindReceiveSocket address operation = (UDPSocket.closeIfBound >>= fun _ =>
      bindStored UDPSocket.receiveSocket (fun b this => { this with bound := b }) (.inet address)
        (getAddressLength address) .zero (udpStorePort address) operation) := rfl

/-- The test closes the new descriptor of an object that is bound. -/
theorem udpCloseIfBound_ends (o : UDPSocket) (n : Net) :
    UDPSocket.closeIfBound.wp Net.env (Released UDPSocket.bound UDPSocket.receiveSocket o n) o n := by
  unfold UDPSocket.closeIfBound
  rw [Method.wp_bind, Method.wp_this, Method.after_returned, Method.wp_ite]
  constructor
  · intro hbound
    simp [UDPSocket.close, Socket.close, hbound, getInvalidSocketValue, NoSocket, Released]
  · intro hbound
    have hfalse : o.bound = false := by simpa using hbound
    simp [hfalse, Released]

/-- The port is told and stored, or the socket is closed. -/
theorem initialiseListeningPort_ends {b : SocketAddress} (hname : n.Named o.receiveSocket (.inet b)) :
    UDPSocket.initialiseListeningPortNumber.wp Net.env (fun tr r o' n' => (¬ ∃ e ∈ tr, NoSocket e) ∧
      (r = .returned () ∧ n' = n ∧ o' = { o with listeningPort := some (getPortNumber b) } ∨
        r.Threw ∧ (∃ e ∈ tr, Fails e) ∧ o'.bound = false)) o n := by
  obtain ⟨i, hi, hb⟩ := hname
  simp only [UDPSocket.initialiseListeningPortNumber, socketToAddress, Method.wp_bind, Method.wp_this,
    Method.after_returned, wp_sys, Method.wp_pure]
  rintro ⟨result, address⟩ n' ⟨htells, rfl⟩
  by_cases hresult : result = -1
  · -- the object is closed, and the failure is the first call of the trace
    have hopen : n'.kernel.table o.receiveSocket ≠ none := by simp [hi]
    subst hresult
    simp only [if_true, ne_eq, Int.reduceNeg, Int.reduceEq, not_false_eq_true, UDPSocket.close, Socket.close,
      getErrorCode, Method.wp_bind, Method.wp_this, Method.after_returned, wp_sys, Method.wp_modify, Method.wp_throw]
    intro u n₁ _ errnum n₂ _ code n₃ _
    refine ⟨?_, Or.inr ⟨Outcome.threw_threw _, ⟨_, List.mem_cons_self, hopen, rfl⟩, trivial⟩⟩
    exact not_exists_cons id (not_exists_cons id (not_exists_cons id (not_exists_cons id not_exists_nil)))
  · obtain ⟨-, j, hj, haddress⟩ := htells.resolve_left hresult
    have heq : j = i := by
      rw [hi] at hj
      exact (Option.some.inj hj).symm
    subst heq
    obtain rfl : address = b := haddress b hb
    simp [hresult, NoSocket]

theorem udpStorePort_ends {address : SocketAddress} {name : SockAddr} (hbound : o.bound = true)
    (hname : n.Named o.receiveSocket name) (hassigned : Assigned (.inet address) name) :
    (udpStorePort address 0).wp Net.env
      (Settled UDPSocket.bound UDPSocket.receiveSocket StoresPort (.inet address)) o n := by
  cases name with
  | un path => exact hassigned.elim
  | inet b =>
    rw [udpStorePort, Method.wp_bind]
    refine Method.wp_mono (initialiseListeningPort_ends hname) ?_
    rintro tr r o' n' ⟨hs, ⟨rfl, rfl, rfl⟩ | ⟨hthrew, hfails, hunbound⟩⟩
    · simp only [Method.after_returned, Method.wp_bind, Method.wp_this, Method.wp_pure, List.append_nil]
      exact ⟨hs, Or.inr ⟨_, .inet b, rfl, ⟨hbound, hname, b, rfl, rfl⟩, hassigned⟩⟩
    · obtain ⟨_, rfl⟩ := hthrew.exists_eq
      exact ⟨hs, Or.inl ⟨hfails, hunbound⟩⟩

/-- **`UDPSocket::bind`.** -/
theorem udpBind_ends (o : UDPSocket) (n : Net) (address : SocketAddress) (operation : Option Callback) :
    (UDPSocket.bind (some address) operation).wp Net.env
      (BindEnd UDPSocket.bound UDPSocket.receiveSocket StoresPort (.inet address) o) o n := by
  simp only [UDPSocket.bind, bindReceiveSocket_eq, Method.wp_bind (m := Method.this), Method.wp_bind (m := sys _),
    Method.wp_bind (m := Method.modify _), Method.wp_this, wp_sys, Method.wp_modify, Method.after_returned,
    List.nil_append, Method.wp_ite, isInvalidSocket_iff]
  rintro fd n₁ ⟨hopens, hnames⟩
  constructor
  · rintro rfl
    simp only [getErrorCode, Method.wp_bind, wp_sys, Method.after_returned, Method.wp_throw]
    intro errnum n₂ _ code n₃ _
    exact .noSocket ⟨_, List.mem_cons_self, rfl⟩ (Outcome.threw_threw _) rfl rfl
  · intro hfd
    have hunbound : n₁.Unbound fd := unbound_of_opens hopens hnames hfd
    have hpre : ¬ ∃ e ∈ [(⟨n, .socket _ _ _, fd⟩ : Event Sys Ans Net)], NoSocket e :=
      not_exists_cons hfd not_exists_nil
    refine bindEnd_of_released hpre rfl hunbound (udpCloseIfBound_ends _ _) (fun _ _ => rfl) (fun _ _ => rfl) ?_
    intro name o n hbound hname hassigned
    exact udpStorePort_ends hbound hname hassigned

end UDP

/-! ## `DatagramIPCSocket` -/

section Datagram

variable {o : DatagramIPCSocket} {n : Net}

/-- The name is that of `path`, and `path` is stored. -/
def KeepsPath (path : Bytes) (o : DatagramIPCSocket) (name : SockAddr) : Prop :=
  name = pathAddress path ∧ o.socketPath = some path

/-- The end of `bind`, once the bind has succeeded. -/
def datagramStorePath (path : Bytes) (bindResult : ℤ) : M DatagramIPCSocket (ℤ × Bytes) := do
  Method.modify fun this => { this with socketPath := some path }
  return (bindResult, path)

theorem datagramCloseIfBound_ends (o : DatagramIPCSocket) (n : Net) : DatagramIPCSocket.closeIfBound.wp Net.env
    (Released DatagramIPCSocket.bound DatagramIPCSocket.receiveSocket o n) o n := by
  unfold DatagramIPCSocket.closeIfBound
  rw [Method.wp_bind, Method.wp_this, Method.after_returned, Method.wp_ite]
  constructor
  · intro hbound
    cases hpath : o.socketPath with
    | none =>
      simp [DatagramIPCSocket.close, DatagramIPCSocket.removeBoundPath, Socket.close, hbound, hpath,
        getInvalidSocketValue, NoSocket, Released]
    | some path =>
      simp [DatagramIPCSocket.close, DatagramIPCSocket.removeBoundPath, Socket.close, IPCSocket.removeSocketPath, hbound,
        hpath, getInvalidSocketValue, NoSocket, Released]
  · intro hbound
    have hfalse : o.bound = false := by simpa using hbound
    simp [hfalse, Released]

theorem datagramStorePath_ends {path : Bytes} {name : SockAddr} (hbound : o.bound = true)
    (hname : n.Named o.receiveSocket name) (hassigned : Assigned (pathAddress path) name) :
    (datagramStorePath path 0).wp Net.env
      (Settled DatagramIPCSocket.bound DatagramIPCSocket.receiveSocket (KeepsPath path) (pathAddress path)) o n := by
  cases name with
  | inet b => exact hassigned.elim
  | un sun_path =>
    have hpath : SockAddr.un sun_path = pathAddress path := congrArg SockAddr.un hassigned
    simp only [datagramStorePath, Method.wp_bind, Method.wp_modify, Method.after_returned, Method.wp_pure]
    exact ⟨by simp, Or.inr ⟨path, _, rfl, ⟨hbound, hname, hpath, rfl⟩, hassigned⟩⟩

theorem datagramOpenAndBind_ends (o : DatagramIPCSocket) (n : Net) (path : Bytes) (operation : Option Callback) :
    (DatagramIPCSocket.openAndBind path operation).wp Net.env
      (BindEnd DatagramIPCSocket.bound DatagramIPCSocket.receiveSocket (KeepsPath path) (pathAddress path) o) o n := by
  have heq : DatagramIPCSocket.openAndBind path operation = (do
      let receiveSocket ← sys (.socket AF_UNIX SOCK_DGRAM 0)
      Method.modify fun this => { this with receiveSocket := receiveSocket }
      if isInvalidSocket receiveSocket then
        let code ← getErrorCode
        Method.throw (.socketException (text "Error creating binding socket: " ++ code))
      else
        DatagramIPCSocket.closeIfBound
        bindStored DatagramIPCSocket.receiveSocket (fun b this => { this with bound := b }) (pathAddress path)
          sizeofPathAddress [] (datagramStorePath path) operation) := rfl
  simp only [heq, Method.wp_bind (m := sys _), Method.wp_bind (m := Method.modify _), wp_sys, Method.wp_modify,
    Method.after_returned, Method.wp_ite, isInvalidSocket_iff]
  rintro fd n₁ ⟨hopens, hnames⟩
  constructor
  · rintro rfl
    simp only [getErrorCode, Method.wp_bind, wp_sys, Method.after_returned, Method.wp_throw]
    intro errnum n₂ _ code n₃ _
    exact .noSocket ⟨_, List.mem_cons_self, rfl⟩ (Outcome.threw_threw _) rfl rfl
  · intro hfd
    have hunbound : n₁.Unbound fd := unbound_of_opens hopens hnames hfd
    have hpre : ¬ ∃ e ∈ [(⟨n, .socket AF_UNIX SOCK_DGRAM 0, fd⟩ : Event Sys Ans Net)], NoSocket e :=
      not_exists_cons hfd not_exists_nil
    refine bindEnd_of_released hpre rfl hunbound (datagramCloseIfBound_ends _ _) (fun _ _ => rfl) (fun _ _ => rfl) ?_
    intro name o n hbound hname hassigned
    exact datagramStorePath_ends hbound hname hassigned

/-- **`DatagramIPCSocket::bind`.** -/
theorem datagramBind_ends (o : DatagramIPCSocket) (n : Net) (override : Bool) (path : Bytes)
    (operation : Option Callback) : (DatagramIPCSocket.bindOverride override (some path) operation).wp Net.env
      (BindEnd DatagramIPCSocket.bound DatagramIPCSocket.receiveSocket (KeepsPath (resizePath path))
        (pathAddress (resizePath path)) o) o n := by
  unfold DatagramIPCSocket.bindOverride
  cases override with
  | false => exact datagramOpenAndBind_ends o n _ operation
  | true =>
    simp only [DatagramIPCSocket.removeOnOverride, IPCSocket.removeSocketPath, if_true, Method.wp_bind, wp_sys,
      Method.after_returned, Method.wp_pure]
    intro result n' hremove
    refine Method.wp_mono (datagramOpenAndBind_ends o n' _ operation) ?_
    intro tr r o' n'' h
    exact h.prepend (not_exists_cons id not_exists_nil)

end Datagram

end SocketLibrary.Steps
