import SocketLibrary.Binding.Held

/-!
# Binding anew

When nothing goes wrong in the system, `bind` binds a new object to the address it is given. For an object that is bound
already it does not: the descriptor that is closed then is the new one. `bind_binds_iff` says that this is the only
difference.
-/

namespace SocketLibrary.Binding

open SocketLibrary.Interaction SocketLibrary.Posix SocketLibrary.Model SocketLibrary.Steps SocketLibrary.Descriptors

section Ending

variable {S B : Type} (bound : S → Bool) (fd : S → SOCKET) (stores : S → SockAddr → Prop)

/-- The system gives a descriptor, the operation of the user returns, an open and unbound socket is bound where it should
be, and its name is told. -/
def Favourable (tr : List (Event Sys Ans Net)) : Prop := (¬ ∃ e ∈ tr, NoSocket e) ∧ ¬ ∃ e ∈ tr, Fails e

/-- The call has returned 0, the object is bound to the address, through an open descriptor, and stores it. -/
def BindsTo (address : SockAddr) (r : Outcome Exn (ℤ × B)) (o' : S) (n' : Net) : Prop :=
  (∃ b, r = .returned (0, b)) ∧ ∃ name, Serves bound fd stores o' n' name ∧ Assigned address name

variable {bound fd stores}

theorem bindsTo_iff_of_end {address : SockAddr} {o o' : S} {n' : Net} {tr : List (Event Sys Ans Net)}
    {r : Outcome Exn (ℤ × B)} (h : BindEnd bound fd stores address o tr r o' n') (htr : Favourable tr) :
    BindsTo bound fd stores address r o' n' ↔ bound o = false := by
  cases h with
  | noSocket hs hthrew hkept hfd => exact absurd hs htr.1
  | failed hs hfails hunbound =>
    have htrue : bound o = true := hfails.resolve_right htr.2
    constructor
    · rintro ⟨-, name, ⟨hbound, -⟩, -⟩
      rw [hunbound] at hbound
      cases hbound
    · intro hfalse
      rw [hfalse] at htrue
      cases htrue
  | bound b name hs hfalse hr hserves hassigned => exact iff_of_true ⟨⟨b, hr⟩, name, hserves, hassigned⟩ hfalse

end Ending

/-- **Binding succeeds just on an object that is not bound**, if the system lets it: with code 0, on an open descriptor
with the new address, and with its port or path stored. -/
theorem bind_binds_iff (n : Net) (operation : Option Callback) :
    (∀ (o : UDPSocket) (address : SocketAddress) tr r o' n',
      (UDPSocket.bind (some address) operation).Runs Net.env o n tr r o' n' → Favourable tr →
      (BindsTo UDPSocket.bound UDPSocket.receiveSocket StoresPort (.inet address) r o' n' ↔ o.bound = false)) ∧
    ∀ (o : DatagramIPCSocket) (override : Bool) (path : Bytes) tr r o' n',
      (DatagramIPCSocket.bindOverride override (some path) operation).Runs Net.env o n tr r o' n' → Favourable tr →
      (BindsTo DatagramIPCSocket.bound DatagramIPCSocket.receiveSocket (KeepsPath (resizePath path))
        (pathAddress (resizePath path)) r o' n' ↔ o.bound = false) := by
  constructor
  · intro o address tr r o' n' hr htr
    exact bindsTo_iff_of_end (hr.post (udpBind_ends o n address operation)) htr
  · intro o override path tr r o' n' hr htr
    exact bindsTo_iff_of_end (hr.post (datagramBind_ends o n override path operation)) htr

section Examples

/-- A new `UDPSocket` is bound, on a system where nothing fails. -/
theorem bind_binds_iff_new : ∃ tr r o' n',
    (UDPSocket.bind (some .zero) none).Runs Net.env {} .boot tr r o' n' ∧ Favourable tr ∧
      BindsTo UDPSocket.bound UDPSocket.receiveSocket StoresPort (.inet .zero) r o' n' := by
  have hr := Net.execute_runs (fun _ => false) 3 (UDPSocket.bind (some .zero) none) {} .boot
  have htr : Favourable (Net.execute (fun _ => false) 3 (UDPSocket.bind (some .zero) none) {} .boot).1 := by
    obtain ⟨n₁, n₂, n₃, domain, length, htrace⟩ : ∃ n₁ n₂ n₃ domain length,
        (Net.execute (fun _ => false) 3 (UDPSocket.bind (some .zero) none) {} .boot).1 =
          [⟨n₁, .socket domain SOCK_DGRAM IPPROTO_UDP, (3 : ℤ)⟩, ⟨n₂, .bind 3 (.inet .zero) length, (0 : ℤ)⟩,
            ⟨n₃, .getsockname 3, (0, .zero)⟩] := ⟨_, _, _, _, _, rfl⟩
    rw [htrace]
    exact ⟨by simp [NoSocket], by simp [Fails]⟩
  exact ⟨_, _, _, _, hr, htr, ((bind_binds_iff .boot none).1 {} .zero _ _ _ _ hr htr).2 rfl⟩

/-- A `UDPSocket` that is bound is not bound anew, though nothing fails. -/
theorem rebind_fails : ¬ ∀ (o : UDPSocket) (n : Net) (address : SocketAddress) (operation : Option Callback) tr r o' n',
    UDPReachable .lp64 o → (UDPSocket.bind (some address) operation).Runs Net.env o n tr r o' n' → Favourable tr →
      BindsTo UDPSocket.bound UDPSocket.receiveSocket StoresPort (.inet address) r o' n' := by
  intro h
  have hreachable : UDPReachable .lp64 ⟨true, 3, .Any, some 0, none⟩ :=
    .call .new (Net.execute_runs (fun _ => false) 3 (@UDPCall.perform .lp64 (.bind (some .zero) none)) {} .boot)
  -- the state in which the first `bind` has ended
  obtain ⟨n, hn⟩ : ∃ n, n = (Net.execute (fun _ => false) 3 (UDPSocket.bind (some .zero) none) {} .boot).2.2 := ⟨_, rfl⟩
  have hr := Net.execute_runs (fun _ => false) 4 (UDPSocket.bind (some .zero) none) ⟨true, 3, .Any, some 0, none⟩ n
  have htr : Favourable (Net.execute (fun _ => false) 4 (UDPSocket.bind (some .zero) none)
      ⟨true, 3, .Any, some 0, none⟩ n).1 := by
    obtain ⟨n₁, n₂, n₃, domain, length, htrace⟩ : ∃ n₁ n₂ n₃ domain length,
        (Net.execute (fun _ => false) 4 (UDPSocket.bind (some .zero) none) ⟨true, 3, .Any, some 0, none⟩ n).1 =
          [⟨n₁, .socket domain SOCK_DGRAM IPPROTO_UDP, (4 : ℤ)⟩, ⟨n₂, .close 4, ()⟩,
            ⟨n₃, .bind (-1) (.inet .zero) length, (-1 : ℤ)⟩] := by
      subst hn
      exact ⟨_, _, _, _, _, rfl⟩
    -- the new descriptor is closed by now, and the bind is made on -1
    rw [htrace]
    exact ⟨by simp [NoSocket], by simp [Fails, Net.Unbound, Kernel.table_neg_one]⟩
  have hbinds := h _ n .zero none _ _ _ _ hreachable hr htr
  have hend := udpBind_ends ⟨true, 3, .Any, some 0, none⟩ n .zero none
  have hunbound := (bindsTo_iff_of_end (hr.post hend) htr).1 hbinds
  cases hunbound

end Examples

end SocketLibrary.Binding
