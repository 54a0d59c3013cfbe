import SocketLibrary.Model.TCPServerSocket
import SocketLibrary.Model.UDPSocket

/-!
# The port in an address

A port is written through `ipv4.sin_port` and read through the member of the family, in network byte order. Both members
have it at the same two bytes, so it is read back for every family and the other bytes stay (`SameButPort`).
`ports_agree` follows it along the four ways in which a socket comes by its port.
-/

namespace SocketLibrary.Addresses

open SocketLibrary.Interaction SocketLibrary.Posix SocketLibrary.Model

/-! ## The bytes of a port -/

theorem or_shiftLeft {lo : ℕ} (hi : ℕ) (h : lo < 2 ^ 8) : hi <<< 8 ||| lo = 256 * hi + lo := by
  rw [← Nat.shiftLeft_add_eq_or_of_lt h, Nat.shiftLeft_eq, Nat.mul_comm]

theorem toNat_u16 (lo hi : UInt8) : (u16 lo hi).toNat = 256 * hi.toNat + lo.toNat := by
  have hlo : lo.toNat < 2 ^ 8 := lo.toNat_lt
  have hhi : hi.toNat <<< 8 < 2 ^ 16 := by
    have hlt : hi.toNat < 2 ^ 8 := hi.toNat_lt
    rw [Nat.shiftLeft_eq]
    omega
  unfold u16
  rw [UInt16.toNat_or, UInt16.toNat_shiftLeft, UInt8.toNat_toUInt16, UInt8.toNat_toUInt16, Nat.or_comm]
  show (hi.toNat <<< 8 % 2 ^ 16) ||| lo.toNat = _
  rw [Nat.mod_eq_of_lt hhi, or_shiftLeft _ hlo]

/-- The two bytes change places. -/
theorem toNat_htons (x : UInt16) : (htons x).toNat = 256 * (x.toNat % 256) + x.toNat / 256 := by
  have hx : x.toNat < 2 ^ 16 := x.toNat_lt
  have hlow : x.toNat <<< 8 % 2 ^ 16 = (x.toNat % 256) <<< 8 := by
    rw [Nat.shiftLeft_eq, Nat.shiftLeft_eq]
    omega
  unfold htons
  rw [UInt16.toNat_or, UInt16.toNat_shiftLeft, UInt16.toNat_shiftRight]
  show (x.toNat <<< 8 % 2 ^ 16) ||| x.toNat >>> 8 = _
  rw [hlow, Nat.shiftRight_eq_div_pow, or_shiftLeft _ (by omega)]

theorem htons_htons (p : UInt16) : htons (htons p) = p := by
  have hp : p.toNat < 2 ^ 16 := p.toNat_lt
  apply UInt16.toNat_inj.1
  rw [toNat_htons, toNat_htons]
  omega

/-- A field that is stored is read back. -/
theorem u16_bytes (p : UInt16) : u16 p.toUInt8 (p >>> 8).toUInt8 = p := by
  have hp : p.toNat < 2 ^ 16 := p.toNat_lt
  apply UInt16.toNat_inj.1
  rw [toNat_u16, UInt16.toNat_toUInt8, UInt16.toNat_toUInt8, UInt16.toNat_shiftRight]
  show 256 * (p.toNat >>> 8 % 2 ^ 8) + _ = _
  rw [Nat.shiftRight_eq_div_pow]
  omega

/-! ## The bytes of an address -/

/-- The addresses agree in every byte that is not of the port. -/
def SameButPort (a b : SocketAddress) : Prop := ∀ i (h : i < 28), i ≠ 2 → i ≠ 3 → b.bytes[i] = a.bytes[i]

theorem setSinPort_same (a : SocketAddress) (p : UInt16) : SameButPort a (a.setSinPort p) := by
  intro i h h2 h3
  unfold SocketAddress.setSinPort
  rw [Vector.getElem_set_ne _ _ (Ne.symm h3), Vector.getElem_set_ne _ _ (Ne.symm h2)]

theorem SameButPort.refl (a : SocketAddress) : SameButPort a a := fun _ _ _ _ => rfl

section SameButPort

variable {a b : SocketAddress}

theorem SameButPort.sa_family_eq (h : SameButPort a b) : b.sa_family = a.sa_family := by
  unfold SocketAddress.sa_family
  rw [h 0 (by decide) (by decide) (by decide), h 1 (by decide) (by decide) (by decide)]

/-- What lies behind the port. -/
theorem SameButPort.drop_eq (h : SameButPort a b) {n : ℕ} (hn : 4 ≤ n) :
    b.bytes.toList.drop n = a.bytes.toList.drop n := by
  apply List.ext_getElem
  · simp
  · intro i hb ha
    simp only [List.length_drop, Vector.length_toList] at hb
    simp only [List.getElem_drop, Vector.getElem_toList]
    exact h (n + i) (by omega) (by omega) (by omega)

/-- The family, the host address, the flow information and the scope. -/
theorem SameButPort.fields_eq (h : SameButPort a b) : b.sa_family = a.sa_family ∧ b.sin_addr = a.sin_addr ∧
    b.sin6_addr = a.sin6_addr ∧ b.sin6_flowinfo = a.sin6_flowinfo ∧ b.sin6_scope_id = a.sin6_scope_id := by
  have hfour := h.drop_eq (n := 4) (by decide)
  have height := h.drop_eq (n := 8) (by decide)
  have htwentyfour := h.drop_eq (n := 24) (by decide)
  refine ⟨h.sa_family_eq, ?_, ?_, ?_, ?_⟩
  · rw [SocketAddress.sin_addr, hfour, SocketAddress.sin_addr]
  · rw [SocketAddress.sin6_addr, height, SocketAddress.sin6_addr]
  · rw [SocketAddress.sin6_flowinfo, hfour, SocketAddress.sin6_flowinfo]
  · rw [SocketAddress.sin6_scope_id, htwentyfour, SocketAddress.sin6_scope_id]

end SameButPort

theorem sin_port_setSinPort (a : SocketAddress) (p : UInt16) : (a.setSinPort p).sin_port = p := by
  unfold SocketAddress.sin_port SocketAddress.setSinPort
  rw [Vector.getElem_set_ne _ _ (by decide), Vector.getElem_set_self, Vector.getElem_set_self, u16_bytes]

/-- The two members have the port at the same bytes. -/
theorem getPortNumber_eq (a : SocketAddress) : getPortNumber a = htons a.sin_port := by
  show (if _ then htons a.sin_port else htons a.sin_port) = htons a.sin_port
  exact ite_self _

theorem getPortNumber_setSinPort (a : SocketAddress) (p : UInt16) : getPortNumber (a.setSinPort (htons p)) = p := by
  rw [getPortNumber_eq, sin_port_setSinPort, htons_htons]

/-! ## The calls on the way -/

section Runs

variable {σ : Type} {env : Env Sys Ans σ} {s : σ}

/-- `getaddrinfo` puts the port it is asked for into its addresses. -/
def PutsPort (env : Env Sys Ans σ) (port : UInt16) : Prop :=
  ∀ node hints s x s', env (.getaddrinfo node (to_string port.toNat) hints) s x s' → ∀ a ∈ x.2, getPortNumber a = port

/-- The name is resolved, and `a` comes first. -/
def Resolves (a : SocketAddress) : Event Sys Ans σ → Prop
  | ⟨_, .getaddrinfo .., x⟩ => x.1 = 0 ∧ x.2.head? = some a
  | _ => False

/-- `getsockname` tells the port. -/
def Tells (port : UInt16) : Event Sys Ans σ → Prop
  | ⟨_, .getsockname _, x⟩ => x.1 ≠ -1 ∧ getPortNumber x.2 = port
  | _ => False

theorem resolveToAddresses_spec {S : Type} {o : S} (hostname : Bytes) (port : UInt16) (hints : AddrInfo) :
    (resolveToAddresses hostname port hints).wp env (fun tr r o' _ => o' = o ∧ ∃ addresses result,
      r = .returned (addresses, result) ∧ ∀ a, result = 0 → addresses.head? = some a →
        (∃ e ∈ tr, Resolves a e) ∧ (PutsPort env port → getPortNumber a = port)) o s := by
  unfold resolveToAddresses
  rw [Method.wp_bind, wp_sys]
  rintro ⟨result, addresses⟩ s' hx
  rw [Method.after_returned, Method.wp_ite]
  constructor
  · intro _
    exact ⟨rfl, [], result, rfl, by simp⟩
  · intro _
    refine ⟨rfl, addresses, result, rfl, fun a hresult ha => ⟨⟨_, List.mem_cons_self, hresult, ha⟩, fun hport => ?_⟩⟩
    exact hport _ _ _ _ _ hx a (List.mem_of_mem_head? ha)

theorem socketToAddress_spec {S : Type} {o : S} (fd : SOCKET) :
    (socketToAddress fd).wp env (fun tr r o' _ => o' = o ∧ ∃ address result, r = .returned (address, result) ∧
      ∀ a, address = some a → ∃ e ∈ tr, Tells (getPortNumber a) e) o s := by
  unfold socketToAddress
  rw [Method.wp_bind, wp_sys]
  rintro ⟨result, address⟩ s' _
  refine ⟨rfl, _, result, rfl, fun a ha => ⟨_, List.mem_cons_self, ?_⟩⟩
  by_cases hresult : result = -1
  · rw [if_pos hresult] at ha
    cases ha
  · rw [if_neg hresult] at ha
    cases ha
    exact ⟨hresult, rfl⟩

theorem throwCode_returning {S α : Type} {o : S} {Q : List (Event Sys Ans σ) → α → S → σ → Prop} (what : Bytes → Exn) :
    Method.wp env (do
      let code ← getErrorCode
      Method.throw (what code)) (Method.Returning Q) o s := by
  simp [getErrorCode]

theorem closeAndThrow_returning {S α : Type} {o : S} {Q : List (Event Sys Ans σ) → α → S → σ → Prop} (close : M S Unit)
    (what : Bytes → Exn) :
    Method.wp env (do
      close
      let code ← getErrorCode
      Method.throw (what code)) (Method.Returning Q) o s := by
  have hclose : close.wp env (Method.Returning fun _ _ _ _ => True) o s :=
    Method.wp_iff.2 fun _ _ _ _ _ _ _ => trivial
  exact Method.wp_bind_returning hclose fun _ _ _ _ _ => throwCode_returning what

/-- Both classes store the port that `getsockname` tells, or throw. -/
theorem storePort_returning {S : Type} {o : S} (fd : SOCKET) (close : M S Unit) (what : Bytes → Exn)
    (store : UInt16 → S → S) :
    Method.wp env (do
      let (address, result) ← socketToAddress fd
      match address with
      | none =>
        if result ≠ 0 then
          close
          let code ← getErrorCode
          Method.throw (what code)
        else
          Method.throw .badOptionalAccess
      | some address => Method.modify (store (getPortNumber address)))
      (Method.Returning fun tr _ o' _ => ∃ port, (∃ e ∈ tr, Tells port e) ∧ o' = store port o) o s := by
  rw [Method.wp_bind]
  refine Method.wp_mono (socketToAddress_spec _) ?_
  rintro tr r o' s' ⟨rfl, address, result, rfl, htold⟩
  rw [Method.after_returned]
  cases address with
  | none =>
    rw [Method.wp_ite]
    exact ⟨fun _ => closeAndThrow_returning _ _, fun _ => (Method.wp_throw _).2 Method.returning_threw⟩
  | some address =>
    intro u _
    obtain ⟨e, he, htells⟩ := htold address rfl
    exact ⟨getPortNumber address, ⟨e, by simp [he], htells⟩, rfl⟩

theorem runOperation_returning {S : Type} {o : S} (operation : Option Callback) (fd : SOCKET) :
    (runOperation operation fd).wp env (Method.Returning fun _ _ o' _ => o' = o) o s := by
  rw [Method.wp_iff]
  intro tr r o' s' hrun u hr
  have hkept : (runOperation operation fd).Always (fun _ => True) o fun _ o' => o' = o := by simp
  exact (hkept.runs hrun).2

/-! ### `TCPServerSocket` -/

theorem openSocket_returning (localHostname : Option Bytes) (o : TCPServerSocket) :
    (TCPServerSocket.openSocket localHostname).wp env (Method.Returning fun tr _ o' _ => o'.port = o.port ∧
      (∃ e ∈ tr, Resolves o'.serverAddress e) ∧ (PutsPort env o.port → getPortNumber o'.serverAddress = o.port)) o s := by
  unfold TCPServerSocket.openSocket
  rw [Method.wp_bind, Method.wp_this, Method.after_returned, Method.wp_bind]
  refine Method.wp_mono (resolveToAddresses_spec _ _ _) ?_
  rintro tr r o' s' ⟨rfl, addresses, result, rfl, hfirst⟩
  rw [Method.after_returned, Method.wp_ite]
  constructor
  · intro _
    exact throwCode_returning _
  · intro hresolved
    obtain ⟨hresult, hsome⟩ := not_or.1 hresolved
    obtain ⟨a, rest, rfl⟩ := List.exists_cons_of_ne_nil hsome
    obtain ⟨⟨e, he, hresolves⟩, hport⟩ := hfirst a (Decidable.not_not.1 hresult) rfl
    rw [Method.wp_bind, wp_sys]
    intro fd s₁ _
    rw [Method.after_returned, Method.wp_bind, Method.wp_modify, Method.after_returned, Method.wp_ite]
    constructor
    · intro _
      exact throwCode_returning _
    · intro _ u _
      exact ⟨rfl, ⟨e, by simp [he], hresolves⟩, hport⟩

theorem enableReuse_returning (o : TCPServerSocket) :
    TCPServerSocket.enableReuse.wp env (Method.Returning fun _ _ o' _ => o' = o) o s := by
  unfold TCPServerSocket.enableReuse
  rw [Method.wp_bind, Method.wp_this, Method.after_returned, Method.wp_bind, wp_sys]
  intro result s' _
  rw [Method.after_returned, Method.wp_ite]
  constructor
  · intro _
    exact throwCode_returning _
  · intro _ u _
    rfl

theorem startListening_returning (connectionBacklogSize : UInt32) (o : TCPServerSocket) :
    (TCPServerSocket.startListening connectionBacklogSize).wp env (Method.Returning fun _ _ o' _ => o' = o) o s := by
  unfold TCPServerSocket.startListening
  rw [Method.wp_bind, Method.wp_this, Method.after_returned, Method.wp_bind, wp_sys]
  intro result s' _
  rw [Method.after_returned, Method.wp_ite]
  constructor
  · intro _
    exact closeAndThrow_returning _ _
  · intro _ u _
    rfl

theorem initialisePortNumber_returning (o : TCPServerSocket) :
    TCPServerSocket.initialisePortNumber.wp env (Method.Returning fun tr _ o' _ =>
      ∃ port, (∃ e ∈ tr, Tells port e) ∧ o' = { o with port := port }) o s := by
  unfold TCPServerSocket.initialisePortNumber
  rw [Method.wp_bind, Method.wp_this, Method.after_returned]
  exact storePort_returning _ TCPServerSocket.close _ fun port this => { this with port := port }

/-- The port that was asked for stays, and otherwise the one that is told is stored in both places. -/
theorem bindAddress_returning (o : TCPServerSocket) :
    TCPServerSocket.bindAddress.wp env (Method.Returning fun tr _ o' _ => (o.port ≠ 0 ∧ o' = o) ∨
      o.port = 0 ∧ ∃ port, (∃ e ∈ tr, Tells port e) ∧
        o' = { o with port := port, serverAddress := o.serverAddress.setSinPort (htons port) }) o s := by
  unfold TCPServerSocket.bindAddress
  rw [Method.wp_bind, Method.wp_this, Method.after_returned, Method.wp_bind, wp_sys]
  intro result s' _
  rw [Method.after_returned, Method.wp_ite]
  constructor
  · intro _
    exact closeAndThrow_returning _ _
  · intro _
    rw [Method.wp_ite]
    constructor
    · intro hport
      refine Method.wp_bind_returning (initialisePortNumber_returning o) ?_
      rintro tr - o' s₁ ⟨port, ⟨e, he, htells⟩, rfl⟩ u -
      exact Or.inr ⟨hport, port, ⟨e, by simp [he], htells⟩, rfl⟩
    · intro hport u _
      exact Or.inl ⟨hport, rfl⟩

/-- The address that is stored is the resolved one with the port of the object. -/
def PortStored (port : UInt16) (tr : List (Event Sys Ans σ)) (o : TCPServerSocket) : Prop :=
  getPortNumber o.serverAddress = o.port ∧ (∃ a, (∃ e ∈ tr, Resolves a e) ∧ SameButPort a o.serverAddress) ∧
    (port ≠ 0 → o.port = port) ∧ (port = 0 → ∃ e ∈ tr, Tells o.port e)

theorem construct_returning {port : UInt16} (hport : port ≠ 0 → PutsPort env port) (localHostname : Option Bytes)
    (connectionBacklogSize : UInt32) (protocolVersion : InternetProtocolVersion)
    (preBindSocketOperation : Option Callback) (o : TCPServerSocket) :
    (TCPServerSocket.construct localHostname port connectionBacklogSize protocolVersion preBindSocketOperation).wp env
      (Method.Returning fun tr _ o' _ => PortStored port tr o') o s := by
  unfold TCPServerSocket.construct TCPServerSocket.constructSocket
  rw [Method.wp_bind, Method.wp_modify, Method.after_returned]
  refine Method.wp_bind_returning (openSocket_returning _ _) ?_
  rintro tr₁ - o₁ s₁ ⟨hopened, ⟨e, he, hresolves⟩, haddress⟩
  refine Method.wp_bind_returning (enableReuse_returning _) ?_
  rintro tr₂ - o₂ s₂ rfl
  rw [Method.wp_bind, Method.wp_this, Method.after_returned]
  refine Method.wp_bind_returning (runOperation_returning _ _) ?_
  rintro tr₃ - o₃ s₃ rfl
  refine Method.wp_bind_returning (bindAddress_returning _) ?_
  rintro tr₄ - o₄ s₄ hbound
  refine Method.wp_mono (startListening_returning _ _) ?_
  intro tr₅ r o₅ s₅ hlisten u hr
  obtain rfl := hlisten u hr
  rcases hbound with ⟨hne, rfl⟩ | ⟨hzero, told, ⟨e', he', htells⟩, rfl⟩
  · have hasked : port ≠ 0 := fun h => hne (hopened.trans h)
    have hsame := (haddress (hport hasked)).trans hopened.symm
    refine ⟨hsame, ⟨_, ⟨e, by simp [he], hresolves⟩, .refl _⟩, fun _ => hopened, fun h => absurd h hasked⟩
  · refine ⟨getPortNumber_setSinPort _ _, ⟨_, ⟨e, by simp [he], hresolves⟩, setSinPort_same _ _⟩, fun h => ?_, fun _ => ?_⟩
    · exact absurd (hopened.symm.trans hzero) h
    · exact ⟨e', by simp [he'], htells⟩

/-! ### `UDPSocket` -/

theorem initialiseListeningPortNumber_returning (o : UDPSocket) :
    UDPSocket.initialiseListeningPortNumber.wp env (Method.Returning fun tr _ o' _ =>
      ∃ port, (∃ e ∈ tr, Tells port e) ∧ o' = { o with listeningPort := some port }) o s := by
  unfold UDPSocket.initialiseListeningPortNumber
  rw [Method.wp_bind, Method.wp_this, Method.after_returned]
  exact storePort_returning _ UDPSocket.close _ fun port this => { this with listeningPort := some port }

/-- A `bind` that succeeds returns the address with the port of the object, which is the one that is told. -/
def PortReturned (address : SocketAddress) (tr : List (Event Sys Ans σ)) (bound : ℤ × SocketAddress) (o : UDPSocket) :
    Prop :=
  bound.1 ≠ -1 → o.listeningPort = some (getPortNumber bound.2) ∧ SameButPort address bound.2 ∧
    ∃ e ∈ tr, Tells (getPortNumber bound.2) e

theorem PortReturned.append {address : SocketAddress} {tr' : List (Event Sys Ans σ)} {bound : ℤ × SocketAddress}
    {o : UDPSocket} (h : PortReturned address tr' bound o) (tr : List (Event Sys Ans σ)) :
    PortReturned address (tr ++ tr') bound o := by
  intro hok
  obtain ⟨hport, hsame, e, he, htells⟩ := h hok
  exact ⟨hport, hsame, e, List.mem_append_right _ he, htells⟩

theorem bindReceiveSocket_returning (address : SocketAddress) (operation : Option Callback) (o : UDPSocket) :
    (UDPSocket.bindReceiveSocket address operation).wp env
      (Method.Returning fun tr bound o' _ => PortReturned address tr bound o') o s := by
  unfold UDPSocket.bindReceiveSocket
  have hany : ∀ o s, UDPSocket.closeIfBound.wp env (Method.Returning fun _ _ _ _ => True) o s := fun _ _ =>
    Method.wp_iff.2 fun _ _ _ _ _ _ _ => trivial
  refine Method.wp_bind_returning (hany o s) ?_
  rintro tr₁ - o₁ s₁ -
  rw [Method.wp_bind, Method.wp_this, Method.after_returned]
  refine Method.wp_bind_returning (runOperation_returning _ _) ?_
  rintro tr₂ - o₂ s₂ rfl
  rw [Method.wp_bind, wp_sys]
  intro result s₃ _
  rw [Method.after_returned, Method.wp_bind, Method.wp_modify, Method.after_returned, Method.wp_ite]
  constructor
  · intro hfailed bound hr hok
    cases hr
    exact absurd hfailed hok
  · intro hok
    refine Method.wp_bind_returning (initialiseListeningPortNumber_returning _) ?_
    rintro tr₃ - o₃ s₄ ⟨port, ⟨e, he, htells⟩, rfl⟩
    rw [Method.wp_bind, Method.wp_this, Method.after_returned]
    intro bound hr _
    cases hr
    have hport : getPortNumber (address.setSinPort (htons port)) = port := getPortNumber_setSinPort address port
    exact ⟨congrArg some hport.symm, setSinPort_same _ _, e, by simp [he], hport.symm ▸ htells⟩

theorem bind_returning (address : SocketAddress) (operation : Option Callback) (o : UDPSocket) :
    (UDPSocket.bind (some address) operation).wp env
      (Method.Returning fun tr bound o' _ => PortReturned address tr bound o') o s := by
  unfold UDPSocket.bind
  rw [Method.wp_bind, Method.wp_this, Method.after_returned, Method.wp_bind, wp_sys]
  intro fd s₁ _
  rw [Method.after_returned, Method.wp_bind, Method.wp_modify, Method.after_returned, Method.wp_ite]
  constructor
  · intro _
    exact throwCode_returning _
  · intro _
    refine Method.wp_mono (bindReceiveSocket_returning address operation _) ?_
    intro tr r o' s' h bound hr
    exact (h bound hr).append _

theorem bindHost_returning (protocolVersion : InternetProtocolVersion) (localHostname : Option Bytes) (port : UInt16)
    (operation : Option Callback) (o : UDPSocket) :
    (UDPSocket.bindHost protocolVersion localHostname port operation).wp env
      (Method.Returning fun tr bound o' _ => ∃ a, (∃ e ∈ tr, Resolves a e) ∧ PortReturned a tr bound o') o s := by
  unfold UDPSocket.bindHost
  rw [Method.wp_bind]
  refine Method.wp_mono (resolveToAddresses_spec _ _ _) ?_
  rintro tr r o' s' ⟨rfl, addresses, result, rfl, hfirst⟩
  rw [Method.after_returned, Method.wp_ite]
  constructor
  · intro _
    exact (Method.wp_throw _).2 Method.returning_threw
  · intro hresolved
    obtain ⟨hresult, hsome⟩ := not_or.1 hresolved
    obtain ⟨a, rest, rfl⟩ := List.exists_cons_of_ne_nil hsome
    obtain ⟨⟨e, he, hresolves⟩, -⟩ := hfirst a (Decidable.not_not.1 hresult) rfl
    refine Method.wp_mono (bind_returning a operation o') ?_
    intro tr' r o₁ s₁ h bound hr
    exact ⟨a, ⟨e, List.mem_append_left _ he, hresolves⟩, (h bound hr).append tr⟩

end Runs

/-- **The port in both places.** Storing a port in an address of any family changes no other byte, so neither the family
nor the host, and the port is read back. The address of a `TCPServerSocket` that was constructed is the resolved one
with the port of the object, which is the one that was asked for, if `getaddrinfo` puts that into its addresses, or told
by `getsockname` if that was 0. The address that a successful `bind` of a `UDPSocket` returns is the one that was given or
resolved, with the port of the object, which was told. -/
theorem ports_agree {σ : Type} (env : Env Sys Ans σ) (port : UInt16) :
    (∀ (a : SocketAddress) (p : UInt16), SameButPort a (a.setSinPort (htons p)) ∧
      (a.setSinPort (htons p)).sa_family = a.sa_family ∧ (a.setSinPort (htons p)).sin_addr = a.sin_addr ∧
      (a.setSinPort (htons p)).sin6_addr = a.sin6_addr ∧
      (a.setSinPort (htons p)).sin6_flowinfo = a.sin6_flowinfo ∧
      (a.setSinPort (htons p)).sin6_scope_id = a.sin6_scope_id ∧ getPortNumber (a.setSinPort (htons p)) = p) ∧
    ((port ≠ 0 → PutsPort env port) →
      ∀ localHostname connectionBacklogSize protocolVersion operation o s tr u o' s',
        (TCPServerSocket.construct localHostname port connectionBacklogSize protocolVersion operation).Runs env o s tr
          (.returned u) o' s' → PortStored port tr o') ∧
    (∀ address operation o s tr bound o' s',
      (UDPSocket.bind (some address) operation).Runs env o s tr (.returned bound) o' s' →
        PortReturned address tr bound o') ∧
    ∀ protocolVersion localHostname operation o s tr bound o' s',
      (UDPSocket.bindHost protocolVersion localHostname port operation).Runs env o s tr (.returned bound) o' s' →
        ∃ a, (∃ e ∈ tr, Resolves a e) ∧ PortReturned a tr bound o' := by
  refine ⟨fun a p => ?_, ?_, ?_, ?_⟩
  · obtain ⟨hfamily, hipv4, hipv6, hflow, hscope⟩ := (setSinPort_same a (htons p)).fields_eq
    exact ⟨setSinPort_same a _, hfamily, hipv4, hipv6, hflow, hscope, getPortNumber_setSinPort a p⟩
  · intro hport localHostname connectionBacklogSize protocolVersion operation o s tr u o' s' hrun
    exact hrun.post (construct_returning hport _ _ _ _ _) u rfl
  · intro address operation o s tr bound o' s' hrun
    exact hrun.post (bind_returning address operation o) bound rfl
  · intro protocolVersion localHostname operation o s tr bound o' s' hrun
    exact hrun.post (bindHost_returning protocolVersion localHostname port operation o) bound rfl

section Examples

/-- 127.0.0.1 with the port 8080. -/
def localAddress : SocketAddress :=
  ⟨#v[2, 0, 0x1f, 0x90, 127, 0, 0, 1, 0, 0, 0, 0, 0, 0, 0, 0, 0, 0, 0, 0, 0, 0, 0, 0, 0, 0, 0, 0]⟩

/-- The name is resolved to that address, and everything succeeds. -/
def answerLocal (c : Sys) (u : Unit) : Ans c × Unit := match c with
  | .getaddrinfo .. => ((0, [localAddress]), u)
  | .socket .. => (3, u)
  | .accept .. => (⟨-1, .zero, []⟩, u)
  | .close _ => ((), u)
  | .getsockname _ => ((0, localAddress), u)
  | .recv .. => (.error, u)
  | .recvfrom .. => (⟨-1, [], .zero⟩, u)
  | .inet_ntop .. => (none, u)
  | .strerror _ => ([], u)
  | .callback .. => (.returned, u)
  | .setsockopt .. | .connect .. | .bind .. | .listen .. | .select .. | .send .. | .sendto .. | .remove .. | .errno =>
    (0, u)

def localAnswers : Env Sys Ans Unit := fun c u x u' => (x, u') = answerLocal c u

/-- A server with the port 8080, one with a port of the system's choice, and a UDP socket, bound to that address and to
the host. -/
theorem ports_agree_local :
    (∃ tr o', (TCPServerSocket.construct none 8080 20 .Any none).Runs localAnswers ⟨0, .Any, .zero, -1⟩ () tr
      (.returned ()) o' () ∧ PortStored 8080 tr o' ∧ o'.port = 8080) ∧
    (∃ tr o', (TCPServerSocket.construct none 0 20 .Any none).Runs localAnswers ⟨0, .Any, .zero, -1⟩ () tr
      (.returned ()) o' () ∧ PortStored 0 tr o' ∧ ∃ e ∈ tr, Tells o'.port e) ∧
    (∃ tr address o', (UDPSocket.bind (some localAddress) none).Runs localAnswers {} () tr
      (.returned (0, address)) o' () ∧ o'.listeningPort = some (getPortNumber address) ∧ SameButPort localAddress address) ∧
    ∃ tr address o', (UDPSocket.bindHost .Any none 0 none).Runs localAnswers {} () tr (.returned (0, address)) o' () ∧
      o'.listeningPort = some (getPortNumber address) := by
  have hport : PutsPort localAnswers 8080 := by
    intro node hints u x u' hx a ha
    obtain ⟨rfl, -⟩ := Prod.mk.inj hx
    obtain rfl := List.mem_singleton.1 ha
    decide
  have hrun : ∀ {S α : Type} (m : M S α) (o : S), m.Runs localAnswers o () (m o |>.exec answerLocal ()).1
      (m o |>.exec answerLocal ()).2.1.1 (m o |>.exec answerLocal ()).2.1.2 (m o |>.exec answerLocal ()).2.2 :=
    fun m o => Prog.exec_runs (fun _ _ => rfl) (m o) ()
  refine ⟨?_, ?_, ?_, ?_⟩
  · have hserver := hrun (TCPServerSocket.construct none 8080 20 .Any none) ⟨0, .Any, .zero, -1⟩
    have hstored := (ports_agree localAnswers 8080).2.1 (fun _ => hport) _ _ _ _ _ _ _ _ _ _ hserver
    exact ⟨_, _, hserver, hstored, hstored.2.2.1 (by decide)⟩
  · have hserver := hrun (TCPServerSocket.construct none 0 20 .Any none) ⟨0, .Any, .zero, -1⟩
    have hstored := (ports_agree localAnswers 0).2.1 (absurd rfl) _ _ _ _ _ _ _ _ _ _ hserver
    exact ⟨_, _, hserver, hstored, hstored.2.2.2 rfl⟩
  · have hsocket := hrun (UDPSocket.bind (some localAddress) none) {}
    obtain ⟨hlistening, hsame, -⟩ := (ports_agree localAnswers 0).2.2.1 _ _ _ _ _ _ _ _ hsocket (by decide)
    exact ⟨_, _, _, hsocket, hlistening, hsame⟩
  · have hsocket := hrun (UDPSocket.bindHost .Any none 0 none) {}
    obtain ⟨a, -, hreturned⟩ := (ports_agree localAnswers 0).2.2.2 _ _ _ _ _ _ _ _ _ hsocket
    exact ⟨_, _, _, hsocket, (hreturned (by decide)).1⟩

end Examples

end SocketLibrary.Addresses
