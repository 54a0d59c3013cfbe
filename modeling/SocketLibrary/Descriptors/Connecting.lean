import Mathlib.Tactic
import SocketLibrary.Model.TCPSocket
import SocketLibrary.Posix.Kernel

/-!
# The first address that answers

`TCPSocket::constructSocket` goes through the addresses that the resolution returned, and undoes each attempt that
fails: `constructSocket_connects_first` says what any run of it has called, where it has stopped, and which descriptors
are open in the end. The induction is on the list of the addresses (`connectFirst_spec`).
-/

namespace SocketLibrary.Descriptors

open SocketLibrary.Interaction SocketLibrary.Posix SocketLibrary.Model

/-- A call with its answer. -/
abbrev Exchange := (c : Sys) × Ans c

/-- What was called and answered at an event, apart from the state it was made in. -/
def exchange {σ : Type} (e : Event Sys Ans σ) : Exchange := ⟨e.call, e.answer⟩

/-- An attempt that failed: there was no descriptor, or the address did not accept the connection. -/
inductive FailedAttempt where
  | noSocket (address : SocketAddress)
  | notConnected (address : SocketAddress) (fd : SOCKET) (hfd : fd ≠ -1) (connectionResult : ℤ)
      (hresult : connectionResult ≠ 0)

namespace FailedAttempt

/-- The address that was tried. -/
def address : FailedAttempt → SocketAddress
  | noSocket address | notConnected address .. => address

/-- What is called in the attempt: the descriptor is closed again, also where there is none. -/
def exchanges (hints : AddrInfo) : FailedAttempt → List Exchange
  | noSocket address =>
    [⟨.socket address.sa_family.toNat hints.ai_socktype hints.ai_protocol, (-1 : ℤ)⟩, ⟨.close (-1), ()⟩]
  | notConnected address fd _ connectionResult _ =>
    [⟨.socket address.sa_family.toNat hints.ai_socktype hints.ai_protocol, fd⟩,
      ⟨.connect fd (.inet address) sizeofSocketAddress, connectionResult⟩, ⟨.close fd, ()⟩]

end FailedAttempt

/-- What is called in the attempt that succeeds. -/
def connectedExchanges (hints : AddrInfo) (address : SocketAddress) (fd : SOCKET) : List Exchange :=
  [⟨.socket address.sa_family.toNat hints.ai_socktype hints.ai_protocol, fd⟩,
    ⟨.connect fd (.inet address) sizeofSocketAddress, (0 : ℤ)⟩]

/-- The loop has stopped at the address `last`, after the failed attempts: the object has its descriptor and its
address, and this descriptor is the only one that is open now and was not before. -/
structure Connected (hints : AddrInfo) (addresses : List SocketAddress) (failed : List FailedAttempt)
    (last : SocketAddress) (k : Kernel) (calls : List Exchange) (r : Outcome Exn Unit) (o' : TCPSocket) (k' : Kernel) :
    Prop where
  returned : r = .returned ()
  inOrder : ∃ untried, addresses = failed.map FailedAttempt.address ++ last :: untried
  made : calls = failed.flatMap (FailedAttempt.exchanges hints) ++ connectedExchanges hints last o'.socketDescriptor
  valid : o'.socketDescriptor ≠ -1
  serverAddress : o'.serverAddress = last
  protocolVersion : o'.protocolVersion = .ofFamily last.sa_family
  new : k.table o'.socketDescriptor = none
  table : ∃ id, k'.table = Function.update k.table o'.socketDescriptor (some id)

/-- The loop has gone through all addresses in vain, and has left nothing open. -/
structure Exhausted (hints : AddrInfo) (addresses : List SocketAddress) (failed : List FailedAttempt) (k : Kernel)
    (calls : List Exchange) (r : Outcome Exn Unit) (k' : Kernel) : Prop where
  threw : ∃ what, r = .threw (.socketException what)
  inOrder : addresses = failed.map FailedAttempt.address
  made : ∃ errnum what, calls = failed.flatMap (FailedAttempt.exchanges hints) ++
    [⟨.errno, errnum⟩, ⟨.strerror errnum, what⟩]
  table : k'.table = k.table

section Loop

variable {hints : AddrInfo} {addresses : List SocketAddress} {failed : List FailedAttempt} {last : SocketAddress}
  {k k₁ k' : Kernel} {calls : List Exchange} {r : Outcome Exn Unit} {o' : TCPSocket}

/-- A failed attempt before goes in front, if it has left the table as it was. -/
theorem Connected.cons (a : FailedAttempt) (hk : k₁.table = k.table)
    (h : Connected hints addresses failed last k₁ calls r o' k') :
    Connected hints (a.address :: addresses) (a :: failed) last k (a.exchanges hints ++ calls) r o' k' where
  returned := h.returned
  inOrder := by
    obtain ⟨untried, hu⟩ := h.inOrder
    exact ⟨untried, by rw [hu, List.map_cons, List.cons_append]⟩
  made := by rw [h.made, List.flatMap_cons, List.append_assoc]
  valid := h.valid
  serverAddress := h.serverAddress
  protocolVersion := h.protocolVersion
  new := hk ▸ h.new
  table := hk ▸ h.table

theorem Exhausted.cons (a : FailedAttempt) (hk : k₁.table = k.table)
    (h : Exhausted hints addresses failed k₁ calls r k') :
    Exhausted hints (a.address :: addresses) (a :: failed) k (a.exchanges hints ++ calls) r k' where
  threw := h.threw
  inOrder := by rw [h.inOrder, List.map_cons]
  made := by
    obtain ⟨errnum, what, hc⟩ := h.made
    exact ⟨errnum, what, by rw [hc, List.flatMap_cons, List.append_assoc]⟩
  table := h.table.trans hk

/-- How the loop ends. -/
def LoopEnd (hints : AddrInfo) (addresses : List SocketAddress) (k : Kernel) (calls : List Exchange)
    (r : Outcome Exn Unit) (o' : TCPSocket) (k' : Kernel) : Prop :=
  ∃ failed, (∃ last, Connected hints addresses failed last k calls r o' k') ∨
    Exhausted hints addresses failed k calls r k'

theorem LoopEnd.cons (a : FailedAttempt) (hk : k₁.table = k.table) (h : LoopEnd hints addresses k₁ calls r o' k') :
    LoopEnd hints (a.address :: addresses) k (a.exchanges hints ++ calls) r o' k' := by
  obtain ⟨failed, ⟨last, h⟩ | h⟩ := h
  · exact ⟨a :: failed, Or.inl ⟨last, h.cons a hk⟩⟩
  · exact ⟨a :: failed, Or.inr (h.cons a hk)⟩

/-- Closing the descriptor just opened gives the table back. -/
theorem closed_opened_table {fd : SOCKET} (h0 : 0 ≤ fd) (hnone : k.table fd = none) :
    ((k.opened fd h0).closed fd).table = k.table := by
  rw [Kernel.closed_table, Kernel.opened_table, Function.update_idem, ← hnone, Function.update_eq_self]

theorem closed_neg_one_table : (k.closed (-1)).table = k.table := by
  rw [Kernel.closed_table, ← Kernel.table_neg_one (k := k), Function.update_eq_self]

/-- **The loop**, by induction on the addresses that are left. -/
theorem connectFirst_spec (hints : AddrInfo) (addresses : List SocketAddress) (o : TCPSocket) (k : Kernel) :
    (TCPSocket.connectFirst hints addresses).wp Kernel.env
      (fun tr r o' k' => LoopEnd hints addresses k (tr.map exchange) r o' k') o k := by
  induction addresses generalizing o k with
  | nil =>
    simp only [TCPSocket.connectFirst, getErrorCode, Method.wp_bind, Method.wp_this, Method.after_returned, wp_sys]
    rintro errnum k' rfl what k'' rfl
    exact ⟨[], Or.inr ⟨⟨_, rfl⟩, rfl, ⟨errnum, what, rfl⟩, rfl⟩⟩
  | cons address addresses ih =>
    unfold TCPSocket.connectFirst
    rw [Method.wp_bind, wp_sys]
    intro (fd : ℤ) k₁ hopen
    simp only [Method.wp_bind, Method.wp_modify, Method.after_returned, Method.wp_ite, isInvalidSocket_iff]
    constructor
    · -- no descriptor: the attempt ends with `close(-1)`
      rintro rfl
      rw [Kernel.env, Kernel.opens_neg_one] at hopen
      subst hopen
      simp only [TCPSocket.close, Socket.close, Method.wp_bind, Method.wp_this, Method.after_returned, wp_sys,
        Method.wp_modify]
      rintro _ k₂ rfl
      refine Method.wp_mono (ih _ _) ?_
      intro tr r o' k' h
      exact h.cons (.noSocket address) closed_neg_one_table
    · intro hfd
      obtain ⟨h0, hnone, rfl⟩ := Kernel.Opens.of_ne hopen hfd
      rw [wp_sys]
      rintro (result : ℤ) k₂ rfl
      rw [Method.after_returned, Method.wp_ite]
      constructor
      · rintro rfl
        rw [Method.wp_modify]
        refine ⟨[], Or.inl ⟨address, ?_⟩⟩
        exact ⟨rfl, ⟨addresses, rfl⟩, rfl, hfd, rfl, rfl, hnone, k.fresh, Kernel.opened_table h0⟩
      · intro hresult
        simp only [TCPSocket.close, Socket.close, Method.wp_bind, Method.wp_this, Method.after_returned, wp_sys,
          Method.wp_modify]
        rintro _ k₃ rfl
        refine Method.wp_mono (ih _ _) ?_
        intro tr r o' k' h
        exact h.cons (.notConnected address fd hfd result hresult) (closed_opened_table h0 hnone)

end Loop

/-- The hints of `constructSocket`. -/
def connectHints (o : TCPSocket) : AddrInfo := createTcpHints o.protocolVersion 0

/-- The call begins with the resolution, and goes on with the loop if the code is 0. -/
theorem constructSocket_spec (o : TCPSocket) (k : Kernel) : TCPSocket.constructSocket.wp Kernel.env
    (fun tr r o' k' => ∃ node service code addresses l,
      tr = ⟨k, .getaddrinfo node service (connectHints o), (code, addresses)⟩ :: l ∧
      (code = 0 → LoopEnd (connectHints o) addresses k (l.map exchange) r o' k')) o k := by
  simp only [TCPSocket.constructSocket, resolveToAddresses, getErrorCode, Method.wp_bind, Method.wp_this,
    Method.after_returned, wp_sys]
  rintro ⟨code, addresses⟩ k₁ rfl
  by_cases hcode : code = 0
  · subst hcode
    have hloop := connectFirst_spec (connectHints o) addresses o k₁
    by_cases hnil : addresses = []
    · subst hnil
      simp only [ne_eq, not_true_eq_false, or_true, if_true, if_false, Method.wp_pure, Method.after_returned]
      refine Method.wp_mono hloop ?_
      intro tr r o' k' h
      exact ⟨_, _, 0, [], tr, rfl, fun _ => h⟩
    · simp only [ne_eq, not_true_eq_false, hnil, or_false, if_false, Method.wp_pure, Method.after_returned]
      refine Method.wp_mono hloop ?_
      intro tr r o' k' h
      exact ⟨_, _, 0, addresses, tr, rfl, fun _ => h⟩
  · simp only [ne_eq, hcode, not_false_eq_true, true_or, if_true, Method.wp_pure, Method.after_returned,
      Method.wp_bind, wp_sys, Method.wp_throw]
    rintro errnum k₂ rfl what k₃ rfl
    exact ⟨_, _, code, addresses, _, rfl, fun h => absurd h hcode⟩

/-- **The first address that answers.** In every run in which the name resolution returns with code 0, the addresses
are tried in order, each attempt that fails is undone, and the first that succeeds ends the loop: then its descriptor
is stored and is the only one more that is open, with the address and its family. If all of them fail, the call throws
a `SocketException`, and just the descriptors of before are open. -/
theorem constructSocket_connects_first {o o' : TCPSocket} {k k' : Kernel} {node service : Bytes}
    {addresses : List SocketAddress} {tr : List (Event Sys Ans Kernel)} {r : Outcome Exn Unit}
    (h : TCPSocket.constructSocket.Runs Kernel.env o k
      (⟨k, .getaddrinfo node service (connectHints o), (0, addresses)⟩ :: tr) r o' k') :
    ∃ failed : List FailedAttempt,
      (∃ last, Connected (connectHints o) addresses failed last k (tr.map exchange) r o' k' ∧
        k'.openDescriptors = insert o'.socketDescriptor k.openDescriptors) ∨
      Exhausted (connectHints o) addresses failed k (tr.map exchange) r k' ∧
        k'.openDescriptors = k.openDescriptors := by
  obtain ⟨node', service', code, addresses', l, htr, hloop⟩ := h.post (constructSocket_spec o k)
  obtain ⟨hevent, rfl⟩ := List.cons.inj htr
  cases hevent
  obtain ⟨failed, ⟨last, hc⟩ | he⟩ := hloop rfl
  · obtain ⟨id, htable⟩ := hc.table
    refine ⟨failed, Or.inl ⟨last, hc, ?_⟩⟩
    ext fd
    by_cases hfd : fd = o'.socketDescriptor
    · subst hfd
      simp [Kernel.openDescriptors, htable]
    · simp [Kernel.openDescriptors, htable, hfd]
  · refine ⟨failed, Or.inr ⟨he, ?_⟩⟩
    ext fd
    simp [Kernel.openDescriptors, he.table]

section Examples

/-- The two addresses of a host. -/
def hostAddresses : List SocketAddress := [.zero, SocketAddress.zero.setSinPort (htons 80)]

/-- Nothing listens at the first one. -/
def serveHost (c : Sys) (k : Kernel) : Ans c × Kernel := match c with
  | .getaddrinfo .. => ((0, hostAddresses), k)
  | .connect _ address _ => (if address = .inet .zero then -1 else 0, k)
  | c => Kernel.serve (fun _ => false) 3 c k

theorem serveHost_env (c : Sys) (k : Kernel) : Kernel.env c k (serveHost c k).1 (serveHost c k).2 := by
  cases c with
  | getaddrinfo node service hints => rfl
  | connect fd address length => rfl
  | _ => exact Kernel.serve_env (fun _ => false) 3 _ k

/-- The second address is connected to, with the descriptor 3 that the first attempt has closed again. -/
theorem constructSocket_connects_first_second :
    let o : TCPSocket := ⟨-1, text "localhost", 80, .Any, .zero⟩
    let run := (TCPSocket.constructSocket o).exec serveHost (.boot [])
    (run.2.1.2.serverAddress = SocketAddress.zero.setSinPort (htons 80) ∧ run.2.1.2.socketDescriptor = 3) ∧
    ∃ failed : List FailedAttempt,
      (∃ last, Connected (connectHints o) hostAddresses failed last (Kernel.boot []) (run.1.tail.map exchange) run.2.1.1
          run.2.1.2 run.2.2 ∧
        run.2.2.openDescriptors = insert run.2.1.2.socketDescriptor (Kernel.boot []).openDescriptors) ∨
      Exhausted (connectHints o) hostAddresses failed (Kernel.boot []) (run.1.tail.map exchange) run.2.1.1 run.2.2 ∧
        run.2.2.openDescriptors = (Kernel.boot []).openDescriptors :=
  ⟨by decide +kernel, constructSocket_connects_first (Prog.exec_runs serveHost_env (TCPSocket.constructSocket
    ⟨-1, text "localhost", 80, .Any, .zero⟩) (.boot []))⟩

end Examples

end SocketLibrary.Descriptors
