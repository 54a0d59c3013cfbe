import SocketLibrary.Datagrams.Mailbox
import SocketLibrary.Datagrams.Waiting
import SocketLibrary.Interaction.Concurrent
import SocketLibrary.Steps.Reads
import SocketLibrary.Stream.Peeking

/-!
# Datagrams between any number of sockets

Each client has a datagram socket of one of the two classes, bound to an address of its own; the clients send to each
other, receive, wait and close, in any order and at the same time. The state is, for each client, the list of the
datagrams that were accepted for it, with their senders, and how many it was handed. A `Carrier` says which datagram may
be handed over next; `Carrier.ordered` loses nothing and keeps the order.

`datagrams_account` says what the calls of the clients have to do with these lists.
-/

namespace SocketLibrary.Datagrams

open SocketLibrary.Interaction SocketLibrary.Posix SocketLibrary.Model SocketLibrary.Binding
open SocketLibrary.Stream (Peeks)

/-! ## The network -/

section Network

variable {ι : Type}

/-- Which datagram may be handed over when `n` have been, of all that were accepted. What is accepted later takes no
possibility away. -/
structure Carrier (ι : Type) where
  arrives : List (ι × Bytes) → ℕ → ι × Bytes → Prop
  mono : ∀ log log' n d, log <+: log' → arrives log n d → arrives log' n d

/-- Each datagram is handed over once, in the order in which they were accepted. -/
def Carrier.ordered : Carrier ι where
  arrives log n d := log[n]? = some d
  mono := by
    rintro log _ n d ⟨rest, rfl⟩ hd
    obtain ⟨hn, -⟩ := List.getElem?_eq_some_iff.1 hd
    rwa [List.getElem?_append_left hn]

/-- The datagrams that were accepted for each client, and the number of those that it was handed. -/
structure Post (ι : Type) where
  log : ι → List (ι × Bytes) := fun _ => []
  handed : ι → ℕ := fun _ => 0

namespace Post

variable [DecidableEq ι] (w : Post ι)

def accept (sender : ι) (recipient : Option ι) (data : Bytes) : Post ι := match recipient with
  | none => w
  | some j => { w with log := Function.update w.log j (w.log j ++ [(sender, data)]) }

def hand (i : ι) : Post ι := { w with handed := Function.update w.handed i (w.handed i + 1) }

end Post

/-- What `recvfrom` stores, and reports, of the datagram `d`. -/
def Shows (length : ℕ) (x : Datagram) (d : Bytes) : Prop :=
  x.data = d.take length ∧ ∃ whole : Bool, x.result = if whole then (d.length : ℤ) else (d.take length).length

variable [DecidableEq ι]

/-- The network at the client `i`, whose socket has the descriptor `fd i`; the address `address` is that of the client
`dest address`. A call to send may be refused, one to receive may fail, and a `truthful` poll only finds what is there. -/
def post (carrier : Carrier ι) (truthful : Prop) (dest : SockAddr → Option ι) (fd : ι → SOCKET) (i : ι) :
    Env Sys Ans (Post ι)
  | .sendto _ buffer length _ address _, w, x, w' =>
    x = -1 ∧ w' = w ∨ x = length ∧ 0 ≤ length ∧ w' = w.accept i (dest address) (buffer.take length.toNat)
  | .recvfrom fd' length flags _, w, x, w' => x.result = -1 ∧ w' = w ∨
      fd' = fd i ∧ (∃ d, carrier.arrives (w.log i) (w.handed i) d ∧ Shows length.toNat x d.2) ∧
        w' = if Peeks flags then w else w.hand i
  | .select _ fd' _, w, x, w' => w' = w ∧
      (truthful → fd' = fd i → 0 < x → ∃ d, carrier.arrives (w.log i) (w.handed i) d)
  | _, w, _, w' => w' = w

/-- A system that answers every call, and hands the datagrams over in their order. -/
def Post.serve (dest : SockAddr → Option ι) (fd : ι → SOCKET) (i : ι) (c : Sys) (w : Post ι) : Ans c × Post ι :=
  match c with
  | .sendto _ buffer length _ address _ =>
    if 0 ≤ length then (length, w.accept i (dest address) (buffer.take length.toNat)) else (-1, w)
  | .recvfrom fd' length flags _ => match (w.log i)[w.handed i]? with
    | some d => if fd' = fd i then
        (⟨(d.2.take length.toNat).length, d.2.take length.toNat, .zero⟩, if Peeks flags then w else w.hand i)
      else (⟨-1, [], .zero⟩, w)
    | none => (⟨-1, [], .zero⟩, w)
  | .select .. => (if (w.log i)[w.handed i]?.isSome then 1 else 0, w)
  | .socket .. => (9, w)
  | c => (refuse c, w)

theorem Post.serve_post (truthful : Prop) (dest : SockAddr → Option ι) (fd : ι → SOCKET) (i : ι) (c : Sys) (w : Post ι) :
    post .ordered truthful dest fd i c w (w.serve dest fd i c).1 (w.serve dest fd i c).2 := by
  cases c with
  | sendto fd' buffer length flags address addressLength =>
    unfold Post.serve
    simp only
    split_ifs with hlength
    · exact Or.inr ⟨rfl, hlength, rfl⟩
    · exact Or.inl ⟨rfl, rfl⟩
  | recvfrom fd' length flags addressLength =>
    unfold Post.serve
    simp only
    cases hd : (w.log i)[w.handed i]? with
    | none => exact Or.inl ⟨rfl, rfl⟩
    | some d =>
      simp only
      by_cases hfd : fd' = fd i
      · rw [if_pos hfd]
        exact Or.inr ⟨hfd, ⟨d, hd, rfl, false, rfl⟩, rfl⟩
      · rw [if_neg hfd]
        exact Or.inl ⟨rfl, rfl⟩
  | select nfds fd' t =>
    refine ⟨rfl, fun _ _ hpos => ?_⟩
    unfold Post.serve at hpos
    simp only at hpos
    split_ifs at hpos with hsome
    · exact Option.isSome_iff_exists.1 hsome
    · exact absurd hpos (lt_irrefl (0 : ℤ))
  | _ => rfl

/-! ## What a call does -/

/-- The datagrams for the client `j` that a call sends. -/
def postedBy (dest : SockAddr → Option ι) (j : ι) : (c : Sys) × Ans c → List Bytes
  | ⟨.sendto _ buffer length _ address _, x⟩ =>
    if dest address = some j ∧ 0 ≤ (x : ℤ) then [buffer.take length.toNat] else []
  | _ => []

/-- What a call takes from the network, and the room it has for it. -/
def handedBy : (c : Sys) × Ans c → List (ℕ × Datagram)
  | ⟨.recvfrom _ length flags _, x⟩ => if Peeks flags ∨ x.result < 0 then [] else [(length.toNat, x)]
  | _ => []

/-- What a call of the client `i` makes of the state. -/
structure Post.Becomes (carrier : Carrier ι) (i : ι) (w : Post ι) (posted : ι → List Bytes)
    (taken : List (ℕ × Datagram)) (w' : Post ι) : Prop where
  log : ∀ j, w'.log j = w.log j ++ (posted j).map (i, ·)
  handed : w'.handed i = w.handed i + taken.length
  handed_of_ne : ∀ j ≠ i, w'.handed j = w.handed j
  one : taken.length ≤ 1
  shows : ∀ m ∈ taken, ∃ d, carrier.arrives (w.log i) (w.handed i) d ∧ Shows m.1 m.2 d.2

omit [DecidableEq ι] in
theorem Post.becomes_self {carrier : Carrier ι} {i : ι} {w : Post ι} : w.Becomes carrier i (fun _ => []) [] w := by
  constructor <;> simp

variable {carrier : Carrier ι} {truthful : Prop} {dest : SockAddr → Option ι} {fd : ι → SOCKET} {i : ι}

/-- **What a call can do.** -/
theorem post_step {c : Sys} {x : Ans c} {w w' : Post ι} (h : post carrier truthful dest fd i c w x w') :
    w.Becomes carrier i (fun j => postedBy dest j ⟨c, x⟩) (handedBy ⟨c, x⟩) w' := by
  cases c with
  | sendto fd' buffer length flags address addressLength =>
    rcases h with ⟨rfl, rfl⟩ | ⟨hx, hlength, rfl⟩
    · have hposted : (fun j => postedBy dest j ⟨.sendto fd' buffer length flags address addressLength, (-1 : ℤ)⟩) =
          fun _ => [] := by
        funext j
        simp [postedBy]
      rw [hposted]
      exact Post.becomes_self
    · have hpos : (0 : ℤ) ≤ x := hlength.trans_eq hx.symm
      refine ⟨fun j => ?_, ?_, ?_, by simp [handedBy], by simp [handedBy]⟩
      · cases hdest : dest address with
        | none => simp [postedBy, Post.accept, hdest]
        | some j' =>
          by_cases hj : j = j'
          · subst hj
            simp [postedBy, Post.accept, hdest, hpos]
          · simp [postedBy, Post.accept, hdest, hj, Ne.symm hj]
      · cases dest address <;> rfl
      · intro j _
        cases dest address <;> rfl
  | recvfrom fd' length flags addressLength =>
    rcases h with ⟨hresult, rfl⟩ | ⟨-, ⟨d, hd, hshows⟩, rfl⟩
    · have htaken : handedBy ⟨.recvfrom fd' length flags addressLength, x⟩ = [] := by
        simp [handedBy, hresult]
      rw [htaken]
      exact Post.becomes_self
    · obtain ⟨hdata, whole, hresult⟩ := hshows
      have hnonneg : ¬ x.result < 0 := by
        rw [hresult]
        split_ifs <;> omega
      by_cases hpeeks : Peeks flags
      · have htaken : handedBy ⟨.recvfrom fd' length flags addressLength, x⟩ = [] := by
          simp [handedBy, hpeeks]
        rw [htaken, if_pos hpeeks]
        exact Post.becomes_self
      · have htaken : handedBy ⟨.recvfrom fd' length flags addressLength, x⟩ = [(length.toNat, x)] := by
          simp [handedBy, hpeeks, hnonneg]
        rw [htaken, if_neg hpeeks]
        refine ⟨by simp [Post.hand, postedBy], by simp [Post.hand], fun j hj => by simp [Post.hand, hj], le_rfl, ?_⟩
        intro m hm
        obtain rfl := List.mem_singleton.1 hm
        exact ⟨d, hd, hdata, whole, hresult⟩
  | select nfds fd' t =>
    obtain ⟨rfl, -⟩ := h
    exact Post.becomes_self
  | _ =>
    obtain rfl : w' = w := h
    exact Post.becomes_self

/-! ## Accounts -/

/-- What a client sends to the client `j` in the course of some calls. -/
def posted {σ : Type} (dest : SockAddr → Option ι) (j : ι) (tr : List (Event Sys Ans σ)) : List Bytes :=
  tr.flatMap fun e => postedBy dest j e.act

/-- What a client takes from the network. -/
def taken {σ : Type} (tr : List (Event Sys Ans σ)) : List (ℕ × Datagram) := tr.flatMap fun e => handedBy e.act

section Parts

variable {σ : Type} {j : ι} (e : Event Sys Ans σ) (tr tr' : List (Event Sys Ans σ))

@[simp] theorem posted_nil : posted dest j ([] : List (Event Sys Ans σ)) = [] := rfl
@[simp] theorem posted_cons : posted dest j (e :: tr) = postedBy dest j e.act ++ posted dest j tr := rfl
@[simp] theorem posted_append : posted dest j (tr ++ tr') = posted dest j tr ++ posted dest j tr' := by simp [posted]

omit [DecidableEq ι] in
@[simp] theorem taken_nil : taken ([] : List (Event Sys Ans σ)) = [] := rfl
omit [DecidableEq ι] in
@[simp] theorem taken_cons : taken (e :: tr) = handedBy e.act ++ taken tr := rfl
omit [DecidableEq ι] in
@[simp] theorem taken_append : taken (tr ++ tr') = taken tr ++ taken tr' := by simp [taken]

end Parts

/-- What was handed over is what could arrive. -/
structure Balanced (carrier : Carrier ι) (w : Post ι) (events : ι → List (Event Sys Ans (Post ι))) : Prop where
  handed : ∀ j, w.handed j = (taken (events j)).length
  shows : ∀ j n m, (taken (events j))[n]? = some m → ∃ d, carrier.arrives (w.log j) n d ∧ Shows m.1 m.2 d.2

omit [DecidableEq ι] in
theorem balanced_start : Balanced carrier ({} : Post ι) fun _ => [] := by
  constructor <;> simp

theorem balanced_step {w w' v : Post ι} {events : ι → List (Event Sys Ans (Post ι))} {c : Sys} {x : Ans c}
    (hw : Balanced carrier w events) (hc : post carrier truthful dest fd i c w x w') :
    Balanced carrier w' (Function.update events i (events i ++ [⟨v, c, x⟩])) := by
  have hstep := post_step hc
  have htaken : taken (events i ++ [⟨v, c, x⟩]) = taken (events i) ++ handedBy ⟨c, x⟩ := by
    simp [Event.act]
  have hgrows : ∀ j, w.log j <+: w'.log j := fun j => ⟨_, (hstep.log j).symm⟩
  refine ⟨?_, ?_⟩
  · intro j
    by_cases hj : j = i
    · subst hj
      rw [Function.update_self, htaken, List.length_append, hstep.handed, hw.handed]
    · rw [Function.update_of_ne hj, hstep.handed_of_ne j hj, hw.handed]
  · intro j n m hm
    by_cases hj : j = i
    · subst hj
      rw [Function.update_self, htaken] at hm
      rcases Nat.lt_or_ge n (taken (events j)).length with hn | hn
      · rw [List.getElem?_append_left hn] at hm
        obtain ⟨d, hd, hshows⟩ := hw.shows j n m hm
        exact ⟨d, carrier.mono _ _ _ _ (hgrows j) hd, hshows⟩
      · -- the datagram that was handed over just now
        rw [List.getElem?_append_right hn] at hm
        obtain ⟨hlt, -⟩ := List.getElem?_eq_some_iff.1 hm
        have hone := hstep.one
        obtain rfl : n = w.handed j := by
          rw [hw.handed]
          omega
        obtain ⟨d, hd, hshows⟩ := hstep.shows m (List.mem_of_getElem? hm)
        exact ⟨d, carrier.mono _ _ _ _ (hgrows j) hd, hshows⟩
    · rw [Function.update_of_ne hj] at hm
      obtain ⟨d, hd, hshows⟩ := hw.shows j n m hm
      exact ⟨d, carrier.mono _ _ _ _ (hgrows j) hd, hshows⟩

end Network

/-! ## The calls of a client -/

section Classes

variable {S : Type}

/-- `sendTo` as the two classes have it. -/
def sendThrough (domain type protocol : ℤ) (operation : S → Option Callback) (address : SockAddr) (addressLength : ℕ)
    (message : Bytes) (flags : ℤ) : M S ℤ := do
  let tempSocket ← sys (.socket domain type protocol)
  if isInvalidSocket tempSocket then
    return -2
  else
    let this ← Method.this
    runOperation (operation this) tempSocket
    let result ← sys (.sendto tempSocket message (toInt32 message.length) flags address addressLength)
    Socket.close tempSocket
    return result

/-- Such a method sends the message to the address. -/
def SendsTo (m : M S ℤ) (address : SockAddr) (message : Bytes) (flags : ℤ) : Prop :=
  ∃ domain type protocol operation addressLength,
    m = sendThrough domain type protocol operation address addressLength message flags

/-- `sendTo` to a host. Where the name of the host is not resolved, the code is 0. -/
def sendResolving (hostname : Bytes) (port : UInt16) (hints : AddrInfo) (send : SocketAddress → M S ℤ) :
    M S (ℤ × SocketAddress) := do
  let (addresses, result) ← resolveToAddresses hostname port hints
  if addresses = [] ∨ result ≠ 0 then
    return (0, .zero)
  else
    let firstAddress := addresses.headD .zero
    let result ← send firstAddress
    return (result, firstAddress)

/-- A call that neither sends nor receives. -/
def Idle : Sys → Prop
  | .sendto .. | .recvfrom .. => False
  | _ => True

/-- A class of datagram sockets, that send to what `N` names, with what its methods do. The result of `sendTo` is the code
and the address that the caller knows of: the one that was given, or the one that a host was resolved to. -/
structure DatagramClass (S N : Type) (dm : DataModel) where
  Sound : S → Prop
  socket : S → SOCKET
  sendTo : N → Bytes → ℤ → M S (ℤ × SockAddr)
  receiveFrom : ReceiveCall → M S (Option Bytes × ℤ)
  ready : ULong dm → M S Bool
  close : M S Unit
  sendTo_eq : ∀ name message flags,
    (∃ send address, SendsTo send address message flags ∧
      sendTo name message flags = send >>= fun result => pure (result, address)) ∨
    ∃ hostname port hints send, (∀ a, SendsTo (send a) (.inet a) message flags) ∧
      sendTo name message flags = sendResolving hostname port hints send >>= fun p => pure (p.1, .inet p.2)
  receiveFrom_eq : ∀ c o, Sound o → (∃ addressLength, receiveFrom c o = receiveAt (socket o) addressLength c o) ∨
    ∃ data, receiveFrom c o = (pure (data, -1) : M S _) o
  ready_eq : ∀ timeout o, ready timeout o = (pure false : M S Bool) o ∨ ∃ timeout' timeOutVal,
    ready timeout o = (Socket.pollSocket (socket o) timeout' timeOutVal >>= fun result => pure (0 < result) : M S Bool) o
  close_sound : ∀ o, Sound o → close.Always Idle o fun _ o' => Sound o'

theorem DatagramClass.ready_idle {N : Type} {dm : DataModel} (k : DatagramClass S N dm) (timeout : ULong dm) (o : S) :
    (k.ready timeout).Always Idle o fun _ o' => o' = o := by
  unfold Method.Always
  rcases k.ready_eq timeout o with hready | ⟨timeout', timeOutVal, hready⟩
  · rw [hready]
    rfl
  · rw [hready]
    have hpoll : Method.Within Idle (Socket.pollSocket (k.socket o) timeout' timeOutVal : M S ℤ) :=
      Steps.pollSocket_within (fun _ _ => trivial) _ _
    exact Method.Within.bind hpoll (fun result => .pure (decide (0 < result))) o

theorem udpReceive_unbound (c : ReceiveCall) {o : UDPSocket} (hbound : ¬ o.bound = true) :
    ∃ data, udpReceive c o = (pure (data, -1) : M UDPSocket _) o := by
  obtain ⟨n, flags⟩ := c
  have hn : ¬ (n : ℤ) < 0 := by omega
  unfold udpReceive UDPSocket.receiveFrom UDPSocket.receiveFromInto
  rw [if_neg hn]
  have hinto : o.bound = false ∨ (n : ℤ) = 0 := Or.inl (by simpa using hbound)
  refine ⟨if List.replicate n (0 : UInt8) = [] then none else some (List.replicate n 0), ?_⟩
  show Prog.bind (Prog.bind ((if o.bound = false ∨ (n : ℤ) = 0 then _ else _ : M UDPSocket _) o) _) _ = _
  rw [if_pos hinto]
  rfl

theorem datagramReceive_unbound (c : ReceiveCall) {o : DatagramIPCSocket} (hbound : ¬ o.bound = true) :
    ∃ data, datagramReceive c o = (pure (data, -1) : M DatagramIPCSocket _) o := by
  obtain ⟨n, flags⟩ := c
  have hn : ¬ (n : ℤ) < 0 := by omega
  unfold datagramReceive DatagramIPCSocket.receiveFrom DatagramIPCSocket.receiveFromInto
  rw [if_neg hn]
  have hinto : o.bound = false ∨ (n : ℤ) = 0 := Or.inl (by simpa using hbound)
  refine ⟨if List.replicate n (0 : UInt8) = [] then none else some (List.replicate n 0), ?_⟩
  show Prog.bind (Prog.bind ((if o.bound = false ∨ (n : ℤ) = 0 then _ else _ : M DatagramIPCSocket _) o) _) _ = _
  rw [if_pos hinto]
  rfl

/-- `ready` as the two classes have it: nothing is polled unless the socket is bound. -/
theorem ready_cases {m : M S Bool} {o : S} (bound : Bool) (socket : SOCKET) (timeout : ℤ)
    (timeOutVal : Option TimeVal) (hm : m o = (if bound = true then
      Socket.pollSocket socket timeout timeOutVal >>= fun result => pure (decide (0 < result)) else pure false : M S Bool) o) :
    m o = (pure false : M S Bool) o ∨ ∃ timeout' timeOutVal',
      m o = (Socket.pollSocket socket timeout' timeOutVal' >>= fun result => pure (decide (0 < result)) : M S Bool) o := by
  cases hbound : bound with
  | true =>
    right
    refine ⟨timeout, timeOutVal, ?_⟩
    rw [hm, if_pos hbound]
  | false =>
    left
    rw [hm, if_neg (by simp [hbound])]

/-- What a `UDPSocket` can send to. -/
inductive UDPDestination where
  | address (address : SocketAddress)
  | host (hostname : Bytes) (port : UInt16) (protocolVersion : InternetProtocolVersion)

def udpSendTo : UDPDestination → Bytes → ℤ → M UDPSocket (ℤ × SockAddr)
  | .address address, message, flags => do
    let result ← UDPSocket.sendTo address message flags
    return (result, .inet address)
  | .host hostname port protocolVersion, message, flags => do
    let p ← UDPSocket.sendToHost hostname port message flags protocolVersion
    return (p.1, .inet p.2)

theorem udpSendTo_sends (address : SocketAddress) (message : Bytes) (flags : ℤ) :
    SendsTo (UDPSocket.sendTo address message flags) (.inet address) message flags :=
  ⟨_, _, _, UDPSocket.preSendSocketOperation, _, rfl⟩

def udpClass (dm : DataModel) : DatagramClass UDPSocket UDPDestination dm where
  Sound _ := True
  socket := UDPSocket.receiveSocket
  sendTo := udpSendTo
  receiveFrom := udpReceive
  ready := UDPSocket.ready dm
  close := UDPSocket.close
  sendTo_eq name message flags := by
    cases name with
    | address address => exact Or.inl ⟨_, _, udpSendTo_sends address message flags, rfl⟩
    | host hostname port protocolVersion =>
      exact Or.inr ⟨hostname, port, createUdpHints protocolVersion 0, fun a => UDPSocket.sendTo a message flags,
        fun a => udpSendTo_sends a message flags, rfl⟩
  receiveFrom_eq c o _ := by
    by_cases hbound : o.bound = true
    · exact Or.inl ⟨_, udpReceive_eq c hbound⟩
    · exact Or.inr (udpReceive_unbound c hbound)
  ready_eq timeout o := by
    refine ready_cases o.bound o.receiveSocket timeout.toInt (some ⟨0, 0⟩) ?_
    rw [← udpPollSocket_eq]
    rfl
  close_sound o _ := by simp [UDPSocket.close, Socket.close, Idle]

def datagramClass (dm : DataModel) : DatagramClass DatagramIPCSocket Bytes dm where
  Sound := PathMatches
  socket := DatagramIPCSocket.receiveSocket
  sendTo path message flags := do
    let result ← DatagramIPCSocket.sendTo path message flags
    return (result, pathAddress (resizePath path))
  receiveFrom := datagramReceive
  ready := DatagramIPCSocket.ready dm
  close := DatagramIPCSocket.close
  sendTo_eq _ _ _ := Or.inl ⟨_, _, ⟨_, _, _, DatagramIPCSocket.preSendSocketOperation, _, rfl⟩, rfl⟩
  receiveFrom_eq c o hsound := by
    by_cases hbound : o.bound = true
    · exact Or.inl ⟨_, datagramReceive_eq c hbound hsound⟩
    · exact Or.inr (datagramReceive_unbound c hbound)
  ready_eq timeout o := by
    refine ready_cases o.bound o.receiveSocket timeout.toInt none ?_
    rfl
  close_sound o hsound := by
    cases hpath : o.socketPath with
    | none =>
      simp [DatagramIPCSocket.close, DatagramIPCSocket.removeBoundPath, Socket.close, hpath, Idle, Matches]
    | some path =>
      simp [DatagramIPCSocket.close, DatagramIPCSocket.removeBoundPath, Socket.close, IPCSocket.removeSocketPath, hpath,
        Idle, Matches]

end Classes

/-- A call of a client. -/
inductive PostCall (N : Type) (dm : DataModel) where
  | sendTo (name : N) (message : Bytes) (hlength : message.length < 2 ^ 31) (flags : ℤ)
  | receiveFrom (c : ReceiveCall)
  | ready (timeout : ULong dm)
  | close

/-- What a call returns. -/
inductive Reply where
  | sent (result : ℤ) (address : SockAddr)
  | received (data : Option Bytes) (result : ℤ)
  | answered (answer : Bool)
  | closed

section Calls

variable {S N : Type} {dm : DataModel} (k : DatagramClass S N dm)

def PostCall.perform : PostCall N dm → M S Reply
  | sendTo name message _ flags => do
    let (result, address) ← k.sendTo name message flags
    return .sent result address
  | receiveFrom c => do
    let (data, result) ← k.receiveFrom c
    return .received data result
  | ready timeout => do
    let answer ← k.ready timeout
    return .answered answer
  | close => do
    k.close
    return .closed

/-- A call that was made. -/
abbrev PostVisit (ι S N : Type) (dm : DataModel) := Visit Sys Ans (Post ι) Exn S (PostCall N dm) Reply

variable {ι : Type} [DecidableEq ι]

/-- The datagrams for the client `j` that a call has sent, by what it returned. -/
def sentTo (dest : SockAddr → Option ι) (j : ι) : PostCall N dm → Outcome Exn Reply → List Bytes
  | .sendTo _ message _ _, .returned (.sent result address) =>
    if dest address = some j ∧ 0 ≤ result then [message] else []
  | _, _ => []

/-- What a call has received: its room, and the string and the code that it returned. -/
def receivedBy : PostCall N dm → Outcome Exn Reply → List (ℕ × Option Bytes × ℤ)
  | .receiveFrom c, .returned (.received data result) =>
    if Peeks c.flags ∨ result < 0 then [] else [(c.length, data, result)]
  | _, _ => []

/-- What `receiveFrom` makes of an answer of `recvfrom`. -/
def report (m : ℕ × Datagram) : ℕ × Option Bytes × ℤ :=
  let data := trim m.1 m.2.result (writeAt (List.replicate m.1 0) 0 m.2.data)
  (m.1, if data = [] then none else some data, m.2.result)

/-- What a call returned tells what it sent and what it was handed. -/
structure Candid {σ : Type} (dest : SockAddr → Option ι) (c : PostCall N dm) (tr : List (Event Sys Ans σ))
    (r : Outcome Exn Reply) : Prop where
  posted : ∀ j, posted dest j tr = sentTo dest j c r
  taken : receivedBy c r = (taken tr).map report
  room : ∀ m ∈ Datagrams.taken tr, 0 < m.1

variable {k} {σ : Type} {env : Env Sys Ans σ} {dest : SockAddr → Option ι} {o : S} {s : σ}

/-- Calls that neither send nor receive. -/
theorem silent_of_idle (dest : SockAddr → Option ι) {tr : List (Event Sys Ans σ)} (h : ∀ e ∈ tr, Idle e.call) :
    (∀ j, posted dest j tr = []) ∧ taken tr = [] := by
  constructor
  · intro j
    refine List.flatMap_eq_nil_iff.2 fun e he => ?_
    obtain ⟨s, c, x⟩ := e
    cases c with
    | sendto fd buffer length flags address addressLength => exact (h _ he).elim
    | _ => rfl
  · refine List.flatMap_eq_nil_iff.2 fun e he => ?_
    obtain ⟨s, c, x⟩ := e
    cases c with
    | recvfrom fd length flags addressLength => exact (h _ he).elim
    | _ => rfl

theorem runOperation_idle (operation : Option Callback) (fd : SOCKET) :
    (runOperation operation fd : M S Unit).wp env (fun tr r o' _ => (∀ e ∈ tr, Idle e.call) ∧ o' = o ∧
      (r = .returned () ∨ r.Threw)) o s := by
  cases operation with
  | none => exact ⟨by simp, rfl, Or.inl rfl⟩
  | some f =>
    unfold runOperation
    rw [Method.wp_bind, wp_sys]
    intro x s' hx
    rw [Method.after_returned]
    have hidle : ∀ e ∈ [(⟨s, .callback f fd, x⟩ : Event Sys Ans σ)], Idle e.call := by simp [Idle]
    cases x with
    | returned => exact ⟨hidle, rfl, Or.inl rfl⟩
    | threw => exact ⟨hidle, rfl, Or.inr trivial⟩

/-- **Sending.** The message is sent, as one datagram, just if the code is not negative. -/
theorem sendThrough_wp (dest : SockAddr → Option ι) (domain type protocol : ℤ) (operation : S → Option Callback) (address : SockAddr)
    (addressLength : ℕ) {message : Bytes} (hlength : message.length < 2 ^ 31) (flags : ℤ) :
    (sendThrough domain type protocol operation address addressLength message flags).wp env
      (fun tr r o' _ => o' = o ∧ taken tr = [] ∧ ((∃ result, r = .returned result ∧
        ∀ j, posted dest j tr = if dest address = some j ∧ 0 ≤ result then [message] else []) ∨
        r.Threw ∧ ∀ j, posted dest j tr = [])) o s := by
  unfold sendThrough
  rw [Method.wp_bind, wp_sys]
  intro fd s₁ hfd
  rw [Method.after_returned, Method.wp_ite]
  constructor
  · intro _
    exact ⟨rfl, rfl, Or.inl ⟨-2, rfl, fun j => by simp [postedBy, Event.act]⟩⟩
  · intro _
    rw [Method.wp_bind, Method.wp_this, Method.after_returned, Method.wp_bind]
    refine Method.wp_mono (runOperation_idle _ _) ?_
    rintro tr r o₁ s₂ ⟨hidle, rfl, rfl | hthrew⟩
    · rw [Method.after_returned, Method.wp_bind, wp_sys]
      intro result s₃ hresult
      rw [Method.after_returned, Method.wp_bind]
      unfold Socket.close
      rw [wp_sys]
      intro x s₄ hx
      obtain ⟨hposted, htaken⟩ := silent_of_idle dest hidle
      have hsize : toInt32 message.length = message.length := toInt32_of_le (by omega) (by omega)
      refine ⟨rfl, ?_, Or.inl ⟨result, rfl, fun j => ?_⟩⟩
      · simp [htaken, handedBy, Event.act]
      · simp [hposted, postedBy, Event.act, hsize]
    · obtain ⟨e, rfl⟩ := hthrew.exists_eq
      obtain ⟨hposted, htaken⟩ := silent_of_idle dest hidle
      refine ⟨rfl, ?_, Or.inr ⟨trivial, fun j => ?_⟩⟩
      · simp [htaken, handedBy, Event.act]
      · simp [hposted, postedBy, Event.act]

theorem resolveToAddresses_idle (hostname : Bytes) (port : UInt16) (hints : AddrInfo) :
    (resolveToAddresses hostname port hints : M S _).wp env (fun tr r o' _ => (∀ e ∈ tr, Idle e.call) ∧ o' = o ∧
      ∃ p, r = .returned p) o s := by
  unfold resolveToAddresses
  rw [Method.wp_bind, wp_sys]
  intro x s' hx
  rw [Method.after_returned, Method.wp_ite]
  exact ⟨fun _ => ⟨by simp [Idle], rfl, _, rfl⟩, fun _ => ⟨by simp [Idle], rfl, _, rfl⟩⟩

/-- What `sendTo` sends, by the code and the address. -/
theorem sendTo_wp (hnone : dest (.inet .zero) = none) (name : N) {message : Bytes} (hlength : message.length < 2 ^ 31)
    (flags : ℤ) : (k.sendTo name message flags).wp env (fun tr r o' _ => o' = o ∧ taken tr = [] ∧
      ((∃ result address, r = .returned (result, address) ∧
        ∀ j, posted dest j tr = if dest address = some j ∧ 0 ≤ result then [message] else []) ∨
        r.Threw ∧ ∀ j, posted dest j tr = [])) o s := by
  rcases k.sendTo_eq name message flags with ⟨send, address, hsend, heq⟩ | ⟨hostname, port, hints, send, hsend, heq⟩
  · obtain ⟨domain, type, protocol, operation, addressLength, rfl⟩ := hsend
    rw [heq, Method.wp_bind]
    refine Method.wp_mono (sendThrough_wp dest domain type protocol operation address addressLength hlength flags) ?_
    rintro tr r o' s' ⟨rfl, htaken, ⟨result, rfl, hposted⟩ | ⟨hthrew, hposted⟩⟩
    · rw [Method.after_returned, Method.wp_pure, List.append_nil]
      exact ⟨rfl, htaken, Or.inl ⟨result, address, rfl, hposted⟩⟩
    · obtain ⟨e, rfl⟩ := hthrew.exists_eq
      exact ⟨rfl, htaken, Or.inr ⟨trivial, hposted⟩⟩
  · rw [heq, Method.wp_bind]
    unfold sendResolving
    rw [Method.wp_bind]
    refine Method.wp_mono (resolveToAddresses_idle hostname port hints) ?_
    rintro tr r o₁ s₁ ⟨hidle, rfl, ⟨addresses, result⟩, rfl⟩
    obtain ⟨hposted₁, htaken₁⟩ := silent_of_idle dest hidle
    rw [Method.after_returned, Method.wp_ite]
    constructor
    · intro _
      exact ⟨rfl, by simp [htaken₁], Or.inl ⟨0, .inet .zero, rfl, fun j => by simp [hposted₁, hnone]⟩⟩
    · intro _
      obtain ⟨domain, type, protocol, operation, addressLength, heq'⟩ := hsend (addresses.headD .zero)
      rw [Method.wp_bind, heq']
      refine Method.wp_mono (sendThrough_wp dest domain type protocol operation _ addressLength hlength flags) ?_
      rintro tr' r o₂ s₂ ⟨rfl, htaken, ⟨code, rfl, hposted⟩ | ⟨hthrew, hposted⟩⟩
      · refine ⟨rfl, by simp [htaken₁, htaken], Or.inl ⟨code, .inet (addresses.headD .zero), rfl, fun j => ?_⟩⟩
        simp [hposted₁, hposted]
      · obtain ⟨e, rfl⟩ := hthrew.exists_eq
        exact ⟨rfl, by simp [htaken₁, htaken], Or.inr ⟨trivial, fun j => by simp [hposted₁, hposted]⟩⟩

/-- **Receiving.** What is returned is what is made of the one answer, if there is room for one. -/
theorem receiveAt_wp (dest : SockAddr → Option ι) (fd : SOCKET) (addressLength : ℕ) (c : ReceiveCall) :
    (receiveAt fd addressLength c).wp env (fun tr r o' _ => o' = o ∧ (∀ j, posted dest j tr = []) ∧
      (∀ m ∈ taken tr, 0 < m.1) ∧ ∃ data result, r = .returned (data, result) ∧
        (if Peeks c.flags ∨ result < 0 then [] else [(c.length, data, result)]) = (taken tr).map report) o s := by
  obtain ⟨n, flags⟩ := c
  unfold receiveAt
  rw [Method.wp_ite]
  constructor
  · intro _
    exact ⟨rfl, by simp, by simp, none, -1, rfl, by simp⟩
  · intro hn
    rw [Method.wp_bind, wp_sys]
    intro x s' hx
    rw [Method.after_returned, Method.wp_pure]
    refine ⟨rfl, by simp [postedBy, Event.act], ?_, _, _, rfl, ?_⟩
    · intro m hm
      by_cases hnone : Peeks flags ∨ Datagram.result x < 0
      · simp [handedBy, Event.act, hnone] at hm
      · obtain rfl : m = (n, x) := by simpa [handedBy, Event.act, hnone] using hm
        exact Nat.pos_of_ne_zero hn
    · by_cases hnone : Peeks flags ∨ Datagram.result x < 0
      · simp [handedBy, Event.act, hnone]
      · simp [handedBy, Event.act, hnone, report]

/-- **Every call.** -/
theorem candid_of_perform (hnone : dest (.inet .zero) = none) (hsound : k.Sound o) (c : PostCall N dm) :
    (c.perform k).wp env (fun tr r o' _ => k.Sound o' ∧ Candid dest c tr r) o s := by
  cases c with
  | sendTo name message hlength flags =>
    unfold PostCall.perform
    rw [Method.wp_bind]
    refine Method.wp_mono (sendTo_wp hnone name hlength flags) ?_
    rintro tr r o' s' ⟨rfl, htaken, ⟨result, address, rfl, hposted⟩ | ⟨hthrew, hposted⟩⟩
    · rw [Method.after_returned, Method.wp_pure, List.append_nil]
      exact ⟨hsound, hposted, by rw [htaken]; rfl, by simp [htaken]⟩
    · obtain ⟨e, rfl⟩ := hthrew.exists_eq
      exact ⟨hsound, hposted, by rw [htaken]; rfl, by simp [htaken]⟩
  | receiveFrom c =>
    unfold PostCall.perform
    rw [Method.wp_bind]
    rcases k.receiveFrom_eq c o hsound with ⟨addressLength, hreceive⟩ | ⟨data, hreceive⟩
    · rw [Method.wp_congr hreceive]
      refine Method.wp_mono (receiveAt_wp dest _ addressLength c) ?_
      rintro tr r o' s' ⟨rfl, hposted, hroom, data, result, rfl, hdata⟩
      rw [Method.after_returned, Method.wp_pure, List.append_nil]
      exact ⟨hsound, hposted, hdata, hroom⟩
    · rw [Method.wp_congr hreceive, Method.wp_pure, Method.after_returned, Method.wp_pure]
      exact ⟨hsound, fun _ => rfl, by simp [receivedBy], by simp⟩
  | ready timeout =>
    unfold PostCall.perform
    rw [Method.wp_bind, Method.wp_iff]
    intro tr r o' s' hr
    obtain ⟨hidle, rfl⟩ := (k.ready_idle timeout o).runs hr
    obtain ⟨hposted, htaken⟩ := silent_of_idle dest hidle
    cases r with
    | returned answer =>
      rw [Method.after_returned, Method.wp_pure, List.append_nil]
      exact ⟨hsound, hposted, by rw [htaken]; rfl, by simp [htaken]⟩
    | threw e => exact ⟨hsound, hposted, by rw [htaken]; rfl, by simp [htaken]⟩
    | running => exact ⟨hsound, hposted, by rw [htaken]; rfl, by simp [htaken]⟩
  | close =>
    unfold PostCall.perform
    rw [Method.wp_bind, Method.wp_iff]
    intro tr r o' s' hr
    obtain ⟨hidle, hsound'⟩ := (k.close_sound o hsound).runs hr
    obtain ⟨hposted, htaken⟩ := silent_of_idle dest hidle
    cases r with
    | returned u =>
      rw [Method.after_returned, Method.wp_pure, List.append_nil]
      exact ⟨hsound', hposted, by rw [htaken]; rfl, by simp [htaken]⟩
    | threw e => exact ⟨hsound', hposted, by rw [htaken]; rfl, by simp [htaken]⟩
    | running => exact ⟨hsound', hposted, by rw [htaken]; rfl, by simp [htaken]⟩

omit [DecidableEq ι] in
/-- The object stays sound, wherever the datagrams go. -/
theorem sound_of_perform {c : PostCall N dm} {tr : List (Event Sys Ans σ)} {r : Outcome Exn Reply} {o' : S} {s' : σ}
    (hsound : k.Sound o) (hr : (c.perform k).Runs env o s tr r o' s') : k.Sound o' := by
  have hcandid : (c.perform k).wp env (fun tr r o' _ => k.Sound o' ∧ Candid (fun _ => (none : Option Unit)) c tr r) o s :=
    candid_of_perform rfl hsound c
  exact (hr.post hcandid).1

end Calls

/-! ## A whole run -/

section Runs

variable {S N ι : Type} {dm : DataModel} {k : DatagramClass S N dm} [DecidableEq ι] {carrier : Carrier ι}
  {truthful : Prop} {dest : SockAddr → Option ι} {fd : ι → SOCKET} {obj : ι → S} {is : List ι}
  {p : System ι Sys Ans (Post ι) Exn S (PostCall N dm) Reply}

/-- The other clients only add to what was accepted for a client. -/
def Post.Meanwhile (i : ι) (w w' : Post ι) : Prop := w.log i <+: w'.log i ∧ w'.handed i = w.handed i

theorem post_relies : Relies (fun i => post carrier truthful dest fd i) Post.Meanwhile := by
  constructor
  · intro i w
    exact ⟨List.prefix_rfl, rfl⟩
  · intro i w w' w'' h h'
    exact ⟨h.1.trans h'.1, h'.2.trans h.2⟩
  · intro i j c w x w' hne h
    have hstep := post_step h
    exact ⟨⟨_, (hstep.log i).symm⟩, hstep.handed_of_ne i (Ne.symm hne)⟩

/-- The clients, each with an object of the class. -/
abbrev Mail (k : DatagramClass S N dm) (carrier : Carrier ι) (truthful : Prop) (dest : SockAddr → Option ι)
    (fd : ι → SOCKET) : System ι Sys Ans (Post ι) Exn S (PostCall N dm) Reply → List ι →
      System ι Sys Ans (Post ι) Exn S (PostCall N dm) Reply → Prop :=
  Turns (fun i => post carrier truthful dest fd i) fun _ => PostCall.perform k

theorem mail_candid (h : Mail k carrier truthful dest fd (.start obj {}) is p) (hsound : ∀ i, k.Sound (obj i))
    (hnone : dest (.inet .zero) = none) (i : ι) :
    ∀ v ∈ (p.1 i).visits, Candid dest v.call v.trace v.outcome := by
  obtain ⟨w, hsession, -⟩ := (Turns.history post_relies h i).1.session (fun _ _ => True) (fun _ => trivial)
    (fun _ _ _ _ _ => trivial) fun _ _ _ _ _ => trivial
  refine (Session.invariant (I := fun o _ => k.Sound o)
    (G := fun v : PostVisit ι S N dm => Candid dest v.call v.trace v.outcome) ?_ hsession (hsound i)).2
  intro c o w tr r o' w' ho hr
  exact hr.post (candid_of_perform hnone ho c)

/-- What a client has sent and taken, by what its calls returned. -/
theorem events_eq {c : Client Sys Ans (Post ι) Exn S (PostCall N dm) Reply}
    (hc : ∀ v ∈ c.visits, Candid dest v.call v.trace v.outcome) :
    (∀ j, posted dest j c.events =
      (c.visits.flatMap fun v => sentTo dest j v.call v.outcome) ++ posted dest j c.underway) ∧
      taken c.events = (c.visits.flatMap fun v => taken v.trace) ++ taken c.underway ∧
      (c.visits.flatMap fun v => receivedBy v.call v.outcome) = (c.visits.flatMap fun v => taken v.trace).map report := by
  refine ⟨fun j => ?_, ?_, ?_⟩
  · unfold Client.events
    rw [posted_append]
    congr 1
    unfold posted
    rw [List.flatMap_assoc]
    exact List.flatMap_congr fun v hv => (hc v hv).posted j
  · unfold Client.events
    rw [taken_append]
    congr 1
    unfold taken
    rw [List.flatMap_assoc]
  · rw [List.map_flatMap]
    exact List.flatMap_congr fun v hv => (hc v hv).taken

end Runs

section Examples

/-- The descriptors of two sockets. -/
def mailFd : Bool → SOCKET
  | false => 3
  | true => 4

section Class

variable {S N : Type} (k : DatagramClass S N .lp64) (dest : SockAddr → Option Bool) (obj : Bool → S)

/-- The run in which the sockets take these turns, and one without a call under way begins the call beside its name. -/
def mail (turns : List (Bool × PostCall N .lp64)) : System Bool Sys Ans (Post Bool) Exn S (PostCall N .lp64) Reply :=
  System.exec (fun i c w => w.serve dest mailFd i c) (fun _ => PostCall.perform k) turns (System.start obj {})

theorem mail_turns (turns : List (Bool × PostCall N .lp64)) :
    Mail k .ordered True dest mailFd (.start obj {}) (turns.map Prod.fst) (mail k dest obj turns) :=
  System.exec_turns (fun i c w => w.serve_post True dest mailFd i c) turns _

end Class

/-- Two datagram sockets, bound to the paths `a` and `b`. -/
def pathDest (address : SockAddr) : Option Bool :=
  if address = pathAddress [97] then some false else if address = pathAddress [98] then some true else none

def pathMailer (i : Bool) : DatagramIPCSocket :=
  { bound := true, socketPath := some (if i then [98] else [97]), receiveSocket := mailFd i }

theorem pathMailer_sound (i : Bool) : (datagramClass .lp64).Sound (pathMailer i) := by
  show PathMatches (pathMailer i)
  simp [pathMailer, Matches]

abbrev pathMail := mail (datagramClass .lp64) pathDest pathMailer

/-- Two UDP sockets, of which the one has the port 80. -/
def portAddress : SocketAddress := SocketAddress.zero.setSinPort (htons 80)

def portDest (address : SockAddr) : Option Bool := if address = .inet portAddress then some true else none

def portMailer (i : Bool) : UDPSocket := { bound := true, receiveSocket := mailFd i }

abbrev portMail := mail (udpClass .lp64) portDest portMailer

/-- The one sends two datagrams, and the other has room for two bytes of the first. -/
def twoAndOne {N : Type} (name : N) : List (Bool × PostCall N .lp64) :=
  List.replicate 5 (false, .sendTo name [7, 8, 9] (by decide) 0) ++
    List.replicate 5 (false, .sendTo name [6] (by decide) 0) ++ List.replicate 3 (true, .receiveFrom ⟨2, 0⟩)

end Examples

end SocketLibrary.Datagrams
