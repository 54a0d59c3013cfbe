import SocketLibrary.Model.DatagramIPCSocket
import SocketLibrary.Model.UDPSocket
import SocketLibrary.Stream.Receive

/-!
# The lengths of `recv`, `send` and `sendto`

`receiveAmount` counts an `unsigned int` of bytes with an `int`, and what is left to read is converted to `int` for
`recv`; the size of a message is converted to `int` for `send` and `sendto`. `lengths_right_iff` says for which sizes
the conversions keep the values.
-/

namespace SocketLibrary.Limits

open SocketLibrary.Interaction SocketLibrary.Posix SocketLibrary.Model SocketLibrary.Stream
open SocketLibrary.Model.ConnectionOrientedSocket (receiveAmount receiveAmountInto receiveAmountTurn ready send)

/-- Any answers, where `recv` stores no more than it is asked for. The state is the number of bytes stored so far. -/
@[simp] def storing : Env Sys Ans ℕ
  | .recv _ _ length _, s, x, s' => (0 ≤ length → (x.data.length : ℤ) ≤ length) ∧ s' = s + x.data.length
  | _, s, _, s' => s' = s

/-- A `recv` into a buffer of `n` bytes asks for some bytes, its offset is behind what has been stored, and there is room
for them. -/
def InBounds (n : UInt32) (stored : ℕ) : Sys → Prop
  | .recv _ offset length _ => offset = stored ∧ offset < n.toNat ∧ 1 ≤ length ∧ length ≤ n.toNat - offset
  | _ => True

/-- Every `recv` is in bounds. -/
def Bounded (n : UInt32) (tr : List (Event Sys Ans ℕ)) : Prop := ∀ e ∈ tr, InBounds n e.pre e.call

/-- `send` and `sendto` are handed the message with its size. -/
def HandsSize (message : Bytes) : Sys → Prop
  | .send _ m length _ => m = message ∧ length = message.length
  | .sendto _ m length _ _ _ => m = message ∧ length = message.length
  | _ => True

/-! ## Receiving -/

section Receive

variable {S : Type} {dm : DataModel} {fd : SOCKET} {n : UInt32} {flags : ℤ} {o : S} {s : ℕ}

theorem bounded_append {tr tr' : List (Event Sys Ans ℕ)} (h : Bounded n tr) (h' : Bounded n tr') :
    Bounded n (tr ++ tr') := List.forall_mem_append.2 ⟨h, h'⟩

theorem ready_bounded (timeout : ULong dm) : (ready dm fd timeout).wp storing (fun tr r o' s' => o' = o ∧ s' = s ∧
    Bounded n tr ∧ ∃ b, r = .returned b) o s := by
  unfold ready Socket.pollSocket
  rw [Method.wp_bind, Method.wp_ite]
  constructor
  · intro _
    exact ⟨rfl, rfl, by simp [Bounded], _, rfl⟩
  · intro _
    rw [wp_sys]
    rintro x s' rfl
    exact ⟨rfl, rfl, by simp [Bounded, InBounds], _, rfl⟩

/-- What the loop has done when it starts a turn: its counter is the number of bytes stored, less than was asked for. -/
def Counting (n : UInt32) (o : S) (tr : List (Event Sys Ans ℕ)) (p : ℤ × Bytes) (o' : S) (s : ℕ) : Prop :=
  Bounded n tr ∧ p.1 = s ∧ s ≤ p.2.length ∧ s < n.toNat ∧ o' = o

/-- What it has done when it returns the number of bytes stored. -/
def Counted (n : UInt32) : Method.Post Sys Ans ℕ Exn S (ℤ × Bytes) := fun tr r _ s' =>
  Bounded n tr ∧ ∃ buffer, r = .returned ((s' : ℤ), buffer) ∧ s' ≤ buffer.length

theorem length_writeAt {buffer data : Bytes} {offset : ℕ} (h : offset ≤ buffer.length) :
    offset + data.length ≤ (writeAt buffer offset data).length := by
  unfold writeAt
  simp only [List.length_append, List.length_take, List.length_drop]
  omega

theorem receiveAmountTurn_counting (hn : n.toNat < 2 ^ 31) {tr : List (Event Sys Ans ℕ)} {p : ℤ × Bytes} {o' : S}
    (h : Counting n o tr p o' s) :
    (receiveAmountTurn dm fd n flags p).wp storing (fun tr' => Method.Turn
      (fun tr p' o' s' => Counting n o tr p' o' s' ∧ n.toNat - 1 - p'.1.toNat < n.toNat - 1 - p.1.toNat)
      (Counted n) (tr ++ tr')) o' s := by
  obtain ⟨counter, buffer⟩ := p
  obtain ⟨htr, rfl, hroom, hlt, rfl⟩ := h
  have hask : toInt32 (n.toNat - (s : ℤ)) = n.toNat - s := toInt32_of_le (by omega) (by omega)
  apply receiveAmountTurn_wp
  intro x s' hx
  obtain ⟨hlen, rfl⟩ := hx
  rw [hask] at hlen
  have hfits : s + x.data.length ≤ n.toNat := by
    have hle : (x.data.length : ℤ) ≤ n.toNat - s := hlen (by omega)
    omega
  have hcall : Bounded n (tr ++ [⟨s, .recv fd s (toInt32 (n.toNat - (s : ℤ))) flags, x⟩]) := by
    refine bounded_append htr ?_
    rw [hask]
    exact List.forall_mem_singleton.2 ⟨rfl, by omega, by omega, le_rfl⟩
  have hroom' : s + x.data.length ≤ (writeAt buffer s x.data).length := length_writeAt hroom
  refine ⟨hfits, by omega, ?_, ?_, ?_⟩
  · -- `recv` failed, or found the end of the stream
    intro hnil
    have hsame : s + x.data.length = s := by simp [hnil]
    rw [hsame]
    exact ⟨hcall, buffer, rfl, hroom⟩
  · intro _ _
    exact ⟨hcall, _, rfl, hroom'⟩
  · intro hdata hless
    have hpos : 0 < x.data.length := List.length_pos_iff.2 hdata
    unfold receiveAmountTest
    rw [Method.wp_bind]
    refine Method.wp_mono (ready_bounded (n := n) _) ?_
    rintro tr' r o₁ s₁ ⟨rfl, rfl, htr', b, rfl⟩
    have htrace := bounded_append hcall htr'
    cases b with
    | true =>
      rw [Method.after_returned, if_pos rfl, Method.wp_pure]
      refine ⟨⟨by simpa using htrace, rfl, hroom', hless, rfl⟩, ?_⟩
      simp only [Int.toNat_natCast]
      omega
    | false =>
      rw [Method.after_returned, if_neg Bool.false_ne_true, Method.wp_pure]
      exact ⟨by simpa using htrace, _, rfl, hroom'⟩

theorem receiveAmountInto_counted (hn : n.toNat < 2 ^ 31) (buffer : Bytes) :
    (receiveAmountInto dm fd buffer n flags).wp storing (Counted n) o 0 := by
  unfold receiveAmountInto
  rw [Method.wp_ite]
  constructor
  · intro _
    exact ⟨by simp [Bounded], _, rfl, Nat.zero_le _⟩
  · intro h0
    have hpos : 0 < n.toNat := UInt32.lt_iff_toNat_lt.1 (UInt32.pos_iff_ne_zero.2 h0)
    refine Method.wp_mono (Method.wp_iterate_variant _ (Counting n o) (Counted n) (fun p _ _ => n.toNat - 1 - p.1.toNat)
      (fun _ _ _ _ h => receiveAmountTurn_counting hn h) n.toNat [] (0, buffer) o 0 ?_) ?_
    · exact ⟨by simp [Bounded], rfl, Nat.zero_le _, hpos, rfl⟩
    · rintro tr r o' s' (h | ⟨-, h⟩)
      · exact h
      · simp only [Int.toNat_zero] at h
        omega

theorem receiveAmount_counted (hn : n.toNat < 2 ^ 31) :
    (receiveAmount dm fd n flags).wp storing (fun tr r _ s' => Bounded n tr ∧ ∃ data, r = .returned data ∧
      data.length = s') o 0 := by
  unfold receiveAmount
  rw [Method.wp_bind]
  refine Method.wp_mono (receiveAmountInto_counted hn _) ?_
  rintro tr r o' s' ⟨htr, buffer, rfl, hle⟩
  rw [Method.after_returned, Method.wp_pure, List.append_nil]
  refine ⟨htr, _, rfl, ?_⟩
  rw [Int.toNat_natCast, List.length_take, Nat.min_eq_left hle]

/-- More than an `int` can count: the first `recv` is asked for a negative number of bytes. -/
theorem receiveAmountInto_first (hn : 2 ^ 31 ≤ n.toNat) (buffer : Bytes) :
    ∃ length < 0, ∃ k, receiveAmountInto dm fd buffer n flags o = .call (.recv fd 0 length flags) k := by
  have hlt : n.toNat < 2 ^ 32 := n.toNat_lt
  have hask : toInt32 (n.toNat - 0) < 0 := by
    unfold toInt32
    rw [Int.bmod_def]
    omega
  have h0 : n ≠ 0 := by
    rintro rfl
    exact absurd hn (by decide)
  have hturn : ∀ fuel, ∃ k, Method.iterate (receiveAmountTurn dm fd n flags) (fuel + 1) (0, buffer) o =
      .call (.recv fd 0 (toInt32 (n.toNat - 0)) flags) k := fun fuel => ⟨_, rfl⟩
  obtain ⟨k, hk⟩ := hturn (n.toNat - 1)
  rw [Nat.sub_add_cancel (by omega)] at hk
  refine ⟨_, hask, k, ?_⟩
  unfold receiveAmountInto
  rw [if_neg h0, hk]

theorem receiveAmount_first (hn : 2 ^ 31 ≤ n.toNat) :
    ∃ length < 0, ∃ k, receiveAmount dm fd n flags o = .call (.recv fd 0 length flags) k := by
  obtain ⟨length, hlen, k, hk⟩ := @receiveAmountInto_first S dm fd n flags o hn (List.replicate n.toNat 0)
  refine ⟨length, hlen, ?_⟩
  show ∃ k, (receiveAmountInto dm fd (List.replicate n.toNat 0) n flags o).bind _ = _
  rw [hk]
  exact ⟨_, rfl⟩

theorem not_bounded_of_first {α : Type} {m : M S α} {length : ℤ}
    {k : Ans (.recv fd 0 length flags) → Prog Sys Ans (Outcome Exn α × S)} (hm : m o = .call (.recv fd 0 length flags) k)
    (hlen : length < 0) {tr : List (Event Sys Ans ℕ)} {r : Outcome Exn α} {o' : S} {s' : ℕ}
    (hr : m.Runs storing o s tr r o' s') : ¬ Bounded n tr := by
  obtain ⟨x, s₁, tr', -, -, rfl⟩ := Method.Runs.of_call hm hr
  intro hbounded
  have hfirst := (hbounded _ List.mem_cons_self).2.2.1
  omega

end Receive

/-! ## Sending -/

theorem toInt32_length_iff (l : ℕ) : toInt32 l = l ↔ l < 2 ^ 31 := by
  constructor
  · intro h
    unfold toInt32 at h
    have hlt : (l : ℤ).bmod (2 ^ 32) < (2 ^ 32 + 1) / 2 := Int.bmod_lt (by decide)
    omega
  · intro h
    exact toInt32_of_le (by omega) (by omega)

section Send

variable {message : Bytes} {length flags : ℤ}

/-- The part of both classes' `sendTo` that follows the opening of the socket. -/
theorem sendto_iff {S : Type} (operation : Option Callback) (fd : SOCKET) (address : SockAddr) (l : ℕ) (o : S) :
    Method.Always (HandsSize message) (do
      runOperation operation fd
      let result ← sys (.sendto fd message length flags address l)
      Socket.close fd
      return result) o (fun _ _ => True) ↔ length = message.length := by
  have hsend : Method.Always (HandsSize message) (do
      let result ← sys (.sendto fd message length flags address l)
      Socket.close fd
      return result) o (fun _ _ => True) ↔ length = message.length := by
    simp [Socket.close, HandsSize]
  rw [Method.always_bind, always_runOperation]
  constructor
  · rintro ⟨hnone, hsome⟩
    cases operation with
    | none => exact hsend.1 (hnone rfl)
    | some f => exact hsend.1 (hsome f rfl).2.1
  · intro h
    exact ⟨fun _ => hsend.2 h, fun f _ => ⟨trivial, hsend.2 h, trivial⟩⟩

/-- Opening a socket can succeed. -/
theorem temporary_iff {S : Type} {domain type protocol : ℤ} {m : S → SOCKET → M S ℤ} {o : S} {p : Prop}
    (hm : ∀ fd, (m o fd).Always (HandsSize message) o (fun _ _ => True) ↔ p) :
    Method.Always (HandsSize message) (do
      let tempSocket ← sys (.socket domain type protocol)
      if isInvalidSocket tempSocket then
        return -2
      else
        let this ← Method.this
        m this tempSocket) o (fun _ _ => True) ↔ p := by
  rw [Method.always_bind, always_sys]
  constructor
  · rintro ⟨-, h⟩
    have hvalid : ¬ isInvalidSocket 0 = true := by decide
    have h0 := h (0 : ℤ)
    rw [Method.onward_returned, if_neg hvalid, Method.always_bind, Method.always_this] at h0
    exact (hm 0).1 h0
  · intro hp
    refine ⟨trivial, fun fd => ?_⟩
    rw [Method.onward_returned, Method.always_ite]
    refine ⟨fun _ => trivial, fun _ => ?_⟩
    rw [Method.always_bind, Method.always_this]
    exact (hm fd).2 hp

theorem send_iff {S : Type} (fd : SOCKET) (o : S) :
    (send fd message flags).Always (HandsSize message) o (fun _ _ => True) ↔ message.length < 2 ^ 31 := by
  rw [← toInt32_length_iff]
  simp [send, ConnectionOrientedSocket.sendBuffer, HandsSize]

theorem udpSendTo_iff (address : SocketAddress) (o : UDPSocket) :
    (UDPSocket.sendBufferTo address message length flags).Always (HandsSize message) o (fun _ _ => True) ↔
      length = message.length :=
  temporary_iff fun fd => sendto_iff o.preSendSocketOperation fd _ _ o

theorem datagramSendTo_iff (path : Bytes) (o : DatagramIPCSocket) :
    (DatagramIPCSocket.sendBufferTo path message length flags).Always (HandsSize message) o (fun _ _ => True) ↔
      length = message.length :=
  temporary_iff fun fd => sendto_iff o.preSendSocketOperation fd _ _ o

theorem udpSendToHost_iff (hostname : Bytes) (port : UInt16) (protocolVersion : InternetProtocolVersion) (o : UDPSocket) :
    (UDPSocket.sendBufferToHost hostname port message length flags protocolVersion).Always (HandsSize message) o
      (fun _ _ => True) ↔ length = message.length := by
  simp only [UDPSocket.sendBufferToHost, resolveToAddresses, Method.always_bind, always_sys, Method.onward_returned]
  constructor
  · -- the name is resolved to one address
    rintro ⟨-, h⟩
    have hresolved := h (0, [.zero])
    simp only [ne_eq, not_true_eq_false, List.cons_ne_self, or_self, if_false, Method.always_pure,
      Method.onward_returned, Method.always_bind] at hresolved
    exact (udpSendTo_iff .zero o).1 (hresolved.mono (fun _ h => h) fun _ _ _ => trivial)
  · intro hlen
    have hsend : ∀ address, (do
        let result ← UDPSocket.sendBufferTo address message length flags
        return (result, address) : M UDPSocket (ℤ × SocketAddress)).Always (HandsSize message) o fun _ _ => True :=
      fun address => ((udpSendTo_iff address o).2 hlen).wrap fun _ _ _ => trivial
    refine ⟨trivial, ?_⟩
    rintro ⟨code, addresses⟩
    by_cases h : code ≠ 0 ∨ addresses = []
    · simp [h]
    · simp only [h, if_false, Method.always_pure, Method.onward_returned, Method.always_ite]
      exact ⟨fun _ => trivial, fun _ => hsend _⟩

end Send

/-- **Lengths that are right.** Whatever `recv` stores of what it is asked for: both forms of `receiveAmount` read in
bounds and return the number of bytes stored just if less than `2 ^ 31` bytes are asked for. Whatever is answered:
`send` and `sendTo` hand over the size of the message just if it is less than `2 ^ 31`. -/
theorem lengths_right_iff (dm : DataModel) (n : UInt32) (message : Bytes) (flags : ℤ) :
    (∀ {S : Type} (fd : SOCKET) (o o' : S) (tr : List (Event Sys Ans ℕ)) (s' : ℕ),
      (∀ (buffer : Bytes) (r : Outcome Exn (ℤ × Bytes)),
        (receiveAmountInto dm fd buffer n flags).Runs storing o 0 tr r o' s' →
        ((Bounded n tr ∧ ∃ buffer', r = .returned ((s' : ℤ), buffer')) ↔ n.toNat < 2 ^ 31)) ∧
      ∀ r : Outcome Exn Bytes, (receiveAmount dm fd n flags).Runs storing o 0 tr r o' s' →
        ((Bounded n tr ∧ ∃ data, r = .returned data ∧ data.length = s') ↔ n.toNat < 2 ^ 31)) ∧
    (∀ {S : Type} (fd : SOCKET) (o : S),
      (send fd message flags).Always (HandsSize message) o (fun _ _ => True) ↔ message.length < 2 ^ 31) ∧
    (∀ (address : SocketAddress) (o : UDPSocket),
      (UDPSocket.sendTo address message flags).Always (HandsSize message) o (fun _ _ => True) ↔
        message.length < 2 ^ 31) ∧
    (∀ (hostname : Bytes) (port : UInt16) (protocolVersion : InternetProtocolVersion) (o : UDPSocket),
      (UDPSocket.sendToHost hostname port message flags protocolVersion).Always (HandsSize message) o (fun _ _ => True) ↔
        message.length < 2 ^ 31) ∧
    ∀ (path : Bytes) (o : DatagramIPCSocket),
      (DatagramIPCSocket.sendTo path message flags).Always (HandsSize message) o (fun _ _ => True) ↔
        message.length < 2 ^ 31 := by
  refine ⟨fun fd o o' tr s' => ⟨fun buffer r hr => ⟨?_, ?_⟩, fun r hr => ⟨?_, ?_⟩⟩, fun fd o => ?_, fun address o => ?_,
    fun hostname port protocolVersion o => ?_, fun path o => ?_⟩
  · rintro ⟨hbounded, -⟩
    by_contra hn
    obtain ⟨length, hlen, k, hk⟩ := receiveAmountInto_first (not_lt.1 hn) buffer
    exact not_bounded_of_first hk hlen hr hbounded
  · intro hn
    obtain ⟨hbounded, buffer', rfl, -⟩ := hr.post (receiveAmountInto_counted hn buffer)
    exact ⟨hbounded, buffer', rfl⟩
  · rintro ⟨hbounded, -⟩
    by_contra hn
    obtain ⟨length, hlen, k, hk⟩ := receiveAmount_first (not_lt.1 hn)
    exact not_bounded_of_first hk hlen hr hbounded
  · intro hn
    exact hr.post (receiveAmount_counted hn)
  · exact send_iff fd o
  · rw [← toInt32_length_iff]
    exact udpSendTo_iff address o
  · rw [← toInt32_length_iff]
    exact udpSendToHost_iff hostname port protocolVersion o
  · rw [← toInt32_length_iff]
    exact datagramSendTo_iff path o

section Examples

theorem storing_answers (c : Sys) (s : ℕ) : ∃ x s', storing c s x s' := by
  cases c with
  | recv fd offset length flags => exact ⟨.error, s, fun h => h, rfl⟩
  | _ => exact ⟨refuse _, s, rfl⟩

/-- A `recv` that stores two bytes at most. -/
def storeTwo (c : Sys) (s : ℕ) : Ans c × ℕ := match c with
  | .recv _ _ length _ => (.bytes (List.replicate (min 2 length.toNat) 120), s + min 2 length.toNat)
  | .select .. => (1, s)
  | c => (refuse c, s)

theorem storeTwo_storing (c : Sys) (s : ℕ) : storing c s (storeTwo c s).1 (storeTwo c s).2 := by
  cases c with
  | recv fd offset length flags =>
    refine ⟨fun hlen => ?_, ?_⟩
    · simp only [storeTwo, Received.data, List.length_replicate]
      omega
    · simp [storeTwo, Received.data]
  | _ => rfl

/-- Five bytes that come by twos: the reads are in bounds, at the offsets 0, 2 and 4. -/
theorem lengths_right_iff_five :
    let run := (receiveAmount (S := Unit) .lp64 3 5 0 ()).exec storeTwo 0
    run.1.filterMap (fun e => match e.call with
      | .recv _ offset length _ => some (offset, length)
      | _ => none) = [(0, 5), (2, 3), (4, 1)] ∧
    Bounded 5 run.1 ∧ ∃ data, run.2.1.1 = .returned data ∧ data.length = run.2.2 :=
  ⟨by decide +kernel, (((lengths_right_iff .lp64 5 [] 0).1 3 () () _ _).2 _
    (Prog.exec_runs storeTwo_storing (receiveAmount .lp64 3 5 0 ()) 0)).2 (by decide)⟩

/-- A read of `2 ^ 31` bytes is out of bounds at once, and a message of that size is sent with a negative one. -/
theorem lengths_negative :
    (∃ tr r s', (receiveAmount .lp64 3 2147483648 0).Runs storing () 0 tr r () s' ∧ ¬ Bounded 2147483648 tr) ∧
    ¬ (send 3 (List.replicate (2 ^ 31) 120) 0).Always (HandsSize (List.replicate (2 ^ 31) 120)) () (fun _ _ => True) := by
  constructor
  · obtain ⟨tr, ⟨r, o'⟩, s', hr⟩ := Prog.exists_run storing_answers (receiveAmount .lp64 3 2147483648 0 ()) 0
    have hbig : 2 ^ 31 ≤ (2147483648 : UInt32).toNat := by decide
    obtain ⟨length, hlen, k, hk⟩ := receiveAmount_first hbig
    exact ⟨tr, r, s', hr, not_bounded_of_first hk hlen hr⟩
  · rw [send_iff, List.length_replicate]
    exact lt_irrefl _

end Examples

end SocketLibrary.Limits
