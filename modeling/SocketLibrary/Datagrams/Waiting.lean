import Mathlib.Data.Real.Basic
import SocketLibrary.Binding.Fields

/-!
# How long `ready` waits

The next datagram arrives at a point in time, measured from the call, and `select` answers 1 if that is within the
`timeval` it is given. `DatagramIPCSocket::ready` and `ConnectionOrientedSocket::ready` pass their timeout on;
`UDPSocket::ready` waits for no time at all, and `ready_waits_iff` says when this makes no difference.
-/

namespace SocketLibrary.Datagrams

open SocketLibrary.Interaction SocketLibrary.Posix SocketLibrary.Model SocketLibrary.Binding SocketLibrary.Descriptors

/-- The microseconds of a `timeval`. -/
def micros (t : TimeVal) : ℤ := t.tv_sec * 1000000 + t.tv_usec

/-- The next datagram arrives `a` microseconds after the call, or is there already if `a` is not positive. -/
@[simp] def arrival (a : ℝ) : Env Sys Ans Unit
  | .select _ _ timeout, _, x, _ => x = 1 ∧ a ≤ micros timeout ∨ x = 0 ∧ ¬ a ≤ micros timeout
  | _, _, _, _ => True

/-- The division of a timeout into seconds and microseconds loses nothing. -/
theorem micros_divMod (t : ℤ) : micros ⟨t.tdiv 1000000, t.tmod 1000000⟩ = t := by
  unfold micros
  rw [Int.mul_comm]
  exact Int.mul_tdiv_add_tmod t 1000000

/-- A timeout below `2 ^ 31` is the same number as a `long`. -/
theorem toInt_timeout {dm : DataModel} {t : ULong dm} (ht : t.toNat < 2 ^ 31) : t.toInt = t.toNat := by
  apply BitVec.toInt_eq_toNat_of_lt
  cases dm with
  | lp64 =>
    show 2 * t.toNat < 2 ^ 64
    omega
  | llp64 =>
    show 2 * t.toNat < 2 ^ 32
    omega

section Answers

variable {S : Type} {a : ℝ} {m : M S Bool} {o : S} {p p' : Prop}

/-- The call returns, and answers true just if `p`. -/
def Answers (a : ℝ) (m : M S Bool) (o : S) (p : Prop) : Prop :=
  m.wp (arrival a) (fun _ r _ _ => ∃ b, r = .returned b ∧ (b = true ↔ p)) o ()

theorem arrival_answers (c : Sys) (u : Unit) : ∃ x u', arrival a c u x u' := by
  cases c with
  | select nfds fd timeout =>
    by_cases h : a ≤ micros timeout
    · exact ⟨1, (), Or.inl ⟨rfl, h⟩⟩
    · exact ⟨0, (), Or.inr ⟨rfl, h⟩⟩
  | _ => exact ⟨refuse _, (), trivial⟩

/-- The environment answers every call, so two answers of one call are equivalent. -/
theorem Answers.iff (h : Answers a m o p) : Answers a m o p' ↔ (p ↔ p') := by
  constructor
  · intro h'
    obtain ⟨tr, ⟨r, o'⟩, u, hr⟩ := Prog.exists_run arrival_answers (m o) ()
    obtain ⟨b, rfl, hb⟩ := Method.Runs.post hr h
    obtain ⟨b', hbb', hb'⟩ := Method.Runs.post hr h'
    cases hbb'
    exact hb.symm.trans hb'
  · intro hp
    refine Method.wp_mono h ?_
    rintro tr r o' u ⟨b, hr, hb⟩
    exact ⟨b, hr, hb.trans hp⟩

/-- What `Socket::pollSocket` answers, compared with 0. -/
theorem poll_answers (fd : SOCKET) (timeout : ℤ) (timeOutVal : Option TimeVal) {waits : ℤ}
    (hwaits : micros (timeOutVal.getD ⟨timeout.tdiv 1000000, timeout.tmod 1000000⟩) = waits) :
    Answers a (do
      let result ← Socket.pollSocket fd timeout timeOutVal
      return 0 < result) o (fd ≠ -1 ∧ a ≤ waits) := by
  unfold Answers Socket.pollSocket
  by_cases hfd : fd = -1
  · simp [hfd, isInvalidSocket, getInvalidSocketValue]
  · subst hwaits
    have hvalid : isInvalidSocket fd = false := by simpa [isInvalidSocket, getInvalidSocketValue] using hfd
    simp only [hvalid, Bool.false_eq_true, if_false, Method.wp_bind, wp_sys, Method.after_returned, Method.wp_pure,
      arrival]
    rintro x u (⟨rfl, hle⟩ | ⟨rfl, hle⟩)
    · exact ⟨_, rfl, by simp [hfd, hle]⟩
    · exact ⟨_, rfl, by simp [hle]⟩

end Answers

section Classes

variable (dm : DataModel) (a : ℝ) {t : ULong dm}

/-- The overriding `pollSocket` asks for no time, whatever it is given. -/
theorem udpPollSocket_eq (socket : SOCKET) (timeout : ℤ) :
    UDPSocket.pollSocket socket timeout = Socket.pollSocket socket timeout (some ⟨0, 0⟩) := by
  unfold UDPSocket.pollSocket
  split_ifs with h
  · rw [Socket.pollSocket, if_pos h]
  · rfl

theorem udpReady_answers {o : UDPSocket} (hbound : o.bound = true) :
    Answers a (UDPSocket.ready dm t) o (o.receiveSocket ≠ -1 ∧ a ≤ 0) := by
  have hzero : micros ⟨0, 0⟩ = 0 := rfl
  have hpoll := poll_answers (a := a) (o := o) o.receiveSocket t.toInt (some ⟨0, 0⟩) hzero
  rw [← udpPollSocket_eq, Int.cast_zero] at hpoll
  unfold Answers UDPSocket.ready
  rw [Method.wp_bind, Method.wp_this, Method.after_returned, if_pos hbound]
  exact hpoll

theorem datagramReady_answers (ht : t.toNat < 2 ^ 31) {o : DatagramIPCSocket} (hbound : o.bound = true) :
    Answers a (DatagramIPCSocket.ready dm t) o (o.receiveSocket ≠ -1 ∧ a ≤ t.toNat) := by
  have hpoll := poll_answers (a := a) (o := o) o.receiveSocket t.toInt none (micros_divMod t.toInt)
  rw [toInt_timeout ht, Int.cast_natCast] at hpoll
  unfold Answers DatagramIPCSocket.ready
  rw [Method.wp_bind, Method.wp_this, Method.after_returned, if_pos hbound, toInt_timeout ht]
  exact hpoll

theorem connectionReady_answers (ht : t.toNat < 2 ^ 31) {S : Type} (o : S) (fd : SOCKET) :
    Answers a (ConnectionOrientedSocket.ready dm fd t) o (fd ≠ -1 ∧ a ≤ t.toNat) := by
  have hpoll := poll_answers (a := a) (o := o) fd t.toInt none (micros_divMod t.toInt)
  rw [toInt_timeout ht, Int.cast_natCast] at hpoll
  unfold ConnectionOrientedSocket.ready
  rw [toInt_timeout ht]
  exact hpoll

end Classes

/-- Waiting for `waits` on `fd` gives the answer that `t` asks for. -/
theorem right_iff {fd : SOCKET} {a waits t : ℝ} (h : waits ≤ t) :
    ((fd ≠ -1 ∧ a ≤ waits) ↔ a ≤ t) ↔ t < a ∨ a ≤ waits ∧ fd ≠ -1 := by
  by_cases hat : a ≤ t
  · have hlate : ¬ t < a := not_lt.2 hat
    simp only [hat, hlate, iff_true, false_or, and_comm]
  · have hlate : t < a := not_le.1 hat
    have hwaits : ¬ a ≤ waits := fun hle => hat (hle.trans h)
    simp only [hat, hlate, hwaits, and_false, true_or]

theorem late_or_iff {fd : SOCKET} {a t : ℝ} : t < a ∨ a ≤ t ∧ fd ≠ -1 ↔ t < a ∨ fd ≠ -1 := by
  constructor
  · rintro (hlate | ⟨-, hfd⟩)
    · exact Or.inl hlate
    · exact Or.inr hfd
  · intro h
    rcases lt_or_ge t a with hlate | hle
    · exact Or.inl hlate
    · exact Or.inr ⟨hle, h.resolve_left (not_lt.2 hle)⟩

/-- **The timeout counts.** For every timeout `t` below `2 ^ 31` microseconds and every arrival time `a`: the answer of
`UDPSocket::ready` is whether `a ≤ t` just if the datagram comes after the timeout, or is there at the call; that of the
two other classes is, as long as they have a descriptor; so the three agree just then. -/
theorem ready_waits_iff (dm : DataModel) (a : ℝ) (t : ULong dm) (ht : t.toNat < 2 ^ 31) :
    (∀ o : UDPSocket, o.bound = true →
      (Answers a (UDPSocket.ready dm t) o (a ≤ t.toNat) ↔ t.toNat < a ∨ a ≤ 0 ∧ o.receiveSocket ≠ -1)) ∧
    (∀ p : DatagramIPCSocket, p.bound = true →
      (Answers a (DatagramIPCSocket.ready dm t) p (a ≤ t.toNat) ↔ t.toNat < a ∨ p.receiveSocket ≠ -1)) ∧
    (∀ {S : Type} (s : S) (fd : SOCKET),
      Answers a (ConnectionOrientedSocket.ready dm fd t) s (a ≤ t.toNat) ↔ t.toNat < a ∨ fd ≠ -1) ∧
    ∀ (o : UDPSocket) (p : DatagramIPCSocket) {S : Type} (s : S) (fd : SOCKET), o.bound = true → p.bound = true →
      p.receiveSocket ≠ -1 → fd ≠ -1 →
      ((∃ answer, Answers a (UDPSocket.ready dm t) o answer ∧ Answers a (DatagramIPCSocket.ready dm t) p answer ∧
        Answers a (ConnectionOrientedSocket.ready dm fd t) s answer) ↔
        t.toNat < a ∨ a ≤ 0 ∧ o.receiveSocket ≠ -1) := by
  have hzero : (0 : ℝ) ≤ t.toNat := Nat.cast_nonneg _
  have hudp : ∀ o : UDPSocket, o.bound = true → ∀ answer, Answers a (UDPSocket.ready dm t) o answer ↔
      ((o.receiveSocket ≠ -1 ∧ a ≤ 0) ↔ answer) := fun o hbound answer => (udpReady_answers dm a hbound).iff
  refine ⟨?_, ?_, ?_, ?_⟩
  · intro o hbound
    rw [hudp o hbound, right_iff hzero]
  · intro p hbound
    rw [(datagramReady_answers dm a ht hbound).iff, right_iff le_rfl]
    exact late_or_iff
  · intro S s fd
    rw [(connectionReady_answers dm a ht s fd).iff, right_iff le_rfl]
    exact late_or_iff
  · intro o p S s fd hobound hpbound hp hfd
    rw [← right_iff hzero]
    constructor
    · rintro ⟨answer, ho, hdatagram, -⟩
      have hright := (datagramReady_answers dm a ht hpbound).iff.1 hdatagram
      simp only [ne_eq, hp, not_false_eq_true, true_and] at hright
      exact ((hudp o hobound answer).1 ho).trans hright.symm
    · intro h
      refine ⟨a ≤ t.toNat, (hudp o hobound _).2 h, ?_, ?_⟩
      · exact (datagramReady_answers dm a ht hpbound).iff.2 (and_iff_right hp)
      · exact (connectionReady_answers dm a ht s fd).iff.2 (and_iff_right hfd)

section Examples

/-- A datagram that is there already is seen. -/
theorem ready_waits_iff_there :
    Answers 0 (UDPSocket.ready .lp64 5) { bound := true, receiveSocket := 3 } ((0 : ℝ) ≤ (5 : ULong .lp64).toNat) := by
  have h := (ready_waits_iff .lp64 0 5 (by decide)).1 { bound := true, receiveSocket := 3 } rfl
  exact h.2 (Or.inr ⟨le_rfl, by decide⟩)

/-- A `UDPSocket` does not wait for a datagram that comes after 1 microsecond, though the timeout is 5. -/
theorem ready_does_not_wait : ¬ ∀ (dm : DataModel) (a : ℝ) (t : ULong dm), t.toNat < 2 ^ 31 →
    ∀ o : UDPSocket, UDPReachable dm o → o.bound = true → Answers a (UDPSocket.ready dm t) o (a ≤ t.toNat) := by
  intro h
  let run := Kernel.execute (fun _ => false) 3 (@UDPCall.perform .lp64 (.bind (some .zero) none)) {} (.boot [])
  have hreachable : UDPReachable .lp64 run.2.1.2 :=
    .call .new (Kernel.execute_runs (fun _ => false) 3 (@UDPCall.perform .lp64 (.bind (some .zero) none)) {} (.boot []))
  have hanswer := h .lp64 1 5 (by decide) run.2.1.2 hreachable rfl
  have hiff := (udpReady_answers .lp64 1 rfl).iff.1 hanswer
  have hle : (1 : ℝ) ≤ (5 : ULong .lp64).toNat := by
    have hfive : (5 : ULong .lp64).toNat = 5 := rfl
    rw [hfive]
    norm_num
  exact absurd (hiff.2 hle).2 (by norm_num)

end Examples

end SocketLibrary.Datagrams
