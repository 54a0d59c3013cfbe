import SocketLibrary.Datagrams.Waiting
import SocketLibrary.Model.DatagramIPCSocket

/-!
# The arguments of `select`

A descriptor becomes the number of a bit in an `fd_set`, and a timeout of type `unsigned long` a `long`, which is divided
into seconds and microseconds with the sign of the `long`. `ready_means_timeout_iff` says for which descriptors and
timeouts `select` is then asked for what the caller meant.
-/

namespace SocketLibrary.Limits

open SocketLibrary.Interaction SocketLibrary.Posix SocketLibrary.Model SocketLibrary.Datagrams

variable {dm : DataModel}

/-- The one kind of call that is made is `select`; on POSIX systems, where `nfds` is not ignored, its descriptor has a bit
in an `fd_set` and `nfds` is one more; and the `timeval` is a valid one with the microseconds of the timeout. -/
def MeansTimeout (timeout : ULong dm) : Sys → Prop
  | .select nfds fd t => (dm = .lp64 → 0 ≤ fd ∧ fd < FD_SETSIZE ∧ nfds = fd + 1) ∧ 0 ≤ t.tv_sec ∧ 0 ≤ t.tv_usec ∧
    t.tv_usec < 1000000 ∧ t.tv_sec * 1000000 + t.tv_usec = timeout.toNat
  | _ => False

theorem meansTimeout_select {timeout : ULong dm} {nfds : ℤ} {fd : SOCKET} {t : TimeVal} :
    MeansTimeout timeout (.select nfds fd t) ↔ (dm = .lp64 → 0 ≤ fd ∧ fd < FD_SETSIZE ∧ nfds = fd + 1) ∧ 0 ≤ t.tv_sec ∧
      0 ≤ t.tv_usec ∧ t.tv_usec < 1000000 ∧ t.tv_sec * 1000000 + t.tv_usec = timeout.toNat := Iff.rfl

/-- The descriptor fits in an `fd_set`, and the timeout in a `long`. -/
def Fits (fd : SOCKET) (timeout : ULong dm) : Prop :=
  (dm = .lp64 → 0 ≤ fd ∧ fd < FD_SETSIZE) ∧ timeout.toNat < 2 ^ (dm.longBits - 1)

/-! ## The division -/

/-- A timeout that fits in a `long` keeps its value, and no other does. -/
theorem toInt_eq_toNat_iff (timeout : ULong dm) :
    timeout.toInt = timeout.toNat ↔ timeout.toNat < 2 ^ (dm.longBits - 1) := by
  have hpow : 2 ^ dm.longBits = 2 * 2 ^ (dm.longBits - 1) := by cases dm <;> rfl
  have hlt : timeout.toNat < 2 ^ dm.longBits := timeout.isLt
  rw [BitVec.toInt_eq_toNat_cond]
  split_ifs with h
  · exact iff_of_true rfl (by omega)
  · refine iff_of_false ?_ (by omega)
    have hpos : (0 : ℤ) < (2 ^ dm.longBits : ℕ) := by positivity
    omega

/-- The parts of a timeout that is not negative. -/
theorem divMod_valid {t : ℤ} (ht : 0 ≤ t) : 0 ≤ t.tdiv 1000000 ∧ 0 ≤ t.tmod 1000000 ∧ t.tmod 1000000 < 1000000 := by
  refine ⟨Int.tdiv_nonneg ht (by decide), Int.tmod_nonneg _ ht, ?_⟩
  exact Int.tmod_lt_of_pos _ (by decide)

/-- The `nfds` of a descriptor that has a bit in an `fd_set`. -/
theorem toInt32_succ {fd : ℤ} (h0 : 0 ≤ fd) (hlt : fd < FD_SETSIZE) : toInt32 (fd + 1) = fd + 1 := by
  have hset : FD_SETSIZE = 1024 := rfl
  exact toInt32_of_le (by omega) (by omega)

/-- The call that `pollSocket` makes for a timeout. -/
theorem meansTimeout_iff (fd : SOCKET) (timeout : ULong dm) :
    MeansTimeout timeout (.select (toInt32 (fd + 1)) fd ⟨timeout.toInt.tdiv 1000000, timeout.toInt.tmod 1000000⟩) ↔
      Fits fd timeout := by
  have hsum : timeout.toInt.tdiv 1000000 * 1000000 + timeout.toInt.tmod 1000000 = timeout.toInt :=
    micros_divMod timeout.toInt
  have hnfds : (dm = .lp64 → 0 ≤ fd ∧ fd < FD_SETSIZE ∧ toInt32 (fd + 1) = fd + 1) ↔
      (dm = .lp64 → 0 ≤ fd ∧ fd < FD_SETSIZE) := by
    refine forall_congr' fun _ => and_congr_right fun h0 => and_iff_left_of_imp fun hlt => toInt32_succ h0 hlt
  rw [meansTimeout_select, hsum, toInt_eq_toNat_iff, hnfds]
  unfold Fits
  apply and_congr_right
  intro _
  constructor
  · rintro ⟨-, -, -, h⟩
    exact h
  · intro h
    have hnonneg : 0 ≤ timeout.toInt := by
      rw [(toInt_eq_toNat_iff timeout).2 h]
      omega
    obtain ⟨hsec, husec, hlt⟩ := divMod_valid hnonneg
    exact ⟨hsec, husec, hlt, h⟩

/-! ## The calls -/

section Calls

variable {S : Type} (fd : SOCKET) (timeout : ULong dm)

/-- `pollSocket` refuses the invalid descriptor, and makes the one call otherwise. -/
theorem pollSocket_means_iff (o : S) : (Socket.pollSocket fd timeout.toInt none).Always (MeansTimeout timeout) o
    (fun _ _ => True) ↔ fd = -1 ∨ Fits fd timeout := by
  unfold Socket.pollSocket
  rw [Method.always_ite, isInvalidSocket_iff, always_sys, Option.getD_none, meansTimeout_iff]
  constructor
  · rintro ⟨-, h⟩
    by_cases hfd : fd = -1
    · exact Or.inl hfd
    · exact Or.inr (h hfd).1
  · intro h
    refine ⟨fun _ => trivial, fun hfd => ⟨h.resolve_left hfd, fun _ => trivial⟩⟩

/-- What is made of the result makes no difference. -/
theorem poll_then_means_iff (g : ℤ → Bool) (o : S) : Method.Always (MeansTimeout timeout) (do
      let result ← Socket.pollSocket fd timeout.toInt none
      return g result) o (fun _ _ => True) ↔ fd = -1 ∨ Fits fd timeout := by
  rw [← pollSocket_means_iff fd timeout o, Method.always_bind]
  constructor
  · intro h
    exact h.mono (fun _ h => h) fun _ _ _ => trivial
  · intro h
    refine h.mono (fun _ h => h) ?_
    rintro (_ | _ | _) o' -
    · trivial
    · trivial
    · trivial

end Calls

/-- The microseconds that a call waits at most. -/
def waits : Sys → ℤ
  | .select _ _ t => micros t
  | _ => 0

theorem MeansTimeout.waits_eq {timeout : ULong dm} {c : Sys} (h : MeansTimeout timeout c) :
    waits c = timeout.toNat := by
  cases c with
  | select nfds fd t => exact h.2.2.2.2
  | _ => exact h.elim

/-- **The timeout that is meant.** Whatever is answered, `ready` and `connected` of a connection make no call but `select`
with valid arguments and their timeout, if and only if the descriptor is the invalid one, which is refused, or it fits
in an `fd_set` and the timeout in a `long`. So does `ready` of a `DatagramIPCSocket`, which also refuses when it is not
bound. Then a longer timeout never gives a shorter wait. -/
theorem ready_means_timeout_iff (dm : DataModel) (timeout : ULong dm) :
    (∀ {S : Type} (o : S) (fd : SOCKET),
      ((ConnectionOrientedSocket.ready dm fd timeout).Always (MeansTimeout timeout) o (fun _ _ => True) ↔
        fd = -1 ∨ Fits fd timeout) ∧
      ((ConnectionOrientedSocket.connected dm fd timeout).Always (MeansTimeout timeout) o (fun _ _ => True) ↔
        fd = -1 ∨ Fits fd timeout)) ∧
    (∀ o : DatagramIPCSocket,
      (DatagramIPCSocket.ready dm timeout).Always (MeansTimeout timeout) o (fun _ _ => True) ↔
        o.bound = false ∨ o.receiveSocket = -1 ∨ Fits o.receiveSocket timeout) ∧
    ∀ (longer : ULong dm) (c c' : Sys), MeansTimeout timeout c → MeansTimeout longer c' →
      timeout.toNat ≤ longer.toNat → waits c ≤ waits c' := by
  refine ⟨fun o fd => ⟨?_, ?_⟩, fun o => ?_, fun longer c c' h h' hle => ?_⟩
  · exact poll_then_means_iff fd timeout (fun result => 0 < result) o
  · exact poll_then_means_iff fd timeout (fun result => result ≠ -1) o
  · unfold DatagramIPCSocket.ready
    rw [Method.always_bind, Method.always_this, Method.onward_returned]
    cases hbound : o.bound with
    | true =>
      rw [if_pos rfl, poll_then_means_iff o.receiveSocket timeout (fun result => 0 < result) o]
      simp
    | false => simp
  · rw [h.waits_eq, h'.waits_eq]
    exact Int.ofNat_le.2 hle

section Examples

/-- The longest timeout of 64 bits becomes `-1` microseconds, and the descriptor 1024 a bit past the end of the set. -/
theorem ready_longest_timeout :
    (ConnectionOrientedSocket.ready .lp64 3 (BitVec.allOnes 64)).Always (· = .select 4 3 ⟨0, -1⟩) () (fun _ _ => True) ∧
    (¬ (ConnectionOrientedSocket.ready .lp64 3 (BitVec.allOnes 64)).Always
      (@MeansTimeout .lp64 (BitVec.allOnes 64)) () (fun _ _ => True)) ∧
    ¬ (ConnectionOrientedSocket.ready .lp64 1024 100#64).Always (@MeansTimeout .lp64 100#64) ()
      (fun _ _ => True) := by
  refine ⟨?_, fun hlong => ?_, fun hhigh => ?_⟩
  · exact ⟨by decide, fun _ => trivial⟩
  · have hfits := (@poll_then_means_iff .lp64 _ 3 (BitVec.allOnes 64) (fun result => 0 < result) ()).1 hlong
    have hlt : (BitVec.allOnes 64).toNat < 2 ^ 63 := (hfits.resolve_left (by decide)).2
    exact absurd hlt (by decide)
  · have hfits := (@poll_then_means_iff .lp64 _ 1024 100#64 (fun result => 0 < result) ()).1 hhigh
    have hlt : (1024 : ℤ) < FD_SETSIZE := ((hfits.resolve_left (by decide)).1 rfl).2
    exact absurd hlt (by decide)

end Examples

end SocketLibrary.Limits
