import SocketLibrary.Stream.ToDelimiter

/-!
# Amounts add up

On a stream whose bytes are announced and delivered, however `recv` cuts it, `receiveAmount(n)` takes the first `n`
bytes, or all there are. So what a sequence of calls takes depends only on how much they ask for together:
`receiveAmount(n)` and `receiveAmount(m)`, one `receiveAmount(n + m)` and `n + m` calls of `get()` return the same bytes
and leave the same rest (`receiveAmount_adds`).
-/

namespace SocketLibrary.Stream

open SocketLibrary.Interaction SocketLibrary.Posix SocketLibrary.Model SocketLibrary.Model.ConnectionOrientedSocket

/-- `k` calls of `get()`, with the characters they return. -/
def getTimes {S : Type} (dm : DataModel) (fd : SOCKET) (flags : ℤ) : ℕ → M S Bytes
  | 0 => return []
  | k + 1 => do
    let character ← ConnectionOrientedSocket.get dm fd flags
    let characters ← getTimes dm fd flags k
    return character.toList ++ characters

/-- `receiveAmount(n)` followed by `receiveAmount(m)`, with the bytes of both. -/
def receiveAmountTwice {S : Type} (dm : DataModel) (fd : SOCKET) (n m : UInt32) (flags : ℤ) : M S Bytes := do
  let data ← ConnectionOrientedSocket.receiveAmount dm fd n flags
  let more ← ConnectionOrientedSocket.receiveAmount dm fd m flags
  return data ++ more

/-- From the stream `s` the method takes `n` bytes, or all there are: it has a run, and every run returns just these and
leaves just the rest, the object being untouched. -/
def Takes {S : Type} (m : M S Bytes) (n : ℕ) (o : S) (s : Bytes) : Prop :=
  (∃ tr r o' s', m.Runs Peer.attentive.env o s tr r o' s') ∧
  ∀ tr r o' s', m.Runs Peer.attentive.env o s tr r o' s' → r = .returned (s.take n) ∧ o' = o ∧ s' = s.drop n

section

variable {S : Type} {dm : DataModel} {fd : SOCKET} {flags : ℤ} {o : S} {s : Bytes}

/-- Every method runs against an attentive peer, so `Takes` is a question of its postcondition. -/
theorem takes_of_wp {m : M S Bytes} {n : ℕ}
    (h : m.wp Peer.attentive.env (fun _ r o' s' => r = .returned (s.take n) ∧ o' = o ∧ s' = s.drop n) o s) :
    Takes m n o s := by
  have hpoll : ∀ s, Peer.attentive.polls s 1 := fun _ _ => Int.one_pos
  exact ⟨Peer.exists_run _ (fun _ => 1) hpoll m o s, Method.wp_iff.1 h⟩

/-- A front part of the stream that is as long as was asked for, or the whole of it, is what `take` cuts off. -/
theorem eq_take_drop {data rest : Bytes} {n : ℕ} (hs : s = data ++ rest) (hle : data.length ≤ n)
    (hstop : data.length = n ∨ rest = []) : data = s.take n ∧ rest = s.drop n := by
  subst hs
  rcases hstop with rfl | rfl
  · exact ⟨by simp, by simp⟩
  · rw [List.append_nil]
    exact ⟨(List.take_of_length_le hle).symm, (List.drop_eq_nil_of_le hle).symm⟩

/-- The postcondition of `receiveAmount` on this stream. -/
theorem receiveAmount_takes (hfd : fd ≠ -1) (hflags : ¬ Peeks flags) {n : UInt32} (hn : n.toNat < 2 ^ 31) :
    (ConnectionOrientedSocket.receiveAmount dm fd n flags).wp Peer.attentive.env
      (fun _ r o' s' => r = .returned (s.take n.toNat) ∧ o' = o ∧ s' = s.drop n.toNat) o s := by
  have hwithin : Method.Within Consuming (ConnectionOrientedSocket.receiveAmount dm fd n flags : M S Bytes) :=
    Steps.receiveAmount_within (fun _ _ => trivial) (fun _ _ => hflags) n
  refine Method.wp_mono (Peer.wp_consumed hwithin (receiveAmount_spec hn)) ?_
  rintro tr r o' s' ⟨⟨rfl, hle, hstop, rfl⟩, hs⟩
  have hrest : (delivered tr).length = n.toNat ∨ s' = [] := hstop.imp_right (Peer.attentive_stops hfd)
  obtain ⟨hdata, hdrop⟩ := eq_take_drop hs hle hrest
  rw [← hdata]
  exact ⟨rfl, rfl, hdrop⟩

/-- The postcondition of `get`. -/
theorem get_takes (hfd : fd ≠ -1) (hflags : ¬ Peeks flags) :
    (ConnectionOrientedSocket.get dm fd flags).wp Peer.attentive.env
      (fun _ r o' s' => r = .returned s.head? ∧ o' = o ∧ s' = s.tail) o s := by
  unfold ConnectionOrientedSocket.get
  rw [Method.wp_bind]
  refine Method.wp_mono (receiveAmount_takes hfd hflags (by decide)) ?_
  rintro tr r o' s' ⟨rfl, rfl, rfl⟩
  rw [Method.after_returned, Method.wp_pure]
  cases s with
  | nil => exact ⟨rfl, rfl, rfl⟩
  | cons c s => exact ⟨rfl, rfl, rfl⟩

/-- The calls of `get` take one byte each: induction on their number. -/
theorem getTimes_takes (hfd : fd ≠ -1) (hflags : ¬ Peeks flags) (k : ℕ) :
    (getTimes dm fd flags k).wp Peer.attentive.env
      (fun _ r o' s' => r = .returned (s.take k) ∧ o' = o ∧ s' = s.drop k) o s := by
  induction k generalizing s with
  | zero =>
    unfold getTimes
    exact ⟨rfl, rfl, rfl⟩
  | succ k ih =>
    unfold getTimes
    rw [Method.wp_bind]
    refine Method.wp_mono (get_takes hfd hflags) ?_
    rintro tr r o' s' ⟨rfl, rfl, rfl⟩
    rw [Method.after_returned, Method.wp_bind]
    refine Method.wp_mono ih ?_
    rintro tr' r o' s' ⟨rfl, rfl, rfl⟩
    rw [Method.after_returned, Method.wp_pure]
    cases s with
    | nil => simp
    | cons c s => simp

/-- Two calls of `receiveAmount` take what they ask for together. -/
theorem receiveAmountTwice_takes (hfd : fd ≠ -1) (hflags : ¬ Peeks flags) {n m : UInt32} (hn : n.toNat < 2 ^ 31)
    (hm : m.toNat < 2 ^ 31) :
    (receiveAmountTwice dm fd n m flags).wp Peer.attentive.env
      (fun _ r o' s' => r = .returned (s.take (n.toNat + m.toNat)) ∧ o' = o ∧ s' = s.drop (n.toNat + m.toNat)) o s := by
  unfold receiveAmountTwice
  rw [Method.wp_bind]
  refine Method.wp_mono (receiveAmount_takes hfd hflags hn) ?_
  rintro tr r o' s' ⟨rfl, rfl, rfl⟩
  rw [Method.after_returned, Method.wp_bind]
  refine Method.wp_mono (receiveAmount_takes hfd hflags hm) ?_
  rintro tr' r o' s' ⟨rfl, rfl, rfl⟩
  rw [Method.after_returned, Method.wp_pure, List.take_add, List.drop_drop]
  exact ⟨rfl, rfl, rfl⟩

end

/-- **Amounts add up.** Whatever pieces `recv` delivers, `receiveAmount(n)` takes the first `n` bytes of the stream or
all there are, and the two calls, the one call and the calls of `get()` take the first `n + m`. -/
theorem receiveAmount_adds {S : Type} (dm : DataModel) (fd : SOCKET) (hfd : fd ≠ -1) (flags : ℤ)
    (hflags : ¬ Peeks flags) (n m : UInt32) (hnm : n.toNat + m.toNat < 2 ^ 31) (o : S) (s : Bytes) :
    Takes (ConnectionOrientedSocket.receiveAmount dm fd n flags) n.toNat o s ∧
    Takes (receiveAmountTwice dm fd n m flags) (n.toNat + m.toNat) o s ∧
    Takes (ConnectionOrientedSocket.receiveAmount dm fd (n + m) flags) (n.toNat + m.toNat) o s ∧
    Takes (getTimes dm fd flags (n.toNat + m.toNat)) (n.toNat + m.toNat) o s := by
  have hadd : (n + m).toNat = n.toNat + m.toNat := by
    rw [UInt32.toNat_add]
    omega
  refine ⟨?_, ?_, ?_, ?_⟩
  · apply takes_of_wp
    exact receiveAmount_takes hfd hflags (by omega)
  · apply takes_of_wp
    exact receiveAmountTwice_takes hfd hflags (by omega) (by omega)
  · apply takes_of_wp
    rw [← hadd]
    exact receiveAmount_takes hfd hflags (by omega)
  · apply takes_of_wp
    exact getTimes_takes hfd hflags _

/-- Two and three bytes of the six of `"abcdef"`. -/
theorem receiveAmount_adds_two_three :
    Takes (ConnectionOrientedSocket.receiveAmount .lp64 3 2 0) 2 () [97, 98, 99, 100, 101, 102] ∧
    Takes (receiveAmountTwice .lp64 3 2 3 0) 5 () [97, 98, 99, 100, 101, 102] ∧
    Takes (ConnectionOrientedSocket.receiveAmount .lp64 3 5 0) 5 () [97, 98, 99, 100, 101, 102] ∧
    Takes (getTimes .lp64 3 0 5) 5 () [97, 98, 99, 100, 101, 102] :=
  receiveAmount_adds .lp64 3 (by decide) 0 (by decide) 2 3 (by decide) () [97, 98, 99, 100, 101, 102]

end SocketLibrary.Stream
