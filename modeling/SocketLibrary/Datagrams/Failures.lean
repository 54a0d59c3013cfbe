import SocketLibrary.Datagrams.Mailbox

/-!
# What `receiveFrom` returns when nothing was received

The string of `receiveFrom` starts as a buffer of NUL bytes, and is cut only for a code that is not negative.
`failed_receive_is_none_iff` says when no bytes come back together with a negative code.
-/

namespace SocketLibrary.Datagrams

open SocketLibrary.Interaction SocketLibrary.Posix SocketLibrary.Model SocketLibrary.Binding SocketLibrary.Descriptors

/-- There are no bytes beside a negative code. -/
def NoneOnFailure {β : Type} (r : Outcome Exn (Option Bytes × ℤ × β)) : Prop :=
  ∀ data code address, r = .returned (data, code, address) → code < 0 → data = none

/-- `recvfrom` did not fail. -/
def Succeeds {σ : Type} : Event Sys Ans σ → Prop
  | ⟨_, .recvfrom .., x⟩ => 0 ≤ x.result
  | _ => True

/-! ## The string and the code -/

/-- Of a buffer that is not empty nothing is kept just if the code is 0. -/
theorem trim_eq_nil_iff {n code : ℤ} {data : Bytes} (hn : 1 ≤ n) (hdata : data ≠ []) :
    trim n code data = [] ↔ code = 0 := by
  unfold trim
  split_ifs with h
  · rw [List.take_eq_nil_iff, or_iff_left hdata]
    omega
  · refine iff_of_false hdata ?_
    rintro rfl
    exact h ⟨le_rfl, by omega⟩

theorem buffer_ne_nil {n : ℤ} (hn : 1 ≤ n) (stored : Bytes) : writeAt (List.replicate n.toNat 0) 0 stored ≠ [] := by
  have hlength : (writeAt (List.replicate n.toNat 0) 0 stored).length ≠ 0 := by
    unfold writeAt
    simp only [List.length_append, List.length_take, List.length_drop, List.length_replicate]
    omega
  intro hnil
  exact hlength (List.length_eq_zero_iff.2 hnil)

theorem noneOnFailure_iff {β : Type} {n code : ℤ} {data : Bytes} (hn : 1 ≤ n) (hdata : data ≠ []) (address : β) :
    NoneOnFailure (.returned (if trim n code data = [] then none else some (trim n code data), code, address)) ↔
      0 ≤ code := by
  have hnil : trim n code data = [] ↔ code = 0 := trim_eq_nil_iff hn hdata
  constructor
  · intro h
    by_contra hcode
    have hnone := h _ _ _ rfl (not_le.1 hcode)
    rw [if_neg (fun hzero => hcode (hnil.1 hzero).ge)] at hnone
    exact absurd hnone (Option.some_ne_none _)
  · intro hcode _ _ _ hr hneg
    cases hr
    exact absurd hneg (not_lt.2 hcode)

/-! ## The calls -/

section Calls

variable {S σ β : Type} {env : Env Sys Ans σ} {n : ℤ} {o : S} {s : σ}

/-- What the inner `receiveFrom` returns of the buffer: a code that is negative unless `p`. -/
def Codes (n : ℤ) (p : List (Event Sys Ans σ) → Prop) : Method.Post Sys Ans σ Exn S (ℤ × β × Bytes) := fun tr r _ _ =>
  ∃ code address stored, r = .returned (code, address, writeAt (List.replicate n.toNat 0) 0 stored) ∧ (0 ≤ code ↔ p tr)

/-- The part that both classes share. -/
theorem receive_noneOnFailure (hn : 1 ≤ n) {p : List (Event Sys Ans σ) → Prop} {m : M S (ℤ × β × Bytes)}
    (hm : m.wp env (Codes n p) o s) :
    Method.wp env (if n < 0 then Method.throw .lengthError else do
      let (result, address, data) ← m
      let data := if 0 ≤ result ∧ result < n then data.take result.toNat else data
      return (if data = [] then none else some data, result, address))
      (fun tr r _ _ => NoneOnFailure r ↔ p tr) o s := by
  rw [if_neg (by omega), Method.wp_bind]
  refine Method.wp_mono hm ?_
  rintro tr r o' s' ⟨code, address, stored, rfl, hcode⟩
  rw [Method.after_returned, Method.wp_pure, List.append_nil, ← hcode]
  exact noneOnFailure_iff hn (buffer_ne_nil hn stored) address

end Calls

section Classes

variable {σ : Type} {env : Env Sys Ans σ} {n : ℤ} {s : σ} (flags : ℤ)

theorem udpReceiveInto_codes (hn : 1 ≤ n) (o : UDPSocket) :
    (UDPSocket.receiveFromInto (List.replicate n.toNat 0) n flags).wp env
      (Codes n fun tr => o.bound = true ∧ ∀ e ∈ tr, Succeeds e) o s := by
  unfold UDPSocket.receiveFromInto
  rw [Method.wp_bind, Method.wp_this, Method.after_returned, Method.wp_ite]
  constructor
  · intro hrefused
    have hunbound : o.bound = false := hrefused.resolve_right (by omega)
    refine ⟨-1, .zero, [], by simp [writeAt], ?_⟩
    simp [hunbound]
  · intro hbound
    rw [not_or, Bool.not_eq_false] at hbound
    rw [Method.wp_bind, wp_sys]
    intro x s' _
    refine ⟨x.result, x.address, x.data, rfl, ?_⟩
    simp [hbound.1, Succeeds]

theorem datagramReceiveInto_codes (hn : 1 ≤ n) {o : DatagramIPCSocket} (hpath : PathMatches o) :
    (DatagramIPCSocket.receiveFromInto (List.replicate n.toNat 0) n flags).wp env
      (Codes n fun tr => o.bound = true ∧ ∀ e ∈ tr, Succeeds e) o s := by
  unfold DatagramIPCSocket.receiveFromInto
  rw [Method.wp_bind, Method.wp_this, Method.after_returned, Method.wp_ite]
  constructor
  · intro hrefused
    have hunbound : o.bound = false := hrefused.resolve_right (by omega)
    refine ⟨-1, [], [], by simp [writeAt], ?_⟩
    simp [hunbound]
  · intro hbound
    rw [not_or, Bool.not_eq_false] at hbound
    obtain ⟨path, hsome⟩ := Option.isSome_iff_exists.1 (hpath.1 hbound.1)
    rw [Method.wp_bind, wp_sys]
    intro x s' _
    rw [Method.after_returned, hsome]
    refine ⟨x.result, path, x.data, rfl, ?_⟩
    simp [hbound.1, Succeeds]

end Classes

/-- **Bytes of a failed call.** For every reachable object of the two classes, every length of at least 1 and every run,
whatever is answered: no bytes are returned beside a negative code if and only if the object is bound and `recvfrom` does
not fail. -/
theorem failed_receive_is_none_iff (dm : DataModel) (n flags : ℤ) (hn : 1 ≤ n) {σ : Type} (env : Env Sys Ans σ) (s s' : σ)
    (tr : List (Event Sys Ans σ)) :
    (∀ o, UDPReachable dm o → ∀ r o', (UDPSocket.receiveFrom n flags).Runs env o s tr r o' s' →
      (NoneOnFailure r ↔ o.bound = true ∧ ∀ e ∈ tr, Succeeds e)) ∧
    ∀ o, DatagramReachable dm o → ∀ r o', (DatagramIPCSocket.receiveFrom n flags).Runs env o s tr r o' s' →
      (NoneOnFailure r ↔ o.bound = true ∧ ∀ e ∈ tr, Succeeds e) := by
  constructor
  · intro o _ r o' hrun
    exact hrun.post (receive_noneOnFailure hn (udpReceiveInto_codes flags hn o))
  · intro o ho r o' hrun
    exact hrun.post (receive_noneOnFailure hn (datagramReceiveInto_codes flags hn ho.pathMatches))

section Examples

/-- A bound object that receives two bytes returns no failure. -/
theorem failed_receive_is_none_iff_bound : ∃ o, UDPReachable .lp64 o ∧ ∃ r,
    (UDPSocket.receiveFrom 5 0).Runs (fun _ _ _ _ => True) o () [⟨(), .recvfrom 3 5 0 28, ⟨2, [104, 105], .zero⟩⟩] r o () ∧
      NoneOnFailure r := by
  let run := Kernel.execute (fun _ => false) 3 (@UDPCall.perform .lp64 (.bind (some .zero) none)) {} (.boot [])
  have hreachable : UDPReachable .lp64 run.2.1.2 :=
    .call .new (Kernel.execute_runs (fun _ => false) 3 (@UDPCall.perform .lp64 (.bind (some .zero) none)) {} (.boot []))
  have hrun : (UDPSocket.receiveFrom 5 0).Runs (fun _ _ _ _ => True) run.2.1.2 ()
      [⟨(), .recvfrom 3 5 0 28, ⟨2, [104, 105], .zero⟩⟩] _ run.2.1.2 () := .call trivial (.pure _ _)
  refine ⟨_, hreachable, _, hrun, ?_⟩
  have hiff := (failed_receive_is_none_iff .lp64 5 0 (by decide) (fun _ _ _ _ => True) () () _).1 _ hreachable _ _ hrun
  exact hiff.2 ⟨rfl, by simp [Succeeds]⟩

/-- An object that was never bound hands over five NUL bytes that no one sent. -/
theorem unbound_receive_hands_bytes :
    (UDPSocket.receiveFrom 5 0).Runs (fun _ _ _ _ => True) {} () []
      (.returned (some [0, 0, 0, 0, 0], -1, .zero)) {} () ∧
    (DatagramIPCSocket.receiveFrom 5 0).Runs (fun _ _ _ _ => True) {} () []
      (.returned (some [0, 0, 0, 0, 0], -1, [])) {} () ∧
    ¬ ∀ (dm : DataModel) (n flags : ℤ) (o o' : UDPSocket) tr r, 1 ≤ n → UDPReachable dm o →
      (UDPSocket.receiveFrom n flags).Runs (fun _ _ _ _ => True) o () tr r o' () → NoneOnFailure r := by
  have hudp : (UDPSocket.receiveFrom 5 0).Runs (fun _ _ _ _ => True) {} () []
      (.returned (some [0, 0, 0, 0, 0], -1, .zero)) {} () := .pure _ _
  refine ⟨hudp, .pure _ _, ?_⟩
  intro h
  have hnone := h .lp64 5 0 _ _ _ _ (by decide) .new hudp _ _ _ rfl (by decide)
  exact absurd hnone (by decide)

end Examples

end SocketLibrary.Datagrams
