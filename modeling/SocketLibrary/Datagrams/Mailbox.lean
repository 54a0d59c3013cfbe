import SocketLibrary.Binding.Fields

/-!
# Receiving from a queue of datagrams

The state of the environment is the queue of the datagrams that wait at one descriptor. `recvfrom` takes the front one,
stores as much of it as there is room for, and reports either its full length or the length it stored. A call of
`receiveFrom` then returns the front of one datagram and loses the rest of it, in both classes alike
(`receiveFrom_takes_front`).
-/

namespace SocketLibrary.Datagrams

open SocketLibrary.Interaction SocketLibrary.Posix SocketLibrary.Model SocketLibrary.Binding SocketLibrary.Descriptors

/-! ## The environment and the calls -/

/-- The queue at the descriptor `fd`; `whole m` says that the full length is reported of a datagram taken when `m` were
waiting. On an empty queue `recvfrom` waits. -/
@[simp] def mailbox (fd : SOCKET) (whole : ℕ → Bool) : Env Sys Ans (List Bytes)
  | .recvfrom fd' length _ _, q, x, q' => if fd' = fd then
      ∃ d, q = d :: q' ∧ x.data = d.take length.toNat ∧
        x.result = if whole q.length then (d.length : ℤ) else (d.take length.toNat).length
    else q' = q
  | _, q, _, q' => q' = q

/-- A call of `receiveFrom(const int&, const int&)` with a length that is not negative. -/
structure ReceiveCall where
  length : ℕ
  flags : ℤ

/-- The string and the code it returns. -/
def udpReceive (c : ReceiveCall) : M UDPSocket (Option Bytes × ℤ) := do
  let received ← UDPSocket.receiveFrom c.length c.flags
  return (received.1, received.2.1)

def datagramReceive (c : ReceiveCall) : M DatagramIPCSocket (Option Bytes × ℤ) := do
  let received ← DatagramIPCSocket.receiveFrom c.length c.flags
  return (received.1, received.2.1)

/-- What a call with room for `n` bytes returns of the datagram `d`. -/
def frontOf (whole : Bool) (n : ℕ) (d : Bytes) : Option Bytes × ℤ :=
  (if d = [] then none else some (d.take n), if whole then (d.length : ℤ) else (d.take n).length)

/-- What calls with these lengths return of a queue. -/
def received (whole : ℕ → Bool) : List Bytes → List ℕ → List (Option Bytes × ℤ)
  | q, 0 :: ns => (none, -1) :: received whole q ns
  | d :: q, (n + 1) :: ns => frontOf (whole (q.length + 1)) (n + 1) d :: received whole q ns
  | _, _ => []

example : received (fun _ => false) [[1, 2, 3], [], [4]] [2, 0, 5, 5] =
    [(some [1, 2], 2), (none, -1), (none, 0), (some [4], 1)] := by decide

/-- A receiving call that was made. -/
abbrev ReceiveVisit (S : Type) := Visit Sys Ans (List Bytes) Exn S ReceiveCall (Option Bytes × ℤ)

/-- A call without room makes no call of the system; one with room takes the front datagram, and returns its front. -/
def TakesFront {S : Type} (whole : ℕ → Bool) (v : ReceiveVisit S) : Prop := v.obj' = v.obj ∧
  (v.call.length = 0 ∧ v.trace = [] ∧ v.world' = v.world ∧ v.outcome = .returned (none, -1) ∨
    0 < v.call.length ∧ ∃ d, v.world = d :: v.world' ∧
      v.outcome = .returned (frontOf (whole v.world.length) v.call.length d))

/-! ## One call -/

/-- What `receiveFrom` keeps of the buffer. -/
def trim (receiveLength result : ℤ) (data : Bytes) : Bytes :=
  if 0 ≤ result ∧ result < receiveLength then data.take result.toNat else data

/-- With either report, the bytes that are kept are those that were stored. -/
theorem trim_writeAt (whole : Bool) (n : ℕ) (d : Bytes) :
    trim n (if whole then (d.length : ℤ) else (d.take n).length)
      (writeAt (List.replicate n 0) 0 (d.take n)) = d.take n := by
  have hbuffer : writeAt (List.replicate n 0) 0 (d.take n) = d.take n ++ List.replicate (n - (d.take n).length) 0 := by
    simp [writeAt]
  have hlength : (d.take n).length = min n d.length := List.length_take
  rw [hbuffer]
  unfold trim
  by_cases hle : n ≤ d.length
  · -- the buffer is full, and no report is below its length
    have hfull : (d.take n).length = n := by omega
    have hreport : ¬ (if whole then (d.length : ℤ) else (d.take n).length) < n := by
      split_ifs <;> omega
    rw [if_neg (fun h => hreport h.2), hfull, Nat.sub_self, List.replicate_zero, List.append_nil]
  · have hall : d.take n = d := List.take_of_length_le (by omega)
    have hreport : (if whole then (d.length : ℤ) else (d.take n).length) = d.length := by
      split_ifs
      · rfl
      · rw [hall]
    rw [hreport, if_pos ⟨by omega, by omega⟩, hall, Int.toNat_natCast, List.take_left']
    rfl

/-- The string and the code that are made of the answer of `recvfrom`. -/
theorem frontOf_eq {whole : Bool} {n : ℕ} {d : Bytes} {x : Datagram} (hn : 0 < n) (hdata : x.data = d.take n)
    (hresult : x.result = if whole then (d.length : ℤ) else (d.take n).length) :
    (if trim n x.result (writeAt (List.replicate n 0) 0 x.data) = [] then none
      else some (trim n x.result (writeAt (List.replicate n 0) 0 x.data)), x.result) = frontOf whole n d := by
  rw [hresult, hdata, trim_writeAt]
  have hempty : d.take n = [] ↔ d = [] := by
    rw [List.take_eq_nil_iff]
    exact or_iff_right (by omega)
  simp only [frontOf, hempty]

section Calls

variable {S : Type} (fd : SOCKET) (addressLength : ℕ) (c : ReceiveCall)

/-- A call of either class on an object that is bound through `fd`. -/
def receiveAt : M S (Option Bytes × ℤ) :=
  if c.length = 0 then
    return (none, -1)
  else do
    let datagram ← sys (.recvfrom fd c.length c.flags addressLength)
    let data := trim c.length datagram.result (writeAt (List.replicate c.length 0) 0 datagram.data)
    return (if data = [] then none else some data, datagram.result)

theorem udpReceive_eq {o : UDPSocket} (hbound : o.bound = true) :
    udpReceive c o = receiveAt o.receiveSocket (getAddressLength .zero) c o := by
  obtain ⟨n, flags⟩ := c
  have hn : ¬ (n : ℤ) < 0 := by omega
  unfold udpReceive UDPSocket.receiveFrom UDPSocket.receiveFromInto receiveAt
  rw [if_neg hn]
  cases n with
  | zero =>
    simp only [Nat.cast_zero, or_true, if_true]
    rfl
  | succ n =>
    have hinto : ¬ (o.bound = false ∨ ((n + 1 : ℕ) : ℤ) = 0) := not_or_intro (by simp [hbound]) (by omega)
    show Prog.bind (Prog.bind ((if o.bound = false ∨ ((n + 1 : ℕ) : ℤ) = 0 then _ else _ : M UDPSocket _) o) _) _ = _
    rw [if_neg hinto, if_neg (Nat.succ_ne_zero n)]
    rfl

theorem datagramReceive_eq {o : DatagramIPCSocket} (hbound : o.bound = true) (hpath : PathMatches o) :
    datagramReceive c o = receiveAt o.receiveSocket sizeofPathAddress c o := by
  obtain ⟨n, flags⟩ := c
  obtain ⟨path, hsome⟩ := Option.isSome_iff_exists.1 (hpath.1 hbound)
  have hn : ¬ (n : ℤ) < 0 := by omega
  unfold datagramReceive DatagramIPCSocket.receiveFrom DatagramIPCSocket.receiveFromInto receiveAt
  rw [if_neg hn]
  cases n with
  | zero =>
    simp only [Nat.cast_zero, or_true, if_true]
    rfl
  | succ n =>
    have hinto : ¬ (o.bound = false ∨ ((n + 1 : ℕ) : ℤ) = 0) := not_or_intro (by simp [hbound]) (by omega)
    show Prog.bind (Prog.bind ((if o.bound = false ∨ ((n + 1 : ℕ) : ℤ) = 0 then _ else _ : M DatagramIPCSocket _) o) _) _
      = _
    rw [if_neg hinto, if_neg (Nat.succ_ne_zero n)]
    simp only [hsome]
    rfl

variable {fd addressLength} {whole : ℕ → Bool} (o : S) (q : List Bytes)

/-- **One call.** -/
theorem receiveAt_takesFront : (receiveAt fd addressLength c).wp (mailbox fd whole)
    (fun tr r o' q' => TakesFront whole ⟨c, o, q, tr, r, o', q'⟩) o q := by
  obtain ⟨n, flags⟩ := c
  unfold receiveAt
  rw [Method.wp_ite]
  constructor
  · intro hn
    exact ⟨rfl, Or.inl ⟨hn, rfl, rfl, rfl⟩⟩
  · intro hn
    have hpos : 0 < n := Nat.pos_of_ne_zero hn
    simp only [Method.wp_bind, wp_sys, Method.after_returned, Method.wp_pure, mailbox, if_true, Int.toNat_natCast]
    rintro x q' ⟨d, rfl, hdata, hresult⟩
    exact ⟨rfl, Or.inr ⟨hpos, d, rfl, congrArg Outcome.returned (frontOf_eq hpos hdata hresult)⟩⟩

/-- A call that has no room, or finds a datagram, returns. -/
theorem receiveAt_returns (hq : c.length = 0 ∨ q ≠ []) :
    ∃ tr r o' q', (receiveAt fd addressLength c).Runs (mailbox fd whole) o q tr r o' q' := by
  have hrun : ∃ tr r o' q', (receiveAt fd addressLength c).Runs (mailbox fd whole) o q tr r o' q' ∧ True := by
    rw [Method.exists_run_iff, receiveAt, Method.wp_ite]
    rintro ⟨hzero, hroom⟩
    by_cases hn : c.length = 0
    · exact hzero hn trivial
    · obtain ⟨d, q', rfl⟩ := List.exists_cons_of_ne_nil (hq.resolve_left hn)
      have hnever := hroom hn
      simp only [Method.wp_bind, wp_sys, Method.after_returned, Method.wp_pure, mailbox, if_true, Int.toNat_natCast]
        at hnever
      exact hnever ⟨_, d.take c.length, .zero⟩ q' ⟨d, rfl, rfl, rfl⟩ trivial
  obtain ⟨tr, r, o', q', hr, -⟩ := hrun
  exact ⟨tr, r, o', q', hr⟩

end Calls

/-! ## Sequences of calls -/

/-- How many of the calls have room. -/
def takers (calls : List ReceiveCall) : ℕ := calls.countP (0 < ·.length)

/-- Each call has taken the front of the queue it found, what they returned is what the lengths give of the queue, and
the datagrams left are those that were not taken. -/
def Drains {S : Type} (whole : ℕ → Bool) (q : List Bytes) (visits : List (ReceiveVisit S)) (q' : List Bytes) : Prop :=
  (∀ v ∈ visits, TakesFront whole v) ∧
    visits.map (·.outcome) = (received whole q (visits.map (·.call.length))).map .returned ∧
    q' = q.drop (takers (visits.map (·.call)))

section Sessions

variable {S : Type} {whole : ℕ → Bool} {perform : ReceiveCall → M S (Option Bytes × ℤ)} {fd : SOCKET} {addressLength : ℕ}
  {o : S}

theorem takers_cons_zero {c : ReceiveCall} (hn : c.length = 0) (calls : List ReceiveCall) :
    takers (c :: calls) = takers calls := by
  simp [takers, hn]

theorem takers_cons_pos {c : ReceiveCall} (hn : 0 < c.length) (calls : List ReceiveCall) :
    takers (c :: calls) = takers calls + 1 := by
  simp [takers, hn]

theorem received_nil (q : List Bytes) : received whole q [] = [] := by
  cases q <;> rfl

theorem received_zero (q : List Bytes) (ns : List ℕ) :
    received whole q (0 :: ns) = (none, -1) :: received whole q ns := by
  cases q <;> rfl

theorem received_pos (q : List Bytes) (ns : List ℕ) {n : ℕ} (hn : 0 < n) (d : Bytes) :
    received whole (d :: q) (n :: ns) = frontOf (whole (q.length + 1)) n d :: received whole q ns := by
  cases n with
  | zero => exact absurd hn (Nat.lt_irrefl 0)
  | succ n => rfl

/-- What is returned of a queue, call by call. -/
theorem drains_cons {v : ReceiveVisit S} {visits : List (ReceiveVisit S)} {q' : List Bytes} (hv : TakesFront whole v)
    (h : Drains whole v.world' visits q') : Drains whole v.world (v :: visits) q' := by
  obtain ⟨hall, houtcomes, rfl⟩ := h
  refine ⟨List.forall_mem_cons.2 ⟨hv, hall⟩, ?_⟩
  rcases hv with ⟨-, ⟨hn, -, hworld, hout⟩ | ⟨hpos, d, hworld, hout⟩⟩
  · rw [hworld] at houtcomes ⊢
    simp only [List.map_cons, hout, hn, received_zero, houtcomes, takers_cons_zero hn, and_self]
  · have hlength : v.world.length = v.world'.length + 1 := by simp [hworld]
    rw [hlength] at hout
    simp only [List.map_cons, hout, takers_cons_pos hpos]
    rw [hworld, received_pos _ _ hpos, List.map_cons, houtcomes]
    exact ⟨rfl, rfl⟩

/-- The call of a session takes the front. -/
theorem takesFront_of_runs (hperform : ∀ c, perform c o = receiveAt fd addressLength c o) {c : ReceiveCall} {o' : S}
    {q q' : List Bytes} {tr : List (Event Sys Ans (List Bytes))} {r : Outcome Exn (Option Bytes × ℤ)}
    (h : (perform c).Runs (mailbox fd whole) o q tr r o' q') : TakesFront whole ⟨c, o, q, tr, r, o', q'⟩ := by
  unfold Method.Runs at h
  rw [hperform] at h
  exact Method.Runs.post (m := receiveAt fd addressLength c) h (receiveAt_takesFront c o q)

theorem session_drains (hperform : ∀ c, perform c o = receiveAt fd addressLength c o) {visits : List (ReceiveVisit S)}
    {o' : S} {q q' : List Bytes} (h : Session (mailbox fd whole) perform o q visits o' q') :
    Drains whole q visits q' := by
  have key : ∀ p visits p', Path (VisitStep (mailbox fd whole) perform) p visits p' → p.1 = o →
      Drains whole p.2 visits p'.2 := by
    intro p visits p' hpath
    induction hpath with
    | nil p =>
      intro _
      refine ⟨by simp, ?_, rfl⟩
      rw [List.map_nil, List.map_nil, received_nil, List.map_nil]
    | cons hl _ ih =>
      rintro rfl
      obtain ⟨hr⟩ := hl
      have hfront := takesFront_of_runs hperform hr
      exact drains_cons hfront (ih hfront.1)
  exact key _ _ _ h rfl

/-- With enough datagrams, there is a session of any calls. -/
theorem exists_session (hperform : ∀ c, perform c o = receiveAt fd addressLength c o) (calls : List ReceiveCall)
    (q : List Bytes) (hq : takers calls ≤ q.length) :
    ∃ visits q', Session (mailbox fd whole) perform o q visits o q' ∧ visits.map (·.call) = calls := by
  induction calls generalizing q with
  | nil => exact ⟨[], q, .nil _, rfl⟩
  | cons c calls ih =>
    have hroom : c.length = 0 ∨ q ≠ [] := by
      rcases Nat.eq_zero_or_pos c.length with hzero | hpos
      · exact Or.inl hzero
      · right
        rintro rfl
        rw [takers_cons_pos hpos, List.length_nil] at hq
        omega
    obtain ⟨tr, r, o', q₁, hr⟩ := receiveAt_returns c o q hroom
    have hrun : (perform c).Runs (mailbox fd whole) o q tr r o' q₁ := by
      unfold Method.Runs
      rw [hperform]
      exact hr
    obtain ⟨hobj, hfront⟩ := takesFront_of_runs hperform hrun
    obtain rfl : o' = o := hobj
    have hq₁ : takers calls ≤ q₁.length := by
      rcases hfront with ⟨hn, -, hworld, -⟩ | ⟨hpos, d, hworld, -⟩
      · obtain rfl : q₁ = q := hworld
        rwa [takers_cons_zero hn] at hq
      · obtain rfl : q = d :: q₁ := hworld
        rw [takers_cons_pos hpos, List.length_cons] at hq
        omega
    obtain ⟨visits, q', hsession, hcalls⟩ := ih q₁ hq₁
    exact ⟨_, q', .cons (.mk hrun) hsession, by rw [List.map_cons, hcalls]⟩

end Sessions

/-- **A datagram for each call.** On a bound `UDPSocket` and on a bound `DatagramIPCSocket`, in every sequence of calls on
every queue: a call with room takes exactly the front datagram and returns its front, nothing just if it is empty; a call
without room takes nothing; and what all of them return depends on the queue and the lengths alone, so that both classes
return the same. -/
theorem receiveFrom_takes_front (dm : DataModel) (whole : ℕ → Bool) (q : List Bytes) :
    (∀ o : UDPSocket, o.bound = true → ∀ visits o' q',
      Session (mailbox o.receiveSocket whole) udpReceive o q visits o' q' → Drains whole q visits q') ∧
    (∀ o : DatagramIPCSocket, DatagramReachable dm o → o.bound = true → ∀ visits o' q',
      Session (mailbox o.receiveSocket whole) datagramReceive o q visits o' q' → Drains whole q visits q') ∧
    ∀ (o : UDPSocket) (p : DatagramIPCSocket), o.bound = true → DatagramReachable dm p → p.bound = true →
      ∀ calls, takers calls ≤ q.length → ∃ visits visits' q', visits.map (·.call) = calls ∧ visits'.map (·.call) = calls ∧
        Session (mailbox o.receiveSocket whole) udpReceive o q visits o q' ∧
        Session (mailbox p.receiveSocket whole) datagramReceive p q visits' p q' ∧
        visits.map (·.outcome) = visits'.map (·.outcome) := by
  refine ⟨?_, ?_, ?_⟩
  · intro o hbound visits o' q' h
    exact session_drains (fun c => udpReceive_eq c hbound) h
  · intro o hreachable hbound visits o' q' h
    exact session_drains (fun c => datagramReceive_eq c hbound hreachable.pathMatches) h
  · intro o p hbound hreachable hpbound calls hcalls
    obtain ⟨visits, q₁, hs, hv⟩ := exists_session (fun c => udpReceive_eq c hbound) calls q hcalls
    obtain ⟨visits', q₂, hs', hv'⟩ :=
      exists_session (fun c => datagramReceive_eq c hpbound hreachable.pathMatches) calls q hcalls
    obtain ⟨-, houtcomes, hq₁⟩ := session_drains (fun c => udpReceive_eq c hbound) hs
    obtain ⟨-, houtcomes', hq₂⟩ :=
      session_drains (fun c => datagramReceive_eq c hpbound hreachable.pathMatches) hs'
    have hlengths : visits.map (·.call.length) = visits'.map (·.call.length) := by
      have hmap := congrArg (List.map ReceiveCall.length) (hv.trans hv'.symm)
      rwa [List.map_map, List.map_map] at hmap
    obtain rfl : q₁ = q₂ := by rw [hq₁, hq₂, hv, hv']
    exact ⟨visits, visits', q₁, hv, hv', hs, hs', by rw [houtcomes, houtcomes', hlengths]⟩

section Examples

/-- Three calls on a bound object of each class, two of them with room. -/
theorem receiveFrom_takes_front_bound : ∃ (o : UDPSocket) (p : DatagramIPCSocket) (visits visits' : List _)
    (q' : List Bytes), o.bound = true ∧ p.bound = true ∧
      Session (mailbox o.receiveSocket fun _ => true) udpReceive o [[1, 2, 3], [4]] visits o q' ∧
      Session (mailbox p.receiveSocket fun _ => true) datagramReceive p [[1, 2, 3], [4]] visits' p q' ∧
      visits.map (·.call) = [⟨2, 0⟩, ⟨0, 0⟩, ⟨2, 0⟩] ∧ visits.map (·.outcome) = visits'.map (·.outcome) ∧
      Drains (fun _ => true) [[1, 2, 3], [4]] visits q' := by
  let o : UDPSocket := { bound := true, receiveSocket := 3, listeningPort := some 8 }
  let run := Kernel.execute (fun _ => false) 3 (@DatagramCall.perform .lp64 (.bind (some [115]) none)) {} (.boot [])
  have hreachable : DatagramReachable .lp64 run.2.1.2 :=
    .call .new (Kernel.execute_runs (fun _ => false) 3 (@DatagramCall.perform .lp64 (.bind (some [115]) none)) {}
      (.boot []))
  obtain ⟨hudp, -, hboth⟩ := receiveFrom_takes_front .lp64 (fun _ => true) [[1, 2, 3], [4]]
  obtain ⟨visits, visits', q', hv, -, hs, hs', houtcomes⟩ :=
    hboth o run.2.1.2 rfl hreachable rfl [⟨2, 0⟩, ⟨0, 0⟩, ⟨2, 0⟩] (by decide)
  exact ⟨o, run.2.1.2, visits, visits', q', rfl, rfl, hs, hs', hv, houtcomes, hudp o rfl _ _ _ hs⟩

end Examples

end SocketLibrary.Datagrams
