import SocketLibrary.Exchange.Endpoints
import SocketLibrary.Steps.Reads

/-!
# Reading without waiting

`recv` on an open connection waits as long as there is nothing to read and the other side has not closed. The reading
methods poll before they read, and a connection that was readable stays so until the side itself reads. So no `recv` of
`receiveToDelimiter` and `receiveAll` ever waits, and of the other methods only one that is their first call
(`reads_never_wait`).
-/

namespace SocketLibrary.Exchange

open SocketLibrary.Interaction SocketLibrary.Posix SocketLibrary.Model SocketLibrary.Stream
open SocketLibrary.Model.ConnectionOrientedSocket
open SocketLibrary.Descriptors (StreamCall)

/-! ## The methods, in any environment with truthful polls -/

section Methods

variable {S σ : Type} {dm : DataModel} {fd : SOCKET} {env : Env Sys Ans σ} {readable : σ → Prop}

/-- A poll of the descriptor finds out whether it is readable, and leaves it so. -/
def Announces (env : Env Sys Ans σ) (fd : SOCKET) (readable : σ → Prop) : Prop :=
  ∀ nfds t s x s', env (.select nfds fd t) s x s' → (0 < x → readable s') ∧ (readable s → readable s')

/-- If the call is a `recv`, the descriptor is readable. -/
def Prepared (readable : σ → Prop) (e : Event Sys Ans σ) : Prop := match e.call with
  | .recv .. => readable e.pre
  | _ => True

variable {o : S} {s : σ}

theorem pollSocket_prepared (henv : Announces env fd readable) (timeout : ℤ) :
    (Socket.pollSocket fd timeout none).wp env (fun tr r _ s' => (∀ e ∈ tr, Prepared readable e) ∧
      (readable s → readable s') ∧ ∀ x, r = .returned x → 0 < x → readable s') o s := by
  unfold Socket.pollSocket
  rw [Method.wp_ite]
  constructor
  · intro _
    refine ⟨by simp, id, ?_⟩
    rintro x ⟨⟩ hpos
    exact absurd hpos (by decide)
  · intro _
    rw [wp_sys]
    intro x s' hx
    obtain ⟨hready, hkeep⟩ := henv _ _ _ _ _ hx
    refine ⟨?_, hkeep, ?_⟩
    · simp [Prepared]
    · rintro _ ⟨⟩ hpos
      exact hready hpos

theorem ready_prepared (henv : Announces env fd readable) (timeout : ULong dm) :
    (ready dm fd timeout).wp env (fun tr r _ s' => (∀ e ∈ tr, Prepared readable e) ∧
      (r = .returned true → readable s')) o s := by
  unfold ready
  rw [Method.wp_bind]
  refine Method.wp_mono (pollSocket_prepared henv _) ?_
  rintro tr r o' s' ⟨htr, -, hready⟩
  cases r with
  | returned x =>
    rw [Method.after_returned, Method.wp_pure, List.append_nil]
    refine ⟨htr, ?_⟩
    intro hx
    exact hready x rfl (by simpa using hx)
  | threw e => exact ⟨htr, fun h => by cases h⟩
  | running => exact ⟨htr, fun h => by cases h⟩

/-- What a loop has done that reads again only when the descriptor is readable: only its first call may not have been
prepared. -/
def Loops (readable : σ → Prop) (tr : List (Event Sys Ans σ)) (s : σ) : Prop :=
  (∀ e ∈ tr.tail, Prepared readable e) ∧ (tr = [] ∨ readable s)

theorem prepared_tail_append {tr tr' : List (Event Sys Ans σ)} (htr : ∀ e ∈ tr.tail, Prepared readable e)
    (htr' : ∀ e ∈ tr', Prepared readable e) : ∀ e ∈ (tr ++ tr').tail, Prepared readable e := by
  cases tr with
  | nil => exact fun e he => htr' e (List.mem_of_mem_tail he)
  | cons e₀ tr =>
    intro e he
    rcases List.mem_append.1 he with he | he
    · exact htr e he
    · exact htr' e he

/-- A turn of `receiveAmount` reads, and goes on only when the descriptor is readable. -/
theorem receiveAmountTurn_prepared (henv : Announces env fd readable) (amountToReceive : UInt32) (flags : ℤ)
    {tr : List (Event Sys Ans σ)} {p : ℤ × Bytes} (h : Loops readable tr s) :
    (receiveAmountTurn dm fd amountToReceive flags p).wp env (fun tr' => Method.Turn
      (fun tr _ _ s => Loops readable tr s) (fun tr _ _ _ => ∀ e ∈ tr.tail, Prepared readable e) (tr ++ tr'))
      o s := by
  obtain ⟨counter, buffer⟩ := p
  unfold receiveAmountTurn
  rw [Method.wp_bind, wp_sys]
  intro x s' hx
  -- the read itself
  have hread : ∀ e ∈ (tr ++ [(⟨s, _, x⟩ : Event Sys Ans σ)]).tail, Prepared readable e := by
    rcases h.2 with rfl | hs
    · simp
    · refine prepared_tail_append h.1 ?_
      simpa [Prepared] using hs
  rw [Method.after_returned]
  simp only [Method.wp_ite, Method.wp_pure, Method.wp_throw, List.append_nil]
  refine ⟨fun _ => hread, fun _ => ⟨fun _ => hread, fun _ => ⟨fun _ => ?_, fun _ => hread⟩⟩⟩
  rw [Method.wp_bind]
  refine Method.wp_mono (ready_prepared henv _) ?_
  rintro tr' r o' s'' ⟨htr', hready⟩
  have hall := prepared_tail_append hread htr'
  rw [List.append_assoc] at hall
  cases r with
  | returned b =>
    rw [Method.after_returned, Method.wp_ite, Method.wp_pure, Method.wp_pure, List.append_nil]
    refine ⟨fun hb => ?_, fun _ => hall⟩
    exact And.intro hall (Or.inr (hready (congrArg _ hb)))
  | threw e => exact hall
  | running => exact hall

theorem receiveAmountInto_prepared (henv : Announces env fd readable) (buffer : Bytes) (amountToReceive : UInt32)
    (flags : ℤ) : (receiveAmountInto dm fd buffer amountToReceive flags).wp env
      (fun tr _ _ _ => ∀ e ∈ tr.tail, Prepared readable e) o s := by
  unfold receiveAmountInto
  rw [Method.wp_ite, Method.wp_pure]
  refine ⟨fun _ => by simp, fun _ => ?_⟩
  exact Method.wp_iterate _ (fun tr _ _ s => Loops readable tr s) (fun tr _ _ _ => ∀ e ∈ tr.tail, Prepared readable e)
    (fun _ _ _ _ h => h.1) (fun _ _ _ _ h => receiveAmountTurn_prepared henv _ _ h) _ [] _ o s ⟨by simp, Or.inl rfl⟩

theorem receiveAmount_prepared (henv : Announces env fd readable) (amountToReceive : UInt32) (flags : ℤ) :
    (receiveAmount dm fd amountToReceive flags).wp env (fun tr _ _ _ => ∀ e ∈ tr.tail, Prepared readable e) o s :=
  Method.wp_wrap (receiveAmountInto_prepared henv _ amountToReceive flags)

/-- On a readable descriptor the first call is prepared as well. -/
theorem prepared_of_readable {α : Type} {m : M S α} {Q : Method.Post Sys Ans σ Exn S α} (hs : readable s)
    (hm : m.wp env (fun tr r o' s' => (∀ e ∈ tr.tail, Prepared readable e) ∧ Q tr r o' s') o s) :
    m.wp env (fun tr r o' s' => (∀ e ∈ tr, Prepared readable e) ∧ Q tr r o' s') o s := by
  refine Method.wp_iff.2 fun tr r o' s' hr => ?_
  obtain ⟨htail, hQ⟩ := hr.post hm
  refine ⟨?_, hQ⟩
  cases tr with
  | nil => simp
  | cons e tr =>
    refine List.forall_mem_cons.2 ⟨?_, htail⟩
    obtain rfl : e.pre = s := Prog.Runs.head hr
    unfold Prepared
    split
    · exact hs
    · trivial

theorem get_prepared (henv : Announces env fd readable) (flags : ℤ) :
    (ConnectionOrientedSocket.get dm fd flags).wp env (fun tr _ _ _ => ∀ e ∈ tr.tail, Prepared readable e) o s :=
  Method.wp_wrap (receiveAmount_prepared henv 1 flags)

/-- What the loops of `receiveToDelimiter` and `receiveAll` keep: the descriptor is readable when a turn begins to
read. -/
theorem receiveToDelimiterTurn_prepared (henv : Announces env fd readable) (d : UInt8) (flags : ℤ) (data : Bytes)
    {tr : List (Event Sys Ans σ)} (htr : ∀ e ∈ tr, Prepared readable e) (hs : readable s) :
    (receiveToDelimiterTurn dm fd d flags data).wp env (fun tr' => Method.Turn
      (fun tr _ _ s => (∀ e ∈ tr, Prepared readable e) ∧ readable s) (fun tr _ _ _ => ∀ e ∈ tr, Prepared readable e)
      (tr ++ tr')) o s := by
  unfold receiveToDelimiterTurn
  rw [Method.wp_bind]
  have hget := prepared_of_readable (m := get dm fd flags) (Q := fun _ _ _ _ => True) hs
    (Method.wp_mono (get_prepared henv flags) fun _ _ _ _ h => ⟨h, trivial⟩) (o := o)
  refine Method.wp_mono hget ?_
  rintro tr₁ r o₁ s₁ ⟨htr₁, -⟩
  have hsofar : ∀ e ∈ tr ++ tr₁, Prepared readable e := List.forall_mem_append.2 ⟨htr, htr₁⟩
  cases r with
  | threw e => exact hsofar
  | running => exact hsofar
  | returned character =>
    rw [Method.after_returned]
    cases character with
    | none =>
      rw [Method.wp_pure, List.append_nil]
      exact hsofar
    | some c =>
      rw [Method.wp_ite, Method.wp_pure, List.append_nil]
      refine ⟨fun _ => hsofar, fun _ => ?_⟩
      rw [Method.wp_bind]
      refine Method.wp_mono (ready_prepared henv _) ?_
      rintro tr₂ r₂ o₂ s₂ ⟨htr₂, hready⟩
      have hall : ∀ e ∈ tr ++ (tr₁ ++ tr₂), Prepared readable e := by
        rw [← List.append_assoc]
        exact List.forall_mem_append.2 ⟨hsofar, htr₂⟩
      cases r₂ with
      | threw e => exact hall
      | running => exact hall
      | returned b =>
        rw [Method.after_returned, Method.wp_ite, Method.wp_pure, Method.wp_pure, List.append_nil]
        refine ⟨fun hb => ?_, fun _ => hall⟩
        exact And.intro hall (hready (congrArg _ hb))

theorem receiveToDelimiter_prepared (henv : Announces env fd readable) (fuel : ℕ) (d : UInt8) (flags : ℤ) :
    (receiveToDelimiter dm fd fuel d flags).wp env (fun tr _ _ _ => ∀ e ∈ tr, Prepared readable e) o s := by
  unfold receiveToDelimiter
  rw [Method.wp_ite, Method.wp_throw]
  refine ⟨fun _ => by simp, fun _ => ?_⟩
  rw [Method.wp_bind]
  refine Method.wp_mono (ready_prepared henv _) ?_
  rintro tr r o' s' ⟨htr, hready⟩
  cases r with
  | threw e => exact htr
  | running => exact htr
  | returned b =>
    rw [Method.after_returned, Method.wp_ite, Method.wp_pure, List.append_nil]
    refine ⟨fun hb => ?_, fun _ => htr⟩
    exact Method.wp_iterate _ (fun tr _ _ s => (∀ e ∈ tr, Prepared readable e) ∧ readable s)
      (fun tr _ _ _ => ∀ e ∈ tr, Prepared readable e) (fun _ _ _ _ h => h.1)
      (fun _ _ _ _ h => receiveToDelimiterTurn_prepared henv _ _ _ h.1 h.2) _ tr [] o' s'
      ⟨htr, hready (congrArg _ hb)⟩

theorem receiveAllTurn_prepared (henv : Announces env fd readable) (timeout : ULong dm) (flags : ℤ) (p : Bytes × Bool)
    {tr : List (Event Sys Ans σ)} (htr : ∀ e ∈ tr, Prepared readable e) :
    (receiveAllTurn dm fd timeout flags p).wp env (fun tr' => Method.Turn
      (fun tr _ _ _ => ∀ e ∈ tr, Prepared readable e) (fun tr _ _ _ => ∀ e ∈ tr, Prepared readable e) (tr ++ tr'))
      o s := by
  obtain ⟨result, hitEOF⟩ := p
  unfold receiveAllTurn
  rw [Method.wp_bind]
  refine Method.wp_mono (ready_prepared henv _) ?_
  rintro tr₁ r₁ o₁ s₁ ⟨htr₁, hready⟩
  have hpolled : ∀ e ∈ tr ++ tr₁, Prepared readable e := List.forall_mem_append.2 ⟨htr, htr₁⟩
  cases r₁ with
  | threw e => exact hpolled
  | running => exact hpolled
  | returned isReady =>
    rw [Method.after_returned, Method.wp_ite, Method.wp_pure, List.append_nil]
    refine ⟨fun hgo => ?_, fun _ => hpolled⟩
    have hs₁ : readable s₁ := hready (congrArg _ (Bool.and_eq_true_iff.1 hgo).1)
    -- the second poll leaves the descriptor readable, whatever it answers
    rw [Method.wp_bind]
    refine Method.wp_mono (pollSocket_prepared henv _) ?_
    rintro tr₂ r₂ o₂ s₂ ⟨htr₂, hkeep, -⟩
    have hagain : ∀ e ∈ tr ++ (tr₁ ++ tr₂), Prepared readable e := by
      rw [← List.append_assoc]
      exact List.forall_mem_append.2 ⟨hpolled, htr₂⟩
    cases r₂ with
    | threw e => exact hagain
    | running => exact hagain
    | returned amount =>
      rw [Method.after_returned, Method.wp_bind]
      have hamount := prepared_of_readable (m := receiveAmount dm fd (toUInt32 amount) flags)
        (Q := fun _ _ _ _ => True) (hkeep hs₁)
        (Method.wp_mono (receiveAmount_prepared henv (toUInt32 amount) flags) fun _ _ _ _ h => ⟨h, trivial⟩)
        (o := o₂)
      refine Method.wp_mono hamount ?_
      rintro tr₃ r₃ o₃ s₃ ⟨htr₃, -⟩
      have hall : ∀ e ∈ tr ++ (tr₁ ++ (tr₂ ++ tr₃)), Prepared readable e := by
        rw [← List.append_assoc tr₁, ← List.append_assoc]
        exact List.forall_mem_append.2 ⟨hagain, htr₃⟩
      cases r₃ with
      | threw e => exact hall
      | running => exact hall
      | returned data =>
        rw [Method.after_returned, Method.wp_ite, Method.wp_pure, Method.wp_pure, List.append_nil]
        exact ⟨fun _ => hall, fun _ => hall⟩

theorem receiveAll_prepared (henv : Announces env fd readable) (fuel : ℕ) (timeout : ULong dm) (flags : ℤ) :
    (receiveAll dm fd fuel timeout flags).wp env (fun tr _ _ _ => ∀ e ∈ tr, Prepared readable e) o s := by
  refine Method.wp_iterate _ (fun tr _ _ _ => ∀ e ∈ tr, Prepared readable e)
    (fun tr _ _ _ => ∀ e ∈ tr, Prepared readable e) (fun _ _ _ _ h => h)
    (fun _ _ _ _ h => receiveAllTurn_prepared henv _ _ _ h) _ [] _ o s ?_
  simp

theorem sendBuffer_prepared (message : Bytes) (messageLength flags : ℤ) :
    (sendBuffer fd message messageLength flags).wp env (fun tr _ _ _ => ∀ e ∈ tr, Prepared readable e) o s := by
  unfold sendBuffer
  rw [wp_sys]
  intro x s' hx
  simp [Prepared]

/-- The methods that poll before they read. -/
def PollsFirst : StreamCall dm → Prop
  | .receiveToDelimiter .. | .receiveAll .. => True
  | _ => False

/-- **Every method of `ConnectionOrientedSocket`.** -/
theorem streamCall_prepared (henv : Announces env fd readable) (c : StreamCall dm) :
    (c.perform fd).wp env (fun tr _ _ _ => (∀ e ∈ tr.tail, Prepared readable e) ∧
      (PollsFirst c → ∀ e ∈ tr, Prepared readable e)) o s := by
  -- without a poll at the start, the first call is left out
  have hrest : ∀ {α : Type} {m : M S α}, ¬ PollsFirst c →
      m.wp env (fun tr _ _ _ => ∀ e ∈ tr.tail, Prepared readable e) o s →
      (m >>= fun _ => pure ()).wp env (fun tr _ _ _ => (∀ e ∈ tr.tail, Prepared readable e) ∧
        (PollsFirst c → ∀ e ∈ tr, Prepared readable e)) o s := fun hnot hm =>
    Method.wp_wrap (Method.wp_mono hm fun _ _ _ _ h => ⟨h, fun hpolls => (hnot hpolls).elim⟩)
  have hwhole : ∀ {α : Type} {m : M S α}, m.wp env (fun tr _ _ _ => ∀ e ∈ tr, Prepared readable e) o s →
      (m >>= fun _ => pure ()).wp env (fun tr _ _ _ => (∀ e ∈ tr.tail, Prepared readable e) ∧
        (PollsFirst c → ∀ e ∈ tr, Prepared readable e)) o s := fun hm =>
    Method.wp_wrap (Method.wp_mono hm fun _ _ _ _ h => ⟨fun e he => h e (List.mem_of_mem_tail he), fun _ => h⟩)
  cases c with
  | ready timeout => exact hwhole (Method.wp_mono (ready_prepared henv timeout) fun _ _ _ _ h => h.1)
  | connected timeout => exact hwhole (Method.wp_wrap (Method.wp_mono (pollSocket_prepared henv _) fun _ _ _ _ h => h.1))
  | sendBuffer message messageLength flags => exact hwhole (sendBuffer_prepared message messageLength flags)
  | send message flags => exact hwhole (sendBuffer_prepared message _ flags)
  | get flags => exact hrest id (get_prepared henv flags)
  | receiveAmount amountToReceive flags => exact hrest id (receiveAmount_prepared henv amountToReceive flags)
  | receiveAmountInto buffer amountToReceive flags => exact hrest id (receiveAmountInto_prepared henv buffer _ flags)
  | receiveToDelimiter fuel delimiter flags => exact hwhole (receiveToDelimiter_prepared henv fuel delimiter flags)
  | receiveAll fuel timeout flags => exact hwhole (receiveAll_prepared henv fuel timeout flags)

end Methods

/-! ## Two sides -/

section Talk

variable {S : Type} {dm : DataModel} {k : Connection S} {fd : Side → SOCKET} {obj : Side → S} {sides : List Side}
  {p : System Side Sys Ans Duplex Exn S (LineCall dm) (Option Bool)} {side : Side}

/-- A `recv` of the side has nothing to wait for. -/
def Unblocked (side : Side) (w : Duplex) : Prop := w.isOpen side = true → w.Readable side

/-- What the other side does leaves it so. -/
theorem unblocked_meanwhile {w w' : Duplex} (h : Unblocked side w) (hothers : Duplex.Meanwhile side w w') :
    Unblocked side w' := by
  intro hopen
  rw [hothers.isOpen] at hopen
  rcases h hopen with hunread | hclosed
  · left
    unfold Pipe.unread at hunread ⊢
    rw [hothers.read]
    intro hnil
    have hlength := hothers.written.length_le
    rw [List.drop_eq_nil_iff] at hnil
    exact hunread (List.drop_eq_nil_iff.2 (hlength.trans hnil))
  · exact Or.inr (hothers.isOpen_other hclosed)

/-- As far as the descriptor `fd'` is that of the connection. -/
theorem endpoint_announces (fd fd' : SOCKET) (side : Side) : Announces
    ((endpoint True fd side).after (Duplex.Meanwhile side)) fd' fun w => fd' = fd → Unblocked side w := by
  rintro nfds t w x _ ⟨w', hothers, rfl, hpoll⟩
  refine ⟨fun hpos hfd hopen => ?_, fun hw hfd => unblocked_meanwhile (hw hfd) hothers⟩
  rcases hpoll trivial hfd hopen with rfl | ⟨-, hreadable⟩ | ⟨rfl, -⟩
  · exact absurd hpos (by decide : ¬ (0 : ℤ) < -1)
  · exact hreadable
  · exact absurd hpos (lt_irrefl (0 : ℤ))

/-- A call of the side that polls first. -/
def Polling : LineCall dm → Prop
  | .stream c => PollsFirst c
  | _ => False

/-- The call of a side is on its descriptor, and is prepared, the first one only if the side polls first. -/
theorem lineCall_prepared {env : Env Sys Ans Duplex} {readable : Duplex → Prop} {o : S} {w : Duplex}
    (henv : Announces env (k.socket o) readable) (c : LineCall dm) :
    (c.perform k).wp env (fun tr _ _ _ => (∀ e ∈ tr.tail, Prepared readable e) ∧
      (Polling c → ∀ e ∈ tr, Prepared readable e)) o w := by
  cases c with
  | connected timeout =>
    unfold LineCall.perform
    rw [Method.wp_bind, Method.wp_this, Method.after_returned]
    refine Method.wp_wrap (Method.wp_wrap (Method.wp_mono (pollSocket_prepared henv _) fun tr _ _ _ h => ?_))
    exact ⟨fun e he => h.1 e (List.mem_of_mem_tail he), fun _ => h.1⟩
  | stream c =>
    unfold LineCall.perform
    rw [Method.wp_bind, Method.wp_this, Method.after_returned]
    exact Method.wp_wrap (streamCall_prepared henv c)
  | close =>
    unfold LineCall.perform
    rw [k.close_eq]
    refine Method.wp_wrap ?_
    rw [Method.wp_bind, Method.wp_this, Method.after_returned, Method.wp_bind]
    unfold Socket.close
    rw [wp_sys]
    intro x w' hx
    exact ⟨by simp, fun h => h.elim⟩

/-- A `recv` is on the descriptor `fd`. -/
def RecvOn (fd : SOCKET) : Sys → Prop
  | .recv fd' _ _ _ => fd' = fd
  | _ => True

theorem lineCall_recvOn (c : LineCall dm) (o : S) : (c.perform k).Always (RecvOn (k.socket o)) o fun _ _ => True := by
  cases c with
  | connected timeout =>
    unfold LineCall.perform
    rw [Method.always_bind, Method.always_this, Method.onward_returned]
    exact (Steps.connected_within (fun _ _ => trivial) timeout o).wrap fun _ _ _ => trivial
  | stream c =>
    unfold LineCall.perform
    rw [Method.always_bind, Method.always_this, Method.onward_returned]
    exact (Steps.streamCall_within (fun _ _ => trivial) (fun _ _ _ => trivial) (fun _ _ _ => rfl) c o).wrap
      fun _ _ _ => trivial
  | close =>
    unfold LineCall.perform
    rw [k.close_eq]
    simp [Socket.close, RecvOn]

/-- **A connection is only read when there is something to read.** -/
theorem reads_never_wait (h : Turns (fun side => endpoint True (fd side) side) (fun _ => LineCall.perform k)
      (System.start obj {}) sides p) {q : Pending Sys Ans Duplex Exn S (LineCall dm) (Option Bool)}
    (hq : (p.1 side).pending = some q) (hcall : Polling q.call ∨ q.trace ≠ []) {offset length flags : ℤ}
    {rest : Received → Prog Sys Ans (Outcome Exn (Option Bool) × S)}
    (hrest : q.rest = .call (.recv (fd side) offset length flags) rest) :
    p.2.isOpen side = true → p.2.Readable side := by
  obtain ⟨hhistory, hothers⟩ := Turns.history (endpoint_relies True fd) h side
  unfold Client.History at hhistory
  rw [hq] at hhistory
  obtain ⟨-, hpath⟩ := hhistory
  rw [hrest] at hpath
  -- the call that is made next is one of a complete run
  have henv : ∀ c w, ∃ x w', (endpoint True (fd side) side).after (Duplex.Meanwhile side) c w x w' := fun c w =>
    ⟨_, _, w, (endpoint_relies True fd).refl side w, serve_endpoint True (fd side) side c w⟩
  have hwp := lineCall_prepared (k := k) (o := (p.1 side).obj) (w := q.world)
    (endpoint_announces (fd side) (k.socket (p.1 side).obj) side) q.call
  obtain ⟨x, tr', htail, hall⟩ := Prog.wp.pending henv (T := fun tr => (∀ e ∈ tr.tail, Prepared _ e) ∧
    (Polling q.call → ∀ e ∈ tr, Prepared _ e)) hwp hpath
  have hmem : ∀ {e : Event Sys Ans Duplex}, e ∈ q.trace ++ e :: tr' := List.mem_append_right _ List.mem_cons_self
  have hprepared : Prepared (fun w => k.socket (p.1 side).obj = fd side → Unblocked side w)
      ⟨(p.1 side).seen, .recv (fd side) offset length flags, x⟩ := by
    rcases hcall with hpolling | hlater
    · exact hall hpolling _ hmem
    · refine htail _ ?_
      rw [List.tail_append_of_ne_nil hlater]
      exact List.mem_append_right _ List.mem_cons_self
  have hfd : fd side = k.socket (p.1 side).obj := (Prog.Always.rest hpath (lineCall_recvOn q.call _)).1
  exact unblocked_meanwhile (hprepared hfd.symm) hothers

end Talk

section Examples

def pollFd : Side → SOCKET
  | .near => 3
  | .far => 4

/-- One side sends a byte, and the other has found out that it is there when it reads up to a delimiter. -/
def polled : System Side Sys Ans Duplex Exn TCPSocket (LineCall .lp64) (Option Bool) :=
  System.exec (fun side => serve (pollFd side) side) (fun _ => LineCall.perform tcpConnection)
    (List.replicate 3 (.near, .stream (.send [104] 0)) ++
      List.replicate 2 (.far, .stream (.receiveToDelimiter 8 38 0)))
    (System.start (fun side => ⟨pollFd side, [], 0, .IPV4, .zero⟩) {})

theorem reads_never_wait_polled : polled.2.Readable .far :=
  reads_never_wait (k := tcpConnection)
    (System.exec_turns (fun side => serve_endpoint True (pollFd side) side) _ _) rfl (Or.inl trivial) rfl rfl

end Examples

end SocketLibrary.Exchange
