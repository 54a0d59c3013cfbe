import SocketLibrary.Datagrams.Delivery

/-!
# Receiving after `ready`

`recvfrom` waits as long as nothing has arrived. A client whose last call was a `ready` that answered true finds a
datagram with its next call, whatever the other clients have done in between (`receive_after_ready`).
-/

namespace SocketLibrary.Datagrams

open SocketLibrary.Interaction SocketLibrary.Posix SocketLibrary.Model

variable {S N ι : Type} {dm : DataModel} {k : DatagramClass S N dm} [DecidableEq ι] {carrier : Carrier ι}
  {dest : SockAddr → Option ι} {fd : ι → SOCKET} {i : ι}

/-- There is a datagram that the client may be handed. -/
def Post.Waiting (carrier : Carrier ι) (i : ι) (w : Post ι) : Prop := ∃ d, carrier.arrives (w.log i) (w.handed i) d

omit [DecidableEq ι] in
/-- The others take nothing away. -/
theorem Post.Waiting.meanwhile {w w' : Post ι} (h : w.Waiting carrier i) (hothers : w.Meanwhile i w') :
    w'.Waiting carrier i := by
  obtain ⟨d, hd⟩ := h
  refine ⟨d, ?_⟩
  rw [hothers.2]
  exact carrier.mono _ _ _ _ hothers.1 hd

/-- A call may always be refused. -/
theorem post_refuse (c : Sys) (w : Post ι) : post carrier True dest fd i c w (refuse c) w := by
  cases c with
  | sendto fd' buffer length flags address addressLength => exact Or.inl ⟨rfl, rfl⟩
  | recvfrom fd' length flags addressLength => exact Or.inl ⟨rfl, rfl⟩
  | select nfds fd' t => exact ⟨rfl, fun _ _ hpos => absurd hpos (by decide : ¬ (0 : ℤ) < -1)⟩
  | _ => rfl

/-! ## The methods -/

/-- An answer of `ready`, on the descriptor of the client. -/
theorem ready_finds (timeout : ULong dm) (o : S) (w : Post ι) (hfd : k.socket o = fd i) :
    (k.ready timeout).wp ((post carrier True dest fd i).after (Post.Meanwhile i))
      (fun _ r o' w' => o' = o ∧ (r = .returned true → w'.Waiting carrier i)) o w := by
  rcases k.ready_eq timeout o with hready | ⟨timeout', timeOutVal, hready⟩
  · rw [Method.wp_congr hready, Method.wp_pure]
    exact ⟨rfl, fun h => by cases h⟩
  · rw [Method.wp_congr hready, Method.wp_bind]
    unfold Socket.pollSocket
    rw [Method.wp_ite, Method.wp_pure, wp_sys]
    constructor
    · intro _
      rw [Method.after_returned, Method.wp_pure]
      exact ⟨rfl, fun h => by simp at h⟩
    · rintro _ x w' ⟨w₁, -, rfl, hpoll⟩
      rw [Method.after_returned, Method.wp_pure]
      refine ⟨rfl, fun h => ?_⟩
      have hpos : (0 : ℤ) < x := by simpa using h
      exact hpoll trivial hfd hpos

/-- A `recvfrom` is on the descriptor `socket`. -/
def ReceivesOn (socket : SOCKET) : Sys → Prop
  | .recvfrom fd _ _ _ => fd = socket
  | _ => True

def Receives : Sys → Prop
  | .recvfrom .. => True
  | _ => False

theorem sendsTo_within {m : M S ℤ} {address : SockAddr} {message : Bytes} {flags : ℤ}
    (h : SendsTo m address message flags) : Method.Within (fun c => ¬ Receives c) m := by
  obtain ⟨domain, type, protocol, operation, addressLength, rfl⟩ := h
  intro o
  simp [sendThrough, Socket.close, Receives]

theorem sendTo_within (name : N) (message : Bytes) (flags : ℤ) :
    Method.Within (fun c => ¬ Receives c) (k.sendTo name message flags) := by
  rcases k.sendTo_eq name message flags with ⟨send, address, hsend, heq⟩ | ⟨hostname, port, hints, send, hsend, heq⟩
  · rw [heq]
    exact .bind (sendsTo_within hsend) fun _ => .pure _
  · rw [heq]
    have hresolve : Method.Within (fun c => ¬ Receives c) (resolveToAddresses hostname port hints : M S _) :=
      .bind (.call id) fun _ => .ite (.pure _) (.pure _)
    exact .bind (.bind hresolve fun _ => .ite (.pure _) (.bind (sendsTo_within (hsend _)) fun _ => .pure _))
      fun _ => .pure _

theorem not_receives_of_idle {c : Sys} (h : Idle c) : ¬ Receives c := by
  cases c with
  | recvfrom fd length flags addressLength => exact h.elim
  | _ => exact id

theorem receivesOn_of_not {c : Sys} {socket : SOCKET} (h : ¬ Receives c) : ReceivesOn socket c := by
  cases c with
  | recvfrom fd length flags addressLength => exact (h trivial).elim
  | _ => trivial

/-- Every call but `receiveFrom`. -/
theorem perform_always {o : S} (hsound : k.Sound o) (c : PostCall N dm) (hc : ∀ c', c ≠ .receiveFrom c') :
    (c.perform k).Always (fun c => ¬ Receives c) o fun _ _ => True := by
  cases c with
  | sendTo name message hlength flags => exact (sendTo_within name message flags o).wrap fun _ _ _ => trivial
  | receiveFrom c' => exact absurd rfl (hc c')
  | ready timeout =>
    refine Method.Always.wrap (Q := fun _ o' => o' = o) ?_ fun _ _ _ => trivial
    exact (k.ready_idle timeout o).mono (fun _ => not_receives_of_idle) fun _ _ h => h
  | close =>
    refine Method.Always.wrap (Q := fun _ _ => True) ?_ fun _ _ _ => trivial
    exact (k.close_sound o hsound).mono (fun _ => not_receives_of_idle) fun _ _ _ => trivial

theorem perform_receivesOn {o : S} (hsound : k.Sound o) (c : PostCall N dm) :
    (c.perform k).Always (ReceivesOn (k.socket o)) o fun _ _ => True := by
  cases c with
  | receiveFrom c =>
    have hreceive : (k.receiveFrom c).Always (ReceivesOn (k.socket o)) o fun _ _ => True := by
      unfold Method.Always
      rcases k.receiveFrom_eq c o hsound with ⟨addressLength, heq⟩ | ⟨data, heq⟩
      · rw [heq]
        show (receiveAt (k.socket o) addressLength c).Always (ReceivesOn (k.socket o)) o fun _ _ => True
        simp [receiveAt, ReceivesOn]
      · rw [heq]
        trivial
    exact hreceive.wrap fun _ _ _ => trivial
  | _ => exact (perform_always hsound _ (by simp)).mono (fun _ => receivesOn_of_not) fun _ _ h => h

/-- Only the first call of a method can be a `recvfrom`. -/
theorem perform_receives_first {σ : Type} {env : Env Sys Ans σ} {o : S} {s : σ} (hsound : k.Sound o)
    (c : PostCall N dm) : (c.perform k).wp env (fun tr _ _ _ => ∀ e ∈ tr.tail, ¬ Receives e.call) o s := by
  cases c with
  | receiveFrom c =>
    have hreceive : (k.receiveFrom c).wp env (fun tr _ _ _ => ∀ e ∈ tr.tail, ¬ Receives e.call) o s := by
      rcases k.receiveFrom_eq c o hsound with ⟨addressLength, heq⟩ | ⟨data, heq⟩
      · rw [Method.wp_congr heq]
        unfold receiveAt
        rw [Method.wp_ite, Method.wp_pure, Method.wp_bind, wp_sys]
        refine ⟨by simp, ?_⟩
        intro _ x s' hx
        rw [Method.after_returned, Method.wp_pure]
        simp
      · rw [Method.wp_congr heq, Method.wp_pure]
        simp
    exact Method.wp_wrap hreceive
  | _ =>
    refine Method.wp_iff.2 fun tr r o' s' hr e he => ?_
    exact ((perform_always hsound _ (by simp)).runs hr).1 e (List.mem_of_mem_tail he)

/-! ## Any number of clients -/

variable {obj : ι → S} {is : List ι} {p : System ι Sys Ans (Post ι) Exn S (PostCall N dm) Reply}

/-- **What `ready` has found is still there.** -/
theorem receive_after_ready (h : Mail k carrier True dest fd (.start obj {}) is p) (hsound : ∀ i, k.Sound (obj i))
    {visits : List (PostVisit ι S N dm)} {v : PostVisit ι S N dm} (hvisits : (p.1 i).visits = visits ++ [v])
    {timeout : ULong dm} (hready : v.call = .ready timeout) (htrue : v.outcome = .returned (.answered true))
    {q : Pending Sys Ans (Post ι) Exn S (PostCall N dm) Reply} (hq : (p.1 i).pending = some q)
    {length flags : ℤ} {addressLength : ℕ} {rest : Datagram → Prog Sys Ans (Outcome Exn Reply × S)}
    (hrest : q.rest = .call (.recvfrom (fd i) length flags addressLength) rest) : p.2.Waiting carrier i := by
  obtain ⟨hhistory, hothers⟩ := Turns.history post_relies h i
  unfold Client.History at hhistory
  rw [hq] at hhistory
  obtain ⟨hsession, hpath⟩ := hhistory
  rw [hrest] at hpath
  unfold Session at hsession
  rw [hvisits] at hsession
  obtain ⟨⟨o, w⟩, hbefore, hlast⟩ := hsession.last
  have hsound' : k.Sound o := by
    refine (Session.invariant (I := fun o _ => k.Sound o) (G := fun _ : PostVisit ι S N dm => True) ?_ hbefore
      (hsound i)).1
    intro c o w tr r o' w' ho hr
    exact ⟨sound_of_perform ho hr, trivial⟩
  obtain ⟨hr⟩ := hlast
  obtain rfl := hready
  obtain rfl := htrue
  obtain ⟨tr₁, answer, o₁, w₁, tr₂, hpoll, hreturn, rfl⟩ := Method.Runs.of_bind hr
  cases hreturn
  -- the object is the one that was polled, and the call under way receives on its descriptor
  have hobj : (p.1 i).obj = o := ((k.ready_idle timeout o).runs hpoll).2
  rw [hobj] at hpath
  have hfd : fd i = k.socket o := (Prog.Always.rest hpath (perform_receivesOn hsound' q.call)).1
  have hfound : q.world.Waiting carrier i :=
    (hpoll.post (ready_finds timeout o w hfd.symm)).2 rfl
  -- and it has made no call before
  have henv : ∀ c w, ∃ x w', (post carrier True dest fd i).after (Post.Meanwhile i) c w x w' := by
    intro c w
    exact ⟨refuse c, w, w, ⟨List.prefix_rfl, rfl⟩, post_refuse c w⟩
  obtain ⟨x, tr', hfirst⟩ := Prog.wp.pending henv (T := fun tr => ∀ e ∈ tr.tail, ¬ Receives e.call)
    (perform_receives_first hsound' q.call) hpath
  have hnone : q.trace = [] := by
    by_contra hsome
    refine hfirst ⟨(p.1 i).seen, .recvfrom (fd i) length flags addressLength, x⟩ ?_ trivial
    rw [List.tail_append_of_ne_nil hsome]
    exact List.mem_append_right _ List.mem_cons_self
  rw [hnone] at hpath
  have hseen : q.world = (p.1 i).seen := congrArg Prod.snd hpath.eq_of_nil
  rw [hseen] at hfound
  exact hfound.meanwhile hothers

/-- One socket sends a datagram, the other finds out with `ready` that it is there, and then receives. -/
def sendPollReceive {N : Type} (name : N) : List (Bool × PostCall N .lp64) :=
  List.replicate 5 (false, .sendTo name [1, 2, 3] (by decide) 0) ++
    List.replicate 3 (true, .ready (ConnectionOrientedSocket.defaultTimeout .lp64)) ++ [(true, .receiveFrom ⟨2, 0⟩)]

theorem receive_after_ready_found :
    (pathMail (sendPollReceive [98])).2.Waiting .ordered true ∧
      (portMail (sendPollReceive (.address portAddress))).2.Waiting .ordered true :=
  ⟨receive_after_ready (mail_turns _ pathDest pathMailer (sendPollReceive [98])) pathMailer_sound rfl rfl rfl rfl rfl,
    receive_after_ready (mail_turns (udpClass .lp64) portDest portMailer (sendPollReceive (.address portAddress)))
      (fun _ => trivial) rfl rfl rfl rfl rfl⟩

end SocketLibrary.Datagrams
