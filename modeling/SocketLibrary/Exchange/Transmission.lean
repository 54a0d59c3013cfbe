import SocketLibrary.Exchange.Endpoints
import SocketLibrary.Steps.Reads

/-!
# What one side sends is what the other side reads

Both sides send, read, poll and close, in any order and at the same time. At every point of every such run, what the
calls of a side have handed over or discarded, what its call under way has read, and what is unread make up, in this
order, what the calls of the other side have sent (`exchange_conserves`).

A reading call sees the stream grow while it reads. Against all that will have been written when it ends, it is the call
of `SocketLibrary.Stream` on a fixed stream (`run_on_stream`), so that what is known of that carries over.
-/

namespace SocketLibrary.Exchange

open SocketLibrary.Interaction SocketLibrary.Posix SocketLibrary.Model SocketLibrary.Stream

section

variable {S : Type} {dm : DataModel}

/-! ## What the caller learns -/

/-- The delimiter, if the call is to read up to one and it was among the bytes it read. -/
def dropped (read : Bytes) : ReadCall → Bytes
  | .receiveToDelimiter d _ _ _ => if d ∈ read then [d] else []
  | _ => []

/-- The bytes that a call has sent: the front of the message, as long as the result says. -/
def said : TalkCall dm → Reply → Bytes
  | .send message _ _, .sent result => message.take result.toNat
  | _, _ => []

/-- The bytes that a call has handed to the caller, and the delimiter if it read one. -/
def heard (read : Bytes) : TalkCall dm → Reply → Bytes
  | .read c, .received data => data ++ dropped read c
  | _, _ => []

def saidIn (v : TalkVisit S dm) : Bytes := match v.outcome with
  | .returned reply => said v.call reply
  | _ => []

def heardIn (v : TalkVisit S dm) : Bytes := match v.outcome with
  | .returned reply => heard (taken v.trace) v.call reply
  | _ => []

/-- A call returned, and what the caller learns is what it put into the connection and took out of it. -/
structure Faithful (v : TalkVisit S dm) : Prop where
  returned : ∃ reply, v.outcome = .returned reply
  said : put v.trace = saidIn v
  heard : taken v.trace = heardIn v

/-! ## A reading call on a stream that grows -/

theorem putTaken_of_acts {σ τ : Type} {tr : List (Event Sys Ans σ)} {tr' : List (Event Sys Ans τ)}
    (h : tr'.map Event.act = tr.map Event.act) : put tr' = put tr ∧ taken tr' = taken tr := by
  have hflat : ∀ f : (c : Sys) × Ans c → Bytes, tr'.flatMap (fun e => f e.act) = tr.flatMap fun e => f e.act := by
    intro f
    have hmap : ∀ {ρ : Type} (l : List (Event Sys Ans ρ)), l.flatMap (fun e => f e.act) = (l.map Event.act).flatMap f :=
      fun l => (List.flatMap_map ..).symm
    rw [hmap, hmap, h]
  exact ⟨hflat putBy, hflat takenBy⟩

theorem delivered_eq_taken {tr : List (Event Sys Ans Bytes)} (h : ∀ e ∈ tr, Consuming e.call) :
    delivered tr = taken tr := by
  refine List.flatMap_congr fun e he => ?_
  obtain ⟨s, c, x⟩ := e
  cases c with
  | recv fd offset length flags => exact (if_neg (h _ he)).symm
  | _ => rfl

/-- What is unread of a stream once the front of what is unread of a part of it has been read. -/
theorem drop_eq_append {written stream data : Bytes} {n : ℕ} (hwritten : written <+: stream)
    (hdata : data <+: written.drop n) : stream.drop n = data ++ stream.drop (n + data.length) := by
  have hfront : data <+: stream.drop n := hdata.trans (hwritten.drop n)
  obtain ⟨rest, hrest⟩ := hfront
  rw [← List.drop_drop, ← hrest, List.drop_left]

/-- The bytes `s` are what the side has not read yet of all the bytes `stream`, of which some have been written. -/
def Behind (stream : Bytes) (side : Side) (w : Duplex) (s : Bytes) : Prop :=
  (w.pipe side.other).written <+: stream ∧ s = stream.drop (w.pipe side.other).read

/-- A call on a connection is a call on the stream. -/
theorem behind_step {truthful : Prop} {fd : SOCKET} {side : Side} (stream : Bytes) (c : Sys) (w : Duplex) (x : Ans c)
    (w' : Duplex) (s' : Bytes) (hconsuming : Consuming c) (h : Behind stream side w' s')
    (hc : (endpoint truthful fd side).after (Duplex.Meanwhile side) c w x w') :
    ∃ s, Behind stream side w s ∧ Peer.adverse.env c s x s' := by
  obtain ⟨hwritten', rfl⟩ := h
  obtain ⟨w₁, hmeanwhile, hc⟩ := hc
  have hstep := endpoint_step hc
  have hwritten : (w₁.pipe side.other).written <+: stream := hstep.written_other ▸ hwritten'
  have hread : (w₁.pipe side.other).read = (w.pipe side.other).read := hmeanwhile.read
  have hstream := drop_eq_append hwritten hstep.taken_prefix
  rw [hread] at hstream
  refine ⟨stream.drop (w.pipe side.other).read, ⟨hmeanwhile.written.trans hwritten, rfl⟩, ?_⟩
  rw [hstep.read_other, hread]
  cases c with
  | recv fd' offset length flags =>
    have htaken : takenBy ⟨.recv fd' offset length flags, x⟩ = x.data := if_neg hconsuming
    rw [htaken] at hstream ⊢
    rcases hc with ⟨hnil, -⟩ | ⟨-, -, hdata, hlength, -⟩
    · refine Or.inl ⟨hnil, ?_, fun hdelivers => hdelivers.elim⟩
      rw [hnil, List.length_nil, Nat.add_zero]
    · have hrest : stream.drop ((w.pipe side.other).read + x.data.length) =
          (stream.drop (w.pipe side.other).read).drop x.data.length := List.drop_drop.symm
      exact Or.inr ⟨hdata, hlength, ⟨_, hstream.symm⟩, hrest.trans (if_neg hconsuming).symm⟩
  | select nfds fd' t => exact ⟨trivial, rfl⟩
  | _ => rfl

/-- What the other side has written only grows. -/
theorem written_step {truthful : Prop} {fd : SOCKET} {side : Side} {c : Sys} {w w' : Duplex} {x : Ans c}
    (h : (endpoint truthful fd side).after (Duplex.Meanwhile side) c w x w') :
    (w.pipe side.other).written <+: (w'.pipe side.other).written := by
  obtain ⟨w₁, hothers, hc⟩ := h
  rw [(endpoint_step hc).written_other]
  exact hothers.written

/-- **A run on a connection is a run on a stream**: on what is left, when the run begins, of any bytes that begin with
all that the other side will have written when it ends. -/
theorem run_on_stream {truthful : Prop} {fd : SOCKET} {side : Side} {α : Type} {m : Prog Sys Ans α} {Q : α → Prop}
    (hm : m.Always Consuming Q) {w w' : Duplex} {tr : List (Event Sys Ans Duplex)} {a : α}
    (h : m.Runs ((endpoint truthful fd side).after (Duplex.Meanwhile side)) w tr a w') {stream : Bytes}
    (hstream : (w'.pipe side.other).written <+: stream) :
    ∃ tr', m.Runs Peer.adverse.env (stream.drop (w.pipe side.other).read) tr' a
      (stream.drop (w'.pipe side.other).read) ∧ tr'.map Event.act = tr.map Event.act := by
  obtain ⟨tr', _, hr, ⟨-, rfl⟩, hacts⟩ := h.simulate_backward (behind_step stream) hm ⟨hstream, rfl⟩
  exact ⟨tr', hr, hacts⟩

/-! ## One call -/

section Calls

variable {k : Connection S} {fuel : ℕ} {o : S} {s : Bytes}

theorem discarded_eq (c : ReadCall) (tr : List (Event Sys Ans Bytes)) : c.discarded tr = dropped (delivered tr) c := by
  cases c <;> rfl

/-- A call puts nothing into the connection, and does not peek. -/
def Quiet (c : Sys) : Prop := (∀ x, putBy ⟨c, x⟩ = []) ∧ Consuming c

/-- What a method that makes only such calls does on a stream. -/
theorem quiet_wp {α : Type} {m : M S α} {Q : Method.Post Sys Ans Bytes Exn S α} (hm : Method.Within Quiet m)
    (h : m.wp Peer.adverse.env Q o s) :
    m.wp Peer.adverse.env (fun tr r o' s' => Q tr r o' s' ∧ put tr = [] ∧ delivered tr = taken tr) o s := by
  refine Method.wp_iff.2 fun tr r o' s' hr => ⟨hr.post h, ?_⟩
  have hquiet := ((hm o).runs hr).1
  exact ⟨List.flatMap_eq_nil_iff.2 fun e he => (hquiet e he).1 e.answer, delivered_eq_taken fun e he => (hquiet e he).2⟩

/-- No call of a side peeks. -/
theorem talk_consuming (c : TalkCall dm) : (c.perform k fuel).Always Consuming o fun _ _ => True := by
  have hany : ∀ m : M S Reply, Method.Within Consuming m → m.Always Consuming o fun _ _ => True :=
    fun m hm => (hm o).mono (fun _ h => h) fun _ _ _ => trivial
  cases c with
  | send message hlength flags => exact hany _ (.bind .this fun _ => .bind (.call trivial) fun _ => .pure _)
  | read c => exact hany _ (.bind .this fun _ => .bind (c.consuming fuel) fun _ => .pure _)
  | ready timeout =>
    exact hany _ (.bind .this fun _ => .bind (Steps.ready_within (fun _ _ => trivial) timeout) fun _ => .pure _)
  | connected timeout =>
    exact hany _ (.bind .this fun _ => .bind (Steps.connected_within (fun _ _ => trivial) timeout) fun _ => .pure _)
  | close =>
    unfold TalkCall.perform
    rw [k.close_eq]
    simp [Socket.close, Consuming]

/-- **A call on a stream**, with enough fuel for what is unread. -/
theorem talk_wp (c : TalkCall dm) (hfuel : s.length < fuel) :
    (c.perform k fuel).wp Peer.adverse.env (fun tr r _ _ => ∃ reply, r = .returned reply ∧
      put tr = said c reply ∧ taken tr = heard (taken tr) c reply) o s := by
  cases c with
  | send message hlength flags =>
    unfold TalkCall.perform ConnectionOrientedSocket.send ConnectionOrientedSocket.sendBuffer
    rw [Method.wp_bind, Method.wp_this, Method.after_returned, Method.wp_bind, wp_sys]
    intro x s' hx
    rw [Method.after_returned, Method.wp_pure]
    exact ⟨_, rfl, by simp [put, putBy, Event.act, said], rfl⟩
  | read c =>
    unfold TalkCall.perform
    rw [Method.wp_bind, Method.wp_this, Method.after_returned, Method.wp_bind]
    refine Method.wp_mono (quiet_wp (c.perform_within (fun _ _ => ⟨fun _ => rfl, trivial⟩)
      (fun _ _ => ⟨fun _ => rfl, c.not_peeks⟩) fuel) (c.perform_spec hfuel)) ?_
    rintro tr r o' s' ⟨⟨data, rfl, hdata⟩, hput, htaken⟩
    rw [Method.after_returned, Method.wp_pure, List.nil_append, List.append_nil]
    refine ⟨_, rfl, hput, ?_⟩
    rw [discarded_eq, htaken] at hdata
    exact hdata
  | ready timeout =>
    unfold TalkCall.perform
    rw [Method.wp_bind, Method.wp_this, Method.after_returned, Method.wp_bind]
    refine Method.wp_mono (quiet_wp (Steps.ready_within (fun _ _ => ⟨fun _ => rfl, trivial⟩) timeout)
      (ready_spec timeout)) ?_
    rintro tr r o' s' ⟨⟨-, -, hdelivered, b, rfl, -⟩, hput, htaken⟩
    rw [Method.after_returned, Method.wp_pure, List.nil_append, List.append_nil]
    exact ⟨_, rfl, hput, htaken.symm.trans hdelivered⟩
  | connected timeout =>
    unfold TalkCall.perform ConnectionOrientedSocket.connected
    rw [Method.wp_bind, Method.wp_this, Method.after_returned, Method.wp_bind, Method.wp_bind]
    refine Method.wp_mono (quiet_wp (Steps.pollSocket_within (fun _ _ => ⟨fun _ => rfl, trivial⟩) _ _)
      (pollSocket_spec _)) ?_
    rintro tr r o' s' ⟨⟨-, -, hdelivered, x, rfl, -⟩, hput, htaken⟩
    rw [Method.after_returned, Method.wp_pure, List.append_nil, Method.after_returned, Method.wp_pure, List.nil_append,
      List.append_nil]
    exact ⟨_, rfl, hput, htaken.symm.trans hdelivered⟩
  | close =>
    unfold TalkCall.perform
    rw [Method.wp_bind, k.close_eq, Method.wp_bind, Method.wp_this, Method.after_returned, Method.wp_bind]
    unfold Socket.close
    rw [wp_sys]
    intro x s' hx
    exact ⟨_, rfl, rfl, rfl⟩

variable {truthful : Prop} {fd : SOCKET} {side : Side} {o' : S} {w w' : Duplex} {tr : List (Event Sys Ans Duplex)}
  {r : Outcome Exn Reply}

/-- **One call is faithful**, if its fuel exceeds what the other side will have written. -/
theorem faithful_of_runs (c : TalkCall dm) (hfuel : (w'.pipe side.other).written.length < fuel)
    (h : (c.perform k fuel).Runs ((endpoint truthful fd side).after (Duplex.Meanwhile side)) o w tr r o' w') :
    Faithful (⟨c, o, w, tr, r, o', w'⟩ : TalkVisit S dm) := by
  obtain ⟨tr', hr, hacts⟩ := run_on_stream (talk_consuming c) h List.prefix_rfl
  obtain ⟨hput, htaken⟩ := putTaken_of_acts hacts
  have hlength : ((w'.pipe side.other).written.drop (w.pipe side.other).read).length < fuel := by
    rw [List.length_drop]
    omega
  obtain ⟨reply, rfl, hsaid, hheard⟩ := Method.Runs.post (m := c.perform k fuel) hr (talk_wp c hlength)
  rw [hput] at hsaid
  rw [htaken] at hheard
  exact ⟨⟨reply, rfl⟩, hsaid, hheard⟩

end Calls

/-! ## A whole run -/

section Talk

variable {truthful : Prop} {k : Connection S} {fuel : ℕ} {fd : Side → SOCKET} {obj : Side → S} {sides : List Side}
  {p : System Side Sys Ans Duplex Exn S (TalkCall dm) Reply}

theorem put_concat {σ : Type} (tr : List (Event Sys Ans σ)) (e : Event Sys Ans σ) :
    put (tr ++ [e]) = put tr ++ putBy e.act := by
  simp [put]

theorem taken_concat {σ : Type} (tr : List (Event Sys Ans σ)) (e : Event Sys Ans σ) :
    taken (tr ++ [e]) = taken tr ++ takenBy e.act := by
  simp [taken]

/-- What a call of a side adds to the calls of the sides. -/
theorem balanced_step {w w' v : Duplex} {events : Side → List (Event Sys Ans Duplex)} {side : Side} {c : Sys} {x : Ans c}
    (hw : w.Balanced (fun s => put (events s)) fun s => taken (events s))
    (hc : endpoint truthful (fd side) side c w x w') :
    w'.Balanced (fun s => put (Function.update events side (events side ++ [⟨v, c, x⟩]) s))
      fun s => taken (Function.update events side (events side ++ [⟨v, c, x⟩]) s) := by
  refine hw.exchanged (endpoint_step hc) ?_ ?_
  · intro s
    by_cases hs : s = side
    · rw [hs, Function.update_self, put_concat, if_pos rfl]
      rfl
    · rw [Function.update_of_ne hs, if_neg hs, List.append_nil]
  · intro s
    by_cases hs : s = side
    · rw [hs, Function.update_self, taken_concat, if_pos rfl]
      rfl
    · rw [Function.update_of_ne hs, if_neg hs, List.append_nil]

/-- Every call of a side is faithful, if the fuel exceeds what was written. -/
theorem talk_faithful (h : Talk k fuel truthful dm fd (.start obj {}) sides p)
    (hfuel : ∀ side, (p.2.pipe side).written.length < fuel) (side : Side) : ∀ v ∈ (p.1 side).visits, Faithful v := by
  obtain ⟨hhistory, hmeanwhile⟩ := Turns.history (endpoint_relies truthful fd) h side
  obtain ⟨w, hsession, hleads⟩ := hhistory.session
    (fun w w' => (w.pipe side.other).written <+: (w'.pipe side.other).written) (fun _ => List.prefix_rfl)
    (fun _ _ _ => List.IsPrefix.trans)
    fun _ _ _ _ => written_step
  have hvisits : ∀ v ∈ (p.1 side).visits, (v.world'.pipe side.other).written.length < fuel → Faithful v :=
    (Session.invariant (I := fun _ _ => True) (G := fun v : TalkVisit S dm =>
      (v.world'.pipe side.other).written.length < fuel → Faithful v)
      (fun c o w tr r o' w' _ hr => ⟨trivial, fun hlt => faithful_of_runs c hlt hr⟩) hsession trivial).2
  intro v hv
  have hle := ((hleads v hv).trans hmeanwhile.written).length_le
  exact hvisits v hv (hle.trans_lt (hfuel side.other))

/-- What a side has put into the connection is what its calls have said, and what the one under way has put there. -/
theorem put_events {c : Client Sys Ans Duplex Exn S (TalkCall dm) Reply} (hc : ∀ v ∈ c.visits, Faithful v) :
    put c.events = c.visits.flatMap saidIn ++ put c.underway := by
  unfold Client.events put
  rw [List.flatMap_append, List.flatMap_assoc]
  congr 1
  exact List.flatMap_congr fun v hv => (hc v hv).said

theorem taken_events {c : Client Sys Ans Duplex Exn S (TalkCall dm) Reply} (hc : ∀ v ∈ c.visits, Faithful v) :
    taken c.events = c.visits.flatMap heardIn ++ taken c.underway := by
  unfold Client.events taken
  rw [List.flatMap_append, List.flatMap_assoc]
  congr 1
  exact List.flatMap_congr fun v hv => (hc v hv).heard

/-- What the calls of the one side have said is what those of the other have heard, and what is on its way. -/
theorem talk_conserves (h : Talk k fuel truthful dm fd (.start obj {}) sides p)
    (hfuel : ∀ side, (p.2.pipe side).written.length < fuel) (side : Side) :
    (p.1 side).visits.flatMap saidIn ++ put (p.1 side).underway =
      (p.1 side.other).visits.flatMap heardIn ++ taken (p.1 side.other).underway ++ (p.2.pipe side).unread := by
  have hbalanced : p.2.Balanced (fun s => put (p.1 s).events) fun s => taken (p.1 s).events := by
    refine Turns.account (I := fun w events => w.Balanced (fun s => put (events s)) fun s => taken (events s)) h ?_ ?_
    · intro side
      exact ⟨rfl, rfl, List.nil_prefix⟩
    · intro w events side c x w' v hw hc
      exact balanced_step hw hc
  rw [← put_events (talk_faithful h hfuel side), ← taken_events (talk_faithful h hfuel side.other)]
  exact hbalanced.unread side

/-- **What one side says, the other side hears.** -/
theorem exchange_conserves (h : Talk k fuel truthful dm fd (.start obj {}) sides p)
    (hfuel : ∀ side, (p.2.pipe side).written.length < fuel) (side : Side) :
    (∀ v ∈ (p.1 side).visits, Faithful v) ∧
      (p.1 side).visits.flatMap saidIn ++ put (p.1 side).underway =
        (p.1 side.other).visits.flatMap heardIn ++ taken (p.1 side.other).underway ++ (p.2.pipe side).unread :=
  ⟨talk_faithful h hfuel side, talk_conserves h hfuel side⟩

end Talk

end

section Examples

/-- A descriptor for each side, and a connection that stores it. -/
def talkFd : Side → SOCKET
  | .near => 3
  | .far => 4

def talker (side : Side) : TCPSocket := ⟨talkFd side, [], 0, .IPV4, .zero⟩

/-- The run in which the sides take these turns, and a side without a call under way begins the call beside its name. -/
def talk (turns : List (Side × TalkCall .lp64)) : System Side Sys Ans Duplex Exn TCPSocket (TalkCall .lp64) Reply :=
  System.exec (fun side => serve (talkFd side) side) (fun _ => TalkCall.perform tcpConnection 8) turns
    (System.start talker {})

theorem talk_turns (turns : List (Side × TalkCall .lp64)) :
    Talk tcpConnection 8 True .lp64 talkFd (.start talker {}) (turns.map Prod.fst) (talk turns) :=
  System.exec_turns (fun side => serve_endpoint True (talkFd side) side) turns _

/-- One side sends two bytes, and the other reads one of them. -/
theorem exchange_conserves_two :
    let turns : List (Side × TalkCall .lp64) :=
      List.replicate 3 (.near, .send [104, 105] (by decide) 0) ++ List.replicate 3 (.far, .read (.get 0 (by decide)))
    ((talk turns).1 .near).visits.flatMap saidIn = [104, 105] ∧
      ((talk turns).1 .near).visits.flatMap saidIn ++ [] = ((talk turns).1 .far).visits.flatMap heardIn ++ [] ++ [105] := by
  intro turns
  refine ⟨by decide, ?_⟩
  exact (exchange_conserves (talk_turns turns) (by rintro (_ | _) <;> decide) .near).2

end Examples

end SocketLibrary.Exchange
