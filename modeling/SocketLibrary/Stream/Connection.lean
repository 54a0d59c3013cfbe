import SocketLibrary.Interaction.Session
import SocketLibrary.Steps.Streams
import SocketLibrary.Stream.Peeking

/-!
# `connected` and the end of a connection

The peer of a connection sends bytes and closes whenever it likes; the local side sends, reads, polls and closes in any
order. `connected` takes every answer of `select` but -1 for a connection, also the one for a stream that has ended.
`connected_right_iff` says in which sessions its answers are right.
-/

namespace SocketLibrary.Stream

open SocketLibrary.Interaction SocketLibrary.Posix SocketLibrary.Model SocketLibrary.Steps
open SocketLibrary.Model.ConnectionOrientedSocket (connected defaultTimeout)
open SocketLibrary.Descriptors (StreamCall)

/-! ## A connection -/

/-- The local end of a connection: the bytes that are unread, and what is closed. -/
structure Line where
  unread : Bytes := []
  peerClosed : Bool := false
  isOpen : Bool := true

/-- The peer has closed, and every byte it sent has been read. -/
def Line.Ended (l : Line) : Prop := l.peerClosed = true ∧ l.unread = []

/-- `select` reports a line with unread bytes as readable, and one that has ended. -/
def Line.Readable (l : Line) : Prop := l.unread ≠ [] ∨ l.peerClosed = true

/-- What the peer may do before a call is answered: it sends some bytes, and may close; it does neither after that. -/
def Line.Advances (l l' : Line) : Prop :=
  (∃ sent, l'.unread = l.unread ++ sent ∧ (l.peerClosed = true → sent = [] ∧ l'.peerClosed = true)) ∧ l'.isOpen = l.isOpen

/-- The connection at the descriptor `fd`. On an open one `select` may also be interrupted, and `recv` may fail. -/
@[simp] def line (fd : SOCKET) : Env Sys Ans Line
  | .select _ fd' _, l, x, l' => l.Advances l' ∧ (fd' = fd →
      if l.isOpen = true then x = -1 ∨ (x = 1 ∧ l'.Readable) ∨ (x = 0 ∧ ¬ l.Readable) else x = -1)
  | .recv fd' _ length flags, l, x, l' => ∃ l₁, l.Advances l₁ ∧ if fd' = fd ∧ l.isOpen = true then
      x.data <+: l₁.unread ∧ x.data.length ≤ sizeT length ∧
        l' = { l₁ with unread := if Peeks flags then l₁.unread else l₁.unread.drop x.data.length }
      else l' = l₁
  | .close fd', l, _, l' => ∃ l₁, l.Advances l₁ ∧ l' = { l₁ with isOpen := l₁.isOpen && fd' != fd }
  | _, l, _, l' => l.Advances l'

/-- No call but `close` closes the line. -/
theorem isOpen_of_onStream {fd : SOCKET} {c : Sys} {l l' : Line} {x : Ans c} (hc : OnStream c) (h : line fd c l x l') :
    l'.isOpen = l.isOpen := by
  cases c with
  | select nfds fd' t => exact h.1.2
  | send fd' message length flags => exact h.2
  | recv fd' offset length flags =>
    obtain ⟨l₁, hadvances, hrecv⟩ := h
    by_cases hread : fd' = fd ∧ l.isOpen = true
    · rw [if_pos hread] at hrecv
      rw [hrecv.2.2]
      exact hadvances.2
    · rw [if_neg hread] at hrecv
      rw [hrecv]
      exact hadvances.2
  | _ => exact hc.elim

/-! ## The calls of the local side -/

/-- A class of connections: the descriptor of an object, and its `close`. -/
structure Connection (S : Type) where
  socket : S → SOCKET
  retire : S → S
  close : M S Unit
  close_eq : close = do
    let this ← Method.this
    Socket.close (socket this)
    Method.modify retire
  socket_retire : ∀ o, socket (retire o) = -1

def tcpConnection : Connection TCPSocket where
  socket := TCPSocket.socketDescriptor
  retire this := { this with socketDescriptor := getInvalidSocketValue }
  close := TCPSocket.close
  close_eq := rfl
  socket_retire _ := rfl

def streamIPCConnection : Connection StreamIPCSocket where
  socket := StreamIPCSocket.socket
  retire this := { this with socket := getInvalidSocketValue }
  close := StreamIPCSocket.close
  close_eq := rfl
  socket_retire _ := rfl

/-- A call on a connection. -/
inductive LineCall (dm : DataModel) where
  | connected (timeout : ULong dm)
  | stream (c : StreamCall dm)
  | close

section Calls

variable {S : Type} {dm : DataModel} (k : Connection S)

/-- The call, with the answer of `connected`. -/
def LineCall.perform : LineCall dm → M S (Option Bool)
  | connected timeout => do
    let this ← Method.this
    let answer ← ConnectionOrientedSocket.connected dm (k.socket this) timeout
    return some answer
  | stream c => do
    let this ← Method.this
    c.perform (k.socket this)
    return none
  | close => do
    k.close
    return none

/-- A call that was made. -/
abbrev LineVisit (S : Type) (dm : DataModel) := Visit Sys Ans Line Exn S (LineCall dm) (Option Bool)

/-- An answer of `connected`: false if the line had ended before, and true if neither side has closed. -/
def Right (v : LineVisit S dm) : Prop := ∀ timeout, v.call = .connected timeout → ∃ answer,
  v.outcome = .returned (some answer) ∧ (v.world.Ended → answer = false) ∧
    (v.world'.peerClosed = false → v.world'.isOpen = true → answer = true)

/-- A poll was interrupted. -/
def Interrupted (tr : List (Event Sys Ans Line)) : Prop := ∃ l nfds fd t, ⟨l, .select nfds fd t, (-1 : ℤ)⟩ ∈ tr

/-- `connected`, called on an open line, does not meet the end of the stream, and is not interrupted while the peer is
there. -/
def Undisturbed (v : LineVisit S dm) : Prop := ∀ timeout, v.call = .connected timeout → v.world.isOpen = true →
  (v.world.Ended → Interrupted v.trace) ∧ (Interrupted v.trace → v.world'.peerClosed = true)

/-- The object has the descriptor of the line as long as that is open. -/
def Holds (fd : SOCKET) (o : S) (l : Line) : Prop :=
  (k.socket o = fd ∧ l.isOpen = true) ∨ (k.socket o = -1 ∧ l.isOpen = false)

/-! ## One call -/

variable {fd : SOCKET} {o o' : S} {l l' : Line} {tr : List (Event Sys Ans Line)} {r : Outcome Exn (Option Bool)}

theorem interrupted_single {l : Line} {nfds : ℤ} {fd : SOCKET} {t : TimeVal} {x : ℤ} :
    Interrupted [⟨l, .select nfds fd t, x⟩] ↔ x = -1 := by
  constructor
  · rintro ⟨l, nfds, fd, t, h⟩
    cases List.mem_singleton.1 h
    rfl
  · rintro rfl
    exact ⟨l, nfds, fd, t, List.mem_singleton_self _⟩

/-- What a call of `connected` on the line makes of the one poll. -/
theorem connected_line (hfd : fd ≠ -1) (hl : l.isOpen = true) (timeout : ULong dm) :
    (connected dm fd timeout).wp (line fd) (fun tr r o' l' => o' = o ∧ l'.isOpen = true ∧
      ((Interrupted tr ∧ r = .returned false) ∨ (¬ Interrupted tr ∧ r = .returned true))) o l := by
  unfold connected Socket.pollSocket
  rw [if_neg (by rwa [isInvalidSocket_iff]), Method.wp_bind, wp_sys]
  rintro (x : ℤ) l' ⟨hadvances, hpoll⟩
  have hanswer := hpoll rfl
  rw [if_pos hl] at hanswer
  have hopen : l'.isOpen = true := hadvances.2.trans hl
  rw [Method.after_returned, Method.wp_pure, List.append_nil, interrupted_single]
  refine ⟨rfl, hopen, ?_⟩
  by_cases hx : x = -1
  · subst hx
    exact Or.inl ⟨rfl, rfl⟩
  · refine Or.inr ⟨hx, ?_⟩
    simp [hx]

theorem right_connected {timeout : ULong dm} {answer : Bool} :
    Right (⟨.connected timeout, o, l, tr, .returned (some answer), o', l'⟩ : LineVisit S dm) ↔
      (l.Ended → answer = false) ∧ (l'.peerClosed = false → l'.isOpen = true → answer = true) := by
  constructor
  · intro h
    obtain ⟨answer', hr, hended, hthere⟩ := h timeout rfl
    cases hr
    exact ⟨hended, hthere⟩
  · intro h _ _
    exact ⟨answer, rfl, h⟩

theorem undisturbed_connected {timeout : ULong dm} :
    Undisturbed (⟨.connected timeout, o, l, tr, r, o', l'⟩ : LineVisit S dm) ↔
      (l.isOpen = true → (l.Ended → Interrupted tr) ∧ (Interrupted tr → l'.peerClosed = true)) := by
  constructor
  · intro h
    exact h timeout rfl
  · intro h _ _
    exact h

/-- The answer is right just if the call is undisturbed. -/
theorem connected_right (hfd : fd ≠ -1) (hholds : Holds k fd o l) (timeout : ULong dm) :
    ((LineCall.connected timeout).perform k).wp (line fd) (fun tr r o' l' =>
      (Right (⟨.connected timeout, o, l, tr, r, o', l'⟩ : LineVisit S dm) ↔
        Undisturbed (⟨.connected timeout, o, l, tr, r, o', l'⟩ : LineVisit S dm)) ∧ Holds k fd o' l') o l := by
  unfold LineCall.perform
  rw [Method.wp_bind, Method.wp_this, Method.after_returned, Method.wp_bind]
  rcases hholds with ⟨hsocket, hl⟩ | ⟨hsocket, hl⟩
  · rw [hsocket]
    refine Method.wp_mono (connected_line hfd hl timeout) ?_
    rintro tr r o' l' ⟨rfl, hopen, ⟨hinterrupted, rfl⟩ | ⟨hcalm, rfl⟩⟩
    · rw [Method.after_returned, Method.wp_pure, List.append_nil, List.nil_append, right_connected,
        undisturbed_connected]
      refine ⟨?_, Or.inl ⟨hsocket, hopen⟩⟩
      simp [hl, hopen, hinterrupted]
    · rw [Method.after_returned, Method.wp_pure, List.append_nil, List.nil_append, right_connected,
        undisturbed_connected]
      refine ⟨?_, Or.inl ⟨hsocket, hopen⟩⟩
      simp [hl, hcalm]
  · -- the local side has closed, and no call is made
    rw [hsocket]
    show (Right (⟨.connected timeout, o, l, [], .returned (some false), o, l⟩ : LineVisit S dm) ↔ _) ∧ _
    rw [right_connected, undisturbed_connected]
    refine ⟨?_, Or.inr ⟨hsocket, hl⟩⟩
    simp [hl]

/-- Reading, sending and polling keep the line and the object. -/
theorem stream_holds (hholds : Holds k fd o l) (c : StreamCall dm)
    (hrun : ((LineCall.stream c).perform k).Runs (line fd) o l tr r o' l') : Holds k fd o' l' := by
  have honly : ((LineCall.stream c).perform k).Always OnStream o fun _ o' => o' = o := by
    unfold LineCall.perform
    rw [Method.always_bind, Method.always_this, Method.onward_returned]
    exact (OnlyStreams.bind (streamCall_onlyStreams dm (k.socket o) c) fun _ => .pure _) o
  have hopen : l'.isOpen = l.isOpen :=
    honly.invariant (J := fun l' => l'.isOpen = l.isOpen)
      (fun c _ x _ hc hl h => (isOpen_of_onStream hc h).trans hl) hrun rfl
  obtain rfl : o' = o := (honly.runs hrun).2
  unfold Holds
  rwa [hopen]

theorem close_holds (hholds : Holds k fd o l)
    (hrun : ((LineCall.close : LineCall dm).perform k).Runs (line fd) o l tr r o' l') : Holds k fd o' l' := by
  have hclose : ((LineCall.close : LineCall dm).perform k).wp (line fd) (fun _ _ o' l' => Holds k fd o' l') o l := by
    unfold LineCall.perform
    rw [Method.wp_bind, k.close_eq, Method.wp_bind, Method.wp_this, Method.after_returned, Method.wp_bind]
    unfold Socket.close
    rw [wp_sys]
    rintro x l' ⟨l₁, hadvances, rfl⟩
    refine Or.inr ⟨k.socket_retire o, ?_⟩
    rcases hholds with ⟨hsocket, -⟩ | ⟨-, hl⟩
    · simp [hsocket]
    · simp [hadvances.2.trans hl]
  exact hrun.post hclose

theorem session_right_iff (hfd : fd ≠ -1) (hholds : Holds k fd o l) {visits : List (LineVisit S dm)}
    (h : Session (line fd) (LineCall.perform k) o l visits o' l') :
    (∀ v ∈ visits, Right v) ↔ ∀ v ∈ visits, Undisturbed v := by
  refine h.forall_iff (I := Holds k fd) ?_ hholds
  intro call o l tr r o' l' hholds hrun
  cases call with
  | connected timeout =>
    obtain ⟨hiff, hholds'⟩ := hrun.post (connected_right k hfd hholds timeout)
    exact ⟨hiff, fun _ => hholds'⟩
  | stream c =>
    refine ⟨iff_of_true (fun _ hcall => ?_) (fun _ hcall => ?_), fun _ => stream_holds k hholds c hrun⟩
    · cases hcall
    · cases hcall
  | close =>
    refine ⟨iff_of_true (fun _ hcall => ?_) (fun _ hcall => ?_), fun _ => close_holds k hholds hrun⟩
    · cases hcall
    · cases hcall

end Calls

/-- **The answers of `connected`.** For every session of calls on a new connection of either class, with the peer sending
and closing in between: every answer is false if the peer has closed and everything was read before the call, and true
if neither side has closed, if and only if no call of `connected` on an open connection meets the end of the stream
uninterrupted, or is interrupted while the peer has not closed. -/
theorem connected_right_iff (dm : DataModel) (fd : SOCKET) (hfd : fd ≠ -1) :
    (∀ (o o' : TCPSocket) (visits : List (LineVisit TCPSocket dm)) (l' : Line), o.socketDescriptor = fd →
      Session (line fd) (LineCall.perform tcpConnection) o {} visits o' l' →
        ((∀ v ∈ visits, Right v) ↔ ∀ v ∈ visits, Undisturbed v)) ∧
    ∀ (o o' : StreamIPCSocket) (visits : List (LineVisit StreamIPCSocket dm)) (l' : Line), o.socket = fd →
      Session (line fd) (LineCall.perform streamIPCConnection) o {} visits o' l' →
        ((∀ v ∈ visits, Right v) ↔ ∀ v ∈ visits, Undisturbed v) := by
  constructor
  · intro o o' visits l' ho h
    exact session_right_iff tcpConnection hfd (Or.inl ⟨ho, rfl⟩) h
  · intro o o' visits l' ho h
    exact session_right_iff streamIPCConnection hfd (Or.inl ⟨ho, rfl⟩) h

section Examples

/-- A call of `connected` on the descriptor 3 that is answered as if the line were readable. -/
theorem connected_runs {l l' : Line} (hl : l.isOpen = true) (hadvances : l.Advances l') (hreadable : l'.Readable) :
    ((LineCall.connected (defaultTimeout .lp64)).perform tcpConnection).Runs (line 3) ⟨3, [], 0, .IPV4, .zero⟩ l
      [⟨l, .select 4 3 ⟨0, 100⟩, (1 : ℤ)⟩] (.returned (some true)) ⟨3, [], 0, .IPV4, .zero⟩ l' := by
  refine .call ⟨hadvances, fun _ => ?_⟩ (.pure _ _)
  rw [if_pos hl]
  exact Or.inr (Or.inl ⟨rfl, hreadable⟩)

theorem advances_close : Line.Advances {} { peerClosed := true } := ⟨⟨[], rfl, fun h => by cases h⟩, rfl⟩

/-- The peer sends a byte and is there. -/
theorem connected_right_iff_byte : ∃ o visits l', Session (line 3) (@LineCall.perform _ .lp64 tcpConnection) o {} visits o
    l' ∧ visits.length = 1 ∧ ∀ v ∈ visits, Right v := by
  have hadvances : Line.Advances {} { unread := [65] } := ⟨⟨[65], rfl, fun h => by cases h⟩, rfl⟩
  have hs := Path.cons (VisitStep.mk (connected_runs rfl hadvances (Or.inl (by simp)))) (.nil _)
  refine ⟨_, _, _, hs, rfl, ((connected_right_iff .lp64 3 (by decide)).1 _ _ _ _ rfl hs).2 ?_⟩
  intro v hv
  obtain rfl := List.mem_singleton.1 hv
  refine undisturbed_connected.2 fun _ => ⟨fun hended => ?_, fun hinterrupted => ?_⟩
  · cases hended.1
  · exact absurd (interrupted_single.1 hinterrupted) (by decide)

/-- The peer closes without having sent anything, and the local side still finds itself connected. -/
theorem connected_after_close : ∃ o visits l', Session (line 3) (@LineCall.perform _ .lp64 tcpConnection) o {} visits o
    l' ∧ ∃ v ∈ visits, v.world.Ended ∧ v.outcome = .returned (some true) ∧ ¬ Right v := by
  have hended : Line.Advances { peerClosed := true } { peerClosed := true } := ⟨⟨[], rfl, fun _ => ⟨rfl, rfl⟩⟩, rfl⟩
  have hs := Path.cons (VisitStep.mk (connected_runs rfl advances_close (Or.inr rfl)))
    (.cons (VisitStep.mk (connected_runs rfl hended (Or.inr rfl))) (.nil _))
  refine ⟨_, _, _, hs, _, List.mem_cons_of_mem _ List.mem_cons_self, ⟨rfl, rfl⟩, rfl, fun hright => ?_⟩
  have hfalse := (right_connected.1 hright).1 ⟨rfl, rfl⟩
  cases hfalse

end Examples

end SocketLibrary.Stream
