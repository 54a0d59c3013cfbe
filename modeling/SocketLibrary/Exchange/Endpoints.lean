import SocketLibrary.Interaction.Concurrent
import SocketLibrary.Stream.Connection
import SocketLibrary.Stream.Conservation

/-!
# Two endpoints of one connection

The state is what each side has written, how much of it the other side has read, and which sides are open. Both sides
are programs of the library: each has an object of one of the two classes of connections, and makes any calls on it in
any order, while the other side does the same. `endpoint_step` says once what a call of either side can do.
-/

namespace SocketLibrary.Exchange

open SocketLibrary.Interaction SocketLibrary.Posix SocketLibrary.Model SocketLibrary.Stream

/-! ## The connection -/

inductive Side where
  | near
  | far
  deriving DecidableEq

def Side.other : Side → Side
  | near => far
  | far => near

@[simp] theorem Side.other_other (side : Side) : side.other.other = side := by cases side <;> rfl
@[simp] theorem Side.other_ne (side : Side) : side.other ≠ side := by cases side <;> decide
@[simp] theorem Side.ne_other (side : Side) : side ≠ side.other := by cases side <;> decide

theorem Side.eq_other {side side' : Side} (h : side' ≠ side) : side' = side.other := by
  cases side <;> cases side' <;> simp_all [other]

/-- One direction: the bytes that were written into it, and how many of them were read. -/
structure Pipe where
  written : Bytes := []
  read : ℕ := 0

def Pipe.unread (p : Pipe) : Bytes := p.written.drop p.read

/-- The direction that each side writes into, and whether it has not closed. -/
structure Duplex where
  pipe : Side → Pipe := fun _ => {}
  isOpen : Side → Bool := fun _ => true

namespace Duplex

variable (w : Duplex) (side : Side)

def write (data : Bytes) : Duplex :=
  { w with pipe := Function.update w.pipe side ⟨(w.pipe side).written ++ data, (w.pipe side).read⟩ }

/-- The side reads the next `n` bytes that the other one has written. -/
def take (n : ℕ) : Duplex :=
  { w with pipe := Function.update w.pipe side.other ⟨(w.pipe side.other).written, (w.pipe side.other).read + n⟩ }

/-- The side is handed `data` by a `recv` with these flags. -/
def receive (flags : ℤ) (data : Bytes) : Duplex := if Peeks flags then w else w.take side data.length

def shut : Duplex := { w with isOpen := Function.update w.isOpen side false }

/-- The side has something to read, or has come to the end of the stream. -/
def Readable : Prop := (w.pipe side.other).unread ≠ [] ∨ w.isOpen side.other = false

/-- What the side has put into the connection and taken out of it between two states: `put` and `taken`. -/
structure Exchanged (put taken : Bytes) (w' : Duplex) : Prop where
  written : (w'.pipe side).written = (w.pipe side).written ++ put
  read : (w'.pipe side).read = (w.pipe side).read
  written_other : (w'.pipe side.other).written = (w.pipe side.other).written
  read_other : (w'.pipe side.other).read = (w.pipe side.other).read + taken.length
  taken_prefix : taken <+: (w.pipe side.other).unread
  isOpen_other : w'.isOpen side.other = w.isOpen side.other
  isOpen : w.isOpen side = false → w'.isOpen side = false

variable {w side}

theorem exchanged_self : w.Exchanged side [] [] w := ⟨by simp, rfl, rfl, rfl, List.nil_prefix, rfl, id⟩

theorem exchanged_write (data : Bytes) : w.Exchanged side data [] (w.write side data) := by
  constructor <;> simp [write]

theorem exchanged_take {data : Bytes} (h : data <+: (w.pipe side.other).unread) :
    w.Exchanged side [] data (w.take side data.length) := by
  constructor <;> simp [take, h]

theorem exchanged_receive (flags : ℤ) {data : Bytes} (h : data <+: (w.pipe side.other).unread) :
    w.Exchanged side [] (if Peeks flags then [] else data) (w.receive side flags data) := by
  unfold receive
  split
  · exact exchanged_self
  · exact exchanged_take h

theorem exchanged_shut : w.Exchanged side [] [] (w.shut side) := by
  constructor <;> simp [shut]

/-- The pipes hold what the sides have put into them, less what has been taken from the front. -/
def Balanced (w : Duplex) (put taken : Side → Bytes) : Prop := ∀ side,
  (w.pipe side).written = put side ∧ (w.pipe side).read = (taken side.other).length ∧ taken side.other <+: put side

theorem Balanced.exchanged {put taken put' taken' : Side → Bytes} {p t : Bytes} {w' : Duplex} (hw : w.Balanced put taken)
    (h : w.Exchanged side p t w') (hput : ∀ s, put' s = put s ++ if s = side then p else [])
    (htaken : ∀ s, taken' s = taken s ++ if s = side then t else []) : w'.Balanced put' taken' := by
  intro side'
  obtain ⟨hwritten, hread, hfront⟩ := hw side'
  rw [hput, htaken]
  by_cases hside : side' = side
  · subst hside
    rw [if_pos rfl, if_neg (Side.other_ne _), List.append_nil, h.written, h.read, hwritten]
    exact ⟨rfl, hread, hfront.trans (List.prefix_append _ _)⟩
  · obtain rfl := Side.eq_other hside
    rw [Side.other_other] at hread hfront ⊢
    rw [if_neg hside, if_pos rfl, List.append_nil, h.written_other, h.read_other, List.length_append, hread]
    refine ⟨hwritten, rfl, ?_⟩
    have hnext : t <+: (put side.other).drop (taken side).length := by
      rw [← hwritten, ← hread]
      exact h.taken_prefix
    obtain ⟨rest, hrest⟩ := hfront
    rw [← hrest, List.drop_left] at hnext
    rw [← hrest]
    exact (List.prefix_append_right_inj _).2 hnext

theorem Balanced.unread {put taken : Side → Bytes} (h : w.Balanced put taken) (side : Side) :
    put side = taken side.other ++ (w.pipe side).unread := by
  obtain ⟨hwritten, hread, rest, hrest⟩ := h side
  unfold Pipe.unread
  rw [hwritten, hread, ← hrest, List.drop_left]

end Duplex

/-- The connection at the end `side`, where it has the descriptor `fd`. `send` may take a part of the message only, or
fail, `recv` may come back empty-handed, and a poll may be interrupted; a `truthful` one reports an end that is readable,
and no other. -/
def endpoint (truthful : Prop) (fd : SOCKET) (side : Side) : Env Sys Ans Duplex
  | .select _ fd' _, w, x, w' => w' = w ∧ (truthful → fd' = fd → w.isOpen side = true →
      x = -1 ∨ x = 1 ∧ w.Readable side ∨ x = 0 ∧ ¬ w.Readable side)
  | .send fd' message length _, w, x, w' => x = -1 ∧ w' = w ∨ fd' = fd ∧ w.isOpen side = true ∧
      ∃ n : ℕ, x = n ∧ n ≤ message.length ∧ n ≤ length ∧ w' = w.write side (message.take n)
  | .recv fd' _ length flags, w, x, w' => x.data = [] ∧ w' = w ∨ fd' = fd ∧ w.isOpen side = true ∧
      x.data ≠ [] ∧ (x.data.length : ℤ) ≤ length ∧ x.data <+: (w.pipe side.other).unread ∧
        w' = w.receive side flags x.data
  | .close fd', w, _, w' => w' = if fd' = fd then w.shut side else w
  | _, w, _, w' => w' = w

/-- A system that answers every call of the side: a message is taken whole, and as much is read as there is. -/
def serve (fd : SOCKET) (side : Side) (c : Sys) (w : Duplex) : Ans c × Duplex := match c with
  | .select .. => (if (w.pipe side.other).unread = [] ∧ w.isOpen side.other = true then 0 else 1, w)
  | .send fd' message length _ =>
    if fd' = fd ∧ w.isOpen side = true ∧ message.length ≤ length then
      (message.length, w.write side (message.take message.length))
    else (-1, w)
  | .recv fd' _ length flags =>
    let data := (w.pipe side.other).unread.take length.toNat
    if fd' = fd ∧ w.isOpen side = true ∧ data ≠ [] then
      (.bytes data, w.receive side flags data)
    else (.error, w)
  | .close fd' => ((), if fd' = fd then w.shut side else w)
  | c => (refuse c, w)

theorem serve_endpoint (truthful : Prop) (fd : SOCKET) (side : Side) (c : Sys) (w : Duplex) :
    endpoint truthful fd side c w (serve fd side c w).1 (serve fd side c w).2 := by
  cases c with
  | select nfds fd' t =>
    refine ⟨rfl, fun _ _ _ => Or.inr ?_⟩
    unfold serve Duplex.Readable
    simp only
    split_ifs with h
    · right
      simp [h]
    · exact Or.inl ⟨rfl, (not_and_or.1 h).imp_right Bool.eq_false_iff.2⟩
  | send fd' message length flags =>
    unfold serve
    simp only
    split_ifs with h
    · exact Or.inr ⟨h.1, h.2.1, message.length, rfl, le_rfl, h.2.2, rfl⟩
    · exact Or.inl ⟨rfl, rfl⟩
  | recv fd' offset length flags =>
    unfold serve
    simp only
    split_ifs with h
    · have hle := List.length_take_le length.toNat (w.pipe side.other).unread
      have hpos : length.toNat ≠ 0 := fun h0 => h.2.2 (by simp [h0])
      refine Or.inr ⟨h.1, h.2.1, h.2.2, ?_, List.take_prefix _ _, rfl⟩
      simp only [Received.data]
      omega
    · exact Or.inl ⟨rfl, rfl⟩
  | _ => rfl

/-! ## What a call does -/

/-- The bytes that a call puts into the connection. -/
def putBy : (c : Sys) × Ans c → Bytes
  | ⟨.send _ message _ _, x⟩ => message.take (x : ℤ).toNat
  | _ => []

/-- The bytes that a call takes out of it. -/
def takenBy : (c : Sys) × Ans c → Bytes
  | ⟨.recv _ _ _ flags, x⟩ => if Peeks flags then [] else x.data
  | _ => []

/-- **What a call of a side can do.** -/
theorem endpoint_step {truthful : Prop} {fd : SOCKET} {side : Side} {c : Sys} {x : Ans c} {w w' : Duplex}
    (h : endpoint truthful fd side c w x w') : w.Exchanged side (putBy ⟨c, x⟩) (takenBy ⟨c, x⟩) w' := by
  cases c with
  | select nfds fd' t =>
    obtain ⟨rfl, -⟩ := h
    exact Duplex.exchanged_self
  | send fd' message length flags =>
    rcases h with ⟨rfl, rfl⟩ | ⟨-, -, n, rfl, -, -, rfl⟩
    · exact Duplex.exchanged_self
    · exact Duplex.exchanged_write _
  | recv fd' offset length flags =>
    rcases h with ⟨hnil, rfl⟩ | ⟨-, -, -, -, hfront, rfl⟩
    · have htaken : takenBy ⟨.recv fd' offset length flags, x⟩ = [] := (congrArg _ hnil).trans (ite_self _)
      rw [htaken]
      exact Duplex.exchanged_self
    · exact Duplex.exchanged_receive flags hfront
  | close fd' =>
    obtain rfl : w' = if fd' = fd then w.shut side else w := h
    split
    · exact Duplex.exchanged_shut
    · exact Duplex.exchanged_self
  | _ =>
    obtain rfl : w' = w := h
    exact Duplex.exchanged_self

/-- What a side puts into the connection, and takes out of it, in the course of some calls. -/
def put {σ : Type} (tr : List (Event Sys Ans σ)) : Bytes := tr.flatMap fun e => putBy e.act
def taken {σ : Type} (tr : List (Event Sys Ans σ)) : Bytes := tr.flatMap fun e => takenBy e.act

/-- What the other side may do between two calls of a side. -/
structure Duplex.Meanwhile (side : Side) (w w' : Duplex) : Prop where
  written : (w.pipe side.other).written <+: (w'.pipe side.other).written
  read : (w'.pipe side.other).read = (w.pipe side.other).read
  isOpen : w'.isOpen side = w.isOpen side
  isOpen_other : w.isOpen side.other = false → w'.isOpen side.other = false

theorem endpoint_relies (truthful : Prop) (fd : Side → SOCKET) :
    Relies (fun side => endpoint truthful (fd side) side) Duplex.Meanwhile := by
  constructor
  · intro side w
    exact ⟨List.prefix_rfl, rfl, rfl, id⟩
  · intro side w w' w'' h h'
    exact ⟨h.written.trans h'.written, h'.read.trans h.read, h'.isOpen.trans h.isOpen,
      fun hclosed => h'.isOpen_other (h.isOpen_other hclosed)⟩
  · intro side side' c w x w' hne h
    obtain rfl := Side.eq_other hne
    have hstep := endpoint_step h
    refine ⟨?_, hstep.read, ?_, hstep.isOpen⟩
    · rw [hstep.written]
      exact List.prefix_append _ _
    · simpa using hstep.isOpen_other

/-! ## The calls of a side -/

/-- A call on a connection: the messages have less than `2 ^ 31` bytes. -/
inductive TalkCall (dm : DataModel) where
  | send (message : Bytes) (hlength : message.length < 2 ^ 31) (flags : ℤ)
  | read (c : ReadCall)
  | ready (timeout : ULong dm)
  | connected (timeout : ULong dm)
  | close

/-- What a call returns. -/
inductive Reply where
  | sent (result : ℤ)
  | received (data : Bytes)
  | answered (answer : Bool)
  | done

section Calls

variable {S : Type} {dm : DataModel} (k : Connection S) (fuel : ℕ)

def TalkCall.perform : TalkCall dm → M S Reply
  | send message _ flags => do
    let this ← Method.this
    let result ← ConnectionOrientedSocket.send (k.socket this) message flags
    return .sent result
  | read c => do
    let this ← Method.this
    let data ← c.perform dm (k.socket this) fuel
    return .received data
  | ready timeout => do
    let this ← Method.this
    let answer ← ConnectionOrientedSocket.ready dm (k.socket this) timeout
    return .answered answer
  | connected timeout => do
    let this ← Method.this
    let answer ← ConnectionOrientedSocket.connected dm (k.socket this) timeout
    return .answered answer
  | close => do
    k.close
    return .done

/-- The two sides, on one connection. -/
abbrev Talk (truthful : Prop) (dm : DataModel) (fd : Side → SOCKET) :
    System Side Sys Ans Duplex Exn S (TalkCall dm) Reply → List Side →
      System Side Sys Ans Duplex Exn S (TalkCall dm) Reply → Prop :=
  Turns (fun side => endpoint truthful (fd side) side) fun _ => TalkCall.perform k fuel

/-- A call that was made. -/
abbrev TalkVisit (S : Type) (dm : DataModel) := Visit Sys Ans Duplex Exn S (TalkCall dm) Reply

end Calls

end SocketLibrary.Exchange
