import Mathlib.Tactic
import SocketLibrary.Interaction.AnyAnswer
import SocketLibrary.Model.ConnectionOrientedSocket

/-!
# One connected byte stream as an environment

The state is the list of the bytes the peer sends that have not been read yet. `recv` hands over some of the next unread
bytes, at most as many as it is asked for, or nothing; they stay unread if it peeks. `select` changes nothing. A `Peer`
says which answers of `select` are possible and whether `recv` always delivers when a byte is unread, so that the most
adverse environment and the well-behaved ones are instances of one definition.

Whatever program is run, if it does not peek, what it has consumed is what `recv` delivered to it, in this order
(`Peer.consumed`).
-/

namespace SocketLibrary.Stream

open SocketLibrary.Interaction SocketLibrary.Posix SocketLibrary.Model

/-- The flags, as an `int`, ask `recv` to peek. -/
def Peeks (flags : ℤ) : Prop := BitVec.ofInt 32 flags &&& BitVec.ofInt 32 MSG_PEEK ≠ 0

instance (flags : ℤ) : Decidable (Peeks flags) := inferInstanceAs (Decidable (_ ≠ _))

/-- A call does not peek. -/
def Consuming : Sys → Prop
  | .recv _ _ _ flags => ¬ Peeks flags
  | _ => True

/-- A call that reads peeks. -/
def Peeking : Sys → Prop
  | .recv _ _ _ flags => Peeks flags
  | _ => True

/-- The behaviour of the peer and of the system on one connection. -/
structure Peer where
  /-- `select` may answer `x` while the bytes `s` are unread. -/
  polls : Bytes → ℤ → Prop
  /-- `recv` never comes back empty-handed while a byte is unread. -/
  delivers : Prop

namespace Peer

/-- The environment: the state is the unread rest of the stream. -/
def env (P : Peer) : Env Sys Ans Bytes := fun c s => match c with
  | .select .. => fun x s' => P.polls s x ∧ s' = s
  | .recv _ _ length flags => fun x s' =>
    (x.data = [] ∧ s' = s ∧ (P.delivers → 1 ≤ length → s = [])) ∨
    (x.data ≠ [] ∧ (x.data.length : ℤ) ≤ length ∧ x.data <+: s ∧ s' = if Peeks flags then s else s.drop x.data.length)
  | _ => fun _ s' => s' = s

/-- Any answer of `select` at any time, any failure of `recv`. -/
def adverse : Peer := ⟨fun _ _ => True, False⟩

/-- `select` announces unread bytes, and `recv` delivers them. -/
def attentive : Peer := ⟨fun s x => s ≠ [] → 0 < x, True⟩

/-- The peer sends its bytes and then closes; `late m` says that what follows when `m` bytes are left, the next byte or
the end of the stream, has not arrived when `select` gives up waiting for it. At the end of the stream `select` answers
1 from then on, and `recv` has nothing to deliver. -/
def closing (late : ℕ → Bool) : Peer := ⟨fun s x => if late s.length then x ≤ 0 else x = 1, True⟩

/-- The bytes are buffered, and the peer stays open and silent: at the end `select` waits in vain. -/
def silent : Peer := closing (· == 0)

variable (P : Peer)

@[simp] theorem env_select {nfds : ℤ} {fd : SOCKET} {t : TimeVal} {s s' : Bytes} {x : ℤ} :
    P.env (.select nfds fd t) s x s' ↔ P.polls s x ∧ s' = s := Iff.rfl

@[simp] theorem env_recv {fd : SOCKET} {offset length flags : ℤ} {s s' : Bytes} {x : Received} :
    P.env (.recv fd offset length flags) s x s' ↔
      (x.data = [] ∧ s' = s ∧ (P.delivers → 1 ≤ length → s = [])) ∨
      (x.data ≠ [] ∧ (x.data.length : ℤ) ≤ length ∧ x.data <+: s ∧
        s' = if Peeks flags then s else s.drop x.data.length) := Iff.rfl

/-- A system that answers every call: `poll` computes the answers of `select`, and `recv` delivers as much as it can. -/
def serve (poll : Bytes → ℤ) (c : Sys) (s : Bytes) : Ans c × Bytes := match c with
  | .select .. => (poll s, s)
  | .recv _ _ length flags => (.bytes (s.take length.toNat), if Peeks flags then s else s.drop length.toNat)
  | .accept .. => (⟨-1, .zero, []⟩, s)
  | .close _ => ((), s)
  | .getsockname _ => ((-1, .zero), s)
  | .recvfrom .. => (⟨-1, [], .zero⟩, s)
  | .getaddrinfo .. => ((-1, []), s)
  | .inet_ntop .. => (none, s)
  | .strerror _ => ([], s)
  | .callback .. => (.returned, s)
  | .socket .. | .setsockopt .. | .connect .. | .bind .. | .listen .. | .send .. | .sendto .. | .remove .. | .errno =>
    (-1, s)

theorem serve_env (poll : Bytes → ℤ) (hpoll : ∀ s, P.polls s (poll s)) (c : Sys) (s : Bytes) :
    P.env c s (serve poll c s).1 (serve poll c s).2 := by
  cases c with
  | select nfds fd t => exact ⟨hpoll s, rfl⟩
  | recv fd offset length flags =>
    rw [env_recv]
    by_cases h : s.take length.toNat = []
    · left
      refine ⟨h, ?_, fun _ hlen => ?_⟩
      · rcases List.take_eq_nil_iff.1 h with h0 | rfl
        · simp [serve, h0]
        · simp [serve]
      · exact (List.take_eq_nil_iff.1 h).resolve_left (by omega)
    · right
      have hrest : s.drop length.toNat = s.drop (s.take length.toNat).length := by
        rw [List.drop_eq_drop_iff, List.length_take]
        simp
      refine ⟨h, ?_, List.take_prefix _ _, congrArg (if Peeks flags then s else ·) hrest⟩
      have hpos : length.toNat ≠ 0 := fun h0 => h (by simp [h0])
      have := List.length_take_le length.toNat s
      simp only [serve, Received.data]
      omega
  | _ => rfl

/-- Every program has a run, if `select` has an answer in every state. -/
theorem exists_run (poll : Bytes → ℤ) (hpoll : ∀ s, P.polls s (poll s)) {S α : Type} (m : M S α) (o : S) (s : Bytes) :
    ∃ tr r o' s', m.Runs P.env o s tr r o' s' :=
  ⟨_, _, _, _, Prog.exec_runs (P.serve_env poll hpoll) (m o) s⟩

end Peer

/-- What one call hands over of the stream. -/
def handedOver (e : Event Sys Ans Bytes) : Bytes := match e with
  | ⟨_, .recv .., x⟩ => x.data
  | _ => []

/-- What `recv` delivered in the course of a run. -/
def delivered (tr : List (Event Sys Ans Bytes)) : Bytes := tr.flatMap handedOver

@[simp] theorem delivered_nil : delivered [] = [] := rfl

@[simp] theorem delivered_append (tr tr' : List (Event Sys Ans Bytes)) :
    delivered (tr ++ tr') = delivered tr ++ delivered tr' := by
  simp [delivered]

@[simp] theorem delivered_recv (s : Bytes) (fd : SOCKET) (offset length flags : ℤ) (x : Received)
    (tr : List (Event Sys Ans Bytes)) :
    delivered (⟨s, .recv fd offset length flags, x⟩ :: tr) = x.data ++ delivered tr := rfl

@[simp] theorem delivered_select (s : Bytes) (nfds : ℤ) (fd : SOCKET) (t : TimeVal) (x : ℤ)
    (tr : List (Event Sys Ans Bytes)) : delivered (⟨s, .select nfds fd t, x⟩ :: tr) = delivered tr := rfl

/-- A call that does not peek consumes what it hands over. -/
theorem Peer.consumed_call {P : Peer} {c : Sys} {s s' : Bytes} {x : Ans c} (hc : Consuming c) (h : P.env c s x s') :
    s = handedOver ⟨s, c, x⟩ ++ s' := by
  cases c with
  | recv fd offset length flags =>
    rcases h with ⟨hx, rfl, -⟩ | ⟨-, -, ⟨rest, rfl⟩, rfl⟩
    · simp [handedOver, hx]
    · rw [if_neg hc, List.drop_left]
      rfl
  | select nfds fd t => exact h.2.symm
  | _ => exact Eq.symm h

/-- **Every run that does not peek consumes exactly what `recv` delivered.** -/
theorem Peer.consumed {P : Peer} {α : Type} {m : Prog Sys Ans α} {s s' : Bytes} {tr : List (Event Sys Ans Bytes)} {a : α}
    (h : m.Runs P.env s tr a s') (hc : ∀ e ∈ tr, Consuming e.call) : s = delivered tr ++ s' := by
  induction h with
  | pure a s => rfl
  | call hx _ ih =>
    rw [List.forall_mem_cons] at hc
    have h1 := Peer.consumed_call hc.1 hx
    rw [ih hc.2] at h1
    simpa [delivered] using h1

theorem Peer.wp_consumed {P : Peer} {S α : Type} {m : M S α} {Q : Method.Post Sys Ans Bytes Exn S α} {o : S} {s : Bytes}
    (hm : Method.Within Consuming m) (h : m.wp P.env Q o s) :
    m.wp P.env (fun tr r o' s' => Q tr r o' s' ∧ s = delivered tr ++ s') o s :=
  Method.wp_iff.2 fun tr r o' s' hr => ⟨Method.wp_iff.1 h tr r o' s' hr, Peer.consumed hr ((hm o).runs hr).1⟩

/-- A call that peeks hands over a front part of the stream, and consumes nothing. -/
theorem Peer.peeked_call {P : Peer} {c : Sys} {s s' : Bytes} {x : Ans c} (hc : Peeking c) (h : P.env c s x s') :
    s' = s ∧ handedOver ⟨s, c, x⟩ <+: s := by
  cases c with
  | recv fd offset length flags =>
    rcases h with ⟨hx, rfl, -⟩ | ⟨-, -, hfront, rfl⟩
    · exact ⟨rfl, by simp [handedOver, hx]⟩
    · exact ⟨if_pos hc, hfront⟩
  | select nfds fd t => exact ⟨h.2, List.nil_prefix⟩
  | _ => exact ⟨h, List.nil_prefix⟩

/-- A run that only peeks consumes nothing. -/
theorem Peer.peeked {P : Peer} {α : Type} {m : Prog Sys Ans α} {s s' : Bytes} {tr : List (Event Sys Ans Bytes)} {a : α}
    (h : m.Runs P.env s tr a s') (hc : ∀ e ∈ tr, Peeking e.call) : s' = s ∧ ∀ e ∈ tr, handedOver e <+: s := by
  induction h with
  | pure a s => exact ⟨rfl, by simp⟩
  | call hx _ ih =>
    rw [List.forall_mem_cons] at hc
    obtain ⟨rfl, hfront⟩ := Peer.peeked_call hc.1 hx
    obtain ⟨rfl, hrest⟩ := ih hc.2
    exact ⟨rfl, List.forall_mem_cons.2 ⟨hfront, hrest⟩⟩

theorem Peer.wp_peeked {P : Peer} {S α : Type} {m : M S α} {Q : Method.Post Sys Ans Bytes Exn S α} {o : S} {s : Bytes}
    (hm : Method.Within Peeking m) (h : m.wp P.env Q o s) :
    m.wp P.env (fun tr r o' s' => Q tr r o' s' ∧ s' = s ∧ ∀ e ∈ tr, handedOver e <+: s) o s :=
  Method.wp_iff.2 fun tr r o' s' hr => ⟨Method.wp_iff.1 h tr r o' s' hr, Peer.peeked hr ((hm o).runs hr).1⟩

end SocketLibrary.Stream
