import SocketLibrary.Handshake.Queues
import SocketLibrary.Interaction.Guarantee

/-!
# Accepting with a timeout

`::accept` waits as long as no connection has been made. Where each client has a listener of its own, `accept` with a
timeout never calls it in vain: what its poll has found is still there, whatever the other clients have done in between
(`accept_never_waits`).
-/

namespace SocketLibrary.Handshake

open SocketLibrary.Interaction SocketLibrary.Posix SocketLibrary.Model

variable {ι S T R : Type} [DecidableEq ι] {k : StreamClass S T R} {dest : SockAddr → Option ι} {lfd : ι → SOCKET} {i : ι}

/-- What the others do between two calls of a client: they connect to its listener, and take nothing from it. -/
def Hall.Meanwhile (i : ι) (w w' : Hall ι ι) : Prop := w.made i <+: w'.made i ∧ w'.taken i = w.taken i

omit [DecidableEq ι] in
theorem Hall.Waiting.meanwhile {w w' : Hall ι ι} (h : w.Waiting i) (hothers : w.Meanwhile i w') : w'.Waiting i := by
  have hle := hothers.1.length_le
  unfold Hall.Waiting at h ⊢
  rw [hothers.2]
  omega

/-- A client accepts on its own listener, or on none. -/
def Own (lfd : ι → SOCKET) (i : ι) : Sys → Prop
  | .accept fd _ => fd = lfd i ∨ fd = -1
  | _ => True

omit [DecidableEq ι] in
theorem takenFrom_own {c : Sys} {x : Ans c} {j : ι} (hlfd : lfd.Injective) (hvalid : ∀ i, lfd i ≠ -1) (hne : j ≠ i)
    (h : Own lfd j c) : takenFrom (lfd i) (linksBy ⟨c, x⟩) = [] := by
  cases c with
  | accept fd length =>
    have hfd : fd ≠ lfd i := by
      rcases h with rfl | rfl
      · exact hlfd.ne hne
      · exact (hvalid i).symm
    unfold linksBy
    simp only
    split_ifs
    · rfl
    · simp [takenFrom, hfd]
  | select nfds fd t =>
    unfold linksBy
    simp only
    split_ifs
    · rfl
    · rfl
  | connect fd address length =>
    unfold linksBy
    simp only
    split_ifs
    · rfl
    · rfl
  | _ => rfl

theorem hall_guarantees {truthful : Prop} (hlfd : lfd.Injective) (hvalid : ∀ i, lfd i ≠ -1) :
    Guarantees (hall truthful dest lfd : ι → Env Sys Ans (Hall ι ι)) Hall.Meanwhile fun i _ => Own lfd i := by
  constructor
  · intro i w
    exact ⟨List.prefix_rfl, rfl⟩
  · intro i w w' w'' h h'
    exact ⟨h.1.trans h'.1, h'.2.trans h.2⟩
  · intro i w w' c _ h
    exact h
  · intro i j c w x w' hne hown hc
    have hstep := hall_step hlfd hc
    refine ⟨⟨_, (hstep.made i).symm⟩, ?_⟩
    rw [hstep.taken, takenFrom_own hlfd hvalid hne hown]
    simp

/-! ## One call -/

/-- The listener of a client, if it has not been closed. -/
def Listens (k : StreamClass S T R) (fd : SOCKET) (o : S) : Prop := k.listener o = fd ∨ k.listener o = -1

omit [DecidableEq ι] in
theorem may_own {c : HallCall R T} {o : S} (ho : Listens k (lfd i) o) {ls : List Link} {d : Sys}
    (h : Admits (c.may k o) ls d) : Own lfd i d := by
  cases d with
  | accept fd length =>
    cases c with
    | accept timeout =>
      obtain rfl : fd = k.listener o := h.1
      exact ho
    | connect request memory => exact h.elim
    | close => exact h.elim
  | _ => trivial

/-- Whatever the client calls, it keeps to its own listener. -/
theorem perform_own {truthful : Prop} (c : HallCall R T) (o : S) (w : Hall ι ι) (ho : Listens k (lfd i) o) :
    (c.perform k).Safe ((hall truthful dest lfd i).after (Hall.Meanwhile i)) (fun _ => Own lfd i)
      (fun _ o' _ => Listens k (lfd i) o') o w := by
  have hreports := perform_reports (k := k) dest c o
  refine Prog.Safe.mono (Prog.Safe.simulate (R := fun (_ : Hall ι ι) (_ : List Link) => True) ?_ ?_ hreports trivial) ?_
  · intro d w ls x w' _ _
    exact ⟨_, rfl, trivial⟩
  · intro d w ls _ h
    exact may_own ho h
  · rintro ⟨r, o'⟩ w' ⟨ls, -, h⟩
    rcases h.listener with hsame | hclosed
    · exact ho.imp hsame.trans hsame.trans
    · exact Or.inr hclosed

/-- A connection waits where `::accept` is called. -/
def Arrived (lfd : ι → SOCKET) (i : ι) (w : Hall ι ι) : Sys → Prop
  | .accept fd _ => fd = lfd i ∧ w.Waiting i
  | _ => True

/-- What the last poll has found is still there. -/
def Remains (lfd : ι → SOCKET) (i : ι) (w : Hall ι ι) (ls : List Link) : Prop :=
  ls.getLast? = some (.found (lfd i)) → w.Waiting i

theorem remains_step {c : Sys} {x : Ans c} {w w' : Hall ι ι} {ls : List Link} (hw : Remains lfd i w ls)
    (h : (hall True dest lfd i).after (Hall.Meanwhile i) c w x w') : Remains lfd i w' (ls ++ linksBy ⟨c, x⟩) := by
  obtain ⟨w₁, hothers, hc⟩ := h
  have hw₁ : Remains lfd i w₁ ls := fun hlast => (hw hlast).meanwhile hothers
  cases c with
  | select nfds fd t =>
    obtain ⟨rfl, hpoll⟩ := hc
    unfold linksBy
    simp only
    split_ifs with hx
    · rw [List.append_nil]
      exact hw₁
    · intro hlast
      rw [List.getLast?_concat] at hlast
      obtain rfl : fd = lfd i := Link.found.inj (Option.some.inj hlast)
      rcases hpoll trivial i rfl with hminus | hzero | hwaiting
      · exact absurd (Or.inl hminus) hx
      · exact absurd (Or.inr hzero) hx
      · exact hwaiting
  | connect fd address length =>
    rcases hc with ⟨hx, rfl⟩ | ⟨rfl, l, hl, rfl⟩
    · have hnone : linksBy ⟨.connect fd address length, x⟩ = [] := if_neg hx
      rw [hnone, List.append_nil]
      exact hw₁
    · have hone : linksBy ⟨.connect fd address length, (0 : ℤ)⟩ = [.made fd address] := rfl
      intro hlast
      rw [hone, List.getLast?_concat] at hlast
      cases hlast
  | accept fd length =>
    rcases hc with ⟨hx, rfl⟩ | ⟨hx, l, rfl, hwaiting, rfl⟩
    · have hnone : linksBy ⟨.accept fd length, x⟩ = [] := if_pos hx
      rw [hnone, List.append_nil]
      exact hw₁
    · have hone : linksBy ⟨.accept (lfd l) length, x⟩ = [.taken (lfd l) (Accepted.fd x)] := if_neg hx
      intro hlast
      rw [hone, List.getLast?_concat] at hlast
      cases hlast
  | _ =>
    obtain rfl : w' = w₁ := hc
    rw [linksBy_apart (by trivial), List.append_nil]
    exact hw₁

/-- With a timeout, `accept` calls `::accept` only when a connection has arrived. -/
theorem accept_arrived {timeout : ℤ} (htimeout : 0 < timeout) (o : S) (w : Hall ι ι) (ho : Listens k (lfd i) o) :
    ((HallCall.accept timeout : HallCall R T).perform k).Safe ((hall True dest lfd i).after (Hall.Meanwhile i))
      (Arrived lfd i) (fun _ _ _ => True) o w := by
  have hreports := accept_reports (k := k) dest timeout o
  refine Prog.Safe.mono (Prog.Safe.simulate (R := Remains lfd i) ?_ ?_ hreports ?_) fun _ _ _ => trivial
  · intro c w ls x w' hw hc
    exact ⟨_, rfl, remains_step hw hc⟩
  · intro c w ls hw hadmits
    cases c with
    | accept fd length =>
      obtain ⟨rfl, hlast⟩ := hadmits
      obtain ⟨hvalid, hlast⟩ := hlast htimeout
      have hfd : k.listener o = lfd i := ho.resolve_right hvalid
      rw [hfd] at hlast
      exact ⟨hfd, hw hlast⟩
    | _ => trivial
  · intro hlast
    cases hlast

/-! ## Any number of clients -/

variable {obj : ι → S} {is : List ι} {p : System ι Sys Ans (Hall ι ι) Exn S (HallCall R T) (Option T)}

/-- **With a timeout, `accept` does not wait for a connection that is not there.** -/
theorem accept_never_waits (h : Meeting k True dest lfd (.start obj {}) is p) (hlfd : lfd.Injective)
    (hvalid : ∀ i, lfd i ≠ -1) (hobj : ∀ i, k.listener (obj i) = lfd i)
    {q : Pending Sys Ans (Hall ι ι) Exn S (HallCall R T) (Option T)} (hq : (p.1 i).pending = some q) {timeout : ℤ}
    (hcall : q.call = .accept timeout) (htimeout : 0 < timeout) {fd : SOCKET} {length : ℕ}
    {rest : Accepted → Prog Sys Ans (Outcome Exn (Option T) × S)} (hrest : q.rest = .call (.accept fd length) rest) :
    fd = lfd i ∧ p.2.Waiting i := by
  have hperform : ∀ i (c : HallCall R T) o w, Listens k (lfd i) o →
      (c.perform k).Safe ((hall True dest lfd i).after (Hall.Meanwhile i)) (fun _ => Own lfd i)
        (fun _ o' _ => Listens k (lfd i) o') o w := fun i c o w => perform_own c o w
  obtain ⟨hlistens, hpath, hothers⟩ := Turns.pending (I := fun i o _ => Listens k (lfd i) o)
    (hall_guarantees hlfd hvalid) (fun i => Or.inl (hobj i)) hperform h hq
  rw [hcall, hrest] at hpath
  obtain ⟨rfl, hwaiting⟩ := (Prog.Safe.rest hpath (accept_arrived htimeout (p.1 i).obj q.world hlistens)).1
  exact ⟨rfl, hwaiting.meanwhile hothers⟩

section Examples

/-- The descriptors of two sockets that listen. -/
def doorFd : Bool → SOCKET
  | false => 3
  | true => 4

def doorAt (fd : SOCKET) : Option Bool := if fd = 3 then some false else if fd = 4 then some true else none

theorem doorAt_iff (fd : SOCKET) (i : Bool) : doorAt fd = some i ↔ doorFd i = fd := by
  unfold doorAt
  split_ifs with h3 h4
  · cases i <;> simp [doorFd, h3]
  · cases i <;> simp [doorFd, h4]
  · cases i
    · simp [doorFd, Ne.symm h3]
    · simp [doorFd, Ne.symm h4]

theorem doorFd_injective : doorFd.Injective := by
  intro i j h
  cases i <;> cases j <;> simp_all [doorFd]

section Class

variable (k : StreamClass S T R) (dest : SockAddr → Option Bool) (doorkeeper : Bool → S)

/-- A client without a call under way begins the call beside its name. -/
def doors (turns : List (Bool × HallCall R T)) : System Bool Sys Ans (Hall Bool Bool) Exn S (HallCall R T) (Option T) :=
  System.exec (fun i c w => w.serve dest doorAt i c) (fun _ => HallCall.perform k) turns (.start doorkeeper {})

theorem doors_turns (turns : List (Bool × HallCall R T)) :
    Meeting k True dest doorFd (.start doorkeeper {}) (turns.map Prod.fst) (doors k dest doorkeeper turns) :=
  System.exec_turns (fun i c w => w.serve_hall True dest doorAt_iff i c) turns _

end Class

/-- They listen at the paths `a` and `b`. -/
def pathDoor (address : SockAddr) : Option Bool :=
  if address = pathAddress [97] then some false else if address = pathAddress [98] then some true else none

def pathKeeper (i : Bool) : IPCServerSocket := ⟨doorFd i, if i then [98] else [97]⟩

/-- They listen at the ports 80 and 81. -/
def doorAddress (i : Bool) : SocketAddress := SocketAddress.zero.setSinPort (htons (if i then 81 else 80))

def portDoor (address : SockAddr) : Option Bool :=
  if address = .inet (doorAddress false) then some false else if address = .inet (doorAddress true) then some true else none

def portKeeper (i : Bool) : TCPServerSocket := ⟨if i then 81 else 80, .IPV4, doorAddress i, doorFd i⟩

/-- One client connects to the other, which has begun to accept before, and polls afterwards. -/
def acceptConnectPoll (request : R) (memory : T) : List (Bool × HallCall R T) :=
  [(false, .accept 1)] ++ List.replicate 4 (true, .connect request memory) ++ [(false, .accept 1)]

theorem accept_never_waits_polled :
    (3 = doorFd false ∧ (doors ipcClass pathDoor pathKeeper (acceptConnectPoll [97] ⟨0, []⟩)).2.Waiting false) ∧
      3 = doorFd false ∧ (doors tcpClass portDoor portKeeper
        (acceptConnectPoll (.address (doorAddress false)) ⟨0, [], 0, .Any, .zero⟩)).2.Waiting false := by
  constructor
  · exact accept_never_waits (doors_turns ipcClass pathDoor pathKeeper _) doorFd_injective (by decide) (fun _ => rfl) rfl
      rfl (by decide : (0 : ℤ) < 1) rfl
  · exact accept_never_waits (doors_turns tcpClass portDoor portKeeper _) doorFd_injective (by decide) (fun _ => rfl) rfl
      rfl (by decide : (0 : ℤ) < 1) rfl

end Examples

end SocketLibrary.Handshake
