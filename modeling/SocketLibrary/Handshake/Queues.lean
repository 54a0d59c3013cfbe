import Mathlib.Data.List.Forall2
import Mathlib.Tactic.SplitIfs
import SocketLibrary.Handshake.Listeners
import SocketLibrary.Interaction.Concurrent

/-!
# Connections between any number of clients

Each client has a listener of one of the two classes, or a copy of one; the clients connect to each other, accept
connections, with a timeout or without, and close their listeners, in any order and at the same time. The state is, for
each listening socket, the list of the connections that were made to it and the list of those that were taken from it.

`connections_account` says what the constructors and the calls of `accept` have to do with these lists.
-/

namespace SocketLibrary.Handshake

open SocketLibrary.Interaction SocketLibrary.Posix SocketLibrary.Model

/-! ## The listening sockets -/

section Sockets

variable {ι L : Type}

/-- The connections to each listening socket, and those that were taken from it: by which client, over which
descriptor. -/
structure Hall (ι L : Type) where
  made : L → List (ι × SOCKET) := fun _ => []
  taken : L → List (ι × SOCKET) := fun _ => []

/-- A connection has not been taken yet. -/
def Hall.Waiting (w : Hall ι L) (l : L) : Prop := (w.taken l).length < (w.made l).length

variable [DecidableEq L]

namespace Hall

variable (w : Hall ι L)

def join (i : ι) (l : L) (fd : SOCKET) : Hall ι L :=
  { w with made := Function.update w.made l (w.made l ++ [(i, fd)]) }

def leave (i : ι) (l : L) (fd : SOCKET) : Hall ι L :=
  { w with taken := Function.update w.taken l (w.taken l ++ [(i, fd)]) }

end Hall

/-- The sockets at the client `i`: `l` listens at the addresses that `dest` sends to it, and has the descriptor `lfd l`. A
call may be refused, and a `truthful` poll of a listening socket only finds what is there. -/
def hall (truthful : Prop) (dest : SockAddr → Option L) (lfd : L → SOCKET) (i : ι) : Env Sys Ans (Hall ι L)
  | .connect fd address _, w, x, w' =>
    x ≠ 0 ∧ w' = w ∨ x = 0 ∧ ∃ l, dest address = some l ∧ w' = w.join i l fd
  | .accept fd _, w, x, w' =>
    x.fd = -1 ∧ w' = w ∨ x.fd ≠ -1 ∧ ∃ l, lfd l = fd ∧ w.Waiting l ∧ w' = w.leave i l x.fd
  | .select _ fd _, w, x, w' => w' = w ∧ (truthful → ∀ l, lfd l = fd → x = -1 ∨ x = 0 ∨ w.Waiting l)
  | _, w, _, w' => w' = w

/-- A system that answers every call, and hands over what is there; `listenerAt` finds the socket of a descriptor. -/
def Hall.serve (dest : SockAddr → Option L) (listenerAt : SOCKET → Option L) (i : ι) (c : Sys) (w : Hall ι L) :
    Ans c × Hall ι L := match c with
  | .connect fd address _ => match dest address with
    | some l => (0, w.join i l fd)
    | none => (-1, w)
  | .accept fd _ => match listenerAt fd with
    | some l => if (w.taken l).length < (w.made l).length then (⟨7, .zero, []⟩, w.leave i l 7) else (⟨-1, .zero, []⟩, w)
    | none => (⟨-1, .zero, []⟩, w)
  | .select _ fd _ => match listenerAt fd with
    | some l => (if (w.taken l).length < (w.made l).length then 1 else 0, w)
    | none => (-1, w)
  | .socket .. => (5, w)
  | c => (refuse c, w)

theorem Hall.serve_hall (truthful : Prop) (dest : SockAddr → Option L) {lfd : L → SOCKET} {listenerAt : SOCKET → Option L}
    (hat : ∀ fd l, listenerAt fd = some l ↔ lfd l = fd) (i : ι) (c : Sys) (w : Hall ι L) :
    hall truthful dest lfd i c w (w.serve dest listenerAt i c).1 (w.serve dest listenerAt i c).2 := by
  cases c with
  | connect fd address length =>
    unfold Hall.serve
    simp only
    cases hdest : dest address with
    | some l => exact Or.inr ⟨rfl, l, hdest, rfl⟩
    | none => exact Or.inl ⟨(by decide : ¬ (-1 : ℤ) = 0), rfl⟩
  | accept fd length =>
    unfold Hall.serve
    simp only
    cases hl : listenerAt fd with
    | some l =>
      simp only
      split_ifs with hwaiting
      · exact Or.inr ⟨(by decide : ¬ (7 : ℤ) = -1), l, (hat fd l).1 hl, hwaiting, rfl⟩
      · exact Or.inl ⟨rfl, rfl⟩
    | none => exact Or.inl ⟨rfl, rfl⟩
  | select nfds fd t =>
    unfold Hall.serve
    simp only
    cases hl : listenerAt fd with
    | some l =>
      simp only
      refine ⟨rfl, fun _ l' hl' => ?_⟩
      rw [← hat fd l', hl] at hl'
      obtain rfl := Option.some.inj hl'
      split_ifs with hwaiting
      · exact Or.inr (Or.inr hwaiting)
      · exact Or.inr (Or.inl rfl)
    | none => exact ⟨rfl, fun _ _ _ => Or.inl rfl⟩
  | _ => rfl

/-! ## What a call does -/

/-- The descriptors of the connections that are made to the socket `l`. -/
def madeTo (dest : SockAddr → Option L) (l : L) : List Link → List SOCKET := List.filterMap fun
  | .made fd address => if dest address = some l then some fd else none
  | _ => none

/-- The descriptors of those that are taken from the one with the descriptor `listener`. -/
def takenFrom (listener : SOCKET) : List Link → List SOCKET := List.filterMap fun
  | .taken listener' fd => if listener' = listener then some fd else none
  | _ => none

/-- What a call of the client `i` makes of the state. -/
structure Hall.Becomes (dest : SockAddr → Option L) (lfd : L → SOCKET) (i : ι) (w : Hall ι L) (ls : List Link)
    (w' : Hall ι L) : Prop where
  made : ∀ l, w'.made l = w.made l ++ (madeTo dest l ls).map (i, ·)
  taken : ∀ l, w'.taken l = w.taken l ++ (takenFrom (lfd l) ls).map (i, ·)
  le : ∀ l, (w.taken l).length ≤ (w.made l).length → (w'.taken l).length ≤ (w'.made l).length

variable {truthful : Prop} {dest : SockAddr → Option L} {lfd : L → SOCKET} {i : ι}

theorem Hall.becomes_self {w : Hall ι L} : w.Becomes dest lfd i [] w := by
  constructor <;> simp [madeTo, takenFrom]

/-- **What a call can do.** -/
theorem hall_step (hlfd : lfd.Injective) {c : Sys} {x : Ans c} {w w' : Hall ι L}
    (h : hall truthful dest lfd i c w x w') : w.Becomes dest lfd i (linksBy ⟨c, x⟩) w' := by
  cases c with
  | connect fd address length =>
    rcases h with ⟨hx, rfl⟩ | ⟨rfl, l, hl, rfl⟩
    · have hnone : linksBy ⟨.connect fd address length, x⟩ = [] := if_neg hx
      rw [hnone]
      exact Hall.becomes_self
    · have hone : linksBy ⟨.connect fd address length, (0 : ℤ)⟩ = [.made fd address] := rfl
      rw [hone]
      constructor
      · intro l'
        by_cases hl' : l' = l
        · subst hl'
          simp [Hall.join, madeTo, hl]
        · simp [Hall.join, madeTo, hl, hl', Ne.symm hl']
      · intro l'
        simp [Hall.join, takenFrom]
      · intro l' hle
        by_cases hl' : l' = l
        · subst hl'
          simp only [Hall.join, Function.update_self, List.length_append]
          omega
        · simpa [Hall.join, hl'] using hle
  | accept fd length =>
    rcases h with ⟨hx, rfl⟩ | ⟨hx, l, rfl, hwaiting, rfl⟩
    · have hnone : linksBy ⟨.accept fd length, x⟩ = [] := if_pos hx
      rw [hnone]
      exact Hall.becomes_self
    · have hone : linksBy ⟨.accept (lfd l) length, x⟩ = [.taken (lfd l) (Accepted.fd x)] := if_neg hx
      rw [hone]
      constructor
      · intro l'
        simp [Hall.leave, madeTo]
      · intro l'
        by_cases hl' : l' = l
        · subst hl'
          simp [Hall.leave, takenFrom]
        · simp [Hall.leave, takenFrom, hl', hlfd.ne (Ne.symm hl')]
      · intro l' hle
        by_cases hl' : l' = l
        · subst hl'
          unfold Hall.Waiting at hwaiting
          simp only [Hall.leave, Function.update_self, List.length_append, List.length_singleton]
          omega
        · simpa [Hall.leave, hl'] using hle
  | select nfds fd t =>
    obtain ⟨rfl, -⟩ := h
    unfold linksBy
    simp only
    split
    · exact Hall.becomes_self
    · constructor <;> simp [madeTo, takenFrom]
  | _ =>
    obtain rfl : w' = w := h
    exact Hall.becomes_self

end Sockets

/-! ## The calls of a client -/

section Calls

variable {S T R L : Type} [DecidableEq L]

/-- A call of a client. A constructor starts from any memory. -/
inductive HallCall (R T : Type) where
  | connect (request : R) (memory : T)
  | accept (timeout : ℤ)
  | close

/-- There is no object after an exception in the constructor. -/
def constructed : Outcome Exn Unit × T → Outcome Exn (Option T)
  | (.returned _, a) => .returned (some a)
  | (.threw e, _) => .threw e
  | (.running, _) => .running

variable (k : StreamClass S T R)

def HallCall.perform : HallCall R T → M S (Option T)
  | connect request memory => fun o => (k.construct request memory).bind fun p => .pure (constructed p, o)
  | accept timeout => do
    let a ← k.accept timeout
    return some a
  | close => do
    k.close
    return none

/-- The connection to the socket `l` that a call reports, if it does. -/
def madeOf (dest : SockAddr → Option L) (l : L) : HallCall R T → Outcome Exn (Option T) → List SOCKET
  | .connect .., .returned (some a) => if dest (k.peer a) = some l then [k.socket a] else []
  | _, _ => []

/-- The connection that a call of `accept` reports to have taken from the socket `listener`: it returns its descriptor, or
its exception says that there was one. -/
def takenOf (listener : SOCKET) (o : S) : HallCall R T → Outcome Exn (Option T) → List (Option SOCKET)
  | .accept _, .returned (some a) => if k.listener o = listener then [some (k.socket a)] else []
  | .accept _, .threw e => if some e = k.unresolved ∧ k.listener o = listener then [none] else []
  | _, _ => []

/-- The descriptor is the one that was reported, if one was. -/
def Agrees (fd : SOCKET) (reported : Option SOCKET) : Prop := ∀ fd', reported = some fd' → fd' = fd

/-- What a call reports is what it has done. -/
structure Reports (dest : SockAddr → Option L) (c : HallCall R T) (o : S) (ls : List Link)
    (r : Outcome Exn (Option T)) (o' : S) : Prop where
  made : ∀ l, madeTo dest l ls = madeOf k dest l c r
  taken : ∀ listener, List.Forall₂ Agrees (takenFrom listener ls) (takenOf k listener o c r)
  listener : k.listener o' = k.listener o ∨ k.listener o' = -1

/-- Where a call may call `::accept`. -/
def HallCall.may (o : S) : HallCall R T → List Link → SOCKET → Prop
  | accept timeout => polled (k.listener o) timeout
  | _ => never

variable {k} (dest : SockAddr → Option L)

theorem connect_reports (request : R) (memory : T) (o : S) :
    Links never ((HallCall.connect request memory).perform k)
      (fun r o' ls => Reports k dest (.connect request memory) o ls r o') o [] := by
  refine Method.safe_part.2 (Method.Safe.mono (k.construct_makes request memory []) ?_)
  intro r a ls h
  cases r with
  | returned u =>
    obtain rfl : ls = [.made (k.socket a) (k.peer a)] := h
    refine ⟨fun l => ?_, fun listener => .nil, Or.inl rfl⟩
    simp only [madeTo, madeOf, constructed, List.filterMap_cons, List.filterMap_nil]
    split_ifs <;> rfl
  | threw e =>
    obtain rfl : ls = [] := h
    exact ⟨fun _ => rfl, fun _ => .nil, Or.inl rfl⟩
  | running => exact h.elim

theorem madeTo_polls {dest : SockAddr → Option L} (l : L) {polls : List Link} (h : Polls polls) (ls : List Link) :
    madeTo dest l (polls ++ ls) = madeTo dest l ls := by
  unfold madeTo
  rw [List.filterMap_append, List.filterMap_eq_nil_iff.2, List.nil_append]
  intro e he
  obtain ⟨fd, rfl⟩ := h e he
  rfl

theorem takenFrom_polls (listener : SOCKET) {polls : List Link} (h : Polls polls) (ls : List Link) :
    takenFrom listener (polls ++ ls) = takenFrom listener ls := by
  unfold takenFrom
  rw [List.filterMap_append, List.filterMap_eq_nil_iff.2, List.nil_append]
  intro e he
  obtain ⟨fd, rfl⟩ := h e he
  rfl

theorem accept_reports (timeout : ℤ) (o : S) :
    Links (polled (k.listener o) timeout) ((HallCall.accept timeout : HallCall R T).perform k)
      (fun r o' ls => Reports k dest (.accept timeout) o ls r o') o [] := by
  unfold HallCall.perform
  rw [Links, Method.safe_bind]
  refine Method.Safe.mono (k.accept_takes timeout o []) ?_
  intro r o' ls h
  cases r with
  | returned a =>
    obtain ⟨rfl, polls, hpolls, rfl⟩ := h
    rw [Method.forth_returned]
    refine ⟨fun l => ?_, fun listener => ?_, Or.inl rfl⟩
    · rw [List.nil_append, madeTo_polls l hpolls]
      rfl
    · rw [List.nil_append, takenFrom_polls listener hpolls]
      simp only [takenFrom, takenOf, List.filterMap_cons, List.filterMap_nil]
      split_ifs
      · exact .cons (fun _ hfd => (Option.some.inj hfd).symm) .nil
      · exact .nil
  | threw e =>
    obtain ⟨rfl, polls, hpolls, ⟨he, rfl⟩ | ⟨he, fd, rfl⟩⟩ := h
    · rw [Method.forth_threw, ← List.append_nil ls]
      refine ⟨fun l => ?_, fun listener => ?_, Or.inl rfl⟩
      · rw [madeTo_polls l hpolls]
        rfl
      · rw [takenFrom_polls listener hpolls, takenOf, if_neg fun h => he h.1]
        exact .nil
    · rw [Method.forth_threw, List.nil_append]
      refine ⟨fun l => ?_, fun listener => ?_, Or.inl rfl⟩
      · rw [madeTo_polls l hpolls]
        rfl
      · rw [takenFrom_polls listener hpolls]
        simp only [takenFrom, takenOf, he, true_and, List.filterMap_cons, List.filterMap_nil]
        split_ifs
        · exact .cons (fun _ hfd => by cases hfd) .nil
        · exact .nil
  | running => exact h.elim

theorem close_reports (o : S) :
    Links never ((HallCall.close : HallCall R T).perform k) (fun r o' ls => Reports k dest .close o ls r o') o [] := by
  unfold HallCall.perform
  rw [Links, Method.safe_bind]
  refine Method.Safe.mono (k.close_closes o []) ?_
  rintro r o' ls ⟨hclosed, rfl⟩
  cases r with
  | returned u => exact ⟨fun _ => rfl, fun _ => .nil, Or.inr hclosed⟩
  | threw e => exact ⟨fun _ => rfl, fun _ => .nil, Or.inr hclosed⟩
  | running => exact ⟨fun _ => rfl, fun _ => .nil, Or.inr hclosed⟩

theorem perform_reports (c : HallCall R T) (o : S) :
    Links (c.may k o) (c.perform k) (fun r o' ls => Reports k dest c o ls r o') o [] := by
  cases c with
  | connect request memory => exact connect_reports dest request memory o
  | accept timeout => exact accept_reports dest timeout o
  | close => exact close_reports dest o

end Calls

/-! ## Accounts -/

/-- The connections of some calls. -/
def links {σ : Type} (tr : List (Event Sys Ans σ)) : List Link := tr.flatMap fun e => linksBy e.act

section Accounts

variable {ι L S T R : Type} [DecidableEq ι] [DecidableEq L] {k : StreamClass S T R} {truthful : Prop}
  {dest : SockAddr → Option L} {lfd : L → SOCKET} {obj : ι → S} {is : List ι}
  {p : System ι Sys Ans (Hall ι L) Exn S (HallCall R T) (Option T)}

/-- The clients, each with a listener of the class. -/
abbrev Meeting (k : StreamClass S T R) (truthful : Prop) (dest : SockAddr → Option L) (lfd : L → SOCKET) :
    System ι Sys Ans (Hall ι L) Exn S (HallCall R T) (Option T) → List ι →
      System ι Sys Ans (Hall ι L) Exn S (HallCall R T) (Option T) → Prop :=
  Turns (hall truthful dest lfd) fun _ => HallCall.perform k

omit [DecidableEq ι] in
/-- Without anything known of the others. -/
theorem hall_relies : Relies (hall truthful dest lfd : ι → Env Sys Ans (Hall ι L)) fun _ _ _ => True :=
  ⟨fun _ _ => trivial, fun _ _ _ _ _ _ => trivial, fun _ _ _ _ _ _ _ _ => trivial⟩

theorem meeting_reports (h : Meeting k truthful dest lfd (.start obj {}) is p) (i : ι) :
    ∀ v ∈ (p.1 i).visits, Reports k dest v.call v.obj (links v.trace) v.outcome v.obj' := by
  obtain ⟨w, hsession, -⟩ := (Turns.history hall_relies h i).1.session (fun _ _ => True) (fun _ => trivial)
    (fun _ _ _ _ _ => trivial) fun _ _ _ _ _ => trivial
  refine (Session.invariant (I := fun _ _ => True)
    (G := fun v : Visit Sys Ans (Hall ι L) Exn S (HallCall R T) (Option T) =>
      Reports k dest v.call v.obj (links v.trace) v.outcome v.obj') ?_ hsession trivial).2
  intro c o w tr r o' w' _ hr
  have hreports := hr.post ((perform_reports dest c o).of_tally _ w)
  rw [List.nil_append] at hreports
  exact ⟨trivial, hreports⟩

@[simp] theorem links_append {σ : Type} (tr tr' : List (Event Sys Ans σ)) :
    links (tr ++ tr') = links tr ++ links tr' := List.flatMap_append

theorem links_visits {σ : Type} (vs : List (Visit Sys Ans σ Exn S (HallCall R T) (Option T))) :
    links (vs.flatMap Visit.trace) = vs.flatMap fun v => links v.trace := List.flatMap_assoc

/-- **Every connection is accounted for.** -/
theorem connections_account (h : Meeting k truthful dest lfd (.start obj {}) is p) (hlfd : lfd.Injective) (l : L) :
    (p.2.taken l).length ≤ (p.2.made l).length ∧ ∀ i,
      ((p.2.made l).filter (·.1 = i)).map Prod.snd =
        ((p.1 i).visits.flatMap fun v => madeOf k dest l v.call v.outcome) ++ madeTo dest l (links (p.1 i).underway) ∧
      List.Forall₂ Agrees (((p.2.taken l).filter (·.1 = i)).map Prod.snd)
        (((p.1 i).visits.flatMap fun v => takenOf k (lfd l) v.obj v.call v.outcome) ++
          (takenFrom (lfd l) (links (p.1 i).underway)).map some) := by
  have hreports := meeting_reports h
  constructor
  · exact Turns.account (I := fun w _ => (w.taken l).length ≤ (w.made l).length) h (Nat.le_refl _)
      fun _ _ _ _ _ _ _ hle hc => (hall_step hlfd hc).le l hle
  · intro i
    have hevents : links (p.1 i).events =
        ((p.1 i).visits.flatMap fun v => links v.trace) ++ links (p.1 i).underway := by
      rw [Client.events, links_append, links_visits]
    constructor
    · have hmade : ((p.2.made l).filter (·.1 = i)).map Prod.snd =
          (p.1 i).events.flatMap fun e => madeTo dest l (linksBy e.act) :=
        Turns.ledger (fun w : Hall ι L => w.made l) (fun a => madeTo dest l (linksBy a)) h rfl
          (fun _ _ _ _ _ hc => (hall_step hlfd hc).made l) i
      have hlinks : ((p.1 i).events.flatMap fun e => madeTo dest l (linksBy e.act)) =
          madeTo dest l (links (p.1 i).events) := (List.filterMap_flatMap).symm
      rw [hmade, hlinks, hevents, madeTo, List.filterMap_append, List.filterMap_flatMap]
      congr 1
      exact List.flatMap_congr fun v hv => (hreports i v hv).made l
    · have htaken : ((p.2.taken l).filter (·.1 = i)).map Prod.snd =
          (p.1 i).events.flatMap fun e => takenFrom (lfd l) (linksBy e.act) :=
        Turns.ledger (fun w : Hall ι L => w.taken l) (fun a => takenFrom (lfd l) (linksBy a)) h rfl
          (fun _ _ _ _ _ hc => (hall_step hlfd hc).taken l) i
      have hlinks : ((p.1 i).events.flatMap fun e => takenFrom (lfd l) (linksBy e.act)) =
          takenFrom (lfd l) (links (p.1 i).events) := (List.filterMap_flatMap).symm
      rw [htaken, hlinks, hevents, takenFrom, List.filterMap_append, List.filterMap_flatMap]
      refine List.rel_append ?_ ?_
      · rw [List.flatMap_def, List.flatMap_def]
        refine List.rel_flatten ?_
        rw [List.forall₂_map_left_iff, List.forall₂_map_right_iff, List.forall₂_same]
        exact fun v hv => (hreports i v hv).taken (lfd l)
      · rw [List.forall₂_map_right_iff, List.forall₂_same]
        exact fun fd _ _ hfd => (Option.some.inj hfd).symm

end Accounts

section Examples

/-- The descriptor of the one socket that listens. -/
def hallListener (fd : SOCKET) : Option Unit := if fd = 3 then some () else none

theorem hallListener_iff (fd : SOCKET) (l : Unit) : hallListener fd = some l ↔ (fun _ : Unit => (3 : SOCKET)) l = fd := by
  simp [hallListener, eq_comm]

section Class

variable {S T R : Type} (k : StreamClass S T R) (dest : SockAddr → Option Unit) (listener : S)

/-- Both clients have the listener; one without a call under way begins the call beside its name. -/
def meet (turns : List (Bool × HallCall R T)) : System Bool Sys Ans (Hall Bool Unit) Exn S (HallCall R T) (Option T) :=
  System.exec (fun i c w => w.serve dest hallListener i c) (fun _ => HallCall.perform k) turns
    (.start (fun _ => listener) {})

theorem meet_turns (turns : List (Bool × HallCall R T)) :
    Meeting k True dest (fun _ => 3) (.start (fun _ => listener) {}) (turns.map Prod.fst) (meet k dest listener turns) :=
  System.exec_turns (fun i c w => w.serve_hall True dest hallListener_iff i c) turns _

end Class

/-- It listens at a path. -/
def pathHall (address : SockAddr) : Option Unit := if address = pathAddress [97] then some () else none

/-- It listens at a port. -/
def portHall (address : SockAddr) : Option Unit :=
  if address = .inet (SocketAddress.zero.setSinPort (htons 80)) then some () else none

def portListener : TCPServerSocket := ⟨80, .IPV4, .zero, 3⟩

/-- One client connects, and the other one accepts the connection. -/
def connectAccept {R T : Type} (request : R) (memory : T) : List (Bool × HallCall R T) :=
  List.replicate 5 (true, .connect request memory) ++ List.replicate 5 (false, .accept 1)

-- there is no text for the address of the TCP client, so that `accept` throws and the connection is lost
theorem connections_account_one :
    let p := meet ipcClass pathHall ⟨3, [97]⟩ (connectAccept [97] ⟨0, []⟩)
    let q := meet tcpClass portHall portListener
      (connectAccept (.address (SocketAddress.zero.setSinPort (htons 80))) ⟨0, [], 0, .Any, .zero⟩)
    ((p.2.taken ()).length ≤ (p.2.made ()).length ∧ ((p.2.made ()).filter (·.1 = true)).map Prod.snd = [5] ∧
      List.Forall₂ Agrees (((p.2.taken ()).filter (·.1 = false)).map Prod.snd) [some 7]) ∧
    (q.2.taken ()).length ≤ (q.2.made ()).length ∧ ((q.2.made ()).filter (·.1 = true)).map Prod.snd = [5] ∧
      List.Forall₂ Agrees (((q.2.taken ()).filter (·.1 = false)).map Prod.snd) [none] := by
  intro p q
  have hlfd : Function.Injective fun _ : Unit => (3 : SOCKET) := fun _ _ _ => rfl
  constructor
  · obtain ⟨hle, haccount⟩ := connections_account (meet_turns ipcClass pathHall _ _) hlfd ()
    exact ⟨hle, (haccount true).1, (haccount false).2⟩
  · obtain ⟨hle, haccount⟩ := connections_account (meet_turns tcpClass portHall _ _) hlfd ()
    exact ⟨hle, (haccount true).1, (haccount false).2⟩

end Examples

end SocketLibrary.Handshake
