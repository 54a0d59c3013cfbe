import SocketLibrary.Protocol.Classes

/-!
# Any number of threads

Threads of one process that construct objects of the six classes, call their methods, accept connections and destroy the
objects, in any interleaving of their system calls, where the numbers of closed descriptors are given out again. Objects
are not copied, and no two threads use the same one. Then every call is on a descriptor that the thread has opened itself
and that is open, at a stage at which the socket takes the call, or on `-1` (`threads_lawful`): nothing is closed twice or
used after it was closed, and no thread touches what another one has opened.
-/

namespace SocketLibrary.Protocol

open SocketLibrary.Interaction SocketLibrary.Posix SocketLibrary.Model SocketLibrary.Descriptors

/-! ## The objects of a thread -/

/-- An object of some class. -/
abbrev Object := (c : SocketClass) × c.Obj

def Object.stored (e : Object) : SOCKET := e.1.stored e.2

/-- The objects of a thread, by the variables that hold them. -/
abbrev Store := ℕ → Option Object

/-- What a thread can do. A constructor starts from any memory; for the object in a variable there is a method of its
class. -/
inductive Action (dm : DataModel) where
  | construct (i : ℕ) {c : SocketClass} (m : Construction c) (memory : c.Obj)
  | call (i : ℕ) (m : (c : SocketClass) → Call dm c)
  | accept (i j : ℕ) (timeout : ℤ)
  | destroy (i : ℕ)

/-- `accept` of the classes that have it. -/
def acceptOf (timeout : ℤ) : (c : SocketClass) → Option ((d : SocketClass) × Accept c d)
  | .tcpServerSocket => some ⟨.tcpSocket, .tcp timeout⟩
  | .ipcServerSocket => some ⟨.streamIPCSocket, .ipc timeout⟩
  | _ => none

variable {dm : DataModel}

/-- There is no object after an exception in the constructor. -/
def Store.constructed (t : Store) (i : ℕ) {c : SocketClass} : Outcome Exn Unit × c.Obj → Outcome Exn Unit × Store
  | (.returned _, o) => (.returned (), Function.update t i (some ⟨c, o⟩))
  | (.threw e, _) => (.threw e, Function.update t i none)
  | (.running, _) => (.running, Function.update t i none)

def Store.accepted (t : Store) (i j : ℕ) {c d : SocketClass} : Outcome Exn d.Obj × c.Obj → Outcome Exn Unit × Store
  | (.returned a, o) => (.returned (), Function.update (Function.update t i (some ⟨c, o⟩)) j (some ⟨d, a⟩))
  | (.threw e, o) => (.threw e, Function.update t i (some ⟨c, o⟩))
  | (.running, o) => (.running, Function.update t i (some ⟨c, o⟩))

def Action.perform : Action dm → M Store Unit
  | construct i m memory => fun t => (m.perform memory).bind fun p => .pure (t.constructed i p)
  | call i m => fun t => match t i with
    | none => .pure (.returned (), t)
    | some ⟨c, o⟩ => ((m c).perform o).bind fun p => .pure (p.1, Function.update t i (some ⟨c, p.2⟩))
  | accept i j timeout => fun t => match t i with
    | none => .pure (.returned (), t)
    | some ⟨c, o⟩ => match acceptOf timeout c with
      | none => .pure (.returned (), t)
      | some ⟨_, m⟩ => (m.perform o).bind fun p => .pure (t.accepted i j p)
  | destroy i => Method.modify fun t => Function.update t i none

/-- Every object stores a descriptor of its own, or `-1`. -/
structure Orderly (t : Store) (w : Table Unit) : Prop where
  owned : ∀ i e, t i = some e → Owned (fun _ => none) e.1 e.2 w
  apart : ∀ i j e e', i ≠ j → t i = some e → t j = some e' → e.stored = e'.stored → e.stored = -1

/-! ## What one action does -/

section Actions

variable {t : Store} {K w w' : Table Unit}

/-- One variable is written: the objects in the others store what `K` holds. -/
theorem Orderly.update (h : Orderly t w) {i : ℕ}
    (hothers : ∀ j e, j ≠ i → t j = some e → e.stored ≠ -1 → K e.stored = w e.stored) (hK : Kept K w')
    {new : Option Object} (hnew : ∀ e, new = some e → Owned K e.1 e.2 w') : Orderly (Function.update t i new) w' := by
  have hentry : ∀ j e, j ≠ i → t j = some e → e.stored ≠ -1 → ∃ s, K e.stored = some ((), s) ∧ Suits e.1 e.2 s := by
    intro j e hj he hstored
    obtain ⟨s, hs, hsuits⟩ := (h.owned j e he).resolve_left hstored
    exact ⟨s, (hothers j e hj he hstored).trans hs.mine, hsuits⟩
  have hnone : ∀ e, new = some e → e.stored ≠ -1 → K e.stored = none := by
    intro e he hstored
    obtain ⟨s, hs, -⟩ := (hnew e he).resolve_left hstored
    exact hs.other
  constructor
  · intro j e he
    by_cases hj : j = i
    · subst hj
      rw [Function.update_self] at he
      exact (hnew e he).imp_right fun ⟨s, hs, hsuits⟩ => ⟨s, ⟨rfl, hs.mine⟩, hsuits⟩
    · rw [Function.update_of_ne hj] at he
      by_cases hstored : e.stored = -1
      · exact Or.inl hstored
      · obtain ⟨s, hs, hsuits⟩ := hentry j e hj he hstored
        exact Or.inr ⟨s, ⟨rfl, hK _ _ hs⟩, hsuits⟩
  · intro j j' e e' hne he he' hsame
    by_contra hstored
    by_cases hj : j = i
    · subst hj
      rw [Function.update_self] at he
      rw [Function.update_of_ne (Ne.symm hne)] at he'
      obtain ⟨s, hs, -⟩ := hentry j' e' (Ne.symm hne) he' (hsame ▸ hstored)
      rw [← hsame, hnone e he hstored] at hs
      cases hs
    · rw [Function.update_of_ne hj] at he
      by_cases hj' : j' = i
      · subst hj'
        rw [Function.update_self] at he'
        obtain ⟨s, hs, -⟩ := hentry j e hj he hstored
        rw [hsame, hnone e' he' (hsame ▸ hstored)] at hs
        cases hs
      · rw [Function.update_of_ne hj'] at he'
        exact hstored (h.apart j j' e e' hne he he' hsame)

theorem Orderly.kept (h : Orderly t w) (hK : Kept w w') : Orderly t w' :=
  ⟨fun i e he => (h.owned i e he).kept hK, h.apart⟩

/-- The table without the descriptor of an object. -/
def without (w : Table Unit) (fd : SOCKET) : Table Unit := Function.update w fd none

theorem kept_without (w : Table Unit) (fd : SOCKET) : Kept (without w fd) w := by
  intro fd' p hp
  unfold without at hp
  by_cases h : fd' = fd
  · rw [h, Function.update_self] at hp
    cases hp
  · rwa [Function.update_of_ne h] at hp

theorem owned_without {c : SocketClass} {o : c.Obj} (h : Owned (fun _ => none) c o w) :
    Owned (without w (c.stored o)) c o w :=
  h.imp_right fun ⟨s, hs, hsuits⟩ => ⟨s, ⟨Function.update_self _ _ _, hs.mine⟩, hsuits⟩

/-- A method of the object in a variable. -/
theorem Orderly.method (h : Orderly t w) {i : ℕ} {c : SocketClass} {o : c.Obj} (ht : t i = some ⟨c, o⟩) {α β : Type}
    {m : M c.Obj α} (hm : Sound m (fun _ o' w' => Held (without w (c.stored o)) c o' w') o w)
    (g : Outcome Exn α → Outcome Exn β) :
    ((m o).bind fun p => .pure (g p.1, Function.update t i (some ⟨c, p.2⟩))).Safe (custody ()) (Lawful ())
      (fun q w' => Orderly q.2 w') w := by
  refine Method.safe_part.2 (hm.mono ?_)
  rintro r o' w' ⟨hK, howned⟩
  refine h.update ?_ hK fun e he => ?_
  · intro j e hj he hstored
    refine Function.update_of_ne ?_ _ _
    intro hsame
    exact hstored (h.apart j i e ⟨c, o⟩ hj he ht hsame)
  · obtain rfl := Option.some.inj he
    exact howned

/-- **One action.** -/
theorem action_safe (a : Action dm) (h : Orderly t w) : Sound a.perform (fun _ t' w' => Orderly t' w') t w := by
  unfold Sound Method.Safe
  cases a with
  | construct i m memory =>
    refine Method.safe_part.2 ((construction_safe (Kept.refl w) m memory).mono ?_)
    rintro r o' w' ⟨hK, hreturned⟩
    cases r with
    | returned u =>
      refine h.update (fun _ _ _ _ _ => rfl) hK fun e he => ?_
      obtain rfl := Option.some.inj he
      exact hreturned u rfl
    | threw e => exact h.update (fun _ _ _ _ _ => rfl) hK fun _ he => by cases he
    | running => exact h.update (fun _ _ _ _ _ => rfl) hK fun _ he => by cases he
  | call i m =>
    cases ht : t i with
    | none =>
      simp only [Action.perform, ht]
      exact h
    | some e =>
      obtain ⟨c, o⟩ := e
      simp only [Action.perform, ht]
      exact h.method ht (call_safe (kept_without w (c.stored o)) (owned_without (h.owned i _ ht)) (m c)) id
  | accept i j timeout =>
    cases ht : t i with
    | none =>
      simp only [Action.perform, ht]
      exact h
    | some e =>
      obtain ⟨c, o⟩ := e
      cases haccept : acceptOf timeout c with
      | none =>
        simp only [Action.perform, ht, haccept]
        exact h
      | some m =>
        obtain ⟨d, m⟩ := m
        simp only [Action.perform, ht, haccept]
        refine Method.safe_part.2 ((accept_safe (h.owned i _ ht) m).mono ?_)
        rintro r o' w' ⟨⟨ho, hK⟩, hreturned⟩
        have hsame : Function.update t i (some ⟨c, o'⟩) = t := by rw [ho, ← ht, Function.update_eq_self]
        unfold Store.accepted
        cases r with
        | returned a =>
          simp only [hsame]
          refine h.update (fun _ _ _ _ _ => rfl) hK fun e he => ?_
          obtain rfl := Option.some.inj he
          exact hreturned a rfl
        | threw e =>
          simp only [hsame]
          exact h.kept hK
        | running =>
          simp only [hsame]
          exact h.kept hK
  | destroy i => exact h.update (fun _ _ _ _ _ => rfl) (Kept.refl w) fun _ he => by cases he

end Actions

/-! ## The threads -/

section Threads

variable {ι : Type} [DecidableEq ι]

/-- One thread among others that leave its descriptors alone. -/
theorem thread_safe (i : ι) (a : Action dm) {t : Store} {w : Table ι} (h : Orderly t (own i w)) :
    a.perform.Safe ((custody i).after fun w w' => own i w' = own i w) (Lawful i)
      (fun _ t' w' => Orderly t' (own i w')) t w := by
  have hsafe : (a.perform t).Safe ((custody i).after fun w w' => own i w' = own i w) (Lawful i)
      (fun p w' => ∃ v, v = own i w' ∧ Orderly p.2 v) w := by
    refine Prog.Safe.simulate (R := fun w v => v = own i w) ?_ ?_ (action_safe a h) rfl
    · rintro c w v x w' rfl ⟨w₁, hothers, hc⟩
      exact ⟨own i w', hothers ▸ own_step hc, rfl⟩
    · rintro c w v rfl hc
      exact own_lawful.1 hc
  refine Prog.Safe.mono hsafe ?_
  rintro p w' ⟨v, rfl, hp⟩
  exact hp

variable {w₀ : Table ι} {is : List ι} {p : System ι Sys Ans (Table ι) Exn Store (Action dm) Unit}

/-- **Threads keep to their own descriptors.** -/
theorem threads_lawful (h : Turns (fun i : ι => custody i) (fun _ => (Action.perform : Action dm → M Store Unit))
      (.start (fun _ _ => none) w₀) is p) (i : ι) :
    (∀ c, (p.1 i).Calls c → Lawful i p.2 c) ∧
      ((p.1 i).pending = none → ∀ n e, (p.1 i).obj n = some e →
        e.stored = -1 ∨ ∃ s, p.2 e.stored = some (i, s) ∧ Suits e.1 e.2 s) := by
  have hstart : ∀ i : ι, Orderly (fun _ => none) (own i w₀) := by
    intro i
    constructor
    · rintro n e ⟨⟩
    · rintro n n' e e' - ⟨⟩
  have hperform : ∀ (i : ι) (a : Action dm) t w, Orderly t (own i w) →
      a.perform.Safe ((custody i).after fun w w' => own i w' = own i w) (Lawful i)
        (fun _ t' w' => Orderly t' (own i w')) t w := fun i a _ _ ho => thread_safe i a ho
  constructor
  · exact Turns.lawful (I := fun i t w => Orderly t (own i w)) custody_guarantees hstart hperform h i
  · intro hidle n e he
    obtain ⟨horderly, hsame⟩ :=
      Turns.settled (I := fun i t w => Orderly t (own i w)) custody_guarantees hstart hperform h i hidle
    refine (horderly.owned n e he).imp_right fun ⟨s, hs, hsuits⟩ => ⟨s, ?_, hsuits⟩
    have hmine := hs.mine
    rw [← hsame] at hmine
    exact own_eq_some.1 hmine

end Threads

section Examples

/-- The first descriptor that is not open. -/
def unused {ι : Type} (w : Table ι) : ℤ := (([0, 1, 2, 3] : List ℤ).find? fun fd => (w fd).isNone).getD (-1)

/-- A system that grants what it can. -/
def grant {ι : Type} (i : ι) (c : Sys) (w : Table ι) : Ans c × Table ι := match c with
  | .socket domain type _ =>
    let fd := unused w
    if 0 ≤ fd ∧ (w fd).isNone then (fd, Function.update w fd (some (i, ⟨domain, type, .fresh⟩))) else (-1, w)
  | .bind fd .. => if fd = -1 then (-1, w) else (0, w.advance fd .bound)
  | .listen fd _ => if fd = -1 then (-1, w) else (0, w.advance fd .listening)
  | .connect fd .. => if fd = -1 then (-1, w) else (0, w.advance fd .connected)
  | .close fd => ((), if fd = -1 then w else Function.update w fd none)
  | c => (refuse c, w)

theorem grant_custody {ι : Type} (i : ι) (c : Sys) (w : Table ι) : custody i c w (grant i c w).1 (grant i c w).2 := by
  cases c with
  | socket domain type protocol =>
    unfold grant
    simp only
    split_ifs with h
    · exact Or.inr ⟨h.1, Option.isNone_iff_eq_none.1 h.2, rfl⟩
    · exact Or.inl ⟨rfl, rfl⟩
  | bind fd address length =>
    unfold grant
    simp only
    split_ifs with h
    · exact Or.inl ⟨rfl, rfl⟩
    · exact Or.inr ⟨rfl, h, rfl⟩
  | listen fd backlog =>
    unfold grant
    simp only
    split_ifs with h
    · exact Or.inl ⟨rfl, rfl⟩
    · exact Or.inr ⟨rfl, h, rfl⟩
  | connect fd address length =>
    unfold grant
    simp only
    split_ifs with h
    · exact Or.inl ⟨rfl, rfl⟩
    · exact Or.inr ⟨rfl, h, rfl⟩
  | accept fd length => exact Or.inl ⟨rfl, rfl⟩
  | _ => rfl

/-- A thread without a call under way begins the action beside its name. -/
def spool (turns : List (Bool × Action .lp64)) : System Bool Sys Ans (Table Bool) Exn Store (Action .lp64) Unit :=
  System.exec grant (fun _ => Action.perform) turns (.start (fun _ _ => none) fun _ => none)

theorem spool_turns (turns : List (Bool × Action .lp64)) :
    Turns (fun i : Bool => custody i) (fun _ => (Action.perform : Action .lp64 → M Store Unit))
      (.start (fun _ _ => none) fun _ => none) (turns.map Prod.fst) (spool turns) :=
  System.exec_turns grant_custody turns _

/-- One thread listens on a path, another one connects to it; the first one is about to close its descriptor. -/
theorem threads_lawful_close :
    let listen : Action .lp64 := .construct 0 (.ipcServer [97] false 1 none) ⟨0, []⟩
    let connect : Action .lp64 := .construct 0 (.streamIPC [97]) ⟨0, []⟩
    let shut : Action .lp64 := .call 0 fun
      | .tcpSocket => .tcpClose
      | .tcpServerSocket => .tcpServerClose
      | .streamIPCSocket => .streamIPCClose
      | .ipcServerSocket => .ipcServerClose
      | .udpSocket => .udp .close
      | .datagramIPCSocket => .datagramIPC .close
    Lawful false (spool ([(false, listen), (true, connect)] ++ List.replicate 4 (false, listen) ++
      List.replicate 3 (true, connect) ++ [(false, shut)])).2 (.close 0) := by
  intro listen connect shut
  exact (threads_lawful (spool_turns _) false).1 _ (Client.calls_of_next (by decide +kernel))

end Examples

end SocketLibrary.Protocol
