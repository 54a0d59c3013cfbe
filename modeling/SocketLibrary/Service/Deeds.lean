import SocketLibrary.Exchange.Transmission
import SocketLibrary.Protocol.Threads
import SocketLibrary.Service.Network
import SocketLibrary.Service.Silence

/-!
# What the threads do

A thread of the service constructs objects of all classes, accepts connections, talks over them, sends and receives
datagrams, closes and destroys the objects. Each of these keeps to the descriptors of the thread (`deed_safe`), so that what holds of lawful calls holds in
every run.
-/

namespace SocketLibrary.Service

open SocketLibrary.Interaction SocketLibrary.Posix SocketLibrary.Model SocketLibrary.Stream SocketLibrary.Exchange
open SocketLibrary.Protocol SocketLibrary.Descriptors

variable {dm : DataModel}

/-- An action that does not send or read over a connection. -/
def Plain : Action dm → Prop
  | .call _ m => ∀ c, Apart (m c)
  | _ => True

inductive Deed (dm : DataModel) where
  | act (a : Action dm) (h : Plain a)
  | talk (i : ℕ) (c : TalkCall dm)

/-- The classes whose objects are connections. -/
def connectionOf : (c : SocketClass) → Option (Connection c.Obj)
  | .tcpSocket => some tcpConnection
  | .streamIPCSocket => some streamIPCConnection
  | _ => none

/-- There is nothing to talk over in a variable without a connection. -/
def Deed.perform (fuel : ℕ) : Deed dm → M Store Reply
  | act a _ => do
    a.perform
    return .done
  | talk i c => fun t => match t i with
    | none => .pure (.returned .done, t)
    | some ⟨d, o⟩ => match connectionOf d with
      | none => .pure (.returned .done, t)
      | some k => (c.perform k fuel o).bind fun p => .pure (p.1, Function.update t i (some ⟨d, p.2⟩))

/-! ## The calls of a deed -/

section Calls

variable {fuel : ℕ}

theorem plain_silent (a : Action dm) (h : Plain a) : Silent a.perform := by
  have hpart : ∀ {S α β : Type} {m : M S α} (o : S) (g : Outcome Exn α × S → β), Silent m →
      ((m o).bind fun p => .pure (g p)).Always Mute fun _ => True :=
    fun o g hm => Prog.always_bind.2 (Prog.Always.mono (hm o) (fun _ hc => hc) fun _ _ => trivial)
  intro t
  cases a with
  | construct i m memory => exact hpart memory _ (construction_silent m)
  | call i m =>
    unfold Method.Always
    cases ht : t i with
    | none =>
      simp only [Action.perform, ht]
      trivial
    | some e =>
      simp only [Action.perform, ht]
      exact hpart e.2 _ (call_silent _ (h e.1))
  | accept i j timeout =>
    unfold Method.Always
    cases ht : t i with
    | none =>
      simp only [Action.perform, ht]
      trivial
    | some e =>
      cases haccept : acceptOf timeout e.1 with
      | none =>
        simp only [Action.perform, ht, haccept]
        trivial
      | some m =>
        simp only [Action.perform, ht, haccept]
        exact hpart e.2 _ (accept_silent m.2)
  | destroy i => trivial

variable {S : Type} {k : Connection S} {o : S} {P : Sys → Prop}

/-- The calls of all methods of a connection but `close`. -/
theorem talk_always (hselect : ∀ nfds t, P (.select nfds (k.socket o) t))
    (hsend : ∀ message length flags, P (.send (k.socket o) message length flags))
    (hrecv : ∀ offset length flags, P (.recv (k.socket o) offset length flags)) {c : TalkCall dm} (hc : c ≠ .close) :
    (c.perform k fuel).Always P o fun _ o' => o' = o := by
  have hthis : ∀ m : S → M S Reply, Method.Within P (m o) →
      (Method.this >>= m).Always P o fun _ o' => o' = o := fun m hm => Method.always_bind.2 (hm o)
  cases c with
  | send message hlength flags => exact hthis _ (.bind (.call (hsend _ _ _)) fun _ => .pure _)
  | read c => exact hthis _ (.bind (c.perform_within hselect (fun _ _ => hrecv _ _ _) fuel) fun _ => .pure _)
  | ready timeout => exact hthis _ (.bind (Steps.ready_within hselect timeout) fun _ => .pure _)
  | connected timeout => exact hthis _ (.bind (Steps.connected_within hselect timeout) fun _ => .pure _)
  | close => exact absurd rfl hc

end Calls

/-! ## They are lawful -/

section Lawful

variable {K w : Table Unit} {t : Store} {fuel : ℕ}

theorem talk_safe {d : SocketClass} {o : d.Obj} {k : Connection d.Obj} (hk : connectionOf d = some k) (hK : Kept K w)
    (h : Owned K d o w) (c : TalkCall dm) : Sound (c.perform k fuel) (fun _ o' w' => Held K d o' w') o w := by
  have hclass : k.socket o = d.stored o ∧ Sound k.close (fun _ o' w' => Held K d o' w') o w ∧
      ∀ s, Suits d o s → s.type = SOCK_STREAM ∧ s.stage = .connected := by
    cases d with
    | tcpSocket =>
      obtain rfl := Option.some.inj hk
      exact ⟨rfl, call_safe hK h (.tcpClose : Call dm .tcpSocket), fun _ hs => hs⟩
    | streamIPCSocket =>
      obtain rfl := Option.some.inj hk
      exact ⟨rfl, call_safe hK h (.streamIPCClose : Call dm .streamIPCSocket), fun _ hs => hs⟩
    | _ => cases hk
  obtain ⟨hstored, hclose, hsuits⟩ := hclass
  by_cases hc : c = .close
  · subst hc
    exact hclose.seq fun _ _ _ h => h
  · have hlawful : ∀ call, descriptors.target call = {k.socket o} →
        (∀ s : Sock, s.type = SOCK_STREAM ∧ s.stage = .connected → Accepts call s) → Lawful () w call := by
      intro call htarget haccepts
      rw [hstored] at htarget
      exact h.lawful htarget fun s hs => haccepts s (hsuits s hs)
    have halways : (c.perform k fuel).Always (fun call => Still call ∧ Lawful () w call) o fun _ o' => o' = o := by
      refine talk_always ?_ ?_ ?_ hc
      · intro nfds t
        refine ⟨trivial, hlawful _ rfl fun s hs => ?_⟩
        show s.stage ≠ .fresh
        rw [hs.2]
        decide
      · intro message length flags
        exact ⟨trivial, hlawful _ rfl fun s hs => ⟨hs.2, hs.1⟩⟩
      · intro offset length flags
        exact ⟨trivial, hlawful _ rfl fun s hs => ⟨hs.2, hs.1⟩⟩
    refine held_of_still hK h (Method.Safe.of_always (J := fun w' => w' = w) halways ?_ ?_ rfl)
    · rintro call w' hcall rfl
      exact hcall.2
    · rintro call w' x w'' hcall rfl hx
      exact custody_still hcall.1 hx

/-- **One deed.** -/
theorem deed_sound (a : Deed dm) (h : Orderly t w) : Sound (a.perform fuel) (fun _ t' w' => Orderly t' w') t w := by
  cases a with
  | act a hplain => exact (action_safe a h).seq fun _ _ _ h => h
  | talk i c =>
    unfold Sound Method.Safe
    cases ht : t i with
    | none =>
      simp only [Deed.perform, ht]
      exact h
    | some e =>
      obtain ⟨d, o⟩ := e
      cases hk : connectionOf d with
      | none =>
        simp only [Deed.perform, ht, hk]
        exact h
      | some k =>
        simp only [Deed.perform, ht, hk]
        exact h.method ht (talk_safe hk (kept_without w (d.stored o)) (owned_without (h.owned i _ ht)) c) id

variable {ι : Type} [DecidableEq ι] {truthful : Prop}

/-- One thread of the network. -/
theorem deed_safe (i : ι) (a : Deed dm) {w : Network ι} (h : Orderly t (own i w.table)) :
    (a.perform fuel).Safe ((network truthful i).after (Undisturbed i)) (fun w c => Lawful i w.table c)
      (fun _ t' w' => Orderly t' (own i w'.table)) t w := by
  have hsafe : (a.perform fuel t).Safe ((network truthful i).after (Undisturbed i)) (fun w c => Lawful i w.table c)
      (fun p w' => ∃ v, v = own i w'.table ∧ Orderly p.2 v) w := by
    refine Prog.Safe.simulate (R := fun (w : Network ι) v => v = own i w.table) ?_ ?_ (deed_sound a h) rfl
    · rintro c w v x w' rfl ⟨w₁, hothers, hc⟩
      exact ⟨own i w'.table, hothers.own ▸ own_step hc.1, rfl⟩
    · rintro c w v rfl hc
      exact own_lawful.1 hc
  refine Prog.Safe.mono hsafe ?_
  rintro p w' ⟨v, rfl, hp⟩
  exact hp

end Lawful

end SocketLibrary.Service
