import SocketLibrary.Descriptors.Containment
import SocketLibrary.Interaction.Guarantee

/-!
# Who has opened a descriptor, and what it is good for

The table of open descriptors of a process with any number of threads: which thread has opened each, and how far its
socket has come on its way from `socket` to `bind`, `listen`, `accept` or `connect`. A call is lawful for a thread if it
is on a descriptor that is open, that the thread has opened itself, and whose socket takes this call at this stage; or on
`-1`, and then it fails.

Lawful calls of a thread leave the descriptors of the others as they are, so that each thread can be seen alone, with a
table of its own (`own_step`, `custody_guarantees`).
-/

namespace SocketLibrary.Protocol

open SocketLibrary.Interaction SocketLibrary.Posix SocketLibrary.Model
open SocketLibrary.Descriptors (descriptors)

/-! ## The table -/

inductive Stage where
  | fresh
  | bound
  | listening
  | connected
  deriving DecidableEq

/-- An open socket. -/
structure Sock where
  domain : ℤ
  type : ℤ
  stage : Stage

/-- The family of an address. -/
def familyOf : SockAddr → ℤ
  | .inet address => address.sa_family.toNat
  | .un _ => AF_UNIX

/-- The calls that a socket takes at its stage. -/
def Accepts : Sys → Sock → Prop
  | .setsockopt .., s | .callback .., s => s.stage = .fresh
  | .bind _ address _, s => s.stage = .fresh ∧ s.domain = familyOf address
  | .connect _ address _, s => s.stage = .fresh ∧ s.type = SOCK_STREAM ∧ s.domain = familyOf address
  | .listen .., s => s.stage = .bound ∧ s.type = SOCK_STREAM
  | .accept .., s => s.stage = .listening ∧ s.type = SOCK_STREAM
  | .getsockname _, s => s.stage = .bound
  | .select .., s => s.stage ≠ .fresh
  | .send .., s | .recv .., s => s.stage = .connected ∧ s.type = SOCK_STREAM
  | .sendto _ _ _ _ address _, s => s.stage = .fresh ∧ s.type = SOCK_DGRAM ∧ s.domain = familyOf address
  | .recvfrom .., s => s.stage = .bound ∧ s.type = SOCK_DGRAM
  | _, _ => True

/-- The open descriptors, and who has opened each. -/
abbrev Table (ι : Type) := SOCKET → Option (ι × Sock)

namespace Table

variable {ι : Type} (w : Table ι) (fd : SOCKET) (stage : Stage)

def advance : Table ι := Function.update w fd ((w fd).map fun p => (p.1, { p.2 with stage := stage }))

/-- What `bind`, `listen` and `connect` do. -/
def Moved (x : ℤ) (w' : Table ι) : Prop := x = -1 ∧ w' = w ∨ x = 0 ∧ fd ≠ -1 ∧ w' = w.advance fd stage

variable {w fd}

theorem advance_of_none (h : w fd = none) : w.advance fd stage = w := by
  unfold advance
  rw [h, Option.map_none, ← h, Function.update_eq_self]

end Table

/-- The system, as the thread `i` sees it: it gives out descriptors that are not open. -/
def custody {ι : Type} (i : ι) : Env Sys Ans (Table ι)
  | .socket domain type _, w, fd, w' => fd = -1 ∧ w' = w ∨ 0 ≤ (fd : ℤ) ∧ w fd = none ∧
      w' = Function.update w fd (some (i, ⟨domain, type, .fresh⟩))
  | .accept .., w, x, w' => x.fd = -1 ∧ w' = w ∨ 0 ≤ x.fd ∧ w x.fd = none ∧
      ∃ domain, w' = Function.update w x.fd (some (i, ⟨domain, SOCK_STREAM, .connected⟩))
  | .bind fd .., w, x, w' => w.Moved fd .bound x w'
  | .listen fd _, w, x, w' => w.Moved fd .listening x w'
  | .connect fd .., w, x, w' => w.Moved fd .connected x w'
  | .close fd, w, _, w' => w' = if fd = -1 then w else Function.update w fd none
  | _, w, _, w' => w' = w

/-- The call is on a descriptor of the thread that takes it, or on none. -/
def Lawful {ι : Type} (i : ι) (w : Table ι) (c : Sys) : Prop :=
  ∀ fd ∈ descriptors.target c, fd = -1 ∨ ∃ s, w fd = some (i, s) ∧ Accepts c s

/-- A call that opens, moves and closes nothing. -/
def Still : Sys → Prop
  | .socket .. | .accept .. | .bind .. | .listen .. | .connect .. | .close _ => False
  | _ => True

theorem custody_still {ι : Type} {i : ι} {c : Sys} {w w' : Table ι} {x : Ans c} (hc : Still c)
    (h : custody i c w x w') : w' = w := by
  cases c with
  | socket domain type protocol => exact hc.elim
  | accept fd length => exact hc.elim
  | bind fd address length => exact hc.elim
  | listen fd backlog => exact hc.elim
  | connect fd address length => exact hc.elim
  | close fd => exact hc.elim
  | _ => exact h

/-! ## The part of one thread -/

section Own

variable {ι : Type} [DecidableEq ι] {i j : ι} {w w' : Table ι} {fd : SOCKET} {s : Sock}

/-- The descriptors that the thread `i` has opened. -/
def own (i : ι) (w : Table ι) : Table Unit := fun fd => (w fd).bind fun p => if p.1 = i then some ((), p.2) else none

theorem own_eq_some : own i w fd = some ((), s) ↔ w fd = some (i, s) := by
  unfold own
  cases hw : w fd with
  | none => simp
  | some p =>
    obtain ⟨j, t⟩ := p
    by_cases hj : j = i
    · simp [hj]
    · simp [hj]

theorem own_of_none (h : w fd = none) : own i w fd = none := by
  unfold own
  rw [h, Option.bind_none]

theorem own_of_other (hne : j ≠ i) (h : w fd = some (j, s)) : own i w fd = none := by
  unfold own
  rw [h, Option.bind_some, if_neg hne]

theorem own_update (p : Option (ι × Sock)) : own i (Function.update w fd p) =
    Function.update (own i w) fd (p.bind fun p => if p.1 = i then some ((), p.2) else none) := by
  funext fd'
  by_cases h : fd' = fd
  · subst h
    simp only [own, Function.update_self]
  · simp only [own, Function.update_of_ne h]

theorem own_advance (stage : Stage) : own i (w.advance fd stage) = (own i w).advance fd stage := by
  unfold Table.advance
  rw [own_update]
  congr 1
  unfold own
  cases hw : w fd with
  | none => rfl
  | some p =>
    obtain ⟨j, t⟩ := p
    by_cases hj : j = i
    · simp [hj]
    · simp [hj]

theorem own_moved {stage : Stage} {x : ℤ} (h : w.Moved fd stage x w') : (own i w).Moved fd stage x (own i w') := by
  rcases h with ⟨hx, rfl⟩ | ⟨hx, hfd, rfl⟩
  · exact Or.inl ⟨hx, rfl⟩
  · exact Or.inr ⟨hx, hfd, own_advance stage⟩

theorem own_lawful {c : Sys} : Lawful () (own i w) c ↔ Lawful i w c := by
  unfold Lawful
  simp only [own_eq_some]

/-- **A thread can be seen alone.** -/
theorem own_step {c : Sys} {x : Ans c} (h : custody i c w x w') : custody () c (own i w) x (own i w') := by
  cases c with
  | socket domain type protocol =>
    rcases h with ⟨hx, rfl⟩ | ⟨hx, hnone, rfl⟩
    · exact Or.inl ⟨hx, rfl⟩
    · refine Or.inr ⟨hx, own_of_none hnone, ?_⟩
      rw [own_update]
      simp
  | accept fd length =>
    rcases h with ⟨hx, rfl⟩ | ⟨hx, hnone, domain, rfl⟩
    · exact Or.inl ⟨hx, rfl⟩
    · refine Or.inr ⟨hx, own_of_none hnone, domain, ?_⟩
      rw [own_update]
      simp
  | bind fd address length => exact own_moved h
  | listen fd backlog => exact own_moved h
  | connect fd address length => exact own_moved h
  | close fd =>
    obtain rfl : w' = if fd = -1 then w else Function.update w fd none := h
    show own i _ = if fd = -1 then own i w else Function.update (own i w) fd none
    split
    · rfl
    · rw [own_update, Option.bind_none]
  | _ => exact congrArg (own i) h

theorem own_moved_of_other {stage : Stage} {x : ℤ} (hnone : fd = -1 ∨ own i w fd = none) (h : w.Moved fd stage x w') :
    own i w' = own i w := by
  rcases h with ⟨-, rfl⟩ | ⟨-, hfd, rfl⟩
  · rfl
  · rw [own_advance, Table.advance_of_none stage (hnone.resolve_left hfd)]

/-- What lawful calls of a thread do to the descriptors of another one. -/
theorem own_step_of_other {c : Sys} {x : Ans c} (hne : j ≠ i) (hc : Lawful j w c) (h : custody j c w x w') :
    own i w' = own i w := by
  have hnone : ∀ fd ∈ descriptors.target c, fd = -1 ∨ own i w fd = none := by
    intro fd hfd
    rcases hc fd hfd with h1 | ⟨s, hs, -⟩
    · exact Or.inl h1
    · exact Or.inr (own_of_other hne hs)
  cases c with
  | socket domain type protocol =>
    rcases h with ⟨-, rfl⟩ | ⟨-, hfree, rfl⟩
    · rfl
    · rw [own_update, Option.bind_some, if_neg hne, ← own_of_none hfree, Function.update_eq_self]
  | accept fd length =>
    rcases h with ⟨-, rfl⟩ | ⟨-, hfree, domain, rfl⟩
    · rfl
    · rw [own_update, Option.bind_some, if_neg hne, ← own_of_none hfree, Function.update_eq_self]
  | bind fd address length => exact own_moved_of_other (hnone fd rfl) h
  | listen fd backlog => exact own_moved_of_other (hnone fd rfl) h
  | connect fd address length => exact own_moved_of_other (hnone fd rfl) h
  | close fd =>
    obtain rfl : w' = if fd = -1 then w else Function.update w fd none := h
    by_cases hfd : fd = -1
    · rw [if_pos hfd]
    · rw [if_neg hfd, own_update, Option.bind_none, ← (hnone fd rfl).resolve_left hfd, Function.update_eq_self]
  | _ => exact congrArg (own i) h

/-- **Rely and guarantee.** -/
theorem custody_guarantees :
    Guarantees (fun i : ι => custody i) (fun i w w' => own i w' = own i w) Lawful := by
  constructor
  · intro i w
    rfl
  · intro i w w' w'' h h'
    exact h'.trans h
  · intro i w w' c h hc
    exact own_lawful.1 (h ▸ own_lawful.2 hc)
  · intro i j c w x w' hne hc h
    exact own_step_of_other hne hc h

end Own

/-! ## Rules for the calls -/

/-- The entries of `K` are still there. -/
def Kept (K w : Table Unit) : Prop := ∀ fd p, K fd = some p → w fd = some p

/-- The descriptor is open, and not one of `K`. -/
structure Mine (K w : Table Unit) (fd : SOCKET) (s : Sock) : Prop where
  other : K fd = none
  mine : w fd = some ((), s)

section Calls

variable {S α : Type} {K w w' : Table Unit} {fd : SOCKET} {s : Sock} {o : S}

/-- Such a method, of a thread that is alone. -/
abbrev Sound (m : M S α) (Q : Outcome Exn α → S → Table Unit → Prop) (o : S) (w : Table Unit) : Prop :=
  m.Safe (custody ()) (Lawful ()) Q o w

theorem safe_sys {c : Sys} {Q : Outcome Exn (Ans c) → S → Table Unit → Prop} : Sound (sys c) Q o w ↔
    Lawful () w c ∧ ∀ x w', custody () c w x w' → Q (.returned x) o w' :=
  Iff.rfl

theorem Mine.of_update (hK : Kept K w) (hnone : w fd = none) (s : Sock) :
    Kept K (Function.update w fd (some ((), s))) ∧ Mine K (Function.update w fd (some ((), s))) fd s := by
  have hother : K fd = none := by
    by_contra h
    obtain ⟨p, hp⟩ := Option.ne_none_iff_exists'.1 h
    rw [hK fd p hp] at hnone
    cases hnone
  refine ⟨?_, hother, Function.update_self _ _ _⟩
  intro fd' p hp
  have hne : fd' ≠ fd := by
    rintro rfl
    rw [hother] at hp
    cases hp
  rw [Function.update_of_ne hne]
  exact hK fd' p hp

theorem Mine.update (hK : Kept K w) (h : Mine K w fd s) (p : Option (Unit × Sock)) : Kept K (Function.update w fd p) := by
  intro fd' p' hp
  have hne : fd' ≠ fd := by
    rintro rfl
    rw [h.other] at hp
    cases hp
  rw [Function.update_of_ne hne]
  exact hK fd' p' hp

theorem Mine.moved {stage : Stage} {x : ℤ} (hK : Kept K w) (h : Mine K w fd s) (hmoved : w.Moved fd stage x w') :
    x = -1 ∧ w' = w ∨ x = 0 ∧ Kept K w' ∧ Mine K w' fd { s with stage := stage } := by
  rcases hmoved with hfail | ⟨hx, hfd, rfl⟩
  · exact Or.inl hfail
  · refine Or.inr ⟨hx, h.update hK _, h.other, ?_⟩
    unfold Table.advance
    rw [Function.update_self, h.mine]
    rfl

theorem moved_none {stage : Stage} {x : ℤ} (hmoved : w.Moved (-1) stage x w') : x = -1 ∧ w' = w := by
  rcases hmoved with hfail | ⟨-, hfd, -⟩
  · exact hfail
  · exact absurd rfl hfd

/-- A call on a descriptor of its own. -/
theorem Mine.lawful {c : Sys} (h : Mine K w fd s) (htarget : descriptors.target c = {fd}) (hc : Accepts c s) :
    Lawful () w c := by
  intro fd' hfd'
  rw [htarget] at hfd'
  obtain rfl : fd' = fd := hfd'
  exact Or.inr ⟨s, h.mine, hc⟩

theorem lawful_none {c : Sys} (htarget : descriptors.target c ⊆ {-1}) : Lawful () w c :=
  fun _ hfd => Or.inl (htarget hfd)

theorem safe_socket {domain type protocol : ℤ} {Q : Outcome Exn ℤ → S → Table Unit → Prop} (hK : Kept K w)
    (hnone : Q (.returned (-1)) o w)
    (hopen : ∀ fd w', fd ≠ -1 → Kept K w' → Mine K w' fd ⟨domain, type, .fresh⟩ → Q (.returned fd) o w') :
    Sound (sys (.socket domain type protocol)) Q o w := by
  rw [safe_sys]
  refine ⟨fun _ h => h.elim, ?_⟩
  rintro fd w' (⟨rfl, rfl⟩ | ⟨hfd, hfree, rfl⟩)
  · exact hnone
  · obtain ⟨hkept, hmine⟩ := Mine.of_update hK hfree ⟨domain, type, .fresh⟩
    have hne : (fd : ℤ) ≠ -1 := ne_of_gt (lt_of_lt_of_le (by decide : (-1 : ℤ) < 0) hfd)
    exact hopen fd _ hne hkept hmine

theorem safe_close {Q : Outcome Exn Unit → S → Table Unit → Prop} (hK : Kept K w) (h : fd = -1 ∨ ∃ s, Mine K w fd s)
    (hQ : ∀ w', Kept K w' → Q (.returned ()) o w') : Sound (Socket.close fd) Q o w := by
  unfold Socket.close
  rw [safe_sys]
  rcases h with rfl | ⟨s, hs⟩
  · refine ⟨lawful_none Set.Subset.rfl, ?_⟩
    intro x w' hx
    obtain rfl : w' = w := hx.trans (if_pos rfl)
    exact hQ w' hK
  · refine ⟨hs.lawful rfl trivial, ?_⟩
    rintro x w' rfl
    split
    · exact hQ w hK
    · exact hQ _ (hs.update hK none)

theorem safe_still {c : Sys} {Q : Outcome Exn (Ans c) → S → Table Unit → Prop} (hlawful : Lawful () w c)
    (hc : Still c) (hQ : ∀ x, Q (.returned x) o w) : Sound (sys c) Q o w := by
  rw [safe_sys]
  refine ⟨hlawful, ?_⟩
  intro x w' hx
  obtain rfl := custody_still hc hx
  exact hQ x

theorem safe_throwCode {what : Bytes → Exn} {Q : Outcome Exn α → S → Table Unit → Prop}
    (hQ : ∀ e, Q (.threw e) o w) : Sound (do
      let code ← getErrorCode
      Method.throw (what code)) Q o w := by
  unfold getErrorCode
  rw [Sound, Method.safe_bind, Method.safe_bind]
  refine safe_still (fun _ h => h.elim) trivial fun errnum => ?_
  rw [Method.forth_returned]
  refine safe_still (fun _ h => h.elim) trivial fun code => ?_
  exact hQ _

theorem safe_failure {what : Bytes → Exn} {R : α → S → Table Unit → Prop} (hK : Kept K w) : Sound (do
      let code ← getErrorCode
      Method.throw (what code)) (Method.Ending (fun _ => Kept K) R) o w :=
  safe_throwCode fun e => (Method.ending_threw e).2 hK

theorem safe_resolveToAddresses {hostname : Bytes} {port : UInt16} {hints : AddrInfo}
    {Q : Outcome Exn (List SocketAddress × ℤ) → S → Table Unit → Prop} (hQ : ∀ r, Q (.returned r) o w) :
    Sound (resolveToAddresses hostname port hints) Q o w := by
  unfold resolveToAddresses
  rw [Sound, Method.safe_bind]
  refine safe_still (fun _ h => h.elim) trivial fun x => ?_
  rw [Method.forth_returned, Method.safe_ite]
  exact ⟨fun _ => hQ _, fun _ => hQ _⟩

theorem safe_getAddress {address : SocketAddress} {Q : Outcome Exn (Option Bytes) → S → Table Unit → Prop}
    (hQ : ∀ r, Q (.returned r) o w) : Sound (getAddress address) Q o w := by
  unfold getAddress
  rw [Sound, Method.safe_bind]
  exact safe_still (fun _ h => h.elim) trivial fun written => hQ _

theorem safe_socketToAddress {Q : Outcome Exn (Option SocketAddress × ℤ) → S → Table Unit → Prop}
    (hlawful : Lawful () w (.getsockname fd)) (hQ : ∀ r, Q (.returned r) o w) : Sound (socketToAddress fd) Q o w := by
  unfold socketToAddress
  rw [Sound, Method.safe_bind]
  exact safe_still hlawful trivial fun x => hQ _

theorem safe_runOperation {operation : Option Callback} {Q : Outcome Exn Unit → S → Table Unit → Prop}
    (hlawful : ∀ f, Lawful () w (.callback f fd)) (hreturned : Q (.returned ()) o w) (hthrew : ∀ e, Q (.threw e) o w) :
    Sound (runOperation operation fd) Q o w := by
  cases operation with
  | none => exact hreturned
  | some f =>
    unfold runOperation
    rw [Sound, Method.safe_bind]
    refine safe_still (hlawful f) trivial fun x => ?_
    cases x with
    | returned => exact hreturned
    | threw => exact hthrew _

theorem safe_pollSocket {timeout : ℤ} {timeOutVal : Option TimeVal} {Q : Outcome Exn ℤ → S → Table Unit → Prop}
    (hlawful : ∀ nfds t, Lawful () w (.select nfds fd t)) (hQ : ∀ x, Q (.returned x) o w) :
    Sound (Socket.pollSocket fd timeout timeOutVal) Q o w := by
  unfold Socket.pollSocket
  rw [Sound, Method.safe_ite]
  exact ⟨fun _ => hQ _, fun _ => safe_still (hlawful _ _) trivial hQ⟩

end Calls

end SocketLibrary.Protocol
