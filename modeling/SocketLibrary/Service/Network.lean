import SocketLibrary.Exchange.Endpoints
import SocketLibrary.Protocol.Custody

/-!
# All connections of a process

The table of descriptors, and for each of them that is a connection, which end of which one it is. `connect` makes a
connection, `accept` takes the other end of one that was made, whichever it is, and from then on both ends send and
receive as the two sides of `Exchange`. An end belongs to the thread that has made or taken it, also after it was closed.

What the other threads do leaves the descriptors of a thread what they are, and at the ends it does what the other side
of a connection may do (`network_guarantees`).
-/

namespace SocketLibrary.Service

open SocketLibrary.Interaction SocketLibrary.Posix SocketLibrary.Model SocketLibrary.Exchange SocketLibrary.Protocol
open SocketLibrary.Descriptors (descriptors)

/-- An end of a connection; `near` is the one of `connect`. -/
abbrev End := ℕ × Side

structure Network (ι : Type) where
  table : Table ι
  ends : SOCKET → Option End
  lines : ℕ → Duplex
  owner : End → Option ι
  owned : ∀ fd e, ends fd = some e → fd ≠ -1 ∧ ∃ i s, owner e = some i ∧ table fd = some (i, s)
  single : ∀ fd fd' e, ends fd = some e → ends fd' = some e → fd = fd'
  blank : ∀ n, (∀ side, owner (n, side) = none) → lines n = {}

namespace Network

variable {ι : Type} (w : Network ι)

/-- The descriptor that bytes are sent and received over. -/
def carrier : Sys → Option SOCKET
  | .send fd .. | .recv fd .. | .select _ fd _ | .close fd => some fd
  | _ => none

/-- The end that a call is on. -/
def endOf (c : Sys) : Option End := (carrier c).bind w.ends

/-- There is no such connection yet. -/
def Unused (n : ℕ) : Prop := ∀ side, w.owner (n, side) = none

/-- `connect` has been called, and `accept` has not handed it out. -/
def Waiting (n : ℕ) : Prop := w.owner (n, .near) ≠ none ∧ w.owner (n, .far) = none

/-- A call on what is no connection: nothing is sent or received. -/
def Fails : (c : Sys) → Ans c → Prop
  | .send .., x => (x : ℤ) = -1
  | .recv .., x => x.data = []
  | _, _ => True

/-- The thread `i` has come to own an end. -/
structure Attaches (i : ι) (fd : SOCKET) (e : End) (w' : Network ι) : Prop where
  ends : w'.ends = Function.update w.ends fd (some e)
  owner : w'.owner = Function.update w.owner e (some i)
  lines : w'.lines = w.lines

/-- No end has come to be owned, and the call has done at its end what it does there. -/
structure Transmits (truthful : Prop) (c : Sys) (x : Ans c) (w' : Network ι) : Prop where
  owner : w'.owner = w.owner
  ends : w'.ends = match c with
    | .close fd => Function.update w.ends fd none
    | _ => w.ends
  lines : match w.endOf c with
    | none => w'.lines = w.lines ∧ Fails c x
    | some (n, side) => ∃ fd d, carrier c = some fd ∧ endpoint truthful fd side c (w.lines n) x d ∧
        w'.lines = Function.update w.lines n d

end Network

/-- The system, as the thread `i` sees it. -/
def network {ι : Type} (truthful : Prop) (i : ι) : Env Sys Ans (Network ι) := fun c w x w' =>
  custody i c w.table x w'.table ∧ match c, x with
    | .connect fd address length, x => if (x : ℤ) = 0 then ∃ n, w.Unused n ∧ w.Attaches i fd (n, .near) w' else
        w.Transmits truthful (.connect fd address length) x w'
    | .accept fd length, x => if Accepted.fd x = -1 then w.Transmits truthful (.accept fd length) x w' else
        ∃ n, w.Waiting n ∧ w.Attaches i (Accepted.fd x) (n, .far) w'
    | c, x => w.Transmits truthful c x w'

/-! ## One call -/

section Calls

variable {ι : Type} {truthful : Prop} {i j : ι} {w w' w'' : Network ι} {c : Sys} {x : Ans c} {e : End} {fd : SOCKET} {s : Sock}

/-- A call attaches a descriptor that was no connection, or it transmits. -/
theorem network_cases (h : network truthful i c w x w') :
    (∃ fd e, w.owner e = none ∧ Network.carrier c = none ∧ (fd ∈ descriptors.target c ∧ fd ≠ -1 ∨ w.table fd = none) ∧
      w.Attaches i fd e w') ∨ w.Transmits truthful c x w' := by
  obtain ⟨hcustody, h⟩ := h
  cases c with
  | connect fd address length =>
    simp only at h
    split_ifs at h with hx
    · obtain ⟨n, hunused, hattach⟩ := h
      refine Or.inl ⟨fd, _, hunused .near, rfl, Or.inl ⟨rfl, ?_⟩, hattach⟩
      rcases hcustody with ⟨hfail, -⟩ | ⟨-, hfd, -⟩
      · rw [hx] at hfail
        cases hfail
      · exact hfd
    · exact Or.inr h
  | accept fd length =>
    simp only at h
    split_ifs at h with hx
    · exact Or.inr h
    · obtain ⟨n, hwaiting, hattach⟩ := h
      refine Or.inl ⟨_, _, hwaiting.2, rfl, Or.inr ?_, hattach⟩
      rcases hcustody with ⟨hfail, -⟩ | ⟨-, hfree, -⟩
      · exact absurd hfail hx
      · exact hfree
  | _ => exact Or.inr h

/-- What a call does to a connection: something at the end that it is on, or nothing. -/
theorem lines_step (h : network truthful i c w x w') (n : ℕ) :
    (∃ side, w.endOf c = some (n, side) ∧ (w.lines n).Exchanged side (putBy ⟨c, x⟩) (takenBy ⟨c, x⟩) (w'.lines n)) ∨
      (∀ side, w.endOf c ≠ some (n, side)) ∧ w'.lines n = w.lines n := by
  rcases network_cases h with ⟨fd, e', -, hcarrier, -, hattach⟩ | htransmit
  · refine Or.inr ⟨fun side hend => ?_, by rw [hattach.lines]⟩
    unfold Network.endOf at hend
    rw [hcarrier] at hend
    cases hend
  · have hlines := htransmit.lines
    cases hend : w.endOf c with
    | none =>
      rw [hend] at hlines
      exact Or.inr ⟨fun side hside => (by cases hside), by rw [hlines.1]⟩
    | some e =>
      obtain ⟨m, side⟩ := e
      rw [hend] at hlines
      obtain ⟨fd, d, -, hd, hlines⟩ := hlines
      rw [hlines]
      by_cases hm : n = m
      · subst hm
        rw [Function.update_self]
        exact Or.inl ⟨side, rfl, endpoint_step hd⟩
      · rw [Function.update_of_ne hm]
        refine Or.inr ⟨fun side' hside => hm ?_, rfl⟩
        exact congrArg Prod.fst (Option.some.inj hside).symm

/-- What has been written stays. -/
theorem written_step (h : network truthful i c w x w') (n : ℕ) (side : Side) :
    ((w.lines n).pipe side).written <+: ((w'.lines n).pipe side).written := by
  rcases lines_step h n with ⟨side', -, hexchanged⟩ | ⟨-, hsame⟩
  · by_cases hside : side = side'
    · rw [hside, hexchanged.written]
      exact List.prefix_append _ _
    · rw [Side.eq_other hside, hexchanged.written_other]
  · rw [hsame]

/-- An end that is owned stays so. -/
theorem owner_step (h : network truthful i c w x w') (he : w.owner e = some j) : w'.owner e = some j := by
  rcases network_cases h with ⟨fd, e', hnone, -, -, hattach⟩ | htransmit
  · have hne : e ≠ e' := by
      rintro rfl
      rw [hnone] at he
      cases he
    rw [hattach.owner, Function.update_of_ne hne]
    exact he
  · rw [htransmit.owner]
    exact he

/-- The descriptor that a lawful call carries bytes over. -/
theorem carrier_lawful (hlawful : Lawful i w.table c) (hc : Network.carrier c = some fd) :
    fd = -1 ∨ ∃ s, w.table fd = some (i, s) := by
  have htarget : fd ∈ descriptors.target c := by
    cases c with
    | send fd' message length flags => exact (Option.some.inj hc).symm
    | recv fd' offset length flags => exact (Option.some.inj hc).symm
    | select nfds fd' t => exact (Option.some.inj hc).symm
    | close fd' => exact (Option.some.inj hc).symm
    | _ => cases hc
  exact (hlawful fd htarget).imp_right fun ⟨s, hs, _⟩ => ⟨s, hs⟩

theorem Network.ends_none (w : Network ι) : w.ends (-1) = none := by
  cases h : w.ends (-1) with
  | none => rfl
  | some e => exact absurd rfl (w.owned _ _ h).1

/-- A call that transmits closes at most the descriptor that it is on. -/
theorem Network.Transmits.ends_eq (h : w.Transmits truthful c x w') (hfd : fd ∈ descriptors.target c → fd = -1) :
    w'.ends fd = w.ends fd := by
  rw [h.ends]
  cases c with
  | close fd' =>
    show Function.update w.ends fd' none fd = w.ends fd
    by_cases h : fd = fd'
    · rw [hfd h, ← h, hfd h, Function.update_self, w.ends_none]
    · exact Function.update_of_ne h _ _
  | _ => rfl

/-- What the calls of others leave to the thread `i`. -/
structure Undisturbed [DecidableEq ι] (i : ι) (w w' : Network ι) : Prop where
  own : own i w'.table = own i w.table
  ends : ∀ fd s, w.table fd = some (i, s) → w'.ends fd = w.ends fd
  lines : ∀ fd s n side, w.table fd = some (i, s) → w.ends fd = some (n, side) →
    Duplex.Meanwhile side (w.lines n) (w'.lines n)
  written : ∀ n side, ((w.lines n).pipe side).written <+: ((w'.lines n).pipe side).written
  owner : ∀ e j, w.owner e = some j → w'.owner e = some j

theorem Undisturbed.mine [DecidableEq ι] (h : Undisturbed i w w') : w'.table fd = some (i, s) ↔ w.table fd = some (i, s) := by
  rw [← own_eq_some, h.own, own_eq_some]

theorem Undisturbed.trans [DecidableEq ι] (h : Undisturbed i w w') (h' : Undisturbed i w' w'') : Undisturbed i w w'' := by
  constructor
  · exact h'.own.trans h.own
  · intro fd s hs
    exact (h'.ends fd s (h.mine.2 hs)).trans (h.ends fd s hs)
  · intro fd s n side hs hfd
    have hfd' : w'.ends fd = some (n, side) := (h.ends fd s hs).trans hfd
    exact (endpoint_relies True fun _ => 0).trans side _ _ _ (h.lines fd s n side hs hfd)
      (h'.lines fd s n side (h.mine.2 hs) hfd')
  · intro n side
    exact (h.written n side).trans (h'.written n side)
  · intro e j he
    exact h'.owner e j (h.owner e j he)

/-- A thread finds a call on the same end that it would have been on before. -/
theorem Undisturbed.endOf [DecidableEq ι] (h : Undisturbed i w w') (hlawful : Lawful i w'.table c) :
    w'.endOf c = w.endOf c := by
  unfold Network.endOf
  cases hc : Network.carrier c with
  | none => rfl
  | some fd =>
    show w'.ends fd = w.ends fd
    rcases carrier_lawful hlawful hc with rfl | ⟨s, hs⟩
    · rw [w.ends_none, w'.ends_none]
    · exact h.ends fd s (h.mine.1 hs)

/-- **Lawful calls of the others.** -/
theorem network_guarantees [DecidableEq ι] :
    Guarantees (fun i : ι => network truthful i) Undisturbed fun i w c => Lawful i w.table c := by
  constructor
  · intro i w
    exact ⟨rfl, fun _ _ _ => rfl, fun _ _ _ side _ _ => (endpoint_relies True fun _ => 0).refl side _,
      fun _ _ => List.prefix_rfl, fun _ _ he => he⟩
  · intro i w w' w'' h h'
    exact h.trans h'
  · intro i w w' c h hc
    exact own_lawful.1 (h.own ▸ own_lawful.2 hc)
  · intro i j c w x w' hne hc h
    refine ⟨own_step_of_other hne hc h.1, ?_, ?_, written_step h, fun _ _ => owner_step h⟩
    · intro fd s hs
      have hother : ∀ fd', fd' ∈ descriptors.target c ∧ fd' ≠ -1 ∨ w.table fd' = none → fd ≠ fd' := by
        rintro _ (⟨hfd', hnot⟩ | hfd') rfl
        · obtain ⟨s', hs', -⟩ := (hc _ hfd').resolve_left hnot
          rw [hs] at hs'
          exact hne (congrArg Prod.fst (Option.some.inj hs')).symm
        · rw [hs] at hfd'
          cases hfd'
      rcases network_cases h with ⟨fd', e, -, -, hfd', hattach⟩ | htransmit
      · rw [hattach.ends, Function.update_of_ne (hother fd' hfd')]
      · refine htransmit.ends_eq fun htarget => ?_
        by_contra hnone
        exact hother fd (Or.inl ⟨htarget, hnone⟩) rfl
    · intro fd s n side hs hfd
      rcases network_cases h with ⟨fd', e, -, -, -, hattach⟩ | htransmit
      · rw [hattach.lines]
        exact (endpoint_relies True fun _ => 0).refl side _
      · have hlines := htransmit.lines
        cases he : w.endOf c with
        | none =>
          rw [he] at hlines
          rw [hlines.1]
          exact (endpoint_relies True fun _ => 0).refl side _
        | some e =>
          obtain ⟨m, side'⟩ := e
          rw [he] at hlines
          obtain ⟨fd', d, hcarrier, hd, hlines⟩ := hlines
          rw [hlines]
          by_cases hm : n = m
          · subst hm
            rw [Function.update_self]
            have hside : side' ≠ side := by
              rintro rfl
              have hfd' : w.ends fd' = some (n, side') := by
                unfold Network.endOf at he
                rwa [hcarrier] at he
              obtain rfl := w.single _ _ _ hfd hfd'
              rcases carrier_lawful hc hcarrier with rfl | ⟨s', hs'⟩
              · rw [w.ends_none] at hfd
                cases hfd
              · rw [hs] at hs'
                exact hne (congrArg Prod.fst (Option.some.inj hs')).symm
            exact (endpoint_relies truthful fun _ => fd').others side side' _ _ _ _ hside hd
          · rw [Function.update_of_ne hm]
            exact (endpoint_relies True fun _ => 0).refl side _

end Calls

end SocketLibrary.Service
