import SocketLibrary.Interaction.Session
import SocketLibrary.Stream.ToDelimiter

/-!
# No byte is lost, duplicated or reordered

The reading calls that discard nothing but a delimiter, in any number and any order, against any peer: each returns,
and each takes a block off the front of what is unread, which is what it hands to the caller, and the delimiter if it
read one (`reads_conserve`).
-/

namespace SocketLibrary.Stream

open SocketLibrary.Interaction SocketLibrary.Posix SocketLibrary.Model SocketLibrary.Model.ConnectionOrientedSocket

/-- A reading call with its arguments: the amount is below `2 ^ 31`, the delimiter is not NUL, and it does not peek. -/
inductive ReadCall where
  | get (flags : ℤ) (hflags : ¬ Peeks flags)
  | receiveAmount (n : UInt32) (hn : n.toNat < 2 ^ 31) (flags : ℤ) (hflags : ¬ Peeks flags)
  | receiveToDelimiter (d : UInt8) (hd : d ≠ 0) (flags : ℤ) (hflags : ¬ Peeks flags)

def ReadCall.flags : ReadCall → ℤ
  | .get flags _ => flags
  | .receiveAmount _ _ flags _ => flags
  | .receiveToDelimiter _ _ flags _ => flags

theorem ReadCall.not_peeks (k : ReadCall) : ¬ Peeks k.flags := by
  cases k with
  | get flags hflags => exact hflags
  | receiveAmount n hn flags hflags => exact hflags
  | receiveToDelimiter d hd flags hflags => exact hflags

/-- Make the call; the result is what is handed to the caller. -/
def ReadCall.perform {S : Type} (dm : DataModel) (fd : SOCKET) (fuel : ℕ) : ReadCall → M S Bytes
  | .get flags _ => do
    let character ← ConnectionOrientedSocket.get dm fd flags
    return character.toList
  | .receiveAmount n _ flags _ => ConnectionOrientedSocket.receiveAmount dm fd n flags
  | .receiveToDelimiter d _ flags _ => ConnectionOrientedSocket.receiveToDelimiter dm fd fuel d flags

/-- The delimiter, if the call is to read up to one and `recv` delivered it. -/
def ReadCall.discarded (tr : List (Event Sys Ans Bytes)) : ReadCall → Bytes
  | .receiveToDelimiter d _ _ _ => if d ∈ delivered tr then [d] else []
  | _ => []

/-- A reading call that was made. -/
abbrev ReadVisit (S : Type) := Visit Sys Ans Bytes Exn S ReadCall Bytes

/-- What a call handed to the caller. -/
def handed {S : Type} (v : ReadVisit S) : Bytes := match v.outcome with
  | .returned data => data
  | _ => []

/-- The block a call should have taken off the stream. -/
def block {S : Type} (v : ReadVisit S) : Bytes := handed v ++ v.call.discarded v.trace

section

variable {S : Type} {P : Peer} {dm : DataModel} {fd : SOCKET} {o : S} {s : Bytes}

/-- Each call, with fuel for the bytes that are unread, returns, and `recv` delivered just its block. -/
theorem ReadCall.perform_spec (k : ReadCall) {fuel : ℕ} (hfuel : s.length < fuel) :
    (k.perform dm fd fuel).wp P.env
      (fun tr r _ _ => ∃ data, r = .returned data ∧ delivered tr = data ++ k.discarded tr) o s := by
  cases k with
  | get flags hflags =>
    unfold perform
    rw [Method.wp_bind]
    refine Method.wp_mono get_spec ?_
    have hnone : ∀ tr, discarded tr (.get flags hflags) = [] := fun _ => rfl
    rintro tr r o' s' ⟨rfl, ⟨c, htr, rfl⟩ | ⟨htr, rfl, -⟩⟩
    · refine ⟨[c], rfl, ?_⟩
      simp [htr, hnone]
    · refine ⟨[], rfl, ?_⟩
      simp [htr, hnone]
  | receiveAmount n hn flags hflags =>
    refine Method.wp_mono (receiveAmount_spec hn) ?_
    rintro tr r o' s' ⟨rfl, -, -, rfl⟩
    refine ⟨delivered tr, rfl, ?_⟩
    simp [discarded]
  | receiveToDelimiter d hd flags hflags =>
    refine Method.wp_mono (receiveToDelimiter_spec hd hflags fuel) ?_
    rintro tr r o' s' (⟨data, rfl, hdata, htr | ⟨htr, -⟩, rfl⟩ | ⟨-, hle⟩)
    · have hread : discarded tr (.receiveToDelimiter d hd flags hflags) = [d] := by simp [discarded, htr]
      exact ⟨data, rfl, by rw [hread, htr]⟩
    · have hunread : discarded tr (.receiveToDelimiter d hd flags hflags) = [] := by simp [discarded, htr, hdata]
      exact ⟨data, rfl, by rw [hunread, htr, List.append_nil]⟩
    · omega

theorem ReadCall.perform_within {P : Sys → Prop} (k : ReadCall) (hselect : ∀ nfds t, P (.select nfds fd t))
    (hrecv : ∀ offset length, P (.recv fd offset length k.flags)) (fuel : ℕ) :
    Method.Within P (k.perform dm fd fuel : M S Bytes) := by
  cases k with
  | get flags hflags => exact .bind (Steps.get_within hselect hrecv) fun _ => .pure _
  | receiveAmount n hn flags hflags => exact Steps.receiveAmount_within hselect hrecv n
  | receiveToDelimiter d hd flags hflags => exact Steps.receiveToDelimiter_within hselect hrecv fuel d

theorem ReadCall.consuming (k : ReadCall) (fuel : ℕ) : Method.Within Consuming (k.perform dm fd fuel : M S Bytes) :=
  k.perform_within (fun _ _ => trivial) (fun _ _ => k.not_peeks) fuel

/-- A call returned, and took its block off the stream. -/
def TookBlock {S : Type} (v : ReadVisit S) : Prop := v.outcome = .returned (handed v) ∧ v.world = block v ++ v.world'

/-- Fuel for the bytes that are unread stays enough, and each call takes its block off the stream. -/
theorem ReadCall.perform_step {fuel : ℕ} (k : ReadCall) (o : S) (s : Bytes) (tr : List (Event Sys Ans Bytes))
    (r : Outcome Exn Bytes) (o' : S) (s' : Bytes) (hfuel : s.length < fuel)
    (h : (k.perform dm fd fuel).Runs P.env o s tr r o' s') :
    s'.length < fuel ∧ TookBlock (⟨k, o, s, tr, r, o', s'⟩ : ReadVisit S) := by
  obtain ⟨⟨data, rfl, htr⟩, hs⟩ := h.post (Peer.wp_consumed (k.consuming fuel) (k.perform_spec hfuel))
  rw [htr] at hs
  refine ⟨?_, rfl, hs⟩
  rw [hs, List.length_append] at hfuel
  omega

/-- The blocks of a session follow one another. -/
theorem flatMap_block {perform : ReadCall → M S Bytes} {visits : List (ReadVisit S)} {p p' : S × Bytes}
    (h : Path (VisitStep P.env perform) p visits p') (hv : ∀ v ∈ visits, TookBlock v) :
    p.2 = visits.flatMap block ++ p'.2 := by
  induction h with
  | nil p => rfl
  | cons hl _ ih =>
    obtain ⟨-⟩ := hl
    have h1 := hv _ List.mem_cons_self
    have h2 := ih fun v hm => hv v (List.mem_cons_of_mem _ hm)
    rw [List.flatMap_cons, List.append_assoc, ← h2]
    exact h1.2

end

/-- **Conservation.** For every stream `s` there is fuel with which, in every sequence of calls and against every peer,
each call returns and takes off the front of the stream exactly what it hands to the caller, and the delimiter if it
read it; so the blocks of all calls, one after the other, are what has been consumed. -/
theorem reads_conserve {S : Type} (P : Peer) (dm : DataModel) (fd : SOCKET) (o : S) (s : Bytes) :
    ∃ N, ∀ fuel ≥ N, ∀ visits o' s', Session P.env (ReadCall.perform dm fd fuel) o s visits o' s' →
      (∀ v ∈ visits, TookBlock v) ∧ s = visits.flatMap block ++ s' := by
  refine ⟨s.length + 1, fun fuel hfuel visits o' s' h => ?_⟩
  obtain ⟨-, hv⟩ := Session.invariant (I := fun _ s => s.length < fuel) (G := TookBlock) ReadCall.perform_step h hfuel
  exact ⟨hv, flatMap_block h hv⟩

end SocketLibrary.Stream
