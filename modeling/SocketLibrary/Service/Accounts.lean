import SocketLibrary.Service.Network

/-!
# Accounts of all connections

What a thread has put into an end of a connection, and taken out of it, in the course of its calls (`tally`). Whatever
calls the threads make, as long as they are lawful: what is in a connection is what its two owners have put there, less
what they have taken (`Balanced`).
-/

namespace SocketLibrary.Service

open SocketLibrary.Interaction SocketLibrary.Posix SocketLibrary.Model SocketLibrary.Exchange SocketLibrary.Protocol

variable {ι : Type} {truthful : Prop} {i : ι} {c : Sys} {x : Ans c} {e : End} {f : (c : Sys) × Ans c → Bytes}

/-- What `f` says of the calls that were on the end `e`. -/
def tally (f : (c : Sys) × Ans c → Bytes) (e : End) (tr : List (Event Sys Ans (Network ι))) : Bytes :=
  tr.flatMap fun ev => if ev.pre.endOf ev.call = some e then f ev.act else []

theorem tally_append (tr tr' : List (Event Sys Ans (Network ι))) : tally f e (tr ++ tr') = tally f e tr ++ tally f e tr' := by
  simp [tally]

theorem tally_eq_nil {tr : List (Event Sys Ans (Network ι))} (h : ∀ ev ∈ tr, ev.pre.endOf ev.call ≠ some e) :
    tally f e tr = [] :=
  List.flatMap_eq_nil_iff.2 fun ev hev => if_neg (h ev hev)

/-- Of the calls of the thread that owns it. -/
def tallyAt (f : (c : Sys) × Ans c → Bytes) (w : Network ι) (events : ι → List (Event Sys Ans (Network ι))) (e : End) : Bytes :=
  match w.owner e with
  | none => []
  | some i => tally f e (events i)

/-- Every call is one of the owner of the end that it is on, and the connections hold what has been sent. -/
structure Balanced (w : Network ι) (events : ι → List (Event Sys Ans (Network ι))) : Prop where
  mine : ∀ i, ∀ ev ∈ events i, ∀ e, ev.pre.endOf ev.call = some e → w.owner e = some i
  lines : ∀ n, (w.lines n).Balanced (fun side => tallyAt putBy w events (n, side)) fun side =>
    tallyAt takenBy w events (n, side)

section Step

variable {v w w' : Network ι} {events : ι → List (Event Sys Ans (Network ι))}

theorem owner_of_endOf (hlawful : Lawful i w.table c) (he : w.endOf c = some e) : w.owner e = some i := by
  obtain ⟨fd, hcarrier, hfd⟩ := Option.bind_eq_some_iff.1 he
  obtain ⟨hnone, j, s, howner, htable⟩ := w.owned fd e hfd
  obtain ⟨s', hs'⟩ := (carrier_lawful hlawful hcarrier).resolve_left hnone
  rw [htable] at hs'
  obtain ⟨rfl, -⟩ := Prod.mk.inj (Option.some.inj hs')
  exact howner

variable [DecidableEq ι]

/-- One call more. -/
theorem tallyAt_step (hw : Balanced w events) (hv : Undisturbed i v w) (hlawful : Lawful i w.table c)
    (h : network truthful i c w x w') (e : End) :
    tallyAt f w' (Function.update events i (events i ++ [⟨v, c, x⟩])) e =
      tallyAt f w events e ++ if w.endOf c = some e then f ⟨c, x⟩ else [] := by
  have hone : tally f e [(⟨v, c, x⟩ : Event Sys Ans (Network ι))] = if w.endOf c = some e then f ⟨c, x⟩ else [] := by
    rw [hv.endOf hlawful]
    simp [tally, Event.act]
  unfold tallyAt
  rcases network_cases h with ⟨fd, e', hnone, hcarrier, -, hattach⟩ | htransmit
  · have hnot : w.endOf c ≠ some e := by
      unfold Network.endOf
      rw [hcarrier]
      exact fun h => by cases h
    rw [if_neg hnot] at hone ⊢
    rw [List.append_nil, hattach.owner]
    by_cases he : e = e'
    · subst he
      rw [Function.update_self, hnone]
      show tally f e (Function.update events i _ i) = []
      rw [Function.update_self, tally_append, hone, List.append_nil]
      refine tally_eq_nil fun ev hev hend => ?_
      rw [hw.mine i ev hev e hend] at hnone
      cases hnone
    · rw [Function.update_of_ne he]
      cases w.owner e with
      | none => rfl
      | some j =>
        show tally f e (Function.update events i _ j) = tally f e (events j)
        by_cases hj : j = i
        · rw [hj, Function.update_self, tally_append, hone, List.append_nil]
        · rw [Function.update_of_ne hj]
  · rw [htransmit.owner]
    cases howner : w.owner e with
    | none =>
      have hnot : w.endOf c ≠ some e := by
        intro hend
        rw [owner_of_endOf hlawful hend] at howner
        cases howner
      rw [if_neg hnot]
      rfl
    | some j =>
      show tally f e (Function.update events i _ j) = tally f e (events j) ++ _
      by_cases hj : j = i
      · rw [hj, Function.update_self, tally_append, hone]
      · have hnot : w.endOf c ≠ some e := by
          intro hend
          rw [owner_of_endOf hlawful hend] at howner
          exact hj (Option.some.inj howner).symm
        rw [Function.update_of_ne hj, if_neg hnot, List.append_nil]

/-- **One call.** -/
theorem Balanced.step (hw : Balanced w events) (hv : Undisturbed i v w) (hlawful : Lawful i w.table c)
    (h : network truthful i c w x w') : Balanced w' (Function.update events i (events i ++ [⟨v, c, x⟩])) := by
  constructor
  · intro j ev hev e hend
    by_cases hj : j = i
    · subst hj
      rw [Function.update_self] at hev
      rcases List.mem_append.1 hev with hev | hev
      · exact owner_step h (hw.mine j ev hev e hend)
      · obtain rfl := List.mem_singleton.1 hev
        rw [← hv.endOf hlawful] at hend
        exact owner_step h (owner_of_endOf hlawful hend)
    · rw [Function.update_of_ne hj] at hev
      exact owner_step h (hw.mine j ev hev e hend)
  · intro n
    rcases lines_step h n with ⟨side, hend, hexchanged⟩ | ⟨hend, hsame⟩
    · have hsides : ∀ (g : (c : Sys) × Ans c → Bytes) s, (if w.endOf c = some (n, s) then g ⟨c, x⟩ else []) =
          if s = side then g ⟨c, x⟩ else [] := by
        intro g s
        rw [hend]
        by_cases hs : s = side
        · rw [hs, if_pos rfl, if_pos rfl]
        · rw [if_neg hs, if_neg fun h => hs (congrArg Prod.snd (Option.some.inj h)).symm]
      refine (hw.lines n).exchanged hexchanged (fun s => ?_) fun s => ?_
      · rw [tallyAt_step hw hv hlawful h, hsides]
      · rw [tallyAt_step hw hv hlawful h, hsides]
    · have hnone : ∀ (g : (c : Sys) × Ans c → Bytes) s,
          tallyAt g w' (Function.update events i (events i ++ [⟨v, c, x⟩])) (n, s) = tallyAt g w events (n, s) := by
        intro g s
        rw [tallyAt_step hw hv hlawful h, if_neg (hend s), List.append_nil]
      rw [hsame]
      simp only [hnone]
      exact hw.lines n

end Step

/-- Nothing is in the connections yet. -/
theorem Balanced.start {w : Network ι} (hw : ∀ e, w.owner e = none) : Balanced w fun _ => [] := by
  have hnone : ∀ (g : (c : Sys) × Ans c → Bytes) e, tallyAt g w (fun _ => []) e = [] := by
    intro g e
    unfold tallyAt
    cases w.owner e <;> rfl
  constructor
  · rintro i ev ⟨⟩
  · intro n side
    show _ = tallyAt putBy w _ (n, side) ∧ _ = (tallyAt takenBy w _ (n, side.other)).length ∧
      tallyAt takenBy w _ (n, side.other) <+: tallyAt putBy w _ (n, side)
    rw [w.blank n fun _ => hw _, hnone, hnone]
    exact ⟨rfl, rfl, List.nil_prefix⟩

end SocketLibrary.Service
