import SocketLibrary.Interaction.Path
import SocketLibrary.Interaction.Run

/-!
# Sessions: a sequence of method calls on one object

`perform k` is the method behind the call `k`. A session makes calls one after the other on the same object, each going
on from the object and the state the previous one ended in, however it ended.
-/

namespace SocketLibrary.Interaction

variable {C : Type} {A : C → Type} {σ E S K R : Type}

/-- One call of a session: where it started, what it did, how it ended. -/
structure Visit (C : Type) (A : C → Type) (σ E S K R : Type) where
  call : K
  obj : S
  world : σ
  trace : List (Event C A σ)
  outcome : Outcome E R
  obj' : S
  world' : σ

/-- One call as a step: its label is the visit. -/
inductive VisitStep (env : Env C A σ) (perform : K → Method C A E S R) :
    S × σ → Visit C A σ E S K R → S × σ → Prop where
  | mk {k : K} {o o' : S} {s s' : σ} {tr : List (Event C A σ)} {r : Outcome E R} :
      (perform k).Runs env o s tr r o' s' → VisitStep env perform (o, s) ⟨k, o, s, tr, r, o', s'⟩ (o', s')

/-- The sessions from an object and a state, with the calls that were made. -/
def Session (env : Env C A σ) (perform : K → Method C A E S R) (o : S) (s : σ) (visits : List (Visit C A σ E S K R))
    (o' : S) (s' : σ) : Prop :=
  Path (VisitStep env perform) (o, s) visits (o', s')

namespace Session

variable {env : Env C A σ} {perform : K → Method C A E S R} {o o' : S} {s s' : σ} {vs : List (Visit C A σ E S K R)}
  {I : S → σ → Prop} {G T : Visit C A σ E S K R → Prop}

/-- **Invariant rule.** What every call keeps, and what it then guarantees of the visit. -/
theorem invariant (hI : ∀ k o s tr r o' s', I o s → (perform k).Runs env o s tr r o' s' →
      I o' s' ∧ G ⟨k, o, s, tr, r, o', s'⟩)
    (h : Session env perform o s vs o' s') (hs : I o s) : I o' s' ∧ ∀ v ∈ vs, G v := by
  refine Path.invariant (I := fun p => I p.1 p.2) (T := fun _ => True) ?_ h hs fun _ _ => trivial
  rintro _ _ _ hs - ⟨hr⟩
  exact hI _ _ _ _ _ _ _ hs hr

/-- **Exact conditions.** `Path.forall_iff` for the calls of a session. -/
theorem forall_iff (hI : ∀ k o s tr r o' s', I o s → (perform k).Runs env o s tr r o' s' →
      (G ⟨k, o, s, tr, r, o', s'⟩ ↔ T ⟨k, o, s, tr, r, o', s'⟩) ∧ (T ⟨k, o, s, tr, r, o', s'⟩ → I o' s'))
    (h : Session env perform o s vs o' s') (hs : I o s) : (∀ v ∈ vs, G v) ↔ ∀ v ∈ vs, T v := by
  refine Path.forall_iff (I := fun p => I p.1 p.2) ?_ h hs
  rintro _ _ _ hs ⟨hr⟩
  exact hI _ _ _ _ _ _ _ hs hr

/-- The state that a call ended in leads to the state that the session ended in. -/
theorem leads {rel : σ → σ → Prop} (hrefl : ∀ s, rel s s) (htrans : ∀ s s' s'', rel s s' → rel s' s'' → rel s s'')
    (hrel : ∀ c s x s', env c s x s' → rel s s') (h : Session env perform o s vs o' s') :
    ∀ v ∈ vs, rel v.world' s' := by
  have key : ∀ p vs p', Path (VisitStep env perform) p vs p' → rel p.2 p'.2 ∧ ∀ v ∈ vs, rel v.world' p'.2 := by
    intro p vs p' hpath
    induction hpath with
    | nil p => exact ⟨hrefl _, by simp⟩
    | cons hl _ ih =>
      obtain ⟨hr⟩ := hl
      have hcall : rel _ _ :=
        (Prog.Runs.invariant (fun c s₁ x s₂ h hx => htrans _ _ _ h (hrel c s₁ x s₂ hx)) hr (hrefl _)).1
      exact ⟨htrans _ _ _ hcall ih.1, List.forall_mem_cons.2 ⟨ih.1, ih.2⟩⟩
  exact (key _ _ _ h).2

end Session

end SocketLibrary.Interaction
