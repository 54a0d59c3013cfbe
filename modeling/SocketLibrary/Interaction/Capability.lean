import Mathlib.Tactic
import SocketLibrary.Interaction.Run

/-!
# Programs that act only on what they hold

The calls of a program act on resources, and the answers of some hand out new ones. A method is contained if each of
its calls acts on the resource its object stores, on one it was given, or on one it was handed in the same run. This is
proved of a method once, in the environment of the resources held (`Capability.Contains`, with a rule for each
construct), and then says something about its runs in every environment (`Contains.runs`).
-/

namespace SocketLibrary.Interaction

/-- Which resources a call acts on, and which its answer hands out; `null` stands for no resource. -/
structure Capability (C : Type) (A : C → Type) (R : Type) where
  target : C → Set R
  handed : (c : C) → A c → Set R
  null : R

namespace Capability

variable {C : Type} {A : C → Type} {E S R α β : Type} (κ : Capability C A R)

/-- The environment that keeps track of the resources held. -/
def holding : Env C A (Set R) := fun c H x H' => H' = H ∪ κ.handed c x

/-- The calls acted on what was held, and what the object stores and the result carries is held in the end. -/
def Contained (field : S → R) (carried : α → Set R) (H : Set R) : Method.Post C A (Set R) E S α := fun tr r o' H' =>
  (∀ e ∈ tr, κ.target e.call ⊆ e.pre) ∧ H ⊆ H' ∧ field o' ∈ H' ∧ ∀ a, r = .returned a → carried a ⊆ H'

/-- Every run of the method is contained, if what the object stores and the resources `F` are held. -/
def Contains (field : S → R) (F : Set R) (m : Method C A E S α) (carried : α → Set R) : Prop :=
  ∀ o H, κ.null ∈ H → field o ∈ H → F ⊆ H → m.wp κ.holding (κ.Contained field carried H) o H

namespace Contains

variable {κ} {field : S → R} {F : Set R} {carried : α → Set R} {carried' : β → Set R}

theorem bind {m : Method C A E S α} {f : α → Method C A E S β} (hm : κ.Contains field F m carried)
    (hf : ∀ a, κ.Contains field (F ∪ carried a) (f a) carried') : κ.Contains field F (m >>= f) carried' := by
  intro o H hnull ho hF
  rw [Method.wp_bind]
  refine Method.wp_mono (hm o H hnull ho hF) ?_
  rintro tr (a | e | _) o₁ H₁ ⟨htr, hH, ho₁, ha⟩
  · rw [Method.after_returned]
    have hF₁ : F ∪ carried a ⊆ H₁ := Set.union_subset (hF.trans hH) (ha a rfl)
    refine Method.wp_mono (hf a o₁ H₁ (hH hnull) ho₁ hF₁) ?_
    rintro tr' r o' H' ⟨htr', hH', ho', ha'⟩
    refine ⟨fun e he => ?_, hH.trans hH', ho', ha'⟩
    rcases List.mem_append.1 he with he | he
    · exact htr e he
    · exact htr' e he
  · exact ⟨htr, hH, ho₁, nofun⟩
  · exact ⟨htr, hH, ho₁, nofun⟩

/-- `bind` for a first part that carries nothing. -/
theorem seq {m : Method C A E S α} {f : α → Method C A E S β} (hm : κ.Contains field F m fun _ => ∅)
    (hf : ∀ a, κ.Contains field F (f a) carried') : κ.Contains field F (m >>= f) carried' := by
  refine hm.bind fun a => ?_
  rw [Set.union_empty]
  exact hf a

theorem pure {a : α} (h : carried a ⊆ F) : κ.Contains field F (Pure.pure a : Method C A E S α) carried := by
  intro o H _ ho hF
  rw [Method.wp_pure]
  refine ⟨by simp, subset_rfl, ho, ?_⟩
  rintro _ ⟨⟩
  exact h.trans hF

theorem throw (e : E) : κ.Contains field F (Method.throw e : Method C A E S α) carried := by
  intro o H _ ho _
  rw [Method.wp_throw]
  exact ⟨by simp, subset_rfl, ho, nofun⟩

theorem stillRunning : κ.Contains field F (Method.stillRunning : Method C A E S α) carried := by
  intro o H _ ho _
  rw [Method.wp_stillRunning]
  exact ⟨by simp, subset_rfl, ho, nofun⟩

/-- The object carries what it stores. -/
theorem this : κ.Contains field F (Method.this : Method C A E S S) fun o => {field o} := by
  intro o H _ ho _
  rw [Method.wp_this]
  refine ⟨by simp, subset_rfl, ho, ?_⟩
  rintro _ ⟨⟩
  exact Set.singleton_subset_iff.2 ho

theorem modify {f : S → S} (hf : ∀ o, field (f o) = κ.null ∨ field (f o) = field o ∨ field (f o) ∈ F) :
    κ.Contains field F (Method.modify f : Method C A E S Unit) fun _ => ∅ := by
  intro o H hnull ho hF
  rw [Method.wp_modify]
  refine ⟨by simp, subset_rfl, ?_, by simp⟩
  rcases hf o with h | h | h
  · rwa [h]
  · rwa [h]
  · exact hF h

theorem call {c : C} (hc : ∀ r ∈ κ.target c, r = κ.null ∨ r ∈ F) :
    κ.Contains field F (Method.call c : Method C A E S (A c)) (κ.handed c) := by
  intro o H hnull ho hF
  rw [Method.wp_call]
  rintro x H' rfl
  refine ⟨?_, Set.subset_union_left, Or.inl ho, ?_⟩
  · rintro e he r hr
    obtain rfl := List.mem_singleton.1 he
    rcases hc r hr with rfl | hr
    · exact hnull
    · exact hF hr
  · rintro _ ⟨⟩
    exact Set.subset_union_right

theorem ite {p : Prop} [Decidable p] {m m' : Method C A E S α} (hm : κ.Contains field F m carried)
    (hm' : κ.Contains field F m' carried) : κ.Contains field F (if p then m else m') carried := by
  split
  · exact hm
  · exact hm'

/-- A loop whose turns are contained, and carry nothing into the next turn. -/
theorem iterate {body : β → Method C A E S (β ⊕ α)} (hbody : ∀ b, κ.Contains field F (body b) fun _ => ∅) :
    ∀ n b, κ.Contains field F (Method.iterate body n b) fun _ => ∅ := by
  intro n
  induction n with
  | zero => exact fun b => stillRunning
  | succ n ih =>
    intro b
    refine (hbody b).seq ?_
    rintro (b' | a)
    · exact ih b'
    · exact pure (Set.empty_subset F)

/-- **Containment in any environment.** Let `P` be a property of resources in states that `null` has, that every call
keeps, and that what is handed out has. If it holds of what a contained method starts with, then it holds of everything
the method acts on, and of what it stores and returns in the end. -/
theorem runs {σ : Type} {env : Env C A σ} {P : σ → R → Prop} {m : Method C A E S α}
    (h : κ.Contains field F m carried) (hkeep : ∀ c s x s' r, env c s x s' → P s r → P s' r)
    (hhanded : ∀ c s x s' r, env c s x s' → P s κ.null → r ∈ κ.handed c x → P s' r) {o o' : S} {s s' : σ}
    {tr : List (Event C A σ)} {r : Outcome E α} (hrun : m.Runs env o s tr r o' s') (hnull : P s κ.null)
    (ho : P s (field o)) (hF : ∀ x ∈ F, P s x) :
    (∀ e ∈ tr, ∀ x ∈ κ.target e.call, P e.pre x) ∧ P s' (field o') ∧
      ∀ a, r = .returned a → ∀ x ∈ carried a, P s' x := by
  have hstep : ∀ c s H x s', (P s κ.null ∧ ∀ y ∈ H, P s y) → env c s x s' →
      ∃ H', κ.holding c H x H' ∧ P s' κ.null ∧ ∀ y ∈ H', P s' y := by
    rintro c s H x s' ⟨hn, hs⟩ hc
    refine ⟨_, rfl, hkeep c s x s' _ hc hn, fun y hy => ?_⟩
    rcases hy with hy | hy
    · exact hkeep c s x s' y hc (hs y hy)
    · exact hhanded c s x s' y hc hn hy
  obtain ⟨tr', H', hrun', ⟨-, hH'⟩, he⟩ := Prog.Runs.simulate (R := fun s H => P s κ.null ∧ ∀ x ∈ H, P s x) hstep hrun
    (t := {x | P s x}) ⟨hnull, fun _ hx => hx⟩
  obtain ⟨htr, -, ho', ha⟩ := Method.wp_iff.1 (h o {x | P s x} hnull ho hF) tr' r o' H' hrun'
  refine ⟨fun e hm x hx => ?_, hH' _ ho', fun a hr x hx => hH' x (ha a hr hx)⟩
  obtain ⟨e', hm', ⟨-, hpre⟩, hcall⟩ := he e hm
  exact hpre x (htr e' hm' (by rwa [← hcall]))

end Contains

end Capability

end SocketLibrary.Interaction
