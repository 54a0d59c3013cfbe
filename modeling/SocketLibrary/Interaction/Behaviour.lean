import SocketLibrary.Interaction.Run

/-!
# The same behaviour from two objects

Two objects behave the same under a method if no environment can tell them apart: the same calls, with the same answers,
lead to the same result. A method ignores a change `f` of the object if it does on `f o` what it does on `o` and the
change is still there at the end; it then behaves the same on both (`Ignores.sameBehaviour`), and the rules below show
it construct by construct.
-/

namespace SocketLibrary.Interaction

namespace Method

variable {C : Type} {A : C → Type} {E S α β : Type}

/-- In every environment and every state of it, the method makes the same calls and ends in the same way. -/
def SameBehaviour (m : Method C A E S α) (o o' : S) : Prop :=
  ∀ (σ : Type) (env : Env C A σ) (s : σ) tr r s',
    (∃ o₁, m.Runs env o s tr r o₁ s') ↔ ∃ o₁, m.Runs env o' s tr r o₁ s'

theorem SameBehaviour.refl (m : Method C A E S α) (o : S) : SameBehaviour m o o := fun _ _ _ _ _ _ => Iff.rfl

theorem SameBehaviour.symm {m : Method C A E S α} {o o' : S} (h : SameBehaviour m o o') : SameBehaviour m o' o :=
  fun σ env s tr r s' => (h σ env s tr r s').symm

/-- On `f o` the method does what it does on `o`. -/
def Ignores (f : S → S) (m : Method C A E S α) : Prop := ∀ o, m (f o) = (m o).bind fun p => .pure (p.1, f p.2)

namespace Ignores

variable {f : S → S} {m : Method C A E S α}

theorem sameBehaviour (h : Ignores f m) (o : S) : SameBehaviour m o (f o) := by
  intro σ env s tr r s'
  unfold Runs
  rw [h o]
  simp only [Prog.runs_wrap]
  constructor
  · rintro ⟨o₁, hr⟩
    exact ⟨f o₁, (r, o₁), hr, rfl⟩
  · rintro ⟨_, ⟨r', o₁⟩, hr, heq⟩
    cases heq
    exact ⟨o₁, hr⟩

theorem pure (a : α) : Ignores f (Pure.pure a : Method C A E S α) := fun _ => rfl

theorem throw (e : E) : Ignores f (throw e : Method C A E S α) := fun _ => rfl

theorem call (c : C) : Ignores f (call c : Method C A E S (A c)) := fun _ => rfl

theorem modify {g : S → S} (hg : ∀ o, g (f o) = f (g o)) : Ignores f (modify g : Method C A E S Unit) := by
  intro o
  show Prog.pure (Outcome.returned (), g (f o)) = Prog.pure (Outcome.returned (), f (g o))
  rw [hg]

theorem bind {k : α → Method C A E S β} (hm : Ignores f m) (hk : ∀ a, Ignores f (k a)) : Ignores f (m >>= k) := by
  intro o
  show (m (f o)).bind (next k) = ((m o).bind (next k)).bind _
  rw [hm o, Prog.bind_assoc, Prog.bind_assoc]
  congr 1
  funext p
  rcases p with ⟨a | e | _, o'⟩
  · exact hk a o'
  · rfl
  · rfl

/-- Reading the object makes no difference where what follows does not look at what is changed. -/
theorem this_bind {k : S → Method C A E S β} (hf : ∀ o, k (f o) = k o) (hk : ∀ o, Ignores f (k o)) :
    Ignores f (this >>= k) := by
  intro o
  show k (f o) (f o) = (k o o).bind _
  rw [hf o]
  exact hk o o

theorem ite {p : Prop} [Decidable p] {m' : Method C A E S α} (hm : Ignores f m) (hm' : Ignores f m') :
    Ignores f (if p then m else m') := by
  split
  · exact hm
  · exact hm'

end Ignores

end Method

end SocketLibrary.Interaction
