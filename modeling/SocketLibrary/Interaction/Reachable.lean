import SocketLibrary.Interaction.AnyAnswer

/-!
# The states an object can reach

Objects of a class come into being as new ones or as copies, and change by calls and by assignment from another such
object. A call may be made in any environment and any state of it, so that `Reachable` covers every history the objects
can have; `Reachable.invariant` asks no more than what each of the four steps keeps.
-/

namespace SocketLibrary.Interaction

variable {C : Type} {A : C → Type} {E S K R : Type}

/-- The states reachable from the new object `new`. -/
inductive Reachable (perform : K → Method C A E S R) (copy : S → S) (assign : S → Method C A E S Unit) (new : S) :
    S → Prop where
  | new : Reachable perform copy assign new new
  | call {k : K} {o o' : S} {σ : Type} {env : Env C A σ} {s s' : σ} {tr : List (Event C A σ)} {r : Outcome E R} :
      Reachable perform copy assign new o → (perform k).Runs env o s tr r o' s' → Reachable perform copy assign new o'
  | copy {o : S} : Reachable perform copy assign new o → Reachable perform copy assign new (copy o)
  | assign {o source o' : S} {σ : Type} {env : Env C A σ} {s s' : σ} {tr : List (Event C A σ)} {r : Outcome E Unit} :
      Reachable perform copy assign new o → Reachable perform copy assign new source →
      (assign source).Runs env o s tr r o' s' → Reachable perform copy assign new o'

namespace Reachable

variable {perform : K → Method C A E S R} {copy : S → S} {assign : S → Method C A E S Unit} {new o : S} {I : S → Prop}

/-- **Invariant rule.** What holds of the new object and is kept by calls, copies and assignments, whatever is
answered. -/
theorem invariant (h : Reachable perform copy assign new o) (hnew : I new)
    (hcall : ∀ k o, I o → (perform k).Always (fun _ => True) o fun _ o' => I o') (hcopy : ∀ o, I o → I (copy o))
    (hassign : ∀ o source, I o → I source → (assign source).Always (fun _ => True) o fun _ o' => I o') : I o := by
  induction h with
  | new => exact hnew
  | call _ hrun ih => exact ((hcall _ _ ih).runs hrun).2
  | copy _ ih => exact hcopy _ ih
  | assign _ _ hrun ih ihsource => exact ((hassign _ _ ih ihsource).runs hrun).2

end Reachable

end SocketLibrary.Interaction
