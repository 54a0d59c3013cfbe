/-!
# Paths of a labelled step relation

Finite runs of any system, as the lists of the labels along them, and the two ways in which what is proved of one step
becomes a statement about whole runs: `Path.invariant`, and `Path.forall_iff` for a property of the steps that holds
along a run exactly if a condition does.
-/

namespace SocketLibrary.Interaction

/-- The paths from a state, with the labels of their steps. -/
inductive Path {W L : Type} (step : W → L → W → Prop) : W → List L → W → Prop where
  | nil (s : W) : Path step s [] s
  | cons {s s₁ s₂ : W} {l : L} {ls : List L} : step s l s₁ → Path step s₁ ls s₂ → Path step s (l :: ls) s₂

namespace Path

variable {W L : Type} {step : W → L → W → Prop} {s s' : W} {ls : List L} {I : W → Prop} {G T : L → Prop}

theorem eq_of_nil (h : Path step s [] s') : s = s' := by
  cases h
  rfl

theorem snoc {s₁ : W} {l : L} (h : Path step s ls s₁) (hl : step s₁ l s') : Path step s (ls ++ [l]) s' := by
  induction h with
  | nil s => exact .cons hl (.nil _)
  | cons h _ ih => exact .cons h (ih hl)

/-- The last step of a path. -/
theorem last {l : L} (h : Path step s (ls ++ [l]) s') : ∃ s₁, Path step s ls s₁ ∧ step s₁ l s' := by
  induction ls generalizing s with
  | nil =>
    cases h with
    | cons hl hrest =>
      cases hrest
      exact ⟨s, .nil s, hl⟩
  | cons l₀ ls ih =>
    cases h with
    | cons hl hrest =>
      obtain ⟨s₁, hpath, hlast⟩ := ih hrest
      exact ⟨s₁, .cons hl hpath, hlast⟩

/-- **Invariant rule.** What every step under the condition `T` keeps, and what it then guarantees of the step. -/
theorem invariant (hstep : ∀ s l s', I s → T l → step s l s' → I s' ∧ G l) (h : Path step s ls s') (hs : I s)
    (hT : ∀ l ∈ ls, T l) : I s' ∧ ∀ l ∈ ls, G l := by
  induction h with
  | nil s => exact ⟨hs, by simp⟩
  | cons hl _ ih =>
    obtain ⟨h1, hG⟩ := hstep _ _ _ hs (hT _ List.mem_cons_self) hl
    obtain ⟨h2, h3⟩ := ih h1 fun l hm => hT l (List.mem_cons_of_mem _ hm)
    exact ⟨h2, List.forall_mem_cons.2 ⟨hG, h3⟩⟩

/-- **Exact conditions.** If in the invariant a step has the property just if it meets the condition, and the steps
that meet it keep the invariant, then the steps of a run all have the property just if they all meet the condition. -/
theorem forall_iff (hstep : ∀ s l s', I s → step s l s' → (G l ↔ T l) ∧ (T l → I s')) (h : Path step s ls s')
    (hs : I s) : (∀ l ∈ ls, G l) ↔ ∀ l ∈ ls, T l := by
  induction h with
  | nil s => simp
  | cons hl _ ih =>
    obtain ⟨h1, h2⟩ := hstep _ _ _ hs hl
    rw [List.forall_mem_cons, List.forall_mem_cons, h1]
    exact and_congr_right fun hT => ih (h2 hT)

end Path

end SocketLibrary.Interaction
