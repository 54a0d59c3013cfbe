import SocketLibrary.Interaction.Concurrent

/-!
# Calls with a precondition

Where a call may only be made in some states (`L`), a program is safe from a state if it makes no other calls on any
run, and every run ends in the postcondition. Safety is kept as the program goes on (`Prog.Safe.rest`), so that the next
call of a method under way is always allowed, and is carried from one environment to another by a simulation
(`Prog.Safe.simulate`).
-/

namespace SocketLibrary.Interaction

/-- Whatever is answered, the program makes only calls that `L` allows in the state they are made in, and ends in `Q`. -/
def Prog.Safe {C : Type} {A : C → Type} {σ α : Type} (env : Env C A σ) (L : σ → C → Prop) :
    Prog C A α → (α → σ → Prop) → σ → Prop
  | .pure a, Q, s => Q a s
  | .call c k, Q, s => L s c ∧ ∀ x s', env c s x s' → (k x).Safe env L Q s'

namespace Prog

variable {C : Type} {A : C → Type} {σ τ α β : Type} {env : Env C A σ} {L : σ → C → Prop}

theorem safe_bind {m : Prog C A α} {f : α → Prog C A β} {Q : β → σ → Prop} {s : σ} :
    (m.bind f).Safe env L Q s ↔ m.Safe env L (fun a s' => (f a).Safe env L Q s') s := by
  induction m generalizing s with
  | pure a => exact Iff.rfl
  | call c k ih => simp only [call_bind, Safe, ih]

theorem Safe.mono {Q Q' : α → σ → Prop} {m : Prog C A α} {s : σ} (h : m.Safe env L Q s)
    (hQ : ∀ a s', Q a s' → Q' a s') : m.Safe env L Q' s := by
  induction m generalizing s with
  | pure a => exact hQ a s h
  | call c k ih => exact ⟨h.1, fun x s' hx => ih x (h.2 x s' hx)⟩

/-- What a run ends in. -/
theorem Safe.post {Q : α → σ → Prop} {m : Prog C A α} {s s' : σ} {tr : List (Event C A σ)} {a : α}
    (h : m.Safe env L Q s) (hr : m.Runs env s tr a s') : Q a s' := by
  induction hr with
  | pure a s => exact h
  | call hx _ ih => exact ih (h.2 _ _ hx)

/-- What is left of a safe program is safe in the state that it has come to. -/
theorem Safe.rest {Q : α → σ → Prop} {p p' : Prog C A α × σ} {tr : List (Event C A σ)}
    (h : Path (CallStep env) p tr p') (hp : p.1.Safe env L Q p.2) : p'.1.Safe env L Q p'.2 := by
  induction h with
  | nil p => exact hp
  | cons hl _ ih =>
    obtain ⟨hx⟩ := hl
    exact ih (hp.2 _ _ hx)

/-- A program that makes only calls of `P`, each of which is allowed and keeps `J`. -/
theorem Safe.of_always {P : C → Prop} {J : σ → Prop} {Q : α → Prop} {m : Prog C A α} {s : σ} (h : m.Always P Q)
    (hL : ∀ c s, P c → J s → L s c) (hJ : ∀ c s x s', P c → J s → env c s x s' → J s') (hs : J s) :
    m.Safe env L (fun a s' => Q a ∧ J s') s := by
  induction m generalizing s with
  | pure a => exact ⟨h, hs⟩
  | call c k ih => exact ⟨hL c s h.1 hs, fun x s' hx => ih x (h.2 x) (hJ c s x s' h.1 hs hx)⟩

/-- **Simulation.** What is safe where `env'` answers is safe where `env` does, if `env'` can answer whatever `env` does
and allows no more. -/
theorem Safe.simulate {env' : Env C A τ} {L' : τ → C → Prop} {R : σ → τ → Prop}
    (hR : ∀ c s t x s', R s t → env c s x s' → ∃ t', env' c t x t' ∧ R s' t') (hL : ∀ c s t, R s t → L' t c → L s c)
    {Q : α → τ → Prop} {m : Prog C A α} {s : σ} {t : τ} (h : m.Safe env' L' Q t) (hst : R s t) :
    m.Safe env L (fun a s' => ∃ t', R s' t' ∧ Q a t') s := by
  induction m generalizing s t with
  | pure a => exact ⟨t, hst, h⟩
  | call c k ih =>
    refine ⟨hL c s t hst h.1, fun x s' hx => ?_⟩
    obtain ⟨t', hx', hst'⟩ := hR c s t x s' hst hx
    exact ih x (h.2 x t' hx') hst'

end Prog

/-- An environment that answers anything, and keeps a list of what `f` says of the calls and their answers. -/
def Env.tally {C X : Type} {A : C → Type} (f : (c : C) × A c → List X) : Env C A (List X) :=
  fun c l x l' => l' = l ++ f ⟨c, x⟩

/-- What a program makes of such a list is what its calls say in every environment. -/
theorem Prog.Safe.of_tally {C X : Type} {A : C → Type} {σ α : Type} {f : (c : C) × A c → List X} {env : Env C A σ}
    {L : List X → C → Prop} {Q : α → List X → Prop} {m : Prog C A α} {l : List X} (h : m.Safe (.tally f) L Q l) (s : σ) :
    m.wp env (fun tr a _ => Q a (l ++ tr.flatMap fun e => f e.act)) s := by
  induction m generalizing l s with
  | pure a =>
    show Q a (l ++ [])
    rw [List.append_nil]
    exact h
  | call c k ih =>
    intro x s' hx
    refine Prog.wp_mono (ih x (h.2 x _ rfl) s') ?_
    intro tr a s'' ha
    rw [List.append_assoc] at ha
    exact ha

namespace Method

variable {C : Type} {A : C → Type} {σ E S α β : Type} (env : Env C A σ) (L : σ → C → Prop)

/-- Called on the object `o`, the method makes only calls that `L` allows, and ends in `Q`. -/
def Safe (m : Method C A E S α) (Q : Outcome E α → S → σ → Prop) (o : S) (s : σ) : Prop :=
  (m o).Safe env L (fun p => Q p.1 p.2) s

/-- The postcondition of `m` in `m >>= f`. -/
def Forth (f : α → Method C A E S β) (Q : Outcome E β → S → σ → Prop) : Outcome E α → S → σ → Prop
  | .returned a, o, s => (f a).Safe env L Q o s
  | .threw e, o, s => Q (.threw e) o s
  | .running, o, s => Q .running o s

variable {env L} {Q : Outcome E α → S → σ → Prop} {o : S} {s : σ}

theorem Safe.mono {Q' : Outcome E α → S → σ → Prop} {m : Method C A E S α} (h : m.Safe env L Q o s)
    (hQ : ∀ r o' s', Q r o' s' → Q' r o' s') : m.Safe env L Q' o s :=
  Prog.Safe.mono h fun _ _ => hQ _ _ _

theorem Safe.post {m : Method C A E S α} {o' : S} {s' : σ} {tr : List (Event C A σ)} {r : Outcome E α}
    (h : m.Safe env L Q o s) (hr : m.Runs env o s tr r o' s') : Q r o' s' :=
  Prog.Safe.post (Q := fun p : Outcome E α × S => Q p.1 p.2) h hr

section Rules

@[simp] theorem safe_pure (a : α) : (pure a : Method C A E S α).Safe env L Q o s ↔ Q (.returned a) o s := Iff.rfl

@[simp] theorem safe_throw (e : E) : (throw e : Method C A E S α).Safe env L Q o s ↔ Q (.threw e) o s := Iff.rfl

@[simp] theorem safe_call (c : C) {Q : Outcome E (A c) → S → σ → Prop} :
    (call c : Method C A E S (A c)).Safe env L Q o s ↔ L s c ∧ ∀ x s', env c s x s' → Q (.returned x) o s' := Iff.rfl

@[simp] theorem safe_this {Q : Outcome E S → S → σ → Prop} :
    (this : Method C A E S S).Safe env L Q o s ↔ Q (.returned o) o s := Iff.rfl

@[simp] theorem safe_modify (f : S → S) {Q : Outcome E Unit → S → σ → Prop} :
    (modify f : Method C A E S Unit).Safe env L Q o s ↔ Q (.returned ()) (f o) s := Iff.rfl

@[simp] theorem safe_bind {m : Method C A E S α} {f : α → Method C A E S β} {Q : Outcome E β → S → σ → Prop} :
    (m >>= f).Safe env L Q o s ↔ m.Safe env L (Forth env L f Q) o s := by
  have key : ∀ (p : Outcome E α × S) s', (next f p).Safe env L (fun q => Q q.1 q.2) s' ↔ Forth env L f Q p.1 p.2 s' := by
    rintro ⟨a | e | _, o'⟩ s' <;> exact Iff.rfl
  show ((m o).bind (next f)).Safe env L _ s ↔ _
  rw [Prog.safe_bind, Safe]
  simp only [key]

@[simp] theorem safe_ite {p : Prop} [Decidable p] {m m' : Method C A E S α} :
    (if p then m else m').Safe env L Q o s ↔ (p → m.Safe env L Q o s) ∧ (¬ p → m'.Safe env L Q o s) := by
  split <;> simp [*]

variable {f : α → Method C A E S β} {Q : Outcome E β → S → σ → Prop}

@[simp] theorem forth_returned (a : α) : Forth env L f Q (.returned a) o s ↔ (f a).Safe env L Q o s := Iff.rfl

@[simp] theorem forth_threw (e : E) : Forth env L f Q (.threw e) o s ↔ Q (.threw e) o s := Iff.rfl

end Rules

/-- **Invariant rule.** Two parts that keep an invariant keep it together. -/
theorem Safe.seq {I : S → σ → Prop} {m : Method C A E S α} {f : α → Method C A E S β}
    (hm : m.Safe env L (fun _ o' s' => I o' s') o s)
    (hf : ∀ a o' s', I o' s' → (f a).Safe env L (fun _ o'' s'' => I o'' s'') o' s') :
    (m >>= f).Safe env L (fun _ o' s' => I o' s') o s := by
  rw [safe_bind]
  refine hm.mono fun r o' s' h => ?_
  cases r with
  | returned a => exact hf a o' s' h
  | threw e => exact h
  | running => exact h

/-- The method ends in `J` in any case, and if it returns, it also does so in `R`. -/
def Ending (J : S → σ → Prop) (R : α → S → σ → Prop) : Outcome E α → S → σ → Prop :=
  fun r o s => J o s ∧ ∀ a, r = .returned a → R a o s

section Ending

variable {J : S → σ → Prop} {R : α → S → σ → Prop}

@[simp] theorem ending_returned (a : α) : Ending J R (.returned a : Outcome E α) o s ↔ J o s ∧ R a o s := by
  simp [Ending]

@[simp] theorem ending_threw (e : E) : Ending J R (.threw e : Outcome E α) o s ↔ J o s := by
  simp [Ending]

@[simp] theorem ending_running : Ending J R (.running : Outcome E α) o s ↔ J o s := by
  simp [Ending]

theorem Safe.returns {a : α} (hs : J o s) (ha : R a o s) : (pure a : Method C A E S α).Safe env L (Ending J R) o s :=
  (ending_returned a).2 ⟨hs, ha⟩

theorem Safe.throws {e : E} (hs : J o s) : (throw e : Method C A E S α).Safe env L (Ending J R) o s :=
  (ending_threw e).2 hs

/-- A sequence: the second part only begins where the first one has returned. -/
theorem Safe.andThen {R' : β → S → σ → Prop} {m : Method C A E S α} {f : α → Method C A E S β}
    (hm : m.Safe env L (Ending J R) o s)
    (hf : ∀ a o' s', J o' s' → R a o' s' → (f a).Safe env L (Ending J R') o' s') :
    (m >>= f).Safe env L (Ending J R') o s := by
  rw [safe_bind]
  refine hm.mono fun r o' s' h => ?_
  cases r with
  | returned a => exact hf a o' s' h.1 (h.2 a rfl)
  | threw e => exact (ending_threw e).2 h.1
  | running => exact ending_running.2 h.1

end Ending

/-- A method that makes only calls of `P`, each of which is allowed and keeps `J`. -/
theorem Safe.of_always {P : C → Prop} {J : σ → Prop} {Q : Outcome E α → S → Prop} {m : Method C A E S α}
    (h : m.Always P o Q) (hL : ∀ c s, P c → J s → L s c) (hJ : ∀ c s x s', P c → J s → env c s x s' → J s')
    (hs : J s) : m.Safe env L (fun r o' s' => Q r o' ∧ J s') o s :=
  Prog.Safe.of_always h hL hJ hs

theorem Safe.of_tally {X τ : Type} {f : (c : C) × A c → List X} {L : List X → C → Prop}
    {Q : Outcome E α → S → List X → Prop} {m : Method C A E S α} {l : List X} (h : m.Safe (.tally f) L Q o l)
    (env : Env C A τ) (t : τ) : m.wp env (fun tr r o' _ => Q r o' (l ++ tr.flatMap fun e => f e.act)) o t :=
  Prog.Safe.of_tally (Q := fun p : Outcome E α × S => Q p.1 p.2) h t

/-- A method on a part of an object, with what is made of its end. -/
theorem safe_part {m : Method C A E S α} {g : Outcome E α × S → β} {Q : β → σ → Prop} :
    ((m o).bind fun p => .pure (g p)).Safe env L Q s ↔ m.Safe env L (fun r o' s' => Q (g (r, o')) s') o s :=
  Prog.safe_bind

end Method

end SocketLibrary.Interaction
