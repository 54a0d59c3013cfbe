import SocketLibrary.Interaction.Program

/-!
# Runs against an environment, and weakest preconditions

An environment is a relation: in the state `s` it may answer the call `c` with `x` and be in the state `s'` afterwards.
A run of a program is a path through its tree that the environment allows, with the trace of the calls made, each with
the state it was made in and its answer.

`Prog.wp` is the condition on the start state under which every run ends in a state, a value and a trace of a
postcondition (`Prog.wp_iff`); the rules below compute it for methods, and `Method.wp_iterate` and
`Method.wp_iterate_variant` are the invariant rules for loops.
-/

namespace SocketLibrary.Interaction

/-- What an environment with states `σ` can answer. -/
abbrev Env (C : Type) (A : C → Type) (σ : Type) := (c : C) → σ → A c → σ → Prop

/-- A call that was made: the state it was made in, and the answer. -/
structure Event (C : Type) (A : C → Type) (σ : Type) where
  pre : σ
  call : C
  answer : A call

/-- What no event of the first part of a trace does, an event of the trace does just if one of the second part does. -/
theorem exists_append_iff {ε : Type} {P : ε → Prop} {l l' : List ε} (h : ¬ ∃ e ∈ l, P e) :
    (∃ e ∈ l ++ l', P e) ↔ ∃ e ∈ l', P e := by
  simp only [List.mem_append, or_and_right, exists_or, h, false_or]

theorem not_exists_append {ε : Type} {P : ε → Prop} {l l' : List ε} (h : ¬ ∃ e ∈ l, P e) (h' : ¬ ∃ e ∈ l', P e) :
    ¬ ∃ e ∈ l ++ l', P e := by
  rwa [exists_append_iff h]

theorem not_exists_nil {ε : Type} {P : ε → Prop} : ¬ ∃ e ∈ ([] : List ε), P e := by simp

theorem not_exists_cons {ε : Type} {P : ε → Prop} {e : ε} {l : List ε} (he : ¬ P e) (h : ¬ ∃ e ∈ l, P e) :
    ¬ ∃ e' ∈ e :: l, P e' := by
  rintro ⟨e', he', hP⟩
  rcases List.mem_cons.1 he' with rfl | he'
  · exact he hP
  · exact h ⟨e', he', hP⟩

/-- The runs of a program. -/
inductive Prog.Runs {C : Type} {A : C → Type} {σ : Type} (env : Env C A σ) {α : Type} :
    Prog C A α → σ → List (Event C A σ) → α → σ → Prop where
  | pure (a : α) (s : σ) : Runs env (.pure a) s [] a s
  | call {c : C} {k : A c → Prog C A α} {s s₁ s₂ : σ} {x : A c} {tr : List (Event C A σ)} {a : α} :
      env c s x s₁ → Runs env (k x) s₁ tr a s₂ → Runs env (.call c k) s (⟨s, c, x⟩ :: tr) a s₂

/-- Every run of the program from the state ends in the postcondition. -/
def Prog.wp {C : Type} {A : C → Type} {σ : Type} (env : Env C A σ) {α : Type} :
    Prog C A α → (List (Event C A σ) → α → σ → Prop) → σ → Prop
  | .pure a, Q, s => Q [] a s
  | .call c k, Q, s => ∀ x s', env c s x s' → (k x).wp env (fun tr => Q (⟨s, c, x⟩ :: tr)) s'

namespace Prog

variable {C : Type} {A : C → Type} {σ : Type} {env : Env C A σ} {α β : Type}

/-- `wp` is exactly the statement about all runs. -/
theorem wp_iff {m : Prog C A α} {Q : List (Event C A σ) → α → σ → Prop} {s : σ} :
    m.wp env Q s ↔ ∀ tr a s', m.Runs env s tr a s' → Q tr a s' := by
  induction m generalizing Q s with
  | pure a =>
    constructor
    · rintro h _ _ _ ⟨⟩
      exact h
    · intro h
      exact h _ _ _ (.pure a s)
  | call c k ih =>
    constructor
    · rintro h _ _ _ (_ | ⟨hx, hr⟩)
      exact (ih _).1 (h _ _ hx) _ _ _ hr
    · intro h x s' hx
      exact (ih x).2 fun tr a s'' hr => h _ _ _ (.call hx hr)

theorem bind_assoc {γ : Type} (m : Prog C A α) (f : α → Prog C A β) (g : β → Prog C A γ) :
    (m.bind f).bind g = m.bind fun a => (f a).bind g := by
  induction m with
  | pure a => rfl
  | call c k ih => simp only [call_bind, ih]

/-- The runs of a program whose value is only wrapped up. -/
theorem runs_wrap {m : Prog C A α} {g : α → β} {s s' : σ} {tr : List (Event C A σ)} {b : β} :
    (m.bind fun a => .pure (g a)).Runs env s tr b s' ↔ ∃ a, m.Runs env s tr a s' ∧ g a = b := by
  induction m generalizing s tr with
  | pure a =>
    constructor
    · rintro ⟨⟩
      exact ⟨a, .pure a _, rfl⟩
    · rintro ⟨_, ⟨⟩, rfl⟩
      exact .pure (g a) _
  | call c k ih =>
    constructor
    · rintro (_ | ⟨hx, hr⟩)
      obtain ⟨a, hr, hb⟩ := (ih _).1 hr
      exact ⟨a, .call hx hr, hb⟩
    · rintro ⟨a, _ | ⟨hx, hr⟩, hb⟩
      exact .call hx ((ih _).2 ⟨a, hr, hb⟩)

theorem wp_bind {m : Prog C A α} {f : α → Prog C A β} {Q : List (Event C A σ) → β → σ → Prop} {s : σ} :
    (m.bind f).wp env Q s ↔ m.wp env (fun tr a s' => (f a).wp env (fun tr' => Q (tr ++ tr')) s') s := by
  induction m generalizing Q s with
  | pure a => simp [wp]
  | call c k ih => simp [wp, ih]

theorem wp_mono {m : Prog C A α} {Q Q' : List (Event C A σ) → α → σ → Prop} {s : σ} (h : m.wp env Q s)
    (hQ : ∀ tr a s', Q tr a s' → Q' tr a s') : m.wp env Q' s :=
  wp_iff.2 fun tr a s' hr => hQ _ _ _ (wp_iff.1 h tr a s' hr)

/-- What every call keeps, every run keeps. -/
theorem Runs.invariant {I : σ → Prop} (hI : ∀ c s x s', I s → env c s x s' → I s') {m : Prog C A α} {s s' : σ}
    {tr : List (Event C A σ)} {a : α} (h : m.Runs env s tr a s') (hs : I s) : I s' ∧ ∀ e ∈ tr, I e.pre := by
  induction h with
  | pure a s => exact ⟨hs, by simp⟩
  | call hx _ ih =>
    obtain ⟨h1, h2⟩ := ih (hI _ _ _ _ hs hx)
    refine ⟨h1, fun e he => ?_⟩
    rcases List.mem_cons.1 he with rfl | he
    · exact hs
    · exact h2 e he

/-- **Simulation.** If `env'` can answer whatever `env` does, keeping the states related, then every run against `env`
is a run against `env'`, call by call from related states. -/
theorem Runs.simulate {σ' : Type} {env' : Env C A σ'} {R : σ → σ' → Prop}
    (hR : ∀ c s t x s', R s t → env c s x s' → ∃ t', env' c t x t' ∧ R s' t') {m : Prog C A α} {s s' : σ}
    {tr : List (Event C A σ)} {a : α} (h : m.Runs env s tr a s') {t : σ'} (hst : R s t) :
    ∃ tr' t', m.Runs env' t tr' a t' ∧ R s' t' ∧
      ∀ e ∈ tr, ∃ e' ∈ tr', R e.pre e'.pre ∧ e.call = e'.call := by
  induction h generalizing t with
  | pure a s => exact ⟨[], t, .pure a t, hst, by simp⟩
  | @call c k s s₁ s₂ x tr a hx _ ih =>
    obtain ⟨t₁, hx', hst₁⟩ := hR _ _ _ _ _ hst hx
    obtain ⟨tr', t', hr, hst', he⟩ := ih hst₁
    refine ⟨⟨t, c, x⟩ :: tr', t', .call hx' hr, hst', fun e hm => ?_⟩
    rcases List.mem_cons.1 hm with rfl | hm
    · exact ⟨_, List.mem_cons_self, hst, rfl⟩
    · obtain ⟨e', hm', h'⟩ := he e hm
      exact ⟨e', List.mem_cons_of_mem _ hm', h'⟩

/-- A program has a run where every call has an answer. -/
theorem exists_run (henv : ∀ c s, ∃ x s', env c s x s') (m : Prog C A α) (s : σ) : ∃ tr a s', m.Runs env s tr a s' := by
  induction m generalizing s with
  | pure a => exact ⟨[], a, s, .pure a s⟩
  | call c k ih =>
    obtain ⟨x, s₁, hx⟩ := henv c s
    obtain ⟨tr, a, s₂, hr⟩ := ih x s₁
    exact ⟨_, a, s₂, .call hx hr⟩

/-- Run a program with an environment that computes its answers. -/
def exec (h : (c : C) → σ → A c × σ) : Prog C A α → σ → List (Event C A σ) × α × σ
  | .pure a, s => ([], a, s)
  | .call c k, s =>
    let r := (k (h c s).1).exec h (h c s).2
    (⟨s, c, (h c s).1⟩ :: r.1, r.2)

/-- What `exec` computes is a run. -/
theorem exec_runs {h : (c : C) → σ → A c × σ} (hh : ∀ c s, env c s (h c s).1 (h c s).2) (m : Prog C A α) (s : σ) :
    m.Runs env s (m.exec h s).1 (m.exec h s).2.1 (m.exec h s).2.2 := by
  induction m generalizing s with
  | pure a => exact .pure a s
  | call c k ih => exact .call (hh c s) (ih _ _)

end Prog

namespace Method

variable {C : Type} {A : C → Type} {σ : Type} {E S α β γ : Type}

/-- The runs of a method: from an object and a state to an outcome, an object and a state. -/
def Runs (env : Env C A σ) (m : Method C A E S α) (o : S) (s : σ) (tr : List (Event C A σ)) (r : Outcome E α) (o' : S)
    (s' : σ) : Prop :=
  (m o).Runs env s tr (r, o') s'

/-- Postconditions of a method. -/
abbrev Post (C : Type) (A : C → Type) (σ E S α : Type) := List (Event C A σ) → Outcome E α → S → σ → Prop

/-- Every run of the method ends in the postcondition. -/
def wp (env : Env C A σ) (m : Method C A E S α) (Q : Post C A σ E S α) (o : S) (s : σ) : Prop :=
  (m o).wp env (fun tr p s' => Q tr p.1 p.2 s') s

/-- The postcondition of `m` in `m >>= f`. -/
def after (env : Env C A σ) (f : α → Method C A E S β) (Q : Post C A σ E S β) : Post C A σ E S α :=
  fun tr r o s => match r with
    | .returned a => (f a).wp env (fun tr' => Q (tr ++ tr')) o s
    | .threw e => Q tr (.threw e) o s
    | .running => Q tr .running o s

variable {env : Env C A σ}

theorem wp_iff {m : Method C A E S α} {Q : Post C A σ E S α} {o : S} {s : σ} :
    m.wp env Q o s ↔ ∀ tr r o' s', m.Runs env o s tr r o' s' → Q tr r o' s' := by
  simp only [wp, Prog.wp_iff, Runs, Prod.forall]

/-- A run with the property exists just if not every run is without it. -/
theorem exists_run_iff {m : Method C A E S α} {Q : Post C A σ E S α} {o : S} {s : σ} :
    (∃ tr r o' s', m.Runs env o s tr r o' s' ∧ Q tr r o' s') ↔ ¬ m.wp env (fun tr r o' s' => ¬ Q tr r o' s') o s := by
  constructor
  · rintro ⟨tr, r, o', s', hr, hQ⟩ hwp
    exact wp_iff.1 hwp tr r o' s' hr hQ
  · intro hwp
    apply Classical.byContradiction
    intro hnone
    exact hwp (wp_iff.2 fun tr r o' s' hr hQ => hnone ⟨tr, r, o', s', hr, hQ⟩)

theorem Runs.post {m : Method C A E S α} {Q : Post C A σ E S α} {o o' : S} {s s' : σ} {tr : List (Event C A σ)}
    {r : Outcome E α} (h : m.Runs env o s tr r o' s') (hm : m.wp env Q o s) : Q tr r o' s' :=
  wp_iff.1 hm tr r o' s' h

theorem wp_mono {m : Method C A E S α} {Q Q' : Post C A σ E S α} {o : S} {s : σ} (h : m.wp env Q o s)
    (hQ : ∀ tr r o' s', Q tr r o' s' → Q' tr r o' s') : m.wp env Q' o s :=
  Prog.wp_mono h fun _ _ _ => hQ _ _ _ _

/-- A run of a method that begins with a call. -/
theorem Runs.of_call {m : Method C A E S α} {o o' : S} {s s' : σ} {tr : List (Event C A σ)} {r : Outcome E α} {c : C}
    {k : A c → Prog C A (Outcome E α × S)} (hm : m o = .call c k) (h : m.Runs env o s tr r o' s') :
    ∃ x s₁ tr', env c s x s₁ ∧ (k x).Runs env s₁ tr' (r, o') s' ∧ tr = ⟨s, c, x⟩ :: tr' := by
  unfold Runs at h
  rw [hm] at h
  rcases h with _ | ⟨hx, hr⟩
  exact ⟨_, _, _, hx, hr, rfl⟩

/-- What a method does from an object is all that counts there. -/
theorem wp_congr {m m' : Method C A E S α} {Q : Post C A σ E S α} {o : S} {s : σ} (h : m o = m' o) :
    m.wp env Q o s ↔ m'.wp env Q o s := by
  unfold wp
  rw [h]

/-! ### The rules, one for each construct -/

section Rules

variable {Q : Post C A σ E S α} {o : S} {s : σ}

@[simp] theorem wp_pure (a : α) : (pure a : Method C A E S α).wp env Q o s ↔ Q [] (.returned a) o s := Iff.rfl

@[simp] theorem wp_throw (e : E) : (throw e : Method C A E S α).wp env Q o s ↔ Q [] (.threw e) o s := Iff.rfl

@[simp] theorem wp_stillRunning : (stillRunning : Method C A E S α).wp env Q o s ↔ Q [] .running o s := Iff.rfl

@[simp] theorem wp_call (c : C) {Q : Post C A σ E S (A c)} :
    (call c : Method C A E S (A c)).wp env Q o s ↔ ∀ x s', env c s x s' → Q [⟨s, c, x⟩] (.returned x) o s' := Iff.rfl

@[simp] theorem wp_this {Q : Post C A σ E S S} :
    (this : Method C A E S S).wp env Q o s ↔ Q [] (.returned o) o s := Iff.rfl

@[simp] theorem wp_modify (f : S → S) {Q : Post C A σ E S Unit} :
    (modify f : Method C A E S Unit).wp env Q o s ↔ Q [] (.returned ()) (f o) s := Iff.rfl

@[simp] theorem wp_bind {m : Method C A E S α} {f : α → Method C A E S β} {Q : Post C A σ E S β} :
    (m >>= f).wp env Q o s ↔ m.wp env (after env f Q) o s := by
  show ((m o).bind (next f)).wp env _ s ↔ _
  rw [Prog.wp_bind, wp]
  have key : ∀ tr (p : Outcome E α × S) s', ((next f p).wp env (fun tr' q => Q (tr ++ tr') q.1 q.2) s' ↔
      after env f Q tr p.1 p.2 s') := by
    rintro tr ⟨a | e | _, o'⟩ s'
    · exact Iff.rfl
    · simp [next, after, Prog.wp]
    · simp [next, after, Prog.wp]
  simp only [key]

/-- A trace that came before only goes in front. -/
theorem after_append (f : α → Method C A E S β) (Q : Post C A σ E S β) (tr : List (Event C A σ)) :
    (fun tr' => after env f Q (tr ++ tr')) = after env f fun tr' => Q (tr ++ tr') := by
  funext tr' r o s
  cases r with
  | returned a => simp only [after, List.append_assoc]
  | threw e => rfl
  | running => rfl

theorem wp_bind_assoc {m : Method C A E S γ} {f : γ → Method C A E S β} {g : β → Method C A E S α} :
    (m >>= f >>= g).wp env Q o s ↔ (m >>= fun c => f c >>= g).wp env Q o s := by
  have key : after env f (after env g Q) = after env (fun c => f c >>= g) Q := by
    funext tr r o s
    cases r with
    | returned c =>
      show (f c).wp env (fun tr' => after env g Q (tr ++ tr')) o s = (f c >>= g).wp env (fun tr' => Q (tr ++ tr')) o s
      rw [wp_bind, after_append]
    | threw e => rfl
    | running => rfl
  rw [wp_bind, wp_bind, wp_bind, key]

@[simp] theorem wp_ite {p : Prop} [Decidable p] {m m' : Method C A E S α} :
    (if p then m else m').wp env Q o s ↔ (p → m.wp env Q o s) ∧ (¬ p → m'.wp env Q o s) := by
  split <;> simp [*]

variable {f : α → Method C A E S β} {Q : Post C A σ E S β} {tr : List (Event C A σ)}

@[simp] theorem after_returned (a : α) :
    after env f Q tr (.returned a) o s ↔ (f a).wp env (fun tr' => Q (tr ++ tr')) o s := Iff.rfl

@[simp] theorem after_threw (e : E) : after env f Q tr (.threw e) o s ↔ Q tr (.threw e) o s := Iff.rfl

@[simp] theorem after_running : after env f Q tr .running o s ↔ Q tr .running o s := Iff.rfl

end Rules

/-- The trace of a method whose value is only wrapped up. -/
theorem wp_wrap {m : Method C A E S α} {g : α → β} {o : S} {s : σ} {T : List (Event C A σ) → Prop}
    (hm : m.wp env (fun tr _ _ _ => T tr) o s) :
    (m >>= fun a => pure (g a)).wp env (fun tr _ _ _ => T tr) o s := by
  rw [wp_bind]
  refine wp_mono hm ?_
  intro tr r o' s' htr
  cases r with
  | returned a =>
    rw [after_returned, wp_pure, List.append_nil]
    exact htr
  | threw e => exact htr
  | running => exact htr

/-- A sequence that returns: its two parts. -/
theorem Runs.of_bind {m : Method C A E S γ} {f : γ → Method C A E S β} {o o' : S} {s s' : σ} {tr : List (Event C A σ)}
    {b : β} (h : (m >>= f).Runs env o s tr (.returned b) o' s') :
    ∃ tr₁ c o₁ s₁ tr₂, m.Runs env o s tr₁ (.returned c) o₁ s₁ ∧ (f c).Runs env o₁ s₁ tr₂ (.returned b) o' s' ∧
      tr = tr₁ ++ tr₂ := by
  have key : (m >>= f).wp env (fun tr r o' s' => ∀ b, r = .returned b → ∃ tr₁ c o₁ s₁ tr₂,
      m.Runs env o s tr₁ (.returned c) o₁ s₁ ∧ (f c).Runs env o₁ s₁ tr₂ (.returned b) o' s' ∧ tr = tr₁ ++ tr₂) o s := by
    rw [wp_bind, wp_iff]
    rintro tr₁ (c | e | _) o₁ s₁ hm
    · rw [after_returned, wp_iff]
      rintro tr₂ r o₂ s₂ hf b rfl
      exact ⟨tr₁, c, o₁, s₁, tr₂, hm, hf, rfl⟩
    · simp
    · simp
  exact h.post key b rfl

/-- What the trace of the first part settles, whatever follows. -/
theorem wp_bind_of_first {m : Method C A E S γ} {f : γ → Method C A E S α} {Q : Post C A σ E S α} {o : S} {s : σ}
    {T : List (Event C A σ) → Prop} (hm : m.wp env (fun tr _ _ _ => T tr) o s)
    (hQ : ∀ tr tr' r o' s', T tr → Q (tr ++ tr') r o' s') : (m >>= f).wp env Q o s := by
  rw [wp_bind]
  refine wp_mono hm ?_
  intro tr r o' s' h
  cases r with
  | returned c => exact wp_iff.2 fun tr' r' o'' s'' _ => hQ tr tr' r' o'' s'' h
  | threw e =>
    rw [after_threw, ← List.append_nil tr]
    exact hQ tr [] _ o' s' h
  | running =>
    rw [after_running, ← List.append_nil tr]
    exact hQ tr [] _ o' s' h

/-! ### What holds if a method returns -/

section Returning

variable {Q : List (Event C A σ) → α → S → σ → Prop} {o : S} {s : σ} {tr : List (Event C A σ)}

/-- The postcondition of the runs that return; any other end is allowed. -/
def Returning (Q : List (Event C A σ) → α → S → σ → Prop) : Post C A σ E S α := fun tr r o s =>
  ∀ a, r = .returned a → Q tr a o s

@[simp] theorem returning_returned {a : α} : (Returning Q : Post C A σ E S α) tr (.returned a) o s ↔ Q tr a o s := by
  constructor
  · intro h
    exact h a rfl
  · intro h a' ha
    cases ha
    exact h

@[simp] theorem returning_threw {e : E} : Returning Q tr (.threw e) o s := by
  intro a ha
  cases ha

@[simp] theorem returning_running : (Returning Q : Post C A σ E S α) tr .running o s := by
  intro a ha
  cases ha

/-- **Sequences.** Only what follows a return counts. -/
theorem wp_bind_returning {m : Method C A E S γ} {f : γ → Method C A E S α} {P : List (Event C A σ) → γ → S → σ → Prop}
    (hm : m.wp env (Returning P) o s)
    (hf : ∀ tr c o' s', P tr c o' s' → (f c).wp env (Returning fun tr' => Q (tr ++ tr')) o' s') :
    (m >>= f).wp env (Returning Q) o s := by
  rw [wp_bind]
  refine wp_mono hm ?_
  intro tr r o' s' h
  cases r with
  | returned c => exact hf tr c o' s' (returning_returned.1 h)
  | threw e => exact returning_threw
  | running => exact returning_running

end Returning

/-! ### Loops -/

section Loops

variable (body : β → Method C A E S (β ⊕ α)) (I : List (Event C A σ) → β → S → σ → Prop) (Q : Post C A σ E S α)

/-- What one turn of a loop leads to: the invariant again, or the postcondition. -/
def Turn : Post C A σ E S (β ⊕ α) := fun tr r o s => match r with
  | .returned (.inl b) => I tr b o s
  | .returned (.inr a) => Q tr (.returned a) o s
  | .threw e => Q tr (.threw e) o s
  | .running => Q tr .running o s

/-- **Invariant rule.** A turn from the invariant leads back to it or to the postcondition, and so does the loop, which
may also run out of fuel in the invariant. -/
theorem wp_iterate (hout : ∀ tr b o s, I tr b o s → Q tr .running o s)
    (hturn : ∀ tr b o s, I tr b o s → (body b).wp env (fun tr' => Turn I Q (tr ++ tr')) o s) :
    ∀ n tr b o s, I tr b o s → (iterate body n b).wp env (fun tr' => Q (tr ++ tr')) o s := by
  intro n
  induction n with
  | zero => intro tr b o s h; simpa [iterate] using hout tr b o s h
  | succ n ih =>
    intro tr b o s h
    rw [iterate, wp_bind]
    refine wp_mono (hturn tr b o s h) ?_
    rintro tr' ((b' | a) | e | _) o' s' ht
    · simpa using ih _ _ _ _ ht
    · simpa [Turn] using ht
    · exact ht
    · exact ht

/-- **Invariant rule with a variant.** When each turn that goes on makes `μ` smaller, the loop only runs out of fuel if
it had no more of it than the value of `μ` at the start. -/
theorem wp_iterate_variant (μ : β → S → σ → ℕ)
    (hturn : ∀ tr b o s, I tr b o s →
      (body b).wp env (fun tr' => Turn (fun tr b' o' s' => I tr b' o' s' ∧ μ b' o' s' < μ b o s) Q (tr ++ tr')) o s) :
    ∀ n tr b o s, I tr b o s →
      (iterate body n b).wp env (fun tr' r o' s' => Q (tr ++ tr') r o' s' ∨ r = .running ∧ n ≤ μ b o s) o s := by
  intro n
  induction n with
  | zero =>
    intro tr b o s _
    rw [iterate, wp_stillRunning]
    exact Or.inr ⟨rfl, Nat.zero_le _⟩
  | succ n ih =>
    intro tr b o s h
    rw [iterate, wp_bind]
    refine wp_mono (hturn tr b o s h) ?_
    rintro tr' ((b' | a) | e | _) o' s' ht
    · obtain ⟨hI, hlt⟩ := ht
      rw [after_returned, Sum.elim_inl]
      refine wp_mono (ih _ _ _ _ hI) ?_
      rintro tr'' r o'' s'' (hQ | ⟨hr, hn⟩)
      · left
        simpa using hQ
      · right
        exact ⟨hr, by omega⟩
    · left
      simpa [Turn] using ht
    · exact Or.inl ht
    · exact Or.inl ht

end Loops

end Method

end SocketLibrary.Interaction
