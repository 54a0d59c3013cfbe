import SocketLibrary.Interaction.Run

/-!
# What holds whatever is answered

Many facts about a method have nothing to do with what its environment is like: which calls it makes, what it leaves in
the object, which exceptions it throws. `Prog.Always` states such a fact by recursion on the program, with every answer
allowed at every call; it then holds of the runs in any environment (`Method.Always.runs`). The rules for methods are
those of `Method.wp`, without traces and states.
-/

namespace SocketLibrary.Interaction

/-- The outcome with another value. -/
def Outcome.map {E α β : Type} (g : α → β) : Outcome E α → Outcome E β
  | .returned a => .returned (g a)
  | .threw e => .threw e
  | .running => .running

@[simp] theorem Outcome.map_eq_threw {E α β : Type} {g : α → β} {r : Outcome E α} {e : E} :
    r.map g = .threw e ↔ r = .threw e := by
  cases r <;> simp [map]

/-- Whatever is answered, the program makes only calls of `P` and ends in a value of `Q`. -/
def Prog.Always {C : Type} {A : C → Type} {α : Type} (P : C → Prop) (Q : α → Prop) : Prog C A α → Prop
  | .pure a => Q a
  | .call c k => P c ∧ ∀ x, (k x).Always P Q

namespace Prog

variable {C : Type} {A : C → Type} {σ α β : Type} {P : C → Prop}

theorem always_bind {m : Prog C A α} {f : α → Prog C A β} {Q : β → Prop} :
    (m.bind f).Always P Q ↔ m.Always P fun a => (f a).Always P Q := by
  induction m with
  | pure a => exact Iff.rfl
  | call c k ih => simp only [call_bind, Always, ih]

theorem Always.mono {P' : C → Prop} {Q Q' : α → Prop} {m : Prog C A α} (h : m.Always P Q) (hP : ∀ c, P c → P' c)
    (hQ : ∀ a, Q a → Q' a) : m.Always P' Q' := by
  induction m with
  | pure a => exact hQ a h
  | call c k ih => exact ⟨hP c h.1, fun x => ih x (h.2 x)⟩

/-- It holds of every run, by induction on the run. -/
theorem Always.runs {env : Env C A σ} {Q : α → Prop} {m : Prog C A α} (h : m.Always P Q) {s s' : σ}
    {tr : List (Event C A σ)} {a : α} (hrun : m.Runs env s tr a s') : (∀ e ∈ tr, P e.call) ∧ Q a := by
  induction hrun with
  | pure a s => exact ⟨by simp, h⟩
  | call hx _ ih =>
    obtain ⟨htr, ha⟩ := ih (h.2 _)
    exact ⟨List.forall_mem_cons.2 ⟨h.1, htr⟩, ha⟩

/-- What the calls of `P` keep of the state of the environment, the run keeps. -/
theorem Always.invariant {env : Env C A σ} {J : σ → Prop} (hJ : ∀ c s x s', P c → J s → env c s x s' → J s')
    {Q : α → Prop} {m : Prog C A α} (h : m.Always P Q) {s s' : σ} {tr : List (Event C A σ)} {a : α}
    (hrun : m.Runs env s tr a s') (hs : J s) : J s' := by
  induction hrun with
  | pure a s => exact hs
  | call hx _ ih => exact ih (h.2 _) (hJ _ _ _ _ h.1 hs hx)

end Prog

namespace Method

variable {C : Type} {A : C → Type} {σ E S α β γ : Type}

/-- Whatever is answered, the method, called on the object `o`, makes only calls of `P` and ends in `Q`. -/
def Always (P : C → Prop) (m : Method C A E S α) (o : S) (Q : Outcome E α → S → Prop) : Prop :=
  (m o).Always P fun p => Q p.1 p.2

/-- The postcondition of `m` in `m >>= f`. -/
def Onward (P : C → Prop) (f : α → Method C A E S β) (Q : Outcome E β → S → Prop) : Outcome E α → S → Prop
  | .returned a, o => (f a).Always P o Q
  | .threw e, o => Q (.threw e) o
  | .running, o => Q .running o

theorem Always.runs {env : Env C A σ} {P : C → Prop} {m : Method C A E S α} {o o' : S} {Q : Outcome E α → S → Prop}
    (h : m.Always P o Q) {s s' : σ} {tr : List (Event C A σ)} {r : Outcome E α} (hrun : m.Runs env o s tr r o' s') :
    (∀ e ∈ tr, P e.call) ∧ Q r o' :=
  Prog.Always.runs h hrun

theorem Always.invariant {env : Env C A σ} {P : C → Prop} {J : σ → Prop}
    (hJ : ∀ c s x s', P c → J s → env c s x s' → J s') {m : Method C A E S α} {o o' : S} {Q : Outcome E α → S → Prop}
    (h : m.Always P o Q) {s s' : σ} {tr : List (Event C A σ)} {r : Outcome E α} (hrun : m.Runs env o s tr r o' s')
    (hs : J s) : J s' :=
  Prog.Always.invariant hJ h hrun hs

theorem Always.mono {P P' : C → Prop} {m : Method C A E S α} {o : S} {Q Q' : Outcome E α → S → Prop}
    (h : m.Always P o Q) (hP : ∀ c, P c → P' c) (hQ : ∀ r o', Q r o' → Q' r o') : m.Always P' o Q' :=
  Prog.Always.mono h hP fun p => hQ p.1 p.2

section Rules

variable {P : C → Prop} {o : S} {Q : Outcome E α → S → Prop}

@[simp] theorem always_pure (a : α) : (pure a : Method C A E S α).Always P o Q ↔ Q (.returned a) o := Iff.rfl

@[simp] theorem always_throw (e : E) : (throw e : Method C A E S α).Always P o Q ↔ Q (.threw e) o := Iff.rfl

@[simp] theorem always_stillRunning :
    (stillRunning : Method C A E S α).Always P o Q ↔ Q .running o := Iff.rfl

@[simp] theorem always_call (c : C) {Q : Outcome E (A c) → S → Prop} :
    (call c : Method C A E S (A c)).Always P o Q ↔ P c ∧ ∀ x, Q (.returned x) o := Iff.rfl

@[simp] theorem always_this {Q : Outcome E S → S → Prop} :
    (this : Method C A E S S).Always P o Q ↔ Q (.returned o) o := Iff.rfl

@[simp] theorem always_modify (f : S → S) {Q : Outcome E Unit → S → Prop} :
    (modify f : Method C A E S Unit).Always P o Q ↔ Q (.returned ()) (f o) := Iff.rfl

@[simp] theorem always_bind {m : Method C A E S α} {f : α → Method C A E S β} {Q : Outcome E β → S → Prop} :
    (m >>= f).Always P o Q ↔ m.Always P o (Onward P f Q) := by
  have key : ∀ p : Outcome E α × S, ((next f p).Always P fun q => Q q.1 q.2) ↔ Onward P f Q p.1 p.2 := by
    rintro ⟨a | e | _, o'⟩ <;> exact Iff.rfl
  show ((m o).bind (next f)).Always P _ ↔ _
  rw [Prog.always_bind, Always]
  simp only [key]

@[simp] theorem always_ite {p : Prop} [Decidable p] {m m' : Method C A E S α} :
    (if p then m else m').Always P o Q ↔ (p → m.Always P o Q) ∧ (¬ p → m'.Always P o Q) := by
  split <;> simp [*]

variable {f : α → Method C A E S β} {Q : Outcome E β → S → Prop}

@[simp] theorem onward_returned (a : α) : Onward P f Q (.returned a) o ↔ (f a).Always P o Q := Iff.rfl

@[simp] theorem onward_threw (e : E) : Onward P f Q (.threw e) o ↔ Q (.threw e) o := Iff.rfl

@[simp] theorem onward_running : Onward P f Q .running o ↔ Q .running o := Iff.rfl

end Rules

/-- A method whose value is only wrapped up. -/
theorem Always.wrap {P : C → Prop} {m : Method C A E S α} {g : α → β} {o : S} {Q : Outcome E α → S → Prop}
    {Q' : Outcome E β → S → Prop} (hm : m.Always P o Q) (hQ : ∀ r o', Q r o' → Q' (r.map g) o') :
    (m >>= fun a => pure (g a)).Always P o Q' := by
  rw [always_bind]
  refine hm.mono (fun _ h => h) ?_
  rintro (a | e | _) o' h
  · exact hQ _ o' h
  · exact hQ _ o' h
  · exact hQ _ o' h

/-- **Invariant rule.** Two parts that keep an invariant of the object keep it together. -/
theorem Always.seq {P : C → Prop} {I : S → Prop} {m : Method C A E S α} {f : α → Method C A E S β} {o : S}
    (hm : m.Always P o fun _ o' => I o') (hf : ∀ a o', I o' → (f a).Always P o' fun _ o'' => I o'') :
    (m >>= f).Always P o fun _ o' => I o' := by
  rw [always_bind]
  refine hm.mono (fun _ h => h) ?_
  rintro (a | e | _) o' h
  · exact hf a o' h
  · exact h
  · exact h

/-- **Invariant rule for loops.** -/
theorem Always.iterate {P : C → Prop} {I : S → Prop} {body : β → Method C A E S (β ⊕ α)}
    (hbody : ∀ b o, I o → (body b).Always P o fun _ o' => I o') :
    ∀ n b o, I o → (iterate body n b).Always P o fun _ o' => I o' := by
  intro n
  induction n with
  | zero =>
    intro b o ho
    exact ho
  | succ n ih =>
    intro b o ho
    refine (hbody b o ho).seq fun r o' ho' => ?_
    cases r with
    | inl b' => exact ih b' o' ho'
    | inr a => exact ho'

/-- Whatever is answered, the method makes only calls of `P`, and leaves the object as it is. -/
def Within (P : C → Prop) (m : Method C A E S α) : Prop := ∀ o, m.Always P o fun _ o' => o' = o

namespace Within

variable {P : C → Prop}

theorem pure (a : α) : Within P (Pure.pure a : Method C A E S α) := fun _ => rfl

theorem throw (e : E) : Within P (Method.throw e : Method C A E S α) := fun _ => rfl

theorem this : Within P (Method.this : Method C A E S S) := fun _ => rfl

theorem call {c : C} (hc : P c) : Within P (Method.call c : Method C A E S (A c)) := fun _ => ⟨hc, fun _ => rfl⟩

theorem ite {p : Prop} [Decidable p] {m m' : Method C A E S α} (h : Within P m) (h' : Within P m') :
    Within P (if p then m else m') := by
  split
  · exact h
  · exact h'

theorem bind {m : Method C A E S α} {f : α → Method C A E S β} (hm : Within P m) (hf : ∀ a, Within P (f a)) :
    Within P (m >>= f) := by
  intro o
  refine (hm o).seq fun a o' ho' => ?_
  subst ho'
  exact hf a o'

theorem iterate {body : β → Method C A E S (β ⊕ α)} (hbody : ∀ b, Within P (body b)) (n : ℕ) (b : β) :
    Within P (Method.iterate body n b) := by
  intro o
  refine Always.iterate (I := (· = o)) (fun b o' ho' => ?_) n b o rfl
  subst ho'
  exact hbody b o'

end Within

/-- Whatever is answered, the method makes only calls of `P`. -/
def Only (P : C → Prop) (m : Method C A E S α) : Prop := ∀ o, m.Always P o fun _ _ => True

namespace Only

variable {P : C → Prop}

theorem pure (a : α) : Only P (Pure.pure a : Method C A E S α) := fun _ => trivial

theorem throw (e : E) : Only P (Method.throw e : Method C A E S α) := fun _ => trivial

theorem this : Only P (Method.this : Method C A E S S) := fun _ => trivial

theorem modify (f : S → S) : Only P (Method.modify f : Method C A E S Unit) := fun _ => trivial

theorem call {c : C} (hc : P c) : Only P (Method.call c : Method C A E S (A c)) := fun _ => ⟨hc, fun _ => trivial⟩

theorem ite {p : Prop} [Decidable p] {m m' : Method C A E S α} (h : Only P m) (h' : Only P m') :
    Only P (if p then m else m') := by
  split
  · exact h
  · exact h'

theorem bind {m : Method C A E S α} {f : α → Method C A E S β} (hm : Only P m) (hf : ∀ a, Only P (f a)) :
    Only P (m >>= f) :=
  fun o => (hm o).seq fun a o' _ => hf a o'

end Only

end Method

end SocketLibrary.Interaction
