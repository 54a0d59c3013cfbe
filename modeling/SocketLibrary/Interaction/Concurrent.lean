import Mathlib.Logic.Function.Basic
import SocketLibrary.Interaction.AnyAnswer
import SocketLibrary.Interaction.Session

/-!
# Clients that share an environment

Any number of clients, each with an object of its own on which it makes one method call after the other. They take
turns in any order, and a turn is at most one call of the environment, so that the calls of the others fall anywhere
within a method.

What one client does in such a run is a session of its own (`Turns.history`), against the environment as the others
leave it (`Env.after`). So what is proved of sessions, and with `wp` of single methods, holds of every client in every
interleaving. Under way, a method has made a part of its calls; `Prog.wp.pending` says what its postcondition tells of
the next one.
-/

namespace SocketLibrary.Interaction

/-! ## Runs as paths -/

section Runs

variable {C : Type} {A : C → Type} {σ α : Type} {env : Env C A σ}

/-- One call of a program. -/
inductive CallStep (env : Env C A σ) : Prog C A α × σ → Event C A σ → Prog C A α × σ → Prop where
  | mk {c : C} {k : A c → Prog C A α} {s s' : σ} {x : A c} :
      env c s x s' → CallStep env (.call c k, s) ⟨s, c, x⟩ (k x, s')

/-- What a program has done, followed by a run of what is left of it. -/
theorem Prog.Runs.of_path {p p' : Prog C A α × σ} {tr tr' : List (Event C A σ)} {a : α} {s : σ}
    (h : Path (CallStep env) p tr p') (hr : p'.1.Runs env p'.2 tr' a s) : p.1.Runs env p.2 (tr ++ tr') a s := by
  induction h with
  | nil p => exact hr
  | cons hl _ ih =>
    obtain ⟨hx⟩ := hl
    exact .call hx (ih hr)

/-- What the calls of a program are, the calls of what is left of it are. -/
theorem Prog.Always.rest {P : C → Prop} {Q : α → Prop} {p p' : Prog C A α × σ} {tr : List (Event C A σ)}
    (h : Path (CallStep env) p tr p') (hp : p.1.Always P Q) : p'.1.Always P Q := by
  induction h with
  | nil p => exact hp
  | cons hl _ ih =>
    obtain ⟨hx⟩ := hl
    exact ih (hp.2 _)

/-- What every trace of a program has, a trace with the next call of a part of it has. -/
theorem Prog.wp.pending (henv : ∀ c s, ∃ x s', env c s x s') {T : List (Event C A σ) → Prop} {m : Prog C A α} {s s' : σ}
    (hm : m.wp env (fun tr _ _ => T tr) s) {tr : List (Event C A σ)} {c : C} {k : A c → Prog C A α}
    (h : Path (CallStep env) (m, s) tr (.call c k, s')) : ∃ x tr', T (tr ++ ⟨s', c, x⟩ :: tr') := by
  obtain ⟨tr', a, s'', hr⟩ := Prog.exists_run henv (.call c k) s'
  have hall := wp_iff.1 hm _ _ _ (.of_path h hr)
  obtain _ | ⟨hx, -⟩ := hr
  exact ⟨_, _, hall⟩

/-- A run begins in the state it begins in. -/
theorem Prog.Runs.head {m : Prog C A α} {s s' : σ} {e : Event C A σ} {tr : List (Event C A σ)} {a : α}
    (h : m.Runs env s (e :: tr) a s') : e.pre = s := by
  cases h
  rfl

/-- The call and its answer. -/
def Event.act (e : Event C A σ) : (c : C) × A c := ⟨e.call, e.answer⟩

/-- A run whose calls and answers are all in `P` is one of the environment that allows no others. -/
theorem Prog.Runs.restrict {env' : Env C A σ} {P : (c : C) × A c → Prop}
    (hP : ∀ c s x s', P ⟨c, x⟩ → env c s x s' → env' c s x s') {m : Prog C A α} {s s' : σ} {tr : List (Event C A σ)}
    {a : α} (h : m.Runs env s tr a s') (htr : ∀ e ∈ tr, P e.act) : m.Runs env' s tr a s' := by
  induction h with
  | pure a s => exact .pure a s
  | call hx _ ih =>
    rw [List.forall_mem_cons] at htr
    exact .call (hP _ _ _ _ htr.1 hx) (ih htr.2)

/-- **Simulation** of a program that makes only calls of `P`: if `env'` can answer these as `env` does, keeping the states
related, then every run against `env` is one against `env'` with the same calls and answers, from related states. -/
theorem Prog.Runs.simulate_forward {τ : Type} {env' : Env C A τ} {R : σ → τ → Prop} {P : C → Prop} {Q : α → Prop}
    (hR : ∀ c s t x s', P c → R s t → env c s x s' → ∃ t', env' c t x t' ∧ R s' t') {m : Prog C A α} (hP : m.Always P Q)
    {s s' : σ} {tr : List (Event C A σ)} {a : α} (h : m.Runs env s tr a s') {t : τ} (ht : R s t) :
    ∃ tr' t', m.Runs env' t tr' a t' ∧ R s' t' ∧ tr'.map Event.act = tr.map Event.act ∧ ∀ e ∈ tr, ∃ t, R e.pre t := by
  induction h generalizing t with
  | pure a s => exact ⟨[], t, .pure a t, ht, rfl, by simp⟩
  | call hx _ ih =>
    obtain ⟨t₁, hx', ht₁⟩ := hR _ _ _ _ _ hP.1 ht hx
    obtain ⟨tr', t', hr, ht', hacts, hpre⟩ := ih (hP.2 _) ht₁
    refine ⟨_, t', .call hx' hr, ht', ?_, List.forall_mem_cons.2 ⟨⟨t, ht⟩, hpre⟩⟩
    rw [List.map_cons, List.map_cons, hacts]
    rfl

/-- **Backward simulation.** If every step of `env` into a state related to `t'`, by a call of `P`, is a step of `env'`
into `t'` from a related state, then every run of a program that makes only calls of `P` is one against `env'` with the
same calls and answers. -/
theorem Prog.Runs.simulate_backward {τ : Type} {env' : Env C A τ} {R : σ → τ → Prop} {P : C → Prop} {Q : α → Prop}
    (hR : ∀ c s x s' t', P c → R s' t' → env c s x s' → ∃ t, R s t ∧ env' c t x t') {m : Prog C A α}
    (hP : m.Always P Q) {s s' : σ} {tr : List (Event C A σ)} {a : α} (h : m.Runs env s tr a s') {t' : τ} (ht : R s' t') :
    ∃ tr' t, m.Runs env' t tr' a t' ∧ R s t ∧ tr'.map Event.act = tr.map Event.act := by
  induction h with
  | pure a s => exact ⟨[], t', .pure a t', ht, rfl⟩
  | call hx _ ih =>
    obtain ⟨tr', t₁, hr, ht₁, hacts⟩ := ih (hP.2 _) ht
    obtain ⟨t, ht, hx'⟩ := hR _ _ _ _ _ hP.1 ht₁ hx
    refine ⟨_, t, .call hx' hr, ht, ?_⟩
    rw [List.map_cons, List.map_cons, hacts]
    rfl

end Runs

/-! ## The system -/

section System

variable {ι C : Type} [DecidableEq ι] {A : C → Type} {σ E S K R : Type}

/-- A method call under way: the state when it began, its calls of the environment so far, and what is left of it. -/
structure Pending (C : Type) (A : C → Type) (σ E S K R : Type) where
  call : K
  world : σ
  trace : List (Event C A σ)
  rest : Prog C A (Outcome E R × S)

/-- A client: its object, the state its last call of the environment left, the calls it has made, and the one under
way. -/
structure Client (C : Type) (A : C → Type) (σ E S K R : Type) where
  obj : S
  seen : σ
  visits : List (Visit C A σ E S K R)
  pending : Option (Pending C A σ E S K R)

namespace Client

variable (c : Client C A σ E S K R)

/-- The calls of the environment that are made for the call under way. -/
def underway : List (Event C A σ) := (c.pending.map Pending.trace).getD []

/-- All its calls of the environment. -/
def events : List (Event C A σ) := c.visits.flatMap Visit.trace ++ c.underway

/-- The next call of the environment. -/
def Calls (d : C) : Prop := ∃ p k, c.pending = some p ∧ p.rest = .call d k

/-- The same, computed. -/
def next : Option C := c.pending.bind fun p => match p.rest with
  | .call d _ => some d
  | .pure _ => none

theorem calls_of_next {c : Client C A σ E S K R} {d : C} (h : c.next = some d) : c.Calls d := by
  unfold next at h
  obtain ⟨p, hp, hd⟩ := Option.bind_eq_some_iff.1 h
  cases hrest : p.rest with
  | pure q =>
    rw [hrest] at hd
    cases hd
  | call d' k =>
    rw [hrest] at hd
    obtain rfl := Option.some.inj hd
    exact ⟨p, k, hp, hrest⟩

/-- What a client has done from the object `o` and the state `s`: a session, and a part of the call under way. -/
def History (env : Env C A σ) (perform : K → Method C A E S R) (o : S) (s : σ) : Prop := match c.pending with
  | none => Session env perform o s c.visits c.obj c.seen
  | some p => Session env perform o s c.visits c.obj p.world ∧
      Path (CallStep env) (perform p.call c.obj, p.world) p.trace (p.rest, c.seen)

/-- The calls that a client has made are a session, and each left a state that leads to the present one. -/
theorem History.session {c : Client C A σ E S K R} {env : Env C A σ} {perform : K → Method C A E S R} {o : S} {s : σ}
    (rel : σ → σ → Prop) (hrefl : ∀ s, rel s s) (htrans : ∀ s s' s'', rel s s' → rel s' s'' → rel s s'')
    (hrel : ∀ c s x s', env c s x s' → rel s s') (h : c.History env perform o s) :
    ∃ w, Session env perform o s c.visits c.obj w ∧ ∀ v ∈ c.visits, rel v.world' c.seen := by
  unfold History at h
  cases hpending : c.pending with
  | none =>
    rw [hpending] at h
    exact ⟨_, h, Session.leads hrefl htrans hrel h⟩
  | some p =>
    rw [hpending] at h
    obtain ⟨hsession, hpath⟩ := h
    have hseen : rel p.world c.seen := by
      refine (Path.invariant (I := fun q => rel p.world q.2) (G := fun _ => True) (T := fun _ => True) ?_ hpath
        (hrefl _) fun _ _ => trivial).1
      intro q l q' hq _ hl
      obtain ⟨hx⟩ := hl
      exact ⟨htrans _ _ _ hq (hrel _ _ _ _ hx), trivial⟩
    exact ⟨_, hsession, fun v hv => htrans _ _ _ (Session.leads hrefl htrans hrel hsession v hv) hseen⟩

end Client

/-- The clients and the state of the environment. -/
abbrev System (ι C : Type) (A : C → Type) (σ E S K R : Type) := (ι → Client C A σ E S K R) × σ

/-- No client has done anything yet. -/
def System.start (obj : ι → S) (s : σ) : System ι C A σ E S K R := (fun i => ⟨obj i, s, [], none⟩, s)

/-- A turn of the client `i`: it begins a method call, makes the next call of the environment, or ends a method call. -/
inductive Turn (env : ι → Env C A σ) (perform : ι → K → Method C A E S R) :
    System ι C A σ E S K R → ι → System ι C A σ E S K R → Prop where
  | start {cl : ι → Client C A σ E S K R} {s : σ} {i : ι} (k : K) : (cl i).pending = none →
      Turn env perform (cl, s) i
        (Function.update cl i { cl i with pending := some ⟨k, (cl i).seen, [], perform i k (cl i).obj⟩ }, s)
  | call {cl : ι → Client C A σ E S K R} {s s' w : σ} {i : ι} {k : K} {tr : List (Event C A σ)} {c : C} {x : A c}
      {rest : A c → Prog C A (Outcome E R × S)} : (cl i).pending = some ⟨k, w, tr, .call c rest⟩ → env i c s x s' →
      Turn env perform (cl, s) i (Function.update cl i
        { cl i with seen := s', pending := some ⟨k, w, tr ++ [⟨(cl i).seen, c, x⟩], rest x⟩ }, s')
  | finish {cl : ι → Client C A σ E S K R} {s w : σ} {i : ι} {k : K} {tr : List (Event C A σ)} {r : Outcome E R}
      {o : S} : (cl i).pending = some ⟨k, w, tr, .pure (r, o)⟩ →
      Turn env perform (cl, s) i (Function.update cl i
        ⟨o, (cl i).seen, (cl i).visits ++ [⟨k, (cl i).obj, w, tr, r, o, (cl i).seen⟩], none⟩, s)

/-- The runs of the system. -/
abbrev Turns (env : ι → Env C A σ) (perform : ι → K → Method C A E S R) :
    System ι C A σ E S K R → List ι → System ι C A σ E S K R → Prop :=
  Path (Turn env perform)

/-! ## What a client sees of the others -/

/-- The environment `env`, where a step of `rel` comes before each call. -/
def Env.after (rel : σ → σ → Prop) (env : Env C A σ) : Env C A σ := fun c s x s' => ∃ s₁, rel s s₁ ∧ env c s₁ x s'

/-- What the others do between two calls of the client `i` is in `rel i`. -/
structure Relies (env : ι → Env C A σ) (rel : ι → σ → σ → Prop) : Prop where
  refl : ∀ i s, rel i s s
  trans : ∀ i s s' s'', rel i s s' → rel i s' s'' → rel i s s''
  others : ∀ i j c s x s', j ≠ i → env j c s x s' → rel i s s'

variable {env : ι → Env C A σ} {perform : ι → K → Method C A E S R} {rel : ι → σ → σ → Prop}

/-- One turn: the client that takes it goes on with its history, for the others the state has changed. -/
theorem Turn.history (hrel : Relies env rel) {p p' : System ι C A σ E S K R} {i : ι} {obj : ι → S} {s₀ : σ}
    (hp : ∀ j, (p.1 j).History ((env j).after (rel j)) (perform j) (obj j) s₀ ∧ rel j (p.1 j).seen p.2)
    (h : Turn env perform p i p') (j : ι) :
    (p'.1 j).History ((env j).after (rel j)) (perform j) (obj j) s₀ ∧ rel j (p'.1 j).seen p'.2 := by
  obtain ⟨hhistory, hseen⟩ := hp j
  by_cases hj : j = i
  · subst hj
    cases h with
    | start k hnone =>
      unfold Client.History at hhistory
      rw [hnone] at hhistory
      simp only [Function.update_self]
      exact ⟨⟨hhistory, .nil _⟩, hseen⟩
    | call hpending hx =>
      unfold Client.History at hhistory
      rw [hpending] at hhistory
      simp only [Function.update_self]
      exact ⟨⟨hhistory.1, hhistory.2.snoc (.mk ⟨_, hseen, hx⟩)⟩, hrel.refl _ _⟩
    | finish hpending =>
      unfold Client.History at hhistory
      rw [hpending] at hhistory
      simp only [Function.update_self]
      obtain ⟨hsession, hpath⟩ := hhistory
      have hrun := Prog.Runs.of_path hpath (.pure _ _)
      rw [List.append_nil] at hrun
      exact ⟨Path.snoc hsession (.mk hrun), hseen⟩
  · have hothers : rel j p.2 p'.2 := by
      cases h with
      | start k hnone => exact hrel.refl _ _
      | call hpending hx => exact hrel.others _ _ _ _ _ _ (Ne.symm hj) hx
      | finish hpending => exact hrel.refl _ _
    have hsame : p'.1 j = p.1 j := by
      cases h with
      | start k hnone => exact Function.update_of_ne hj _ _
      | call hpending hx => exact Function.update_of_ne hj _ _
      | finish hpending => exact Function.update_of_ne hj _ _
    rw [hsame]
    exact ⟨hhistory, hrel.trans _ _ _ _ hseen hothers⟩

/-- **What one client does in a run of the system** is a session, and a part of a call, against its environment with
steps of the others in between. -/
theorem Turns.history (hrel : Relies env rel) {obj : ι → S} {s₀ : σ} {is : List ι} {p : System ι C A σ E S K R}
    (h : Turns env perform (.start obj s₀) is p) (i : ι) :
    (p.1 i).History ((env i).after (rel i)) (perform i) (obj i) s₀ ∧ rel i (p.1 i).seen p.2 := by
  refine (Path.invariant (G := fun _ => True) (T := fun _ => True) (I := fun p : System ι C A σ E S K R => ∀ j,
    (p.1 j).History ((env j).after (rel j)) (perform j) (obj j) s₀ ∧ rel j (p.1 j).seen p.2) ?_ h ?_
    (fun _ _ => trivial)).1 i
  · intro p j p' hp _ hturn
    exact ⟨hturn.history hrel hp, trivial⟩
  · intro j
    exact ⟨.nil _, hrel.refl _ _⟩

/-! ## Accounts of a run -/

/-- A turn concerns one client, and makes no call of the environment or one. -/
theorem Turn.events {p p' : System ι C A σ E S K R} {i : ι} (h : Turn env perform p i p') :
    (∀ j ≠ i, p'.1 j = p.1 j) ∧ (p'.2 = p.2 ∧ (p'.1 i).events = (p.1 i).events ∨
      ∃ c x, env i c p.2 x p'.2 ∧ (p'.1 i).events = (p.1 i).events ++ [⟨(p.1 i).seen, c, x⟩]) := by
  cases h with
  | start k hnone =>
    refine ⟨fun j hj => Function.update_of_ne hj _ _, Or.inl ⟨rfl, ?_⟩⟩
    simp [Client.events, Client.underway, hnone]
  | call hpending hx =>
    refine ⟨fun j hj => Function.update_of_ne hj _ _, Or.inr ⟨_, _, hx, ?_⟩⟩
    simp [Client.events, Client.underway, hpending]
  | finish hpending =>
    refine ⟨fun j hj => Function.update_of_ne hj _ _, Or.inl ⟨rfl, ?_⟩⟩
    simp [Client.events, Client.underway, hpending]

/-- The same, of the calls of all clients. -/
theorem Turn.all_events {p p' : System ι C A σ E S K R} {i : ι} (h : Turn env perform p i p') :
    p'.2 = p.2 ∧ (fun j => (p'.1 j).events) = (fun j => (p.1 j).events) ∨
      ∃ c x, env i c p.2 x p'.2 ∧ (fun j => (p'.1 j).events) =
        Function.update (fun j => (p.1 j).events) i ((p.1 i).events ++ [⟨(p.1 i).seen, c, x⟩]) := by
  obtain ⟨hothers, ⟨hs, hsame⟩ | ⟨c, x, hx, hcall⟩⟩ := h.events
  · refine Or.inl ⟨hs, funext fun j => ?_⟩
    by_cases hj : j = i
    · rw [hj, hsame]
    · rw [hothers j hj]
  · refine Or.inr ⟨c, x, hx, funext fun j => ?_⟩
    by_cases hj : j = i
    · subst hj
      rw [hcall, Function.update_self]
    · rw [hothers j hj, Function.update_of_ne hj]

/-- **Accounts.** What every call of the environment keeps of the state and of the calls that were made. -/
theorem Turns.account {I : σ → (ι → List (Event C A σ)) → Prop} {obj : ι → S} {s₀ : σ} {is : List ι}
    {p : System ι C A σ E S K R} (h : Turns env perform (.start obj s₀) is p) (hstart : I s₀ fun _ => [])
    (hstep : ∀ s ev i c x s' w, I s ev → env i c s x s' → I s' (Function.update ev i (ev i ++ [⟨w, c, x⟩]))) :
    I p.2 fun i => (p.1 i).events := by
  refine (Path.invariant (G := fun _ => True) (T := fun _ => True)
    (I := fun p : System ι C A σ E S K R => I p.2 fun i => (p.1 i).events) ?_ h hstart (fun _ _ => trivial)).1
  intro p i p' hp _ hturn
  refine ⟨?_, trivial⟩
  obtain ⟨hs, hev⟩ | ⟨c, x, hx, hev⟩ := hturn.all_events
  · rw [hs, hev]
    exact hp
  · rw [hev]
    exact hstep _ _ i c x _ _ hp hx

/-- What is in a list under the name of one client, of what another one has put there. -/
theorem filter_client {X : Type} (i i' : ι) (l : List X) :
    ((l.map (i', ·)).filter (·.1 = i)).map Prod.snd = if i' = i then l else [] := by
  by_cases hi : i' = i
  · simp [hi, List.filter_map, Function.comp_def]
  · simp [hi, List.filter_map, Function.comp_def]

/-- **Ledgers.** If every call puts what `f` says of it into a list, under the name of the client, then what is there
under the name of a client is what `f` says of its calls. -/
theorem Turns.ledger {X : Type} (log : σ → List (ι × X)) (f : (c : C) × A c → List X) {obj : ι → S} {s₀ : σ} {is : List ι}
    {p : System ι C A σ E S K R} (h : Turns env perform (.start obj s₀) is p) (hstart : log s₀ = [])
    (hstep : ∀ i c s x s', env i c s x s' → log s' = log s ++ (f ⟨c, x⟩).map (i, ·)) (i : ι) :
    ((log p.2).filter (·.1 = i)).map Prod.snd = (p.1 i).events.flatMap fun e => f e.act := by
  refine Turns.account (I := fun s ev => ∀ i, ((log s).filter (·.1 = i)).map Prod.snd = (ev i).flatMap fun e => f e.act)
    h ?_ ?_ i
  · intro i
    rw [hstart]
    rfl
  · intro s ev i' c x s' w hs hx i
    rw [hstep _ _ _ _ _ hx, List.filter_append, List.map_append, hs, filter_client]
    by_cases hi : i' = i
    · subst hi
      rw [if_pos rfl, Function.update_self, List.flatMap_append]
      simp [Event.act]
    · rw [if_neg hi, List.append_nil, Function.update_of_ne (Ne.symm hi)]

/-! ## An execution -/

/-- The turn of the client `i`, with an environment that computes its answers; if it has no call under way, it begins
`k`. -/
def System.turn (h : ι → (c : C) → σ → A c × σ) (perform : ι → K → Method C A E S R) (p : System ι C A σ E S K R) (i : ι)
    (k : K) : System ι C A σ E S K R := match (p.1 i).pending with
  | none => (Function.update p.1 i { p.1 i with
      pending := some ⟨k, (p.1 i).seen, [], perform i k (p.1 i).obj⟩ }, p.2)
  | some ⟨k', w, tr, .call c rest⟩ => (Function.update p.1 i { p.1 i with
      seen := (h i c p.2).2, pending := some ⟨k', w, tr ++ [⟨(p.1 i).seen, c, (h i c p.2).1⟩], rest (h i c p.2).1⟩ },
      (h i c p.2).2)
  | some ⟨k', w, tr, .pure (r, o)⟩ => (Function.update p.1 i
      ⟨o, (p.1 i).seen, (p.1 i).visits ++ [⟨k', (p.1 i).obj, w, tr, r, o, (p.1 i).seen⟩], none⟩, p.2)

def System.exec (h : ι → (c : C) → σ → A c × σ) (perform : ι → K → Method C A E S R) :
    List (ι × K) → System ι C A σ E S K R → System ι C A σ E S K R
  | [], p => p
  | t :: ts, p => System.exec h perform ts (p.turn h perform t.1 t.2)

/-- What `exec` computes is a run of the system. -/
theorem System.exec_turns {h : ι → (c : C) → σ → A c × σ} (hh : ∀ i c s, env i c s (h i c s).1 (h i c s).2)
    (ts : List (ι × K)) (p : System ι C A σ E S K R) : Turns env perform p (ts.map Prod.fst) (p.exec h perform ts) := by
  induction ts generalizing p with
  | nil => exact .nil p
  | cons t ts ih =>
    refine .cons ?_ (ih _)
    unfold System.turn
    split
    · exact .start t.2 ‹_›
    · exact .call ‹_› (hh _ _ _)
    · exact .finish ‹_›

end System

end SocketLibrary.Interaction
