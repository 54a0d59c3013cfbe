import SocketLibrary.Interaction.Safety

/-!
# Rely and guarantee

A client can rely on the others only if they keep to the rules, and whether they do depends on what they rely on in turn.
The circle is broken along the run: if the methods of each client are safe as long as the others change nothing that it
relies on, and lawful calls change nothing that another client relies on (`Guarantees`), then every call of every run is
lawful (`Turns.lawful`).
-/

namespace SocketLibrary.Interaction

variable {ι C : Type} {A : C → Type} {σ E S K R α : Type}

/-- The environment, where only the calls of `L` are answered. -/
def Env.under (L : σ → C → Prop) (env : Env C A σ) : Env C A σ := fun c s x s' => L s c ∧ env c s x s'

/-- Lawful calls of one client are steps that the others allow, and stay lawful after steps of the others. -/
structure Guarantees (env : ι → Env C A σ) (rel : ι → σ → σ → Prop) (Lawful : ι → σ → C → Prop) : Prop where
  refl : ∀ i s, rel i s s
  trans : ∀ i s s' s'', rel i s s' → rel i s' s'' → rel i s s''
  keeps : ∀ i s s' c, rel i s s' → Lawful i s c → Lawful i s' c
  others : ∀ i j c s x s', j ≠ i → Lawful j s c → env j c s x s' → rel i s s'

variable {env : ι → Env C A σ} {rel : ι → σ → σ → Prop} {Lawful : ι → σ → C → Prop} {I : ι → S → σ → Prop}
  {perform : ι → K → Method C A E S R}

theorem Guarantees.relies (h : Guarantees env rel Lawful) : Relies (fun i => (env i).under (Lawful i)) rel :=
  ⟨h.refl, h.trans, fun i j c s x s' hne hc => h.others i j c s x s' hne hc.1 hc.2⟩

/-- What is done where only lawful calls are answered could be done anyway. -/
theorem after_of_under {L : σ → C → Prop} {env : Env C A σ} {rel : σ → σ → Prop} {c : C} {s s' : σ} {x : A c}
    (h : (env.under L).after rel c s x s') : env.after rel c s x s' := by
  obtain ⟨s₁, hrel, -, hc⟩ := h
  exact ⟨s₁, hrel, hc⟩

theorem runs_of_under {L : σ → C → Prop} {env : Env C A σ} {rel : σ → σ → Prop} {m : Method C A E S α} {o o' : S}
    {s s' : σ} {tr : List (Event C A σ)} {r : Outcome E α} (h : m.Runs ((env.under L).after rel) o s tr r o' s') :
    m.Runs (env.after rel) o s tr r o' s' :=
  Prog.Runs.restrict (P := fun _ => True) (fun _ _ _ _ _ hc => after_of_under hc) h fun _ _ => trivial

theorem path_of_under {L : σ → C → Prop} {env : Env C A σ} {rel : σ → σ → Prop} {p p' : Prog C A α × σ}
    {tr : List (Event C A σ)} (h : Path (CallStep ((env.under L).after rel)) p tr p') :
    Path (CallStep (env.after rel)) p tr p' := by
  induction h with
  | nil p => exact .nil p
  | cons hl _ ih =>
    obtain ⟨hc⟩ := hl
    exact .cons (.mk (after_of_under hc)) ih

variable [DecidableEq ι]

/-- A turn whose call, if it makes one, is lawful. -/
theorem Turn.under {p p' : System ι C A σ E S K R} {i : ι} (h : Turn env perform p i p')
    (hcalls : ∀ c, (p.1 i).Calls c → Lawful i p.2 c) :
    Turn (fun i => (env i).under (Lawful i)) perform p i p' := by
  cases h with
  | start k hnone => exact .start k hnone
  | call hpending hc => exact .call hpending ⟨hcalls _ ⟨_, _, hpending, rfl⟩, hc⟩
  | finish hpending => exact .finish hpending

section Runs

variable (hG : Guarantees env rel Lawful) {obj : ι → S} {s₀ : σ} (hstart : ∀ i, I i (obj i) s₀)
  (hperform : ∀ i k o s, I i o s →
    (perform i k).Safe ((env i).after (rel i)) (Lawful i) (fun _ o' s' => I i o' s') o s)

include hG hstart hperform

/-- As long as all calls have been lawful: a call under way began in what the calls before it have come back to. -/
theorem Turns.pending_under {is : List ι} {p : System ι C A σ E S K R}
    (h : Turns (fun i => (env i).under (Lawful i)) perform (.start obj s₀) is p) {i : ι} {q : Pending C A σ E S K R}
    (hq : (p.1 i).pending = some q) : I i (p.1 i).obj q.world ∧
      Path (CallStep ((env i).after (rel i))) (perform i q.call (p.1 i).obj, q.world) q.trace (q.rest, (p.1 i).seen) ∧
      rel i (p.1 i).seen p.2 := by
  obtain ⟨hhistory, hseen⟩ := Turns.history hG.relies h i
  unfold Client.History at hhistory
  rw [hq] at hhistory
  obtain ⟨hsession, hpath⟩ := hhistory
  refine ⟨(Session.invariant (I := I i) (G := fun _ => True) ?_ hsession (hstart i)).1, path_of_under hpath, hseen⟩
  intro k o s tr r o' s' ho hr
  exact ⟨(hperform i k o s ho).post (runs_of_under hr), trivial⟩

/-- As long as all calls have been lawful, the next one of each client is. -/
theorem Turns.calls_lawful {is : List ι} {p : System ι C A σ E S K R}
    (h : Turns (fun i => (env i).under (Lawful i)) perform (.start obj s₀) is p) (i : ι) (c : C)
    (hc : (p.1 i).Calls c) : Lawful i p.2 c := by
  obtain ⟨q, k, hpending, hrest⟩ := hc
  obtain ⟨hI, hpath, hseen⟩ := Turns.pending_under hG hstart hperform h hpending
  rw [hrest] at hpath
  have hsafe : (perform i q.call (p.1 i).obj).Safe ((env i).after (rel i)) (Lawful i)
      (fun r s' => I i r.2 s') q.world := hperform i q.call _ _ hI
  exact hG.keeps i _ _ c hseen (Prog.Safe.rest hpath hsafe).1

/-- The calls that are made are lawful all along. -/
theorem Turns.under {is : List ι} {p : System ι C A σ E S K R} (h : Turns env perform (.start obj s₀) is p) :
    ∃ is', Turns (fun i => (env i).under (Lawful i)) perform (.start obj s₀) is' p := by
  refine (Path.invariant (G := fun _ => True) (T := fun _ => True) (I := fun p : System ι C A σ E S K R =>
    ∃ is', Turns (fun i => (env i).under (Lawful i)) perform (.start obj s₀) is' p) ?_ h ⟨[], .nil _⟩
    (fun _ _ => trivial)).1
  rintro p i p' ⟨is', hturns⟩ - hturn
  exact ⟨⟨_, hturns.snoc (hturn.under fun c hc => Turns.calls_lawful hG hstart hperform hturns i c hc)⟩, trivial⟩

/-- `pending_under`, for every run. -/
theorem Turns.pending {is : List ι} {p : System ι C A σ E S K R} (h : Turns env perform (.start obj s₀) is p) {i : ι}
    {q : Pending C A σ E S K R} (hq : (p.1 i).pending = some q) : I i (p.1 i).obj q.world ∧
      Path (CallStep ((env i).after (rel i))) (perform i q.call (p.1 i).obj, q.world) q.trace (q.rest, (p.1 i).seen) ∧
      rel i (p.1 i).seen p.2 := by
  obtain ⟨is', hturns⟩ := Turns.under hG hstart hperform h
  exact Turns.pending_under hG hstart hperform hturns hq

/-- Between two calls of its methods, a client has what its methods come back to. -/
theorem Turns.settled {is : List ι} {p : System ι C A σ E S K R} (h : Turns env perform (.start obj s₀) is p) (i : ι)
    (hidle : (p.1 i).pending = none) : I i (p.1 i).obj (p.1 i).seen ∧ rel i (p.1 i).seen p.2 := by
  obtain ⟨is', hturns⟩ := Turns.under hG hstart hperform h
  obtain ⟨hhistory, hseen⟩ := Turns.history hG.relies hturns i
  unfold Client.History at hhistory
  rw [hidle] at hhistory
  refine ⟨(Session.invariant (I := I i) (G := fun _ => True) ?_ hhistory (hstart i)).1, hseen⟩
  intro k o s tr r o' s' ho hr
  exact ⟨(hperform i k o s ho).post (runs_of_under hr), trivial⟩

/-- Each call of a method that has ended began in what the calls before it have come back to; and what every step keeps
of a state, the run has kept of the state that it left. -/
theorem Turns.visits {is : List ι} {p : System ι C A σ E S K R} (h : Turns env perform (.start obj s₀) is p) (i : ι)
    {v : Visit C A σ E S K R} (hv : v ∈ (p.1 i).visits) : I i v.obj v.world ∧
      (perform i v.call).Runs ((env i).after (rel i)) v.obj v.world v.trace v.outcome v.obj' v.world' ∧
      ∀ grows : σ → σ → Prop, (∀ s, grows s s) → (∀ s s' s'', grows s s' → grows s' s'' → grows s s'') →
        (∀ s s', rel i s s' → grows s s') → (∀ c s x s', env i c s x s' → grows s s') → grows v.world' p.2 := by
  obtain ⟨is', hturns⟩ := Turns.under hG hstart hperform h
  obtain ⟨hhistory, hseen⟩ := Turns.history hG.relies hturns i
  obtain ⟨w, hsession, -⟩ := hhistory.session (fun _ _ => True) (fun _ => trivial) (fun _ _ _ _ _ => trivial)
    fun _ _ _ _ _ => trivial
  obtain ⟨hI, hruns⟩ := (Session.invariant (I := I i) (G := fun v : Visit C A σ E S K R => I i v.obj v.world ∧
    (perform i v.call).Runs ((env i).after (rel i)) v.obj v.world v.trace v.outcome v.obj' v.world')
    (fun k o s tr r o' s' ho hr => ⟨(hperform i k o s ho).post (runs_of_under hr), ho, runs_of_under hr⟩) hsession
    (hstart i)).2 v hv
  refine ⟨hI, hruns, ?_⟩
  intro grows hrefl htrans hrel henv
  obtain ⟨w, -, hleads⟩ := hhistory.session grows hrefl htrans fun c s x s' hc => by
    obtain ⟨s₁, hothers, -, hx⟩ := hc
    exact htrans _ _ _ (hrel _ _ hothers) (henv _ _ _ _ hx)
  exact htrans _ _ _ (hleads v hv) (hrel _ _ hseen)

/-- **Accounts.** What every lawful call keeps of the state and of the calls that were made, where a client knows of the
state what the others have left of it. -/
theorem Turns.account_lawful {is : List ι} {p : System ι C A σ E S K R} (h : Turns env perform (.start obj s₀) is p)
    {J : σ → (ι → List (Event C A σ)) → Prop} (hJ : J s₀ fun _ => [])
    (hstep : ∀ s ev i c x s' v, J s ev → rel i v s → Lawful i s c → env i c s x s' →
      J s' (Function.update ev i (ev i ++ [⟨v, c, x⟩]))) : J p.2 fun i => (p.1 i).events := by
  obtain ⟨is', hturns⟩ := Turns.under hG hstart hperform h
  refine (Path.invariant (G := fun _ => True) (T := fun _ => True) (I := fun p : System ι C A σ E S K R =>
    J p.2 (fun i => (p.1 i).events) ∧ ∀ j, (p.1 j).History (((env j).under (Lawful j)).after (rel j)) (perform j)
      (obj j) s₀ ∧ rel j (p.1 j).seen p.2) ?_ hturns ⟨hJ, fun j => ⟨.nil _, hG.refl _ _⟩⟩ (fun _ _ => trivial)).1.1
  rintro p i p' ⟨hp, hhistory⟩ - hturn
  refine ⟨⟨?_, fun j => hturn.history hG.relies hhistory j⟩, trivial⟩
  obtain ⟨hs, hev⟩ | ⟨c, x, ⟨hlawful, hx⟩, hev⟩ := hturn.all_events
  · rw [hs, hev]
    exact hp
  · rw [hev]
    exact hstep _ _ _ _ _ _ _ hp (hhistory i).2 hlawful hx

/-- **Whatever a client is about to call is lawful.** -/
theorem Turns.lawful {is : List ι} {p : System ι C A σ E S K R} (h : Turns env perform (.start obj s₀) is p) (i : ι)
    (c : C) (hc : (p.1 i).Calls c) : Lawful i p.2 c := by
  obtain ⟨is', hturns⟩ := Turns.under hG hstart hperform h
  exact Turns.calls_lawful hG hstart hperform hturns i c hc

end Runs

end SocketLibrary.Interaction
