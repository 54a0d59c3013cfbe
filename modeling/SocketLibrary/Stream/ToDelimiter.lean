import SocketLibrary.Stream.Receive

/-!
# `receiveToDelimiter` on a stream

Against any `Peer`, a call that returns has stopped in one of two ways (`Field`): `recv` delivered the delimiter right
behind the returned bytes, or the reader had to stop early and everything delivered is returned. On a well-behaved
connection the fields of a delimited stream come back one by one (`receiveToDelimiter_fields`). The two ways to stop
look the same to the caller (`receiveToDelimiter_outcomes_differ_iff`).
-/

namespace SocketLibrary.Stream

open SocketLibrary.Interaction SocketLibrary.Posix SocketLibrary.Model SocketLibrary.Model.ConnectionOrientedSocket

section Spec

variable {S : Type} {P : Peer} {dm : DataModel} {fd : SOCKET} {d : UInt8} {flags : ℤ} {o : S} {s : Bytes}

/-- What a call of `receiveToDelimiter` that returns has done. -/
def Field (P : Peer) (fd : SOCKET) (d : UInt8) (o : S) : Method.Post Sys Ans Bytes Exn S Bytes := fun tr r o' s' =>
  ∃ data, r = .returned data ∧ d ∉ data ∧
    (delivered tr = data ++ [d] ∨ delivered tr = data ∧ P.Stops fd s') ∧ o' = o

/-- What its loop has done when it starts a turn. -/
def Reading (d : UInt8) (o : S) (tr : List (Event Sys Ans Bytes)) (data : Bytes) (o' : S) (_ : Bytes) : Prop :=
  delivered tr = data ∧ d ∉ data ∧ o' = o

/-- A turn that goes on has read something. -/
theorem receiveToDelimiterTurn_spec {tr : List (Event Sys Ans Bytes)} {data : Bytes} {o' : S}
    (h : Reading d o tr data o' s) :
    (receiveToDelimiterTurn dm fd d flags data).wp P.env (fun tr' => Method.Turn
      (fun tr₁ data o' s' => Reading d o tr₁ data o' s' ∧ delivered tr' ≠ []) (Field P fd d o) (tr ++ tr')) o' s := by
  obtain ⟨rfl, hd, rfl⟩ := h
  unfold receiveToDelimiterTurn
  rw [Method.wp_bind]
  refine Method.wp_mono get_spec ?_
  rintro tr₁ r o₁ s₁ ⟨rfl, ⟨c, htr, rfl⟩ | ⟨htr, rfl, hstop⟩⟩
  · by_cases hc : c = d
    · -- the delimiter: the loop is left
      subst hc
      rw [Method.after_returned]
      simpa [Method.Turn, Field, htr] using hd
    · -- another byte: the loop goes on if the poll finds the socket ready
      have hd' : d ∉ delivered tr ++ [c] := by
        simpa [Ne.symm hc] using hd
      rw [Method.after_returned]
      simp only [hc, if_false]
      rw [Method.wp_bind]
      refine Method.wp_mono (ready_spec _) ?_
      rintro tr₂ r o₂ s₂ ⟨rfl, rfl, htr₂, b, rfl, hb⟩
      cases b with
      | true =>
        rw [Method.after_returned, if_pos rfl, Method.wp_pure]
        refine ⟨⟨by simp [htr, htr₂], hd', rfl⟩, ?_⟩
        simp [htr]
      | false =>
        rw [Method.after_returned, if_neg Bool.false_ne_true, Method.wp_pure]
        exact ⟨_, rfl, hd', Or.inr ⟨by simp [htr, htr₂], Or.inl hb⟩, rfl⟩
  · -- nothing was read
    rw [Method.after_returned]
    exact ⟨_, rfl, hd, Or.inr ⟨by simp [htr], hstop⟩, rfl⟩

/-- The same turn, when it does not peek: there is less to read then. -/
theorem receiveToDelimiterTurn_consumes (hflags : ¬ Peeks flags) {tr : List (Event Sys Ans Bytes)} {data : Bytes} {o' : S}
    (h : Reading d o tr data o' s) :
    (receiveToDelimiterTurn dm fd d flags data).wp P.env (fun tr' => Method.Turn
      (fun tr data o' s' => Reading d o tr data o' s' ∧ s'.length < s.length) (Field P fd d o) (tr ++ tr')) o' s := by
  have hwithin : Method.Within Consuming (receiveToDelimiterTurn dm fd d flags data : M S (Bytes ⊕ Bytes)) :=
    Steps.receiveToDelimiterTurn_within (fun _ _ => trivial) (fun _ _ => hflags) d data
  refine Method.wp_mono (Peer.wp_consumed hwithin (receiveToDelimiterTurn_spec h)) ?_
  rintro tr' ((data' | a) | e | _) o₁ s₁ ⟨hturn, hs⟩
  · have hpos : 0 < (delivered tr').length := List.length_pos_iff.2 hturn.2
    refine ⟨hturn.1, ?_⟩
    rw [hs, List.length_append]
    omega
  · exact hturn
  · exact hturn
  · exact hturn

/-- The loop follows the poll, if that finds something. -/
theorem receiveToDelimiter_wp (hd : d ≠ 0) {fuel : ℕ} {Q : Method.Post Sys Ans Bytes Exn S Bytes}
    (hstop : ∀ tr, delivered tr = [] → P.Stops fd s → Q tr (.returned []) o s)
    (hloop : ∀ tr, delivered tr = [] → (Method.iterate (receiveToDelimiterTurn dm fd d flags) fuel []).wp P.env
      (fun tr' => Q (tr ++ tr')) o s) :
    (receiveToDelimiter dm fd fuel d flags).wp P.env Q o s := by
  unfold receiveToDelimiter
  rw [if_neg hd, Method.wp_bind]
  refine Method.wp_mono (ready_spec _) ?_
  rintro tr r o' s' ⟨rfl, rfl, htr, b, rfl, hb⟩
  cases b with
  | true =>
    rw [Method.after_returned, if_pos rfl]
    exact hloop tr htr
  | false =>
    rw [Method.after_returned, if_neg Bool.false_ne_true, Method.wp_pure, List.append_nil]
    exact hstop tr htr (Or.inl hb)

/-- What was read before the loop does not count. -/
theorem Field.prepend {tr tr' : List (Event Sys Ans Bytes)} {r : Outcome Exn Bytes} {o' : S} {s' : Bytes}
    (h : Field P fd d o tr' r o' s') (htr : delivered tr = []) : Field P fd d o (tr ++ tr') r o' s' := by
  obtain ⟨data, rfl, h1, h2, rfl⟩ := h
  exact ⟨data, rfl, h1, by simpa [htr] using h2, rfl⟩

theorem field_nil {tr : List (Event Sys Ans Bytes)} (htr : delivered tr = []) (hstop : P.Stops fd s) :
    Field P fd d o tr (.returned []) o s :=
  ⟨[], rfl, List.not_mem_nil, Or.inr ⟨htr, hstop⟩, rfl⟩

/-- **`receiveToDelimiter` returns** once its fuel exceeds the number of unread bytes, and leaves off at the delimiter,
or early. -/
theorem receiveToDelimiter_spec (hd : d ≠ 0) (hflags : ¬ Peeks flags) (fuel : ℕ) :
    (receiveToDelimiter dm fd fuel d flags).wp P.env
      (fun tr r o' s' => Field P fd d o tr r o' s' ∨ r = .running ∧ fuel ≤ s.length) o s := by
  refine receiveToDelimiter_wp hd (fun tr htr hstop => Or.inl (field_nil htr hstop)) fun tr htr => ?_
  refine Method.wp_mono (Method.wp_iterate_variant _ (Reading d o) (Field P fd d o) (fun _ _ s => s.length)
    (fun _ _ _ _ h => receiveToDelimiterTurn_consumes hflags h) fuel [] [] o s ?_) ?_
  · exact ⟨rfl, List.not_mem_nil, rfl⟩
  · rintro tr' r o₁ s₁ (h | h)
    · exact Or.inl (h.prepend htr)
    · exact Or.inr h

/-- Whatever the flags are, it leaves off so if it leaves off at all. -/
theorem receiveToDelimiter_stops (hd : d ≠ 0) (fuel : ℕ) :
    (receiveToDelimiter dm fd fuel d flags).wp P.env
      (fun tr r o' s' => Field P fd d o tr r o' s' ∨ r = .running) o s := by
  refine receiveToDelimiter_wp hd (fun tr htr hstop => Or.inl (field_nil htr hstop)) fun tr htr => ?_
  refine Method.wp_mono (Method.wp_iterate _ (Reading d o)
    (fun tr r o' s' => Field P fd d o tr r o' s' ∨ r = .running) (fun _ _ _ _ _ => Or.inr rfl) ?_ fuel [] [] o s ?_) ?_
  · intro tr data o' s' h
    refine Method.wp_mono (receiveToDelimiterTurn_spec h) ?_
    rintro tr' ((data' | a) | e | _) o₁ s₁ hturn
    · exact hturn.1
    · exact Or.inl hturn
    · exact Or.inl hturn
    · exact Or.inl hturn
  · exact ⟨rfl, List.not_mem_nil, rfl⟩
  · rintro tr' r o₁ s₁ (h | h)
    · exact Or.inl (h.prepend htr)
    · exact Or.inr h

/-- A call that returned was not given NUL as the delimiter. -/
theorem receiveToDelimiter_ne_nul {fuel : ℕ} {tr : List (Event Sys Ans Bytes)} {data : Bytes} {o' : S} {s' : Bytes}
    (h : (receiveToDelimiter dm fd fuel d flags).Runs P.env o s tr (.returned data) o' s') : d ≠ 0 := by
  rintro rfl
  have key : (receiveToDelimiter (S := S) dm fd fuel 0 flags).wp P.env (fun _ r _ _ => ∀ data, r ≠ .returned data) o s := by
    unfold receiveToDelimiter
    rw [if_pos rfl, Method.wp_throw]
    intro data h
    cases h
  exact Method.wp_iff.1 key _ _ _ _ h data rfl

/-- What a call that returned read, and what it returned. -/
theorem receiveToDelimiter_field {fuel : ℕ} {tr : List (Event Sys Ans Bytes)} {data : Bytes} {o' : S} {s' : Bytes}
    (h : (receiveToDelimiter dm fd fuel d flags).Runs P.env o s tr (.returned data) o' s') :
    d ∉ data ∧ (delivered tr = data ++ [d] ∨ delivered tr = data ∧ P.Stops fd s') := by
  rcases Method.wp_iff.1 (receiveToDelimiter_stops (receiveToDelimiter_ne_nul h) fuel) _ _ _ _ h with
    ⟨data', hr, h1, h2, -⟩ | hr
  · cases hr
    exact ⟨h1, h2⟩
  · cases hr

/-- A call that peeks is handed the first byte of the stream, again and again. -/
def Glimpsed (s : Bytes) (tr : List (Event Sys Ans Bytes)) (s' : Bytes) : Prop :=
  s' = s ∧ ∀ b ∈ delivered tr, s.head? = some b

theorem Glimpsed.append {tr tr' : List (Event Sys Ans Bytes)} {s₁ s₂ : Bytes} (h : Glimpsed s tr s₁)
    (h' : Glimpsed s₁ tr' s₂) : Glimpsed s (tr ++ tr') s₂ := by
  obtain ⟨rfl, hall⟩ := h
  obtain ⟨rfl, hall'⟩ := h'
  refine ⟨rfl, fun b hb => ?_⟩
  rw [delivered_append] at hb
  exact (List.mem_append.1 hb).elim (hall b) (hall' b)

theorem glimpsed_nil {tr : List (Event Sys Ans Bytes)} (htr : delivered tr = []) : Glimpsed s tr s :=
  ⟨rfl, by simp [htr]⟩

theorem receiveToDelimiterTurn_peeking (hflags : Peeks flags) (data : Bytes) :
    (receiveToDelimiterTurn dm fd d flags data).wp P.env (fun tr _ _ s' => Glimpsed s tr s') o s := by
  unfold receiveToDelimiterTurn
  rw [Method.wp_bind]
  refine Method.wp_mono (get_peeking hflags) ?_
  rintro tr r o₁ s₁ ⟨rfl, rfl, ⟨c, htr, rfl, hc⟩ | ⟨htr, rfl⟩⟩
  · have hget : Glimpsed s₁ tr s₁ := ⟨rfl, by simpa [htr] using hc⟩
    rw [Method.after_returned]
    by_cases hcd : c = d
    · simpa [hcd] using hget
    · simp only [hcd, if_false]
      rw [Method.wp_bind]
      refine Method.wp_mono (ready_spec _) ?_
      rintro tr' r' o₂ s₂ ⟨rfl, rfl, htr', b, rfl, -⟩
      have hready := hget.append (glimpsed_nil htr')
      cases b with
      | true => simpa using hready
      | false => simpa using hready
  · simpa using glimpsed_nil htr

theorem receiveToDelimiter_peeking (hd : d ≠ 0) (hflags : Peeks flags) (fuel : ℕ) :
    (receiveToDelimiter dm fd fuel d flags).wp P.env (fun tr _ _ s' => Glimpsed s tr s') o s := by
  refine receiveToDelimiter_wp hd (fun tr htr _ => glimpsed_nil htr) fun tr htr => ?_
  refine Method.wp_iterate _ (fun tr' _ _ s' => Glimpsed s (tr ++ tr') s') (fun tr' _ _ s' => Glimpsed s (tr ++ tr') s')
    (fun _ _ _ _ h => h) ?_ fuel [] [] o s (by simpa using glimpsed_nil htr)
  intro tr₁ data o' s' h
  refine Method.wp_mono (receiveToDelimiterTurn_peeking hflags data) ?_
  intro tr₂ r o₁ s₁ hturn
  have hall : Glimpsed s (tr ++ (tr₁ ++ tr₂)) s₁ := by
    rw [← List.append_assoc]
    exact h.append hturn
  rcases r with (data' | a) | e | _ <;> exact hall

end Spec

/-! ## The fields of a delimited stream -/

/-- A prefix without `d` that is followed by `d` is determined by the list. -/
theorem append_cons_cancel {d : UInt8} {f g t u : Bytes} (hf : d ∉ f) (hg : d ∉ g) (h : f ++ d :: t = g ++ d :: u) :
    f = g ∧ t = u := by
  induction f generalizing g with
  | nil =>
    cases g with
    | nil => exact ⟨rfl, (List.cons.inj h).2⟩
    | cons c g => exact absurd (List.cons.inj h).1 (fun hc => hg (by simp [hc]))
  | cons b f ih =>
    cases g with
    | nil => exact absurd (List.cons.inj h).1 (fun hc => hf (by simp [hc]))
    | cons c g =>
      obtain ⟨rfl, ht⟩ := List.cons.inj h
      obtain ⟨rfl, rfl⟩ := ih (fun hm => hf (by simp [hm])) (fun hm => hg (by simp [hm])) ht
      exact ⟨rfl, rfl⟩

theorem Peer.attentive_stops {fd : SOCKET} (hfd : fd ≠ -1) {s : Bytes} (h : Peer.attentive.Stops fd s) : s = [] := by
  rcases h with (h | ⟨x, hx, hp⟩) | h
  · exact absurd h hfd
  · by_contra hs
    have := hp hs
    omega
  · exact h trivial

section Fields

variable {S : Type} {dm : DataModel} {fd : SOCKET} {d : UInt8} {flags : ℤ} {o : S}

/-- On an attentive connection a call returns the next field and leaves what follows its delimiter. -/
theorem receiveToDelimiter_attentive (hfd : fd ≠ -1) (hd : d ≠ 0) (hflags : ¬ Peeks flags) {f t : Bytes} (hf : d ∉ f)
    {fuel : ℕ} (hfuel : (f ++ d :: t).length < fuel) :
    (receiveToDelimiter dm fd fuel d flags).wp Peer.attentive.env (fun _ r o' s' => r = .returned f ∧ s' = t ∧ o' = o) o
      (f ++ d :: t) := by
  have hwithin : Method.Within Consuming (receiveToDelimiter dm fd fuel d flags : M S Bytes) :=
    Steps.receiveToDelimiter_within (fun _ _ => trivial) (fun _ _ => hflags) fuel d
  refine Method.wp_mono (Peer.wp_consumed hwithin (receiveToDelimiter_spec hd hflags fuel)) ?_
  rintro tr r o' s' ⟨⟨data, rfl, hdata, htr | ⟨htr, hstop⟩, rfl⟩ | ⟨-, hlen⟩, hs⟩
  · rw [htr, List.append_assoc] at hs
    obtain ⟨rfl, rfl⟩ := append_cons_cancel hf hdata hs
    exact ⟨rfl, rfl, rfl⟩
  · -- it cannot have stopped early: the delimiter is still unread
    rw [htr, Peer.attentive_stops hfd hstop, List.append_nil] at hs
    exact absurd (hs ▸ by simp) hdata
  · omega

variable (dm fd flags) in
/-- `k` calls of `receiveToDelimiter`, one after the other. -/
def receiveFields (fuel : ℕ) (d : UInt8) : ℕ → M S (List Bytes)
  | 0 => return []
  | k + 1 => do
    let field ← receiveToDelimiter dm fd fuel d flags
    let fields ← receiveFields fuel d k
    return field :: fields

theorem receiveFields_spec (hfd : fd ≠ -1) (hd : d ≠ 0) (hflags : ¬ Peeks flags) (t : Bytes) {fuel : ℕ} :
    ∀ fields : List Bytes, (∀ f ∈ fields, d ∉ f) → (fields.flatMap (· ++ [d]) ++ t).length < fuel →
      (receiveFields dm fd flags fuel d fields.length).wp Peer.attentive.env
        (fun _ r o' s' => r = .returned fields ∧ s' = t ∧ o' = o) o (fields.flatMap (· ++ [d]) ++ t) := by
  intro fields
  induction fields with
  | nil =>
    intro _ _
    exact ⟨rfl, rfl, rfl⟩
  | cons f fields ih =>
    intro hf hfuel
    have hsplit : (f :: fields).flatMap (· ++ [d]) ++ t = f ++ d :: (fields.flatMap (· ++ [d]) ++ t) := by simp
    rw [hsplit] at hfuel ⊢
    rw [List.length_cons, receiveFields, Method.wp_bind]
    refine Method.wp_mono (receiveToDelimiter_attentive hfd hd hflags (hf f List.mem_cons_self) hfuel) ?_
    rintro tr r o' s' ⟨rfl, rfl, rfl⟩
    rw [Method.after_returned, Method.wp_bind]
    have hrest : (fields.flatMap (· ++ [d]) ++ t).length < fuel := by
      rw [List.length_append, List.length_cons] at hfuel
      omega
    refine Method.wp_mono (ih (fun g hg => hf g (List.mem_cons_of_mem _ hg)) hrest) ?_
    rintro tr' r o₁ s₁ ⟨rfl, rfl, rfl⟩
    exact ⟨rfl, rfl, rfl⟩

end Fields

/-- **A delimited stream comes back field by field**: while a byte is unread the connection is ready and delivers, so `k`
calls return the `k` fields, empty ones included, and leave exactly what follows the last delimiter. -/
theorem receiveToDelimiter_fields {S : Type} (dm : DataModel) (fd : SOCKET) (hfd : fd ≠ -1) (d : UInt8) (hd : d ≠ 0)
    (flags : ℤ) (hflags : ¬ Peeks flags) (fields : List Bytes) (hf : ∀ f ∈ fields, d ∉ f) (t : Bytes) (o : S) :
    ∃ N, ∀ fuel ≥ N, ∀ tr r o' s', (receiveFields dm fd flags fuel d fields.length).Runs Peer.attentive.env o
      (fields.flatMap (· ++ [d]) ++ t) tr r o' s' → r = .returned fields ∧ s' = t := by
  refine ⟨(fields.flatMap (· ++ [d]) ++ t).length + 1, fun fuel hfuel tr r o' s' hrun => ?_⟩
  obtain ⟨hr, hs, -⟩ := Method.wp_iff.1 (receiveFields_spec hfd hd hflags t fields hf hfuel) tr r o' s' hrun
  exact ⟨hr, hs⟩

/-- Three fields, the middle one empty, with `&` as the delimiter. -/
theorem receiveToDelimiter_fields_three : ∃ N, ∀ fuel ≥ N, ∀ tr r o' s',
    (receiveFields .lp64 3 0 fuel 38 3).Runs Peer.attentive.env () [116, 0, 38, 38, 101, 38, 7] tr r o' s' →
      r = .returned [[116, 0], [], [101]] ∧ s' = [7] :=
  receiveToDelimiter_fields .lp64 3 (by decide) 38 (by decide) 0 (by decide) [[116, 0], [], [101]] (by decide) [7] ()

/-! ## Complete fields and fragments -/

theorem takeWhile_append_cons {d : UInt8} {f t : Bytes} (hf : d ∉ f) : (f ++ d :: t).takeWhile (· != d) = f := by
  rw [List.takeWhile_append_of_pos]
  · simp
  · intro c hc
    simpa using fun h : c = d => hf (h ▸ hc)

/-- A call that has read its delimiter returns what comes before it, whether it peeks or not. -/
theorem takeWhile_of_complete {S : Type} {P : Peer} {dm : DataModel} {fd : SOCKET} {d : UInt8} {flags : ℤ} {fuel : ℕ}
    {o o' : S} {s s' : Bytes} {tr : List (Event Sys Ans Bytes)} {data : Bytes}
    (h : (receiveToDelimiter dm fd fuel d flags).Runs P.env o s tr (.returned data) o' s') (complete : d ∈ delivered tr) :
    s.takeWhile (· != d) = data := by
  obtain ⟨hd, hread⟩ := receiveToDelimiter_field h
  have hall : delivered tr = data ++ [d] := by
    rcases hread with hall | ⟨hpart, -⟩
    · exact hall
    · exact absurd (hpart ▸ complete) hd
  by_cases hflags : Peeks flags
  · -- the delimiter is the first byte, and no other was read
    have hfirst := (h.post (receiveToDelimiter_peeking (receiveToDelimiter_ne_nul h) hflags fuel)).2
    have hdelimiter := hfirst d complete
    have hnil : data = [] := by
      refine List.eq_nil_iff_forall_not_mem.2 fun b hb => ?_
      have hb' := hfirst b (by simp [hall, hb])
      rw [hdelimiter] at hb'
      exact hd (Option.some.inj hb' ▸ hb)
    obtain ⟨t, rfl⟩ := List.head?_eq_some_iff.1 hdelimiter
    simp [hnil]
  · have hwithin : Method.Within Consuming (receiveToDelimiter dm fd fuel d flags : M S Bytes) :=
      Steps.receiveToDelimiter_within (fun _ _ => trivial) (fun _ _ => hflags) fuel d
    rw [Peer.consumed h ((hwithin o).runs h).1, hall, List.append_assoc]
    exact takeWhile_append_cons hd

/-- **When two runs can be told apart.** The one run read its delimiter, the other stopped earlier; whatever the streams
and the timings, the caller gets different outcomes if and only if the field at the start of the first stream is not
what was delivered of the second. -/
theorem receiveToDelimiter_outcomes_differ_iff {S : Type} {dm : DataModel} {fd₁ fd₂ : SOCKET} {d : UInt8}
    {flags₁ flags₂ : ℤ} {fuel₁ fuel₂ : ℕ} {o₁ o₁' o₂ o₂' : S} {s₁ s₁' s₂ s₂' : Bytes}
    {tr₁ tr₂ : List (Event Sys Ans Bytes)} {r₁ r₂ : Bytes}
    (run₁ : (receiveToDelimiter dm fd₁ fuel₁ d flags₁).Runs Peer.adverse.env o₁ s₁ tr₁ (.returned r₁) o₁' s₁')
    (run₂ : (receiveToDelimiter dm fd₂ fuel₂ d flags₂).Runs Peer.adverse.env o₂ s₂ tr₂ (.returned r₂) o₂' s₂')
    (complete : d ∈ delivered tr₁) (fragment : d ∉ delivered tr₂) :
    r₁ ≠ r₂ ↔ s₁.takeWhile (· != d) ≠ delivered tr₂ := by
  obtain ⟨-, h₂⟩ := receiveToDelimiter_field run₂
  have e₁ : s₁.takeWhile (· != d) = r₁ := takeWhile_of_complete run₁ complete
  have e₂ : delivered tr₂ = r₂ := by
    rcases h₂ with h | ⟨h, -⟩
    · exact absurd (h ▸ by simp) fragment
    · exact h
  rw [e₁, e₂]

section Examples

/-- The call on a peer that has sent `s`, with `&` as the delimiter, where `select` reports the number of unread
bytes. -/
def readAmpersand (s : Bytes) : List (Event Sys Ans Bytes) × (Outcome Exn Bytes × Unit) × Bytes :=
  (receiveToDelimiter (S := Unit) .lp64 3 2 38 0 ()).exec (Peer.serve fun s => s.length) s

theorem readAmpersand_runs (s : Bytes) : (receiveToDelimiter (S := Unit) .lp64 3 2 38 0).Runs Peer.adverse.env () s
    (readAmpersand s).1 (readAmpersand s).2.1.1 (readAmpersand s).2.1.2 (readAmpersand s).2.2 :=
  Prog.exec_runs (Peer.adverse.serve_env _ fun _ => trivial) _ s

/-- `"a"` from `"a&"` and `"b"` from `"b"` are told apart. -/
theorem receiveToDelimiter_outcomes_differ_iff_ab :
    ([97] : Bytes) ≠ [98] ↔ ([97, 38] : Bytes).takeWhile (· != 38) ≠ delivered (readAmpersand [98]).1 :=
  receiveToDelimiter_outcomes_differ_iff (readAmpersand_runs [97, 38]) (readAmpersand_runs [98]) (by decide) (by decide)

/-- `"a&"` read up to its delimiter, and `"a"` with nothing behind it, both give `"a"`. -/
theorem receiveToDelimiter_ambiguous : ∃ tr₁ tr₂ s₁' s₂',
    (receiveToDelimiter .lp64 3 2 38 0).Runs Peer.adverse.env () [97, 38] tr₁ (.returned [97]) () s₁' ∧
    (receiveToDelimiter .lp64 3 2 38 0).Runs Peer.adverse.env () [97] tr₂ (.returned [97]) () s₂' ∧
    38 ∈ delivered tr₁ ∧ 38 ∉ delivered tr₂ :=
  ⟨_, _, _, _, readAmpersand_runs [97, 38], readAmpersand_runs [97], by decide, by decide⟩

end Examples

end SocketLibrary.Stream
