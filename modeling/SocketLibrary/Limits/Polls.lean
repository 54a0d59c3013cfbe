import SocketLibrary.Limits.Lengths

/-!
# The answer of `select` as a number of bytes

Each turn of `receiveAll` polls twice, and the answer of the second poll, converted to `unsigned int`, is the number of
bytes it asks `receiveAmount` for. `receiveAll_polls_iff` says in which runs no read asks for more than was announced.
-/

namespace SocketLibrary.Limits

open SocketLibrary.Interaction SocketLibrary.Posix SocketLibrary.Model SocketLibrary.Stream
open SocketLibrary.Model.ConnectionOrientedSocket (receiveAmount receiveAmountInto receiveAmountTurn receiveAll
  receiveAllTurn ready)

/-- The bytes received so far, and the answer of a poll that no read followed yet. -/
structure Progress where
  received : Bytes := []
  announced : ℤ := 0

/-- `select` answers that one descriptor is ready, that none is, or that it failed; `recv` stores no more than it is
asked for. -/
@[simp] def polling : Env Sys Ans Progress
  | .select .., s, x, s' => (x = 1 ∨ x = 0 ∨ x = -1) ∧ s' = { s with announced := x }
  | .recv _ _ length _, s, x, s' => (0 ≤ length → (x.data.length : ℤ) ≤ length) ∧ s' = ⟨s.received ++ x.data, 0⟩
  | _, s, _, s' => s' = s

/-- A read asks for some bytes, and no more than the poll before it announced. -/
def Announced : Event Sys Ans Progress → Prop
  | ⟨s, .recv _ _ length _, _⟩ => 1 ≤ length ∧ length ≤ s.announced
  | _ => True

/-- No poll fails right after one that announced a byte. -/
def Calm : Event Sys Ans Progress → Prop
  | ⟨s, .select .., x⟩ => ¬ (s.announced = 1 ∧ x = -1)
  | _ => True

/-! ## Traces -/

section Traces

variable {tr tr' : List (Event Sys Ans Progress)}

def Good (tr : List (Event Sys Ans Progress)) : Prop := ∀ e ∈ tr, Announced e ∧ Calm e

/-- A poll failed, and a read was made for it. -/
def Spoilt (tr : List (Event Sys Ans Progress)) : Prop := (∃ e ∈ tr, ¬ Announced e) ∧ ∃ e ∈ tr, ¬ Calm e

theorem Good.append (h : Good tr) (h' : Good tr') : Good (tr ++ tr') := List.forall_mem_append.2 ⟨h, h'⟩

theorem good_nil : Good [] := by simp [Good]

theorem Spoilt.append (h : Spoilt tr) (tr' : List (Event Sys Ans Progress)) : Spoilt (tr ++ tr') := by
  obtain ⟨⟨e, he, hread⟩, e', he', hpoll⟩ := h
  exact ⟨⟨e, List.mem_append_left _ he, hread⟩, e', List.mem_append_left _ he', hpoll⟩

end Traces

/-! ## The polls and the reads -/

section Calls

variable {S : Type} {dm : DataModel} {fd : SOCKET} {flags : ℤ} {o : S} {s : Progress}

/-- Before anything was announced, no poll can spoil the run. -/
theorem ready_polls (timeout : ULong dm) (hs : s.announced = 0) :
    (ready dm fd timeout).wp polling (fun tr r o' s' => o' = o ∧ Good tr ∧ s'.received = s.received ∧
      ∃ b, r = .returned b ∧ (b = true → fd ≠ -1 ∧ s'.announced = 1)) o s := by
  unfold ready Socket.pollSocket
  rw [Method.wp_bind, Method.wp_ite]
  constructor
  · intro _
    exact ⟨rfl, good_nil, rfl, false, rfl, by simp⟩
  · intro hfd
    rw [isInvalidSocket_iff] at hfd
    rw [wp_sys]
    rintro (x : ℤ) s' ⟨hx, rfl⟩
    refine ⟨rfl, ?_, rfl, decide (0 < x), rfl, fun hready => ⟨hfd, ?_⟩⟩
    · simp [Good, Announced, Calm, hs]
    · have hpos : 0 < x := by simpa using hready
      have hx' : x = 1 ∨ x = 0 ∨ x = -1 := hx
      show x = 1
      omega

/-- The second poll of a turn. -/
theorem pollSocket_polls (timeout : ℤ) (hfd : fd ≠ -1) : (Socket.pollSocket fd timeout none).wp polling
    (fun tr r o' s' => o' = o ∧ ∃ nfds t x, tr = [⟨s, .select nfds fd t, x⟩] ∧ r = .returned x ∧
      s' = { s with announced := x } ∧ (x = 1 ∨ x = 0 ∨ x = -1)) o s := by
  unfold Socket.pollSocket
  rw [if_neg (by rwa [isInvalidSocket_iff]), wp_sys]
  rintro x s' ⟨hx, rfl⟩
  exact ⟨rfl, _, _, x, rfl, rfl, rfl, hx⟩

theorem receiveAmountTurn_one (buffer : Bytes) (hs : s.announced = 1) :
    (receiveAmountTurn dm fd 1 flags (0, buffer)).wp polling (fun tr r o' s' => o' = o ∧ Good tr ∧ s'.announced = 0 ∧
      ∃ data : Bytes, r = .returned (.inr ((data.length : ℤ), writeAt buffer 0 data)) ∧ data.length ≤ 1 ∧
        s'.received = s.received ++ data) o s := by
  have hask : toInt32 ((1 : UInt32).toNat - ((0 : ℕ) : ℤ)) = 1 := by decide
  have hone : (1 : UInt32).toNat = 1 := rfl
  apply receiveAmountTurn_wp (c := 0)
  intro x s' hx
  obtain ⟨hlen, rfl⟩ := hx
  rw [hask] at hlen
  have hle : x.data.length ≤ 1 := by
    have := hlen (by decide)
    omega
  have hgood : Good [⟨s, .recv fd (0 : ℕ) (toInt32 ((1 : UInt32).toNat - ((0 : ℕ) : ℤ))) flags, x⟩] := by
    intro e he
    obtain rfl := List.mem_singleton.1 he
    refine ⟨⟨hask.ge, ?_⟩, trivial⟩
    rw [hask, hs]
  refine ⟨by omega, by omega, ?_, ?_, ?_⟩
  · intro hnil
    exact ⟨rfl, hgood, rfl, x.data, by simp [hnil, writeAt_nil], hle, rfl⟩
  · intro _ _
    exact ⟨rfl, hgood, rfl, x.data, by simp, hle, rfl⟩
  · -- a byte that was read is all that was asked for
    intro hdata hless
    have hpos := List.length_pos_iff.2 hdata
    omega

/-- Asked for one byte, `receiveAmount` makes one read. -/
theorem receiveAmount_one (hs : s.announced = 1) : (receiveAmount dm fd 1 flags).wp polling
    (fun tr r o' s' => o' = o ∧ Good tr ∧ s'.announced = 0 ∧
      ∃ data : Bytes, r = .returned data ∧ data.length ≤ 1 ∧ s'.received = s.received ++ data) o s := by
  have hinto : receiveAmountInto dm fd [0] 1 flags = (Method.iterate (receiveAmountTurn dm fd 1 flags) 1 (0, [0]) :
      M S (ℤ × Bytes)) := rfl
  have hamount : receiveAmount dm fd 1 flags = (receiveAmountInto dm fd [0] 1 flags >>= fun received =>
      pure (received.2.take received.1.toNat) : M S Bytes) := rfl
  rw [hamount, hinto, Method.iterate, Method.wp_bind, Method.wp_bind]
  refine Method.wp_mono (receiveAmountTurn_one [0] hs) ?_
  rintro tr r o' s' ⟨rfl, htr, hs', data, rfl, hle, hreceived⟩
  rw [Method.after_returned, Sum.elim_inr, Method.wp_pure, Method.after_returned, Method.wp_pure]
  refine ⟨rfl, by simpa using htr, hs', data, ?_, hle, hreceived⟩
  simp [writeAt]

theorem receiveAmount_zero : (receiveAmount dm fd 0 flags).wp polling
    (fun tr r o' s' => o' = o ∧ tr = [] ∧ r = .returned [] ∧ s' = s) o s := by
  exact ⟨rfl, rfl, rfl, rfl⟩

/-- Asked for what a failed poll is converted to, it makes a read that was not announced. -/
theorem receiveAmount_failed : (receiveAmount dm fd (toUInt32 (-1)) flags).wp polling
    (fun tr _ _ _ => ∃ e ∈ tr, ¬ Announced e) o s := by
  have hbig : 2 ^ 31 ≤ (toUInt32 (-1)).toNat := by decide
  obtain ⟨length, hlen, k, hk⟩ := @receiveAmount_first S dm fd _ flags o hbig
  rw [Method.wp_iff]
  intro tr r o' s' hrun
  obtain ⟨x, s₁, tr', -, -, rfl⟩ := Method.Runs.of_call hk hrun
  refine ⟨_, List.mem_cons_self, ?_⟩
  rintro ⟨hpos, -⟩
  omega

end Calls

/-! ## The loop -/

section Loop

variable {S : Type} {dm : DataModel} {fd : SOCKET} {flags : ℤ} {o : S} {s : Progress}

/-- At the start of a turn nothing is announced, and the result is what was received, up to a NUL that ended it; or a
poll has spoilt the run. -/
def Turning (tr : List (Event Sys Ans Progress)) (p : Bytes × Bool) (_ : S) (s : Progress) : Prop :=
  Spoilt tr ∨ Good tr ∧ s.announced = 0 ∧ 0 ∉ p.1 ∧ s.received = if p.2 then p.1 ++ [0] else p.1

/-- How it ends. -/
def Finished : Method.Post Sys Ans Progress Exn S Bytes := fun tr r _ s =>
  Spoilt tr ∨ Good tr ∧ ∀ data, r = .returned data → data = c_str s.received

/-- A run that is spoilt stays so. -/
theorem turn_of_spoilt {tr : List (Event Sys Ans Progress)} (h : Spoilt tr)
    (r : Outcome Exn ((Bytes × Bool) ⊕ Bytes)) (o : S) (s : Progress) : Method.Turn Turning Finished tr r o s := by
  cases r with
  | returned p =>
    cases p with
    | inl p => exact Or.inl h
    | inr data => exact Or.inl h
  | threw e => exact Or.inl h
  | running => exact Or.inl h

/-- The result is what was received when the loop is left. -/
theorem c_str_received {p : Bytes × Bool} (hzero : 0 ∉ p.1)
    (hreceived : s.received = if p.2 then p.1 ++ [0] else p.1) : p.1 = c_str s.received := by
  rw [hreceived]
  split_ifs
  · have hcut : c_str (p.1 ++ [0]) = p.1 ++ c_str [0] := c_str_append hzero [0]
    simpa [c_str] using hcut.symm
  · exact (c_str_of_no_nul hzero).symm

/-- The end of a turn that read at most one byte. -/
theorem turn_end {tr : List (Event Sys Ans Progress)} {result res : Bytes} (htr : Good tr) (hs : s.announced = 0)
    (hzero : 0 ∉ result) (hreceived : s.received = result ++ res) (hle : res.length ≤ 1) :
    Method.wp polling (if res.head? = some 0 then return .inl (result, true) else return .inl (result ++ res, false))
      (fun tr' => Method.Turn Turning Finished (tr ++ tr')) o s := by
  rw [Method.wp_ite, Method.wp_pure, Method.wp_pure, List.append_nil]
  constructor
  · intro hnul
    have hres : res = [0] := by
      obtain ⟨t, rfl⟩ := List.head?_eq_some_iff.1 hnul
      obtain rfl : t = [] := List.length_eq_zero_iff.1 (by simpa using hle)
      rfl
    refine Or.inr ⟨htr, hs, hzero, ?_⟩
    rw [hreceived, hres]
    rfl
  · intro hnul
    refine Or.inr ⟨htr, hs, ?_, hreceived⟩
    intro hmem
    rcases List.mem_append.1 hmem with h | h
    · exact hzero h
    · cases res with
      | nil => cases h
      | cons b t =>
        obtain rfl : t = [] := List.length_eq_zero_iff.1 (by simpa using hle)
        exact hnul (congrArg some (List.mem_singleton.1 h).symm)

theorem receiveAllTurn_polls (timeout : ULong dm) {tr : List (Event Sys Ans Progress)} {p : Bytes × Bool}
    (h : Turning tr p o s) :
    (receiveAllTurn dm fd timeout flags p).wp polling (fun tr' => Method.Turn Turning Finished (tr ++ tr')) o s := by
  obtain ⟨result, hitEOF⟩ := p
  rcases h with hspoilt | ⟨hgood, hs, hzero, hreceived⟩
  · rw [Method.wp_iff]
    intro tr' r o' s' _
    exact turn_of_spoilt (hspoilt.append tr') r o' s'
  · unfold receiveAllTurn
    rw [Method.wp_bind]
    refine Method.wp_mono (ready_polls timeout hs) ?_
    rintro tr₁ r o₁ s₁ ⟨rfl, htr₁, hsame, isReady, rfl, hready⟩
    rw [Method.after_returned, Method.wp_ite]
    constructor
    · intro hgo
      rw [Bool.and_eq_true, Bool.not_eq_true'] at hgo
      obtain ⟨rfl, rfl⟩ := hgo
      obtain ⟨hfd, hannounced⟩ := hready rfl
      have hfirst := hgood.append htr₁
      have hreceived' : s.received = result := hreceived
      rw [Method.wp_bind]
      refine Method.wp_mono (pollSocket_polls _ hfd) ?_
      rintro tr₂ r o₂ s₂ ⟨rfl, nfds, t, x, rfl, rfl, rfl, rfl | rfl | rfl⟩
      · -- one byte is announced, and asked for
        have hpoll : Good [⟨s₁, .select nfds fd t, (1 : ℤ)⟩] := by simp [Good, Announced, Calm]
        rw [Method.after_returned, Method.wp_bind]
        refine Method.wp_mono (receiveAmount_one rfl) ?_
        rintro tr₃ r o₃ s₃ ⟨rfl, htr₃, hs₃, data, rfl, hle, hread⟩
        have htrace := (hfirst.append hpoll).append htr₃
        rw [Method.after_returned]
        have hend := turn_end (o := o₃) htrace hs₃ hzero (hread.trans (by rw [← hreceived', ← hsame])) hle
        simpa using hend
      · -- nothing is announced any more, and nothing read
        have hpoll : Good [⟨s₁, .select nfds fd t, (0 : ℤ)⟩] := by simp [Good, Announced, Calm]
        rw [Method.after_returned, Method.wp_bind]
        refine Method.wp_mono receiveAmount_zero ?_
        rintro tr₃ r o₃ s₃ ⟨rfl, rfl, rfl, rfl⟩
        rw [Method.after_returned]
        have hread : s₁.received = result ++ [] := by rw [hsame, hreceived', List.append_nil]
        have hend := turn_end (o := o₃) (s := { s₁ with announced := 0 }) (hfirst.append hpoll) rfl hzero hread
          (Nat.zero_le 1)
        simpa using hend
      · -- the poll failed, and a read is made for it
        rw [Method.after_returned]
        refine Method.wp_bind_of_first receiveAmount_failed ?_
        intro tr₃ tr' r o₃ s₃ hread
        obtain ⟨e, he, hunannounced⟩ := hread
        apply turn_of_spoilt
        refine ⟨⟨e, by simp [he], hunannounced⟩, ⟨s₁, .select nfds fd t, (-1 : ℤ)⟩, by simp, ?_⟩
        exact fun hcalm => hcalm ⟨hannounced, rfl⟩
    · intro _
      rw [Method.wp_pure, List.append_nil]
      refine Or.inr ⟨hgood.append htr₁, fun data hdata => ?_⟩
      cases hdata
      rw [hsame]
      exact c_str_received (p := (result, hitEOF)) hzero hreceived

theorem receiveAll_finished (fuel : ℕ) (timeout : ULong dm) :
    (receiveAll dm fd fuel timeout flags).wp polling Finished o {} := by
  have hstart : Turning [] ([], false) o {} := Or.inr ⟨good_nil, rfl, by simp, rfl⟩
  have hout : ∀ tr (p : Bytes × Bool) (o : S) s, Turning tr p o s → Finished tr (.running : Outcome Exn Bytes) o s := by
    intro tr p o s h
    exact h.imp_right fun hgood => ⟨hgood.1, by simp⟩
  exact Method.wp_iterate _ Turning Finished hout (fun _ _ _ _ h => receiveAllTurn_polls timeout h) fuel [] _ o {} hstart

end Loop

/-- **Polls as lengths.** For every run of `receiveAll`, however long: each read asks for at least one byte and no more
than the poll before it announced, and the result is what was received, up to a NUL, if and only if no poll fails right
after one that announced a byte. -/
theorem receiveAll_polls_iff {S : Type} (dm : DataModel) (fd : SOCKET) (fuel : ℕ) (timeout : ULong dm) (flags : ℤ)
    (o o' : S) (tr : List (Event Sys Ans Progress)) (r : Outcome Exn Bytes) (s' : Progress)
    (hrun : (receiveAll dm fd fuel timeout flags).Runs polling o {} tr r o' s') :
    ((∀ e ∈ tr, Announced e) ∧ ∀ data, r = .returned data → data = c_str s'.received) ↔ ∀ e ∈ tr, Calm e := by
  rcases hrun.post (receiveAll_finished fuel timeout) with ⟨⟨e, he, hread⟩, e', he', hpoll⟩ | ⟨hgood, hdata⟩
  · constructor
    · intro h
      exact absurd (h.1 e he) hread
    · intro h
      exact absurd (h e' he') hpoll
  · constructor
    · intro _ e he
      exact (hgood e he).2
    · intro _
      exact ⟨fun e he => (hgood e he).1, hdata⟩

section Examples

/-- A byte is announced and gone again, and then the poll fails. -/
theorem receiveAll_polls_iff_gone : ∃ tr s', (receiveAll .lp64 3 2 100#64 0).Runs polling () {} tr (.returned []) () s' ∧
    (∀ e ∈ tr, Announced e) ∧ ([] : Bytes) = c_str s'.received := by
  have hrun : (receiveAll .lp64 3 2 100#64 0).Runs polling () {}
      [⟨{}, .select 4 3 ⟨0, 100⟩, (1 : ℤ)⟩, ⟨⟨[], 1⟩, .select 4 3 ⟨0, 100⟩, (0 : ℤ)⟩,
        ⟨⟨[], 0⟩, .select 4 3 ⟨0, 100⟩, (-1 : ℤ)⟩] (.returned []) () ⟨[], -1⟩ :=
    .call ⟨Or.inl rfl, rfl⟩ (.call ⟨Or.inr (Or.inl rfl), rfl⟩ (.call ⟨Or.inr (Or.inr rfl), rfl⟩ (.pure _ _)))
  have hiff := receiveAll_polls_iff .lp64 3 2 100#64 0 () () _ _ _ hrun
  obtain ⟨hannounced, hdata⟩ := hiff.2 (by simp [Calm])
  exact ⟨_, _, hrun, hannounced, hdata [] rfl⟩

theorem polling_answers (c : Sys) (s : Progress) : ∃ x s', polling c s x s' := by
  cases c with
  | select nfds fd t => exact ⟨(0 : ℤ), _, Or.inr (Or.inl rfl), rfl⟩
  | recv fd offset length flags => exact ⟨.error, _, fun h => h, rfl⟩
  | _ => exact ⟨refuse _, s, rfl⟩

/-- A byte is announced, the next poll fails, and a read is made that no poll announced. -/
theorem receiveAll_reads_unannounced : ∃ rest r s', (receiveAll .lp64 3 1 100#64 0).Runs polling () {}
    (⟨{}, .select 4 3 ⟨0, 100⟩, (1 : ℤ)⟩ :: ⟨⟨[], 1⟩, .select 4 3 ⟨0, 100⟩, (-1 : ℤ)⟩ :: rest) r () s' ∧
      ∃ e ∈ rest, ¬ Announced e := by
  obtain ⟨k, hk, k', hk'⟩ : ∃ k, receiveAll .lp64 3 1 100#64 0 () = .call (.select 4 3 ⟨0, 100⟩) k ∧
      ∃ k', k (1 : ℤ) = .call (.select 4 3 ⟨0, 100⟩) k' := ⟨_, rfl, _, rfl⟩
  obtain ⟨rest, ⟨r, o'⟩, s', hrest⟩ := Prog.exists_run polling_answers (k' (-1 : ℤ)) ⟨[], -1⟩
  have hrun : (receiveAll .lp64 3 1 100#64 0).Runs polling () {}
      (⟨{}, .select 4 3 ⟨0, 100⟩, (1 : ℤ)⟩ :: ⟨⟨[], 1⟩, .select 4 3 ⟨0, 100⟩, (-1 : ℤ)⟩ :: rest) r () s' := by
    unfold Method.Runs
    rw [hk]
    refine .call ⟨Or.inl rfl, rfl⟩ ?_
    rw [hk']
    exact .call ⟨Or.inr (Or.inr rfl), rfl⟩ hrest
  refine ⟨rest, r, s', hrun, ?_⟩
  rcases hrun.post (@receiveAll_finished Unit .lp64 3 0 () 1 100#64) with ⟨⟨e, he, hread⟩, -⟩ | ⟨hgood, -⟩
  · refine ⟨e, ?_, hread⟩
    rcases List.mem_cons.1 he with rfl | he
    · exact absurd trivial hread
    · rcases List.mem_cons.1 he with rfl | he
      · exact absurd trivial hread
      · exact he
  · have hcalm := (hgood ⟨⟨[], 1⟩, .select 4 3 ⟨0, 100⟩, (-1 : ℤ)⟩ (by simp)).2
    exact absurd ⟨rfl, rfl⟩ hcalm

end Examples

end SocketLibrary.Limits
