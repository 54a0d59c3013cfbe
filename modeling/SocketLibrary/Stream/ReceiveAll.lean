import SocketLibrary.Stream.Receive

/-!
# `receiveAll` on a stream

`drain late s` is what `receiveAll` makes of the unread bytes `s`: the bytes it returns and those it leaves, or nothing
when the loop never ends. The loop ends at a byte that is late, and at a NUL byte, which it drops; at the end of the
stream, where `select` keeps announcing something to read, it goes round forever.
-/

namespace SocketLibrary.Stream

open SocketLibrary.Interaction SocketLibrary.Posix SocketLibrary.Model SocketLibrary.Model.ConnectionOrientedSocket

/-! ## The reading of a stream, without the calls -/

/-- What `receiveAll` returns and leaves, when what follows is late if `late` says so of the number of bytes left. -/
def drain (late : ℕ → Bool) : Bytes → Option (Bytes × Bytes)
  | [] => if late 0 then some ([], []) else none
  | c :: t =>
    if late (t.length + 1) then some ([], c :: t)
    else if c = 0 then some ([], t)
    else (drain late t).map fun p => (c :: p.1, p.2)

theorem drain_of_late {late : ℕ → Bool} {s : Bytes} (h : late s.length = true) : drain late s = some ([], s) := by
  cases s with
  | nil => simpa [drain] using h
  | cons c t =>
    have hlate : late (t.length + 1) = true := by simpa using h
    simp [drain, hlate]

theorem drain_isSome_iff {late : ℕ → Bool} {s : Bytes} :
    (drain late s).isSome ↔ 0 ∈ s ∨ ∃ m ≤ s.length, late m = true := by
  induction s with
  | nil => cases h : late 0 <;> simp [drain, h]
  | cons c t ih =>
    by_cases hl : late (t.length + 1) = true
    · simp only [drain, hl, if_true, Option.isSome_some, true_iff]
      exact Or.inr ⟨_, le_rfl, hl⟩
    · by_cases hc : c = 0
      · simp [drain, hl, hc]
      · have hm : (∃ m ≤ (c :: t).length, late m = true) ↔ ∃ m ≤ t.length, late m = true := by
          constructor
          · rintro ⟨m, hm, h⟩
            rw [List.length_cons] at hm
            rcases Nat.lt_or_ge t.length m with hlt | hle
            · obtain rfl : m = t.length + 1 := by omega
              exact absurd h hl
            · exact ⟨m, hle, h⟩
          · rintro ⟨m, hm, h⟩
            have hm' : m ≤ (c :: t).length := by
              rw [List.length_cons]
              omega
            exact ⟨m, hm', h⟩
        rw [hm]
        simp [drain, hl, hc, ih, Ne.symm hc]

/-- On a connection that stays open and silent, everything is returned exactly when there is no NUL byte. -/
theorem drain_silent_iff {s : Bytes} : drain (· == 0) s = some (s, []) ↔ 0 ∉ s := by
  induction s with
  | nil => simp [drain]
  | cons c t ih =>
    by_cases hc : c = 0
    · simp [drain, hc]
    · have hmap : (drain (· == 0) t).map (fun p => (c :: p.1, p.2)) = some (c :: t, []) ↔
          drain (· == 0) t = some (t, []) := by
        cases drain (· == 0) t with
        | none => simp
        | some p => simp [Prod.ext_iff]
      simp [drain, hc, hmap, ih, Ne.symm hc]

/-! ## The loop -/

/-- What is still to come of a loop of `receiveAll` with the variables `p`. -/
def owed (late : ℕ → Bool) : Bytes × Bool → Bytes → Option (Bytes × Bytes)
  | (result, true), s => some (result, s)
  | (result, false), s => (drain late s).map fun p => (result ++ p.1, p.2)

/-- The number of turns that may still read something. -/
def turnsLeft : Bytes × Bool → Bytes → ℕ
  | (_, true), _ => 0
  | (_, false), s => s.length + 1

section Spec

variable {S : Type} {dm : DataModel} {fd : SOCKET} {flags : ℤ} {o : S} {s : Bytes} {late : ℕ → Bool}

theorem Peer.closing_answers {b : Bool} (hfd : fd ≠ -1) (h : (Peer.closing late).Answers fd s b) :
    b = !late s.length := by
  cases b with
  | true =>
    obtain ⟨-, x, hx, hp⟩ := h
    cases hl : late s.length with
    | false => rfl
    | true =>
      have : x ≤ 0 := by simpa [Peer.closing, hl] using hp
      omega
  | false =>
    rcases h with h | ⟨x, hx, hp⟩
    · exact absurd h hfd
    · cases hl : late s.length with
      | true => rfl
      | false =>
        have : x = 1 := by simpa [Peer.closing, hl] using hp
        omega

/-- Reading one byte that is not late. -/
theorem receiveAmount_one_closing (hfd : fd ≠ -1) (hflags : ¬ Peeks flags) (hlate : late s.length = false) :
    (receiveAmount dm fd 1 flags).wp (Peer.closing late).env
      (fun _ r o' s' => r = .returned (s.take 1) ∧ s' = s.drop 1 ∧ o' = o) o s := by
  have hwithin : Method.Within Consuming (receiveAmount dm fd 1 flags : M S Bytes) :=
    Steps.receiveAmount_within (fun _ _ => trivial) (fun _ _ => hflags) 1
  refine Method.wp_mono (Peer.wp_consumed hwithin (receiveAmount_spec (by decide))) ?_
  rintro tr r o' s' ⟨⟨rfl, hle, hstop, rfl⟩, hs⟩
  rcases htr : delivered tr with _ | ⟨c, _ | ⟨c', t⟩⟩
  · -- nothing was delivered: the stream is at its end
    rw [htr, List.nil_append] at hs
    subst hs
    rw [htr] at hstop
    have hnil : s = [] := by
      rcases hstop with h | h | h
      · exact absurd h (by decide)
      · have hfalse := Peer.closing_answers hfd h
        rw [hlate] at hfalse
        exact absurd hfalse (by decide)
      · exact h trivial
    subst hnil
    exact ⟨rfl, rfl, rfl⟩
  · rw [htr] at hs
    subst hs
    exact ⟨rfl, rfl, rfl⟩
  · rw [htr] at hle
    simp at hle

/-- **A turn of the loop** keeps what is owed, and has less to read if anything is owed at all; or it leaves the loop
with what is owed. -/
theorem receiveAllTurn_spec (hfd : fd ≠ -1) (hflags : ¬ Peeks flags) (timeout : ULong dm) (p : Bytes × Bool) :
    (receiveAllTurn dm fd timeout flags p).wp (Peer.closing late).env (fun tr => Method.Turn
      (fun _ p' o' s' => owed late p' s' = owed late p s ∧ o' = o ∧
        ((owed late p s).isSome → turnsLeft p' s' < turnsLeft p s))
      (fun _ r o' s' => ∃ data, r = .returned data ∧ owed late p s = some (data, s') ∧ o' = o) tr) o s := by
  obtain ⟨result, hit⟩ := p
  unfold receiveAllTurn
  rw [Method.wp_bind]
  refine Method.wp_mono (ready_spec _) ?_
  rintro tr r o' s' ⟨rfl, rfl, -, b, rfl, hb⟩
  rw [Method.after_returned, Peer.closing_answers hfd hb]
  cases hit with
  | true =>
    rw [if_neg (by simp), Method.wp_pure]
    exact ⟨result, rfl, rfl, rfl⟩
  | false =>
    cases hlate : late s'.length with
    | true =>
      have howed : owed late (result, false) s' = some (result, s') := by simp [owed, drain_of_late hlate]
      rw [if_neg (by simp), Method.wp_pure]
      exact ⟨result, rfl, howed, rfl⟩
    | false =>
      rw [if_pos (by simp), Method.wp_bind]
      refine Method.wp_mono (pollSocket_spec _) ?_
      rintro tr₁ r₁ o₁ s₁ ⟨rfl, rfl, -, x, rfl, hx⟩
      -- the second poll answers 1 as well
      obtain rfl : x = 1 := by
        rcases hx with ⟨h, -⟩ | ⟨-, h⟩
        · exact absurd h hfd
        · simpa [Peer.closing, hlate] using h
      rw [Method.after_returned, Method.wp_bind]
      refine Method.wp_mono (receiveAmount_one_closing hfd hflags hlate) ?_
      rintro tr₂ r₂ o₂ s₂ ⟨rfl, rfl, rfl⟩
      rw [Method.after_returned]
      cases s₁ with
      | nil =>
        have hnone : drain late [] = none := by simpa [drain] using hlate
        have howed : ∀ result, owed late (result, false) [] = none := by simp [owed, hnone]
        rw [if_neg (by simp), Method.wp_pure]
        refine ⟨(howed _).trans (howed _).symm, rfl, fun h => ?_⟩
        rw [howed] at h
        cases h
      | cons c t =>
        rw [List.length_cons] at hlate
        by_cases hc : c = 0
        · have howed : owed late (result, false) (c :: t) = some (result, t) := by simp [owed, drain, hlate, hc]
          have hless : turnsLeft (result, true) t < turnsLeft (result, false) (c :: t) := Nat.succ_pos _
          rw [if_pos (by simp [hc]), Method.wp_pure]
          exact ⟨howed.symm, rfl, fun _ => hless⟩
        · have howed : owed late (result, false) (c :: t) = owed late (result ++ [c], false) t := by
            simp [owed, drain, hlate, hc, Function.comp_def]
          have hless : turnsLeft (result ++ [c], false) t < turnsLeft (result, false) (c :: t) := Nat.lt_succ_self _
          rw [if_neg (by simp [hc]), Method.wp_pure]
          exact ⟨howed.symm, rfl, fun _ => hless⟩

/-- **`receiveAll` computes `drain`**: it returns what is drained, given one turn more than there are bytes and two for
the end. -/
theorem receiveAll_drains (hfd : fd ≠ -1) (hflags : ¬ Peeks flags) (timeout : ULong dm) {data rest : Bytes}
    (hd : drain late s = some (data, rest)) {fuel : ℕ} (hfuel : s.length + 1 < fuel) :
    (receiveAll dm fd fuel timeout flags).wp (Peer.closing late).env
      (fun _ r o' s' => r = .returned data ∧ s' = rest ∧ o' = o) o s := by
  have howed : owed late ([], false) s = some (data, rest) := by simp [owed, hd]
  unfold receiveAll
  refine Method.wp_mono (Method.wp_iterate_variant _
    (fun _ p o' s' => owed late p s' = some (data, rest) ∧ o' = o)
    (fun _ r o' s' => r = .returned data ∧ s' = rest ∧ o' = o) (fun p _ s' => turnsLeft p s') ?_ fuel []
    ([], false) o s ⟨howed, rfl⟩) ?_
  · rintro tr p o' s' ⟨hp, rfl⟩
    refine Method.wp_mono (receiveAllTurn_spec hfd hflags timeout p) ?_
    rintro tr' ((p' | a) | e | _) o₁ s₁ ht
    · obtain ⟨h1, rfl, h2⟩ := ht
      rw [hp] at h1 h2
      exact ⟨⟨h1, rfl⟩, h2 rfl⟩
    · obtain ⟨data', h1, h2, rfl⟩ := ht
      cases h1
      rw [hp] at h2
      cases h2
      exact ⟨rfl, rfl, rfl⟩
    · obtain ⟨_, h, -⟩ := ht
      cases h
    · obtain ⟨_, h, -⟩ := ht
      cases h
  · rintro tr r o' s' (h | ⟨-, h⟩)
    · exact h
    · simp only [turnsLeft] at h
      omega

/-- **`receiveAll` goes round forever** when nothing can be drained: it uses up any fuel. -/
theorem receiveAll_diverges (hfd : fd ≠ -1) (hflags : ¬ Peeks flags) (timeout : ULong dm) (hd : drain late s = none)
    (fuel : ℕ) :
    (receiveAll dm fd fuel timeout flags).wp (Peer.closing late).env (fun _ r _ _ => r = .running) o s := by
  have howed : owed late ([], false) s = none := by simp [owed, hd]
  unfold receiveAll
  refine Method.wp_iterate _ (fun _ p _ s' => owed late p s' = none) (fun _ r _ _ => r = .running)
    (fun _ _ _ _ _ => rfl) ?_ fuel [] ([], false) o s howed
  intro tr p o' s' hp
  refine Method.wp_mono (receiveAllTurn_spec hfd hflags timeout p) ?_
  rintro tr' ((p' | a) | e | _) o₁ s₁ ht
  · exact ht.1.trans hp
  · obtain ⟨_, -, h, -⟩ := ht
    rw [hp] at h
    cases h
  · obtain ⟨_, h, -⟩ := ht
    cases h
  · rfl

/-- `select` always has an answer. -/
theorem Peer.closing_polls (late : ℕ → Bool) (s : Bytes) :
    (Peer.closing late).polls s (if late s.length then 0 else 1) := by
  show if late s.length then _ else _
  split <;> simp [*]

end Spec

/-! ## When it returns, and what -/

/-- **When `receiveAll` returns.** The peer sends `s` and then closes; whatever the timing, `receiveAll` returns after
finitely many turns if and only if a NUL byte is in the stream, or a poll before the bytes or the end have arrived
times out. A stream without NUL bytes that arrives in time, and is closed, is read forever. -/
theorem receiveAll_returns_iff {S : Type} (dm : DataModel) (fd : SOCKET) (hfd : fd ≠ -1) (timeout : ULong dm)
    (late : ℕ → Bool) (s : Bytes) (o : S) :
    (∃ N, ∀ fuel ≥ N, ∀ tr r o' s', (receiveAll dm fd fuel timeout 0).Runs (Peer.closing late).env o s tr r o' s' →
      ∃ data, r = .returned data) ↔ 0 ∈ s ∨ ∃ m ≤ s.length, late m = true := by
  rw [← drain_isSome_iff]
  constructor
  · rintro ⟨N, hN⟩
    by_contra hd
    rw [Bool.not_eq_true, Option.isSome_eq_false_iff, Option.isNone_iff_eq_none] at hd
    obtain ⟨tr, r, o', s', hrun⟩ :=
      Peer.exists_run _ _ (Peer.closing_polls late) (receiveAll dm fd N timeout 0) o s
    obtain ⟨data, hr⟩ := hN N le_rfl _ _ _ _ hrun
    rw [Method.wp_iff.1 (receiveAll_diverges hfd (by decide) timeout hd N) _ _ _ _ hrun] at hr
    cases hr
  · intro hd
    obtain ⟨⟨data, rest⟩, hd⟩ := Option.isSome_iff_exists.1 hd
    refine ⟨s.length + 2, fun fuel hfuel tr r o' s' hrun => ⟨data, ?_⟩⟩
    exact (Method.wp_iff.1 (receiveAll_drains hfd (by decide) timeout hd hfuel) _ _ _ _ hrun).1

/-- `"hi"` and the close arrive in time: the call does not return. -/
theorem receiveAll_returns_iff_hi : (∃ N, ∀ fuel ≥ N, ∀ tr r o' s',
    (receiveAll .lp64 3 fuel 100 0).Runs (Peer.closing fun _ => false).env () [104, 105] tr r o' s' →
      ∃ data, r = .returned data) ↔ 0 ∈ ([104, 105] : Bytes) ∨ ∃ m ≤ 2, false = true :=
  receiveAll_returns_iff .lp64 3 (by decide) 100 (fun _ => false) [104, 105] ()

/-- A peer that closes without having sent anything keeps `receiveAll` busy for ever. -/
theorem receiveAll_never_returns : ¬ ∃ N, ∀ fuel ≥ N, ∀ tr r o' s',
    (receiveAll .lp64 3 fuel 100 0).Runs (Peer.closing fun _ => false).env () [] tr r o' s' →
      ∃ data, r = .returned data := by
  rintro ⟨N, hN⟩
  obtain ⟨tr, r, o', s', hrun⟩ :=
    Peer.exists_run _ _ (Peer.closing_polls fun _ => false) (receiveAll (S := Unit) .lp64 3 N 100 0) () []
  obtain ⟨data, hr⟩ := hN N le_rfl _ _ _ _ hrun
  rw [Method.wp_iff.1 (receiveAll_diverges (by decide) (by decide) 100 rfl N) _ _ _ _ hrun] at hr
  cases hr

/-- It undoes `send` unless it peeks, or there is a NUL byte. -/
theorem receiveAll_undoes {S : Type} {dm : DataModel} {fd : SOCKET} (hfd : fd ≠ -1) (timeout : ULong dm) {flags : ℤ}
    (hflags : ¬ Peeks flags) {s : Bytes} {o : S} :
    (∃ N, ∀ fuel ≥ N, ∀ tr r o' s', (receiveAll dm fd fuel timeout flags).Runs Peer.silent.env o s tr r o' s' →
      r = .returned s ∧ s' = []) ↔ 0 ∉ s := by
  have hsome : (drain (· == 0) s).isSome := drain_isSome_iff.2 (Or.inr ⟨0, Nat.zero_le _, rfl⟩)
  obtain ⟨⟨data, rest⟩, hd⟩ := Option.isSome_iff_exists.1 hsome
  rw [← drain_silent_iff]
  constructor
  · rintro ⟨N, hN⟩
    obtain ⟨tr, r, o', s', hrun⟩ := Peer.exists_run _ _ (Peer.closing_polls (· == 0))
      (receiveAll dm fd (max N (s.length + 2)) timeout flags) o s
    obtain ⟨hr, hs⟩ := hN _ (le_max_left _ _) _ _ _ _ hrun
    obtain ⟨hr', hs', -⟩ := Method.wp_iff.1 (receiveAll_drains hfd hflags timeout hd
      (lt_of_lt_of_le (Nat.lt_succ_self _) (le_max_right N _))) _ _ _ _ hrun
    rw [hr] at hr'
    cases hr'
    rw [hd, ← hs', hs]
  · intro h
    rw [hd] at h
    cases h
    refine ⟨s.length + 2, fun fuel hfuel tr r o' s' hrun => ?_⟩
    obtain ⟨hr, hs, -⟩ := Method.wp_iff.1 (receiveAll_drains hfd hflags timeout hd hfuel) _ _ _ _ hrun
    exact ⟨hr, hs⟩

/-- With nothing buffered it returns before it reads, whatever the flags are. -/
theorem receiveAll_empty {S : Type} {dm : DataModel} {fd : SOCKET} (hfd : fd ≠ -1) (timeout : ULong dm) {flags : ℤ}
    {fuel : ℕ} {o : S} : (receiveAll dm fd (fuel + 1) timeout flags).wp Peer.silent.env
      (fun _ r _ s' => r = .returned [] ∧ s' = []) o [] := by
  unfold receiveAll receiveAllTurn
  rw [Method.iterate, Method.wp_bind, Method.wp_bind]
  refine Method.wp_mono (ready_spec _) ?_
  rintro tr r o' s' ⟨rfl, rfl, -, b, rfl, hb⟩
  obtain rfl : b = false := Peer.closing_answers hfd hb
  simp

/-- **When `receiveAll` undoes `send`.** With exactly `s` buffered on a connection that stays open and silent, every
call returns `s` and leaves nothing unread if and only if `s` has no NUL byte, and the call does not peek at any. -/
theorem receiveAll_undoes_send_iff {S : Type} (dm : DataModel) (fd : SOCKET) (hfd : fd ≠ -1) (timeout : ULong dm)
    (flags : ℤ) (s : Bytes) (o : S) :
    (∃ N, ∀ fuel ≥ N, ∀ tr r o' s', (receiveAll dm fd fuel timeout flags).Runs Peer.silent.env o s tr r o' s' →
      r = .returned s ∧ s' = []) ↔ 0 ∉ s ∧ (Peeks flags → s = []) := by
  by_cases hflags : Peeks flags
  · constructor
    · rintro ⟨N, hN⟩
      have hwithin : Method.Within Peeking (receiveAll dm fd N timeout flags : M S Bytes) :=
        Steps.receiveAll_within (fun _ _ => trivial) (fun _ _ => hflags) N timeout
      obtain ⟨tr, r, o', s', hrun⟩ := Peer.exists_run _ _ (Peer.closing_polls (· == 0))
        (receiveAll dm fd N timeout flags) o s
      -- what was buffered is still there
      have hnil : s = [] := (Peer.peeked hrun ((hwithin o).runs hrun).1).1 ▸ (hN N le_rfl _ _ _ _ hrun).2
      exact ⟨by simp [hnil], fun _ => hnil⟩
    · rintro ⟨-, hempty⟩
      obtain rfl := hempty hflags
      refine ⟨1, fun fuel hfuel tr r o' s' hrun => ?_⟩
      obtain ⟨k, rfl⟩ := Nat.exists_eq_add_of_le' hfuel
      exact hrun.post (receiveAll_empty hfd timeout)
  · rw [receiveAll_undoes hfd timeout hflags]
    exact ⟨fun h => ⟨h, fun hpeeks => absurd hpeeks hflags⟩, And.left⟩

/-- With `"te"` buffered, `receiveAll` undoes `send`. -/
theorem receiveAll_undoes_send_iff_te : (∃ N, ∀ fuel ≥ N, ∀ tr r o' s',
    (receiveAll .lp64 3 fuel 100 0).Runs Peer.silent.env () [116, 101] tr r o' s' →
      r = .returned [116, 101] ∧ s' = []) ↔ 0 ∉ ([116, 101] : Bytes) ∧ (Peeks 0 → ([116, 101] : Bytes) = []) :=
  receiveAll_undoes_send_iff .lp64 3 (by decide) 100 0 [116, 101] ()

/-- Of the bytes `"a\0b"` the call returns `"a"`. -/
theorem receiveAll_cut_at_nul : ¬ ∃ N, ∀ fuel ≥ N, ∀ tr r o' s',
    (receiveAll .lp64 3 fuel 100 0).Runs Peer.silent.env () [97, 0, 98] tr r o' s' →
      r = .returned [97, 0, 98] ∧ s' = [] := by
  rintro ⟨N, hN⟩
  obtain ⟨tr, r, o', s', hrun⟩ := Peer.exists_run _ _ (Peer.closing_polls (· == 0))
    (receiveAll (S := Unit) .lp64 3 (max N 5) 100 0) () [97, 0, 98]
  obtain ⟨hr, -⟩ := hN _ (le_max_left _ _) _ _ _ _ hrun
  have hd : drain (· == 0) [97, 0, 98] = some ([97], [98]) := rfl
  obtain ⟨hr', -⟩ := Method.wp_iff.1 (receiveAll_drains (by decide) (by decide) 100 hd
    (lt_of_lt_of_le (by decide) (le_max_right N 5))) _ _ _ _ hrun
  rw [hr] at hr'
  cases hr'

end SocketLibrary.Stream
