import SocketLibrary.Stream.Receive

/-!
# Reading with `MSG_PEEK`

A `recv` that peeks hands over the next unread bytes and leaves them unread. The loops of the receiving methods count on
each read to make progress, so they read the same bytes again. `peeking_reads_iff` says when a method returns without
having read a byte twice.
-/

namespace SocketLibrary.Stream

open SocketLibrary.Interaction SocketLibrary.Posix SocketLibrary.Model SocketLibrary.Model.ConnectionOrientedSocket

/-- A length converted to `size_t`. -/
def sizeT (length : ℤ) : ℕ := (length % 2 ^ 64).toNat

/-- The number of bytes Linux hands over at most. -/
def maxTransfer : ℕ := 0x7ffff000

/-- The bytes of the state are unread. `select` sees them; `recv` hands over some of them where it is asked for any, and
takes them off the stream unless it peeks. -/
@[simp] def pending : Env Sys Ans Bytes
  | .select .., s, x, s' => (s ≠ [] → x = 1) ∧ s' = s
  | .recv _ _ length flags, s, x, s' => x.data <+: s ∧ x.data.length ≤ sizeT length ∧ x.data.length ≤ maxTransfer ∧
      (x.data = [] → s = [] ∨ sizeT length = 0) ∧ s' = if Peeks flags then s else s.drop x.data.length
  | _, s, _, s' => s' = s

/-- The positions in the stream of the bytes that peeking reads handed over. -/
def positions (tr : List (Event Sys Ans Bytes)) : List ℕ := tr.flatMap fun e => List.range (handedOver e).length

/-- The call returned a prefix of the stream, no byte was handed over twice, and the stream is unchanged. -/
def HandsPrefix (s : Bytes) (tr : List (Event Sys Ans Bytes)) (r : Outcome Exn Bytes) (s' : Bytes) : Prop :=
  ∃ data, r = .returned data ∧ data <+: s ∧ (positions tr).Nodup ∧ s' = s

/-! ## Lengths and positions -/

@[simp] theorem positions_nil : positions [] = [] := rfl

@[simp] theorem positions_append (tr tr' : List (Event Sys Ans Bytes)) :
    positions (tr ++ tr') = positions tr ++ positions tr' := by
  simp [positions]

@[simp] theorem positions_recv (s : Bytes) (fd : SOCKET) (offset length flags : ℤ) (x : Received)
    (tr : List (Event Sys Ans Bytes)) :
    positions (⟨s, .recv fd offset length flags, x⟩ :: tr) = List.range x.data.length ++ positions tr := rfl

@[simp] theorem positions_select (s : Bytes) (nfds : ℤ) (fd : SOCKET) (t : TimeVal) (x : ℤ)
    (tr : List (Event Sys Ans Bytes)) : positions (⟨s, .select nfds fd t, x⟩ :: tr) = positions tr := rfl

/-- The first byte was handed over twice. -/
theorem not_nodup_of_zero {l l' : List ℕ} (h : 0 ∈ l) (h' : 0 ∈ l') : ¬ (l ++ l').Nodup := by
  intro hnodup
  exact (List.nodup_append.1 hnodup).2.2 0 h 0 h' rfl

theorem sizeT_toInt32_pos {i : ℤ} (h : 1 ≤ i) (h' : i < 2 ^ 32) : sizeT (toInt32 i) ≠ 0 := by
  unfold sizeT toInt32
  rw [Int.bmod_def]
  omega

theorem sizeT_toInt32_eq {i : ℤ} (h : 0 ≤ i) (h' : i < 2 ^ 31) : (sizeT (toInt32 i) : ℤ) = i := by
  rw [toInt32_of_le (by omega) h']
  unfold sizeT
  omega

section Peek

variable {S : Type} {dm : DataModel} {fd : SOCKET} {flags : ℤ} {o : S} {s : Bytes}

/-! ## The parts -/

theorem pollSocket_pending (hfd : fd ≠ -1) (hs : s ≠ []) (timeout : ℤ) :
    (Socket.pollSocket fd timeout none).wp pending (fun tr r o' s' => o' = o ∧ s' = s ∧ positions tr = [] ∧
      r = .returned 1) o s := by
  unfold Socket.pollSocket
  rw [if_neg (by rwa [isInvalidSocket_iff]), wp_sys]
  rintro x s' ⟨hx, rfl⟩
  exact ⟨rfl, rfl, rfl, congrArg Outcome.returned (hx hs)⟩

theorem ready_pending (hfd : fd ≠ -1) (hs : s ≠ []) (timeout : ULong dm) :
    (ready dm fd timeout).wp pending (fun tr r o' s' => o' = o ∧ s' = s ∧ positions tr = [] ∧ r = .returned true)
      o s := by
  unfold ready
  rw [Method.wp_bind]
  refine Method.wp_mono (pollSocket_pending hfd hs _) ?_
  rintro tr r o' s' ⟨rfl, rfl, htr, rfl⟩
  rw [Method.after_returned, Method.wp_pure]
  exact ⟨rfl, rfl, by simpa using htr, rfl⟩

/-- What one peeking read finds. -/
structure Peeked (s : Bytes) (n : UInt32) (data : Bytes) : Prop where
  isPrefix : data <+: s
  pos : 0 < data.length
  le : data.length ≤ n.toNat
  lt : data.length < 2 ^ 31

/-- The first turn of the loop of `receiveAmount` goes on unless it was handed all it asked for. -/
theorem receiveAmountTurn_peeks (hfd : fd ≠ -1) (hflags : Peeks flags) (hs : s ≠ []) {n : UInt32} (hn : 0 < n.toNat)
    (buffer : Bytes) :
    (receiveAmountTurn dm fd n flags (0, buffer)).wp pending (fun tr r o' s' => o' = o ∧ s' = s ∧ ∃ data,
      Peeked s n data ∧ positions tr = List.range data.length ∧ (∃ e, tr.head? = some e ∧ handedOver e = data) ∧
      ((data.length = n.toNat ∧ r = .returned (.inr ((data.length : ℤ), writeAt buffer 0 data))) ∨
        (data.length < n.toNat ∧ r = .returned (.inl ((data.length : ℤ), writeAt buffer 0 data))))) o s := by
  have hlt : n.toNat < 2 ^ 32 := n.toNat_lt
  apply receiveAmountTurn_wp (c := 0)
  intro x s' hx
  obtain ⟨hfront, hasked, hmax, hempty, rfl⟩ := hx
  rw [if_pos hflags]
  have hsize : sizeT (toInt32 (n.toNat - (0 : ℕ))) ≠ 0 := sizeT_toInt32_pos (by omega) (by omega)
  have hdata : x.data ≠ [] := fun h => (hempty h).elim hs hsize
  have hpos : 0 < x.data.length := List.length_pos_iff.2 hdata
  have hcap : x.data.length ≤ 0x7ffff000 := hmax
  have hle : x.data.length ≤ n.toNat := by
    by_cases hsmall : n.toNat < 2 ^ 31
    · have heq : (sizeT (toInt32 (n.toNat - (0 : ℕ))) : ℤ) = n.toNat - (0 : ℕ) :=
        sizeT_toInt32_eq (by omega) (by omega)
      omega
    · omega
  have hpeeked : Peeked s n x.data := ⟨hfront, hpos, hle, by omega⟩
  rw [Nat.cast_zero]
  refine ⟨by omega, by omega, ?_, ?_, ?_⟩
  · intro hnil
    exact absurd hnil hdata
  · intro _ hall
    rw [zero_add] at hall ⊢
    exact ⟨rfl, rfl, x.data, hpeeked, by simp, ⟨_, rfl, rfl⟩, Or.inl ⟨hall, rfl⟩⟩
  · intro _ hless
    rw [zero_add] at hless ⊢
    unfold receiveAmountTest
    rw [Method.wp_bind]
    refine Method.wp_mono (ready_pending hfd hs _) ?_
    rintro tr r o' s' ⟨rfl, rfl, htr, rfl⟩
    rw [Method.after_returned, if_pos rfl, Method.wp_pure]
    exact ⟨rfl, rfl, x.data, hpeeked, by simp [htr], ⟨_, rfl, rfl⟩, Or.inr ⟨hless, rfl⟩⟩

/-- Any later turn reads the first byte again. -/
theorem receiveAmountTurn_again (hs : s ≠ []) {n : UInt32} {m : ℕ} (hm : m < n.toNat) (buffer : Bytes) :
    (receiveAmountTurn dm fd n flags (m, buffer)).wp pending (fun tr _ _ _ => 0 ∈ positions tr) o s := by
  have hlt : n.toNat < 2 ^ 32 := n.toNat_lt
  unfold receiveAmountTurn
  refine Method.wp_bind_of_first (T := fun tr => 0 ∈ positions tr) ?_ ?_
  · rw [wp_sys]
    rintro (x : Received) s' ⟨-, -, -, hempty, -⟩
    have hsize : sizeT (toInt32 (n.toNat - (m : ℤ))) ≠ 0 := sizeT_toInt32_pos (by omega) (by omega)
    have hpos : 0 < x.data.length := List.length_pos_iff.2 fun h => (hempty h).elim hs hsize
    simpa using hpos
  · intro tr tr' r o' s' h
    rw [positions_append]
    exact List.mem_append_left _ h

/-- `receiveAmount` either was handed everything by its first read, or has read the first byte twice. -/
theorem receiveAmountInto_peeks (hfd : fd ≠ -1) (hflags : Peeks flags) (hs : s ≠ []) {n : UInt32} (hn : n ≠ 0)
    (buffer : Bytes) :
    (receiveAmountInto dm fd buffer n flags).wp pending (fun tr r o' s' => ∃ data, Peeked s n data ∧
      (∃ e, tr.head? = some e ∧ handedOver e = data) ∧
      ((data.length = n.toNat ∧ o' = o ∧ s' = s ∧ positions tr = List.range data.length ∧
          r = .returned ((data.length : ℤ), writeAt buffer 0 data)) ∨
        (data.length < n.toNat ∧ ¬ (positions tr).Nodup))) o s := by
  have hpos : 0 < n.toNat := UInt32.lt_iff_toNat_lt.1 (UInt32.pos_iff_ne_zero.2 hn)
  obtain ⟨k, hk⟩ : ∃ k, n.toNat = k + 1 := ⟨n.toNat - 1, by omega⟩
  unfold receiveAmountInto
  rw [if_neg hn, hk, Method.iterate, Method.wp_bind]
  refine Method.wp_mono (receiveAmountTurn_peeks hfd hflags hs hpos buffer) ?_
  rintro tr r o' s' ⟨rfl, rfl, data, hdata, htr, ⟨e, he, rfl⟩, ⟨hall, rfl⟩ | ⟨hless, rfl⟩⟩
  · rw [Method.after_returned, Sum.elim_inr, Method.wp_pure, List.append_nil]
    exact ⟨_, hdata, ⟨e, he, rfl⟩, Or.inl ⟨by omega, rfl, rfl, htr, rfl⟩⟩
  · -- there is fuel for another turn
    obtain ⟨j, rfl⟩ : ∃ j, k = j + 1 := ⟨k - 1, by have := hdata.pos; omega⟩
    rw [Method.after_returned, Sum.elim_inl, Method.iterate]
    refine Method.wp_bind_of_first (T := fun tr => 0 ∈ positions tr) (receiveAmountTurn_again hs hless _) ?_
    intro tr' tr'' r o₁ s₁ hagain
    refine ⟨_, hdata, ⟨e, ?_, rfl⟩, Or.inr ⟨by omega, ?_⟩⟩
    · rw [List.head?_append, he, Option.some_or]
    · rw [positions_append, htr, positions_append]
      exact not_nodup_of_zero (List.mem_range.2 hdata.pos) (List.mem_append_left _ hagain)

theorem receiveAmount_peeks (hfd : fd ≠ -1) (hflags : Peeks flags) (hs : s ≠ []) {n : UInt32} (hn : n ≠ 0) :
    (receiveAmount dm fd n flags).wp pending (fun tr r o' s' => ∃ data, Peeked s n data ∧
      (∃ e, tr.head? = some e ∧ handedOver e = data) ∧
      ((data.length = n.toNat ∧ o' = o ∧ s' = s ∧ positions tr = List.range data.length ∧ r = .returned data) ∨
        (data.length < n.toNat ∧ ¬ (positions tr).Nodup))) o s := by
  unfold receiveAmount
  rw [Method.wp_bind]
  refine Method.wp_mono (receiveAmountInto_peeks hfd hflags hs hn _) ?_
  rintro tr r o' s' ⟨data, hdata, hfirst, ⟨hall, rfl, rfl, htr, rfl⟩ | ⟨hless, hrepeated⟩⟩
  · rw [Method.after_returned, Method.wp_pure, List.append_nil]
    refine ⟨data, hdata, hfirst, Or.inl ⟨hall, rfl, rfl, htr, ?_⟩⟩
    simp [writeAt]
  · cases r with
    | returned p =>
      rw [Method.after_returned, Method.wp_pure, List.append_nil]
      exact ⟨data, hdata, hfirst, Or.inr ⟨hless, hrepeated⟩⟩
    | threw e => exact ⟨data, hdata, hfirst, Or.inr ⟨hless, hrepeated⟩⟩
    | running => exact ⟨data, hdata, hfirst, Or.inr ⟨hless, hrepeated⟩⟩

/-- One byte is always handed over at once. -/
theorem receiveAmount_one_peeks (hfd : fd ≠ -1) (hflags : Peeks flags) {c : UInt8} {t : Bytes} :
    (receiveAmount dm fd 1 flags).wp pending (fun tr r o' s' => o' = o ∧ s' = c :: t ∧ positions tr = [0] ∧
      r = .returned [c]) o (c :: t) := by
  refine Method.wp_mono (receiveAmount_peeks hfd hflags (List.cons_ne_nil c t) (by decide)) ?_
  intro tr r o' s' h
  obtain ⟨data, hdata, -, hcase⟩ := h
  have hone : (1 : UInt32).toNat = 1 := rfl
  have hlen : data.length = 1 := by
    have hpos := hdata.pos
    have hle := hdata.le
    omega
  have hhead : data = [c] := by
    obtain ⟨b, rfl⟩ := List.length_eq_one_iff.1 hlen
    obtain ⟨t', ht'⟩ := hdata.isPrefix
    rw [(List.cons.inj ht').1]
  rcases hcase with ⟨-, rfl, rfl, htr, rfl⟩ | ⟨hless, -⟩
  · rw [hlen] at htr
    exact ⟨rfl, rfl, htr, congrArg Outcome.returned hhead⟩
  · omega

theorem get_peeks (hfd : fd ≠ -1) (hflags : Peeks flags) {c : UInt8} {t : Bytes} :
    (ConnectionOrientedSocket.get dm fd flags).wp pending (fun tr r o' s' => o' = o ∧ s' = c :: t ∧
      positions tr = [0] ∧ r = .returned (some c)) o (c :: t) := by
  unfold ConnectionOrientedSocket.get
  rw [Method.wp_bind]
  refine Method.wp_mono (receiveAmount_one_peeks hfd hflags) ?_
  rintro tr r o' s' ⟨rfl, rfl, htr, rfl⟩
  rw [Method.after_returned, Method.wp_pure, List.append_nil]
  exact ⟨rfl, rfl, htr, rfl⟩

/-! ## The loops -/

/-- A turn of `receiveToDelimiter` finds the first byte, and goes on unless it is the delimiter. -/
theorem receiveToDelimiterTurn_peeks (hfd : fd ≠ -1) (hflags : Peeks flags) {c : UInt8} {t : Bytes} (delimiter : UInt8)
    (data : Bytes) :
    (receiveToDelimiterTurn dm fd delimiter flags data).wp pending (fun tr r _ s' => s' = c :: t ∧
      positions tr = [0] ∧ r = .returned (if c = delimiter then .inr data else .inl (data ++ [c]))) o (c :: t) := by
  unfold receiveToDelimiterTurn
  rw [Method.wp_bind]
  refine Method.wp_mono (get_peeks hfd hflags) ?_
  rintro tr r o' s' ⟨rfl, rfl, htr, rfl⟩
  rw [Method.after_returned]
  show Method.wp pending (if c = delimiter then _ else _) _ _ _
  rw [Method.wp_ite]
  constructor
  · intro hc
    rw [Method.wp_pure, List.append_nil, if_pos hc]
    exact ⟨rfl, htr, rfl⟩
  · intro hc
    rw [Method.wp_bind, if_neg hc]
    refine Method.wp_mono (ready_pending hfd (List.cons_ne_nil c t) _) ?_
    rintro tr' r o₁ s₁ ⟨rfl, rfl, htr', rfl⟩
    rw [Method.after_returned, if_pos rfl, Method.wp_pure]
    exact ⟨rfl, by simp [htr, htr'], rfl⟩

/-- A turn of `receiveAll` finds the first byte, and always goes on; a NUL makes it the last but one. -/
theorem receiveAllTurn_peeks (hfd : fd ≠ -1) (hflags : Peeks flags) {c : UInt8} {t : Bytes} (timeout : ULong dm)
    (result : Bytes) :
    (receiveAllTurn dm fd timeout flags (result, false)).wp pending (fun tr r _ s' => s' = c :: t ∧
      positions tr = [0] ∧ r = .returned (.inl (if c = 0 then (result, true) else (result ++ [c], false)))) o (c :: t) := by
  have hs : c :: t ≠ [] := List.cons_ne_nil c t
  have hamount : toUInt32 1 = 1 := by decide
  unfold receiveAllTurn
  rw [Method.wp_bind]
  refine Method.wp_mono (ready_pending hfd hs _) ?_
  rintro tr r o' s' ⟨rfl, rfl, htr, rfl⟩
  rw [Method.after_returned, if_pos (by rfl), Method.wp_bind]
  refine Method.wp_mono (pollSocket_pending hfd hs _) ?_
  rintro tr' r o₁ s₁ ⟨rfl, rfl, htr', rfl⟩
  rw [Method.after_returned, Method.wp_bind, hamount]
  refine Method.wp_mono (receiveAmount_one_peeks hfd hflags) ?_
  rintro tr'' r o₂ s₂ ⟨rfl, rfl, htr'', rfl⟩
  have htrace : positions (tr ++ (tr' ++ tr'')) = [0] := by simp [htr, htr', htr'']
  have hzero : ([c] : Bytes).head? = some 0 ↔ c = 0 := by simp
  rw [Method.after_returned, Method.wp_ite, hzero]
  constructor
  · intro hc
    rw [Method.wp_pure, List.append_nil, if_pos hc]
    exact ⟨rfl, htrace, rfl⟩
  · intro hc
    rw [Method.wp_pure, List.append_nil, if_neg hc]
    exact ⟨rfl, htrace, rfl⟩

/-- Without the delimiter in front `receiveToDelimiter` never leaves its loop. -/
theorem receiveToDelimiter_circles (hfd : fd ≠ -1) (hflags : Peeks flags) {c : UInt8} {t : Bytes} {delimiter : UInt8}
    (hc : c ≠ delimiter) (fuel : ℕ) :
    (Method.iterate (receiveToDelimiterTurn dm fd delimiter flags) fuel []).wp pending
      (fun _ r _ _ => r = .running) o (c :: t) := by
  refine Method.wp_iterate _ (fun _ _ _ s' => s' = c :: t) (fun _ r _ _ => r = .running) (fun _ _ _ _ _ => rfl) ?_ fuel []
    [] o (c :: t) rfl
  intro tr data o' s' hs'
  subst hs'
  refine Method.wp_mono (receiveToDelimiterTurn_peeks hfd hflags delimiter data) ?_
  rintro tr' r o₁ s₁ ⟨rfl, -, rfl⟩
  rw [if_neg hc]
  rfl

/-- Without a NUL in front `receiveAll` never leaves its loop. -/
theorem receiveAll_circles (hfd : fd ≠ -1) (hflags : Peeks flags) {c : UInt8} {t : Bytes} (hc : c ≠ 0)
    (timeout : ULong dm) (fuel : ℕ) :
    (receiveAll dm fd fuel timeout flags).wp pending (fun _ r _ _ => r = .running) o (c :: t) := by
  refine Method.wp_iterate _ (fun _ p _ s' => p.2 = false ∧ s' = c :: t) (fun _ r _ _ => r = .running)
    (fun _ _ _ _ _ => rfl) ?_ fuel [] ([], false) o (c :: t) ⟨rfl, rfl⟩
  rintro tr ⟨result, hitEOF⟩ o' s' ⟨rfl, rfl⟩
  refine Method.wp_mono (receiveAllTurn_peeks hfd hflags timeout result) ?_
  rintro tr' r o₁ s₁ ⟨rfl, -, rfl⟩
  rw [if_neg hc]
  exact ⟨rfl, rfl⟩

theorem not_handsPrefix_running {tr : List (Event Sys Ans Bytes)} {s' : Bytes} : ¬ HandsPrefix s tr .running s' := by
  rintro ⟨data, hr, -⟩
  cases hr

theorem handsPrefix_nil {tr : List (Event Sys Ans Bytes)} (htr : positions tr = [0]) :
    HandsPrefix s tr (.returned []) s := by
  refine ⟨[], rfl, List.nil_prefix, ?_, rfl⟩
  rw [htr]
  exact List.nodup_singleton 0

theorem receiveToDelimiter_peeks_iff (hfd : fd ≠ -1) (hflags : Peeks flags) {c : UInt8} {t : Bytes} {fuel : ℕ}
    (hfuel : 1 ≤ fuel) (delimiter : UInt8) :
    (receiveToDelimiter dm fd fuel delimiter flags).wp pending
      (fun tr r _ s' => HandsPrefix (c :: t) tr r s' ↔ delimiter ≠ 0 ∧ c = delimiter) o (c :: t) := by
  unfold receiveToDelimiter
  rw [Method.wp_ite]
  constructor
  · intro hzero
    rw [Method.wp_throw]
    refine iff_of_false ?_ (fun h => h.1 hzero)
    rintro ⟨data, hr, -⟩
    cases hr
  · intro hzero
    rw [Method.wp_bind]
    refine Method.wp_mono (ready_pending hfd (List.cons_ne_nil c t) _) ?_
    rintro tr r o' s' ⟨rfl, rfl, htr, rfl⟩
    rw [Method.after_returned, if_pos rfl]
    by_cases hc : c = delimiter
    · obtain ⟨k, rfl⟩ : ∃ k, fuel = k + 1 := ⟨fuel - 1, by omega⟩
      rw [Method.iterate, Method.wp_bind]
      refine Method.wp_mono (receiveToDelimiterTurn_peeks hfd hflags delimiter []) ?_
      rintro tr' r o₁ s₁ ⟨rfl, htr', rfl⟩
      rw [if_pos hc, Method.after_returned, Sum.elim_inr, Method.wp_pure]
      exact iff_of_true (handsPrefix_nil (by simp [htr, htr'])) ⟨hzero, hc⟩
    · refine Method.wp_mono (receiveToDelimiter_circles hfd hflags hc fuel) ?_
      rintro tr' r o₁ s₁ rfl
      exact iff_of_false not_handsPrefix_running fun h => hc h.2

theorem receiveAll_peeks_iff (hfd : fd ≠ -1) (hflags : Peeks flags) {c : UInt8} {t : Bytes} {fuel : ℕ} (hfuel : 2 ≤ fuel)
    (timeout : ULong dm) :
    (receiveAll dm fd fuel timeout flags).wp pending (fun tr r _ s' => HandsPrefix (c :: t) tr r s' ↔ c = 0) o
      (c :: t) := by
  by_cases hc : c = 0
  · obtain ⟨k, rfl⟩ : ∃ k, fuel = k + 1 + 1 := ⟨fuel - 2, by omega⟩
    unfold receiveAll
    rw [Method.iterate, Method.wp_bind]
    refine Method.wp_mono (receiveAllTurn_peeks hfd hflags timeout []) ?_
    rintro tr r o' s' ⟨rfl, htr, rfl⟩
    rw [if_pos hc, Method.after_returned, Sum.elim_inl, Method.iterate, Method.wp_bind]
    -- the turn after the NUL
    unfold receiveAllTurn
    rw [Method.wp_bind]
    refine Method.wp_mono (ready_pending hfd (List.cons_ne_nil c t) _) ?_
    rintro tr' r o₁ s₁ ⟨rfl, rfl, htr', rfl⟩
    rw [Method.after_returned, if_neg (by decide), Method.wp_pure, Method.after_returned, Sum.elim_inr, Method.wp_pure]
    exact iff_of_true (handsPrefix_nil (by simp [htr, htr'])) hc
  · refine Method.wp_mono (receiveAll_circles hfd hflags hc timeout fuel) ?_
    rintro tr r o' s' rfl
    exact iff_of_false not_handsPrefix_running hc

theorem receiveAmount_peeks_iff (hfd : fd ≠ -1) (hflags : Peeks flags) (hs : s ≠ []) (n : UInt32) :
    (receiveAmount dm fd n flags).wp pending (fun tr r _ s' => HandsPrefix s tr r s' ↔
      n = 0 ∨ ∃ e, tr.head? = some e ∧ (handedOver e).length = n.toNat) o s := by
  by_cases hn : n = 0
  · subst hn
    exact iff_of_true ⟨[], rfl, List.nil_prefix, List.nodup_nil, rfl⟩ (Or.inl rfl)
  · refine Method.wp_mono (receiveAmount_peeks hfd hflags hs hn) ?_
    rintro tr r o' s' ⟨data, hdata, ⟨e, he, rfl⟩, ⟨hall, -, rfl, htr, rfl⟩ | ⟨hless, hrepeated⟩⟩
    · refine iff_of_true ⟨_, rfl, hdata.isPrefix, ?_, rfl⟩ (Or.inr ⟨e, he, hall⟩)
      rw [htr]
      exact List.nodup_range
    · refine iff_of_false (fun h => ?_) ?_
      · obtain ⟨_, -, -, hnodup, -⟩ := h
        exact hrepeated hnodup
      · rintro (hzero | ⟨e', he', hall⟩)
        · exact hn hzero
        · obtain rfl := Option.some.inj (he.symm.trans he')
          omega

end Peek

/-- **Reading while peeking.** On a connection with the unread bytes `s`, at least one, and with flags that peek, for
every run: `receiveAmount(n)` returns a prefix of the stream and reads no byte twice if and only if `n` is 0 or its first
read hands over all `n` bytes; `receiveToDelimiter` does if and only if the first byte is its delimiter; `receiveAll` does
if and only if the first byte is a NUL. -/
theorem peeking_reads_iff {S : Type} (dm : DataModel) (fd : SOCKET) (hfd : fd ≠ -1) (flags : ℤ) (hflags : Peeks flags)
    (s : Bytes) (hs : s ≠ []) (o o' : S) (tr : List (Event Sys Ans Bytes)) (r : Outcome Exn Bytes) (s' : Bytes) :
    (∀ n, (receiveAmount dm fd n flags).Runs pending o s tr r o' s' → (HandsPrefix s tr r s' ↔
      n = 0 ∨ ∃ e, tr.head? = some e ∧ (handedOver e).length = n.toNat)) ∧
    (∀ delimiter fuel, 1 ≤ fuel → (receiveToDelimiter dm fd fuel delimiter flags).Runs pending o s tr r o' s' →
      (HandsPrefix s tr r s' ↔ delimiter ≠ 0 ∧ s.head? = some delimiter)) ∧
    ∀ timeout fuel, 2 ≤ fuel → (receiveAll dm fd fuel timeout flags).Runs pending o s tr r o' s' →
      (HandsPrefix s tr r s' ↔ s.head? = some 0) := by
  obtain ⟨c, t, rfl⟩ := List.exists_cons_of_ne_nil hs
  refine ⟨fun n hrun => ?_, fun delimiter fuel hfuel hrun => ?_, fun timeout fuel hfuel hrun => ?_⟩
  · exact hrun.post (receiveAmount_peeks_iff hfd hflags hs n)
  · rw [List.head?_cons, Option.some_inj]
    exact hrun.post (receiveToDelimiter_peeks_iff hfd hflags hfuel delimiter)
  · rw [List.head?_cons, Option.some_inj]
    exact hrun.post (receiveAll_peeks_iff hfd hflags hfuel timeout)

section Examples

theorem pending_answers (c : Sys) (s : Bytes) : ∃ x s', pending c s x s' := by
  cases c with
  | select nfds fd t => exact ⟨(1 : ℤ), s, fun _ => rfl, rfl⟩
  | recv fd offset length flags =>
    have hlen := List.length_take_le (min (sizeT length) maxTransfer) s
    have hsize : min (sizeT length) maxTransfer ≤ sizeT length := Nat.min_le_left _ _
    have hmax : min (sizeT length) maxTransfer ≤ maxTransfer := Nat.min_le_right _ _
    refine ⟨.bytes (s.take (min (sizeT length) maxTransfer)), _, List.take_prefix _ _, hlen.trans hsize,
      hlen.trans hmax, fun hnil => ?_, rfl⟩
    rcases List.take_eq_nil_iff.1 hnil with hzero | hs
    · right
      have hcap : maxTransfer = 0x7ffff000 := rfl
      omega
    · exact Or.inl hs
  | _ => exact ⟨refuse _, s, rfl⟩

/-- Peeking at `"ab"` up to `'a'` returns. -/
theorem peeking_reads_iff_ab : ∃ tr r s',
    (receiveToDelimiter .lp64 3 1 97 2).Runs pending () [97, 98] tr r () s' ∧ HandsPrefix [97, 98] tr r s' := by
  obtain ⟨tr, ⟨r, o'⟩, s', hrun⟩ :=
    Prog.exists_run pending_answers (receiveToDelimiter .lp64 3 1 97 2 ()) [97, 98]
  have hiff := (peeking_reads_iff .lp64 3 (by decide) 2 (by decide) [97, 98] (by simp) () o' tr r s').2.1 97 1 le_rfl hrun
  exact ⟨tr, r, s', hrun, hiff.2 ⟨by decide, rfl⟩⟩

/-- Three bytes cannot be peeked at in `"ab"` without a repetition, and `receiveAll` never has enough of it. -/
theorem peeking_repeats :
    (∃ tr r s', (receiveAmount .lp64 3 3 2).Runs pending () [97, 98] tr r () s' ∧ ¬ HandsPrefix [97, 98] tr r s') ∧
    ∀ fuel, ∃ tr s', (receiveAll .lp64 3 fuel 100#64 2).Runs pending () [97, 98] tr .running () s' := by
  have hflags : Peeks 2 := by decide
  constructor
  · obtain ⟨tr, ⟨r, o'⟩, s', hrun⟩ := Prog.exists_run pending_answers (receiveAmount .lp64 3 3 2 ()) [97, 98]
    refine ⟨tr, r, s', hrun, ?_⟩
    obtain ⟨data, hdata, -, ⟨hall, -⟩ | ⟨-, hrepeated⟩⟩ :=
      Method.Runs.post hrun (receiveAmount_peeks (by decide) hflags (by simp) (by decide))
    · have hle : data.length ≤ 2 := hdata.isPrefix.length_le
      have hthree : (3 : UInt32).toNat = 3 := rfl
      omega
    · rintro ⟨_, -, -, hnodup, -⟩
      exact hrepeated hnodup
  · intro fuel
    obtain ⟨tr, ⟨r, o'⟩, s', hrun⟩ :=
      Prog.exists_run pending_answers (receiveAll .lp64 3 fuel 100#64 2 ()) [97, 98]
    have hcircles : (receiveAll .lp64 3 fuel 100#64 2).wp pending (fun _ r _ _ => r = .running) () [97, 98] :=
      receiveAll_circles (by decide) hflags (by decide) _ fuel
    obtain rfl := Method.Runs.post hrun hcircles
    exact ⟨tr, s', hrun⟩

end Examples

end SocketLibrary.Stream
