import SocketLibrary.Steps.Reads
import SocketLibrary.Stream.Peer

/-!
# `ready`, `receiveAmount` and `get` on a stream

One specification for each of the three, against any `Peer`: `receiveAmount(n)` with `n < 2 ^ 31` returns, and hands
over exactly what `recv` delivered to it; when that is less than `n` bytes, a poll answered that nothing was ready, or
`recv` came back empty-handed.
-/

namespace SocketLibrary.Stream

open SocketLibrary.Interaction SocketLibrary.Posix SocketLibrary.Model SocketLibrary.Model.ConnectionOrientedSocket

/-- What `ready` may answer while the bytes `s` are unread. -/
def Peer.Answers (P : Peer) (fd : SOCKET) (s : Bytes) : Bool → Prop
  | true => fd ≠ -1 ∧ ∃ x, 0 < x ∧ P.polls s x
  | false => fd = -1 ∨ ∃ x ≤ 0, P.polls s x

/-- A reader may have to stop with the bytes `s` unread: a poll finds nothing, or `recv` has nothing to deliver. -/
def Peer.Stops (P : Peer) (fd : SOCKET) (s : Bytes) : Prop := P.Answers fd s false ∨ (P.delivers → s = [])

section Received

variable {x : Received}

theorem Received.result_of_data (h : x.data ≠ []) : x.result = x.data.length := by
  cases x with
  | error => exact absurd rfl h
  | bytes data => rfl

theorem Received.result_of_nil (h : x.data = []) : toInt32 x.result < 1 := by
  cases x with
  | error => decide
  | bytes data =>
    obtain rfl : data = [] := h
    decide

end Received

section WriteAt

theorem writeAt_nil (buffer : Bytes) (offset : ℕ) : writeAt buffer offset [] = buffer := by
  simp [writeAt]

/-- Storing the next piece behind a prefix that has been stored already. -/
theorem writeAt_append (stored data buffer : Bytes) :
    writeAt (stored ++ buffer.drop stored.length) stored.length data =
      (stored ++ data) ++ buffer.drop (stored ++ data).length := by
  simp [writeAt, List.drop_append]

end WriteAt

section Turn

variable {S σ : Type} {env : Env Sys Ans σ} {dm : DataModel} {fd : SOCKET} {n : UInt32} {flags : ℤ} {o : S} {s : σ}

/-- The end of a turn of `receiveAmount` that has not read everything yet. -/
def receiveAmountTest (dm : DataModel) (fd : SOCKET) (p : ℤ × Bytes) : M S ((ℤ × Bytes) ⊕ (ℤ × Bytes)) := do
  if ← ready dm fd (defaultTimeout dm) then
    return .inl p
  else
    return .inr p

/-- What a turn with `c` bytes stored does with the next bytes `data`, according to how many they are. -/
structure TurnsTo (env : Env Sys Ans σ) (dm : DataModel) (fd : SOCKET) (n : UInt32) (c : ℕ) (buffer data : Bytes)
    (Q : Method.Post Sys Ans σ Exn S ((ℤ × Bytes) ⊕ (ℤ × Bytes))) (o : S) (s : σ) : Prop where
  fits : c + data.length ≤ n.toNat
  small : c + data.length < 2 ^ 31
  empty : data = [] → Q [] (.returned (.inr ((c : ℤ), buffer))) o s
  all : data ≠ [] → c + data.length = n.toNat →
    Q [] (.returned (.inr (((c + data.length : ℕ) : ℤ), writeAt buffer c data))) o s
  more : data ≠ [] → c + data.length < n.toNat →
    (receiveAmountTest dm fd (((c + data.length : ℕ) : ℤ), writeAt buffer c data)).wp env Q o s

/-- **One turn of `receiveAmount`**, in any environment where `recv` stores no more than there is room for. -/
theorem receiveAmountTurn_wp {c : ℕ} {buffer : Bytes} {Q : Method.Post Sys Ans σ Exn S ((ℤ × Bytes) ⊕ (ℤ × Bytes))}
    (h : ∀ (x : Received) s', env (.recv fd c (toInt32 (n.toNat - (c : ℤ))) flags) s x s' →
      TurnsTo env dm fd n c buffer x.data
        (fun tr => Q (⟨s, .recv fd c (toInt32 (n.toNat - (c : ℤ))) flags, x⟩ :: tr)) o s') :
    (receiveAmountTurn dm fd n flags (c, buffer)).wp env Q o s := by
  unfold receiveAmountTurn
  rw [Method.wp_bind, wp_sys]
  intro x s' hx
  obtain ⟨hfits, hsmall, hempty, hall, hmore⟩ := h x s' hx
  rw [Method.after_returned]
  by_cases hdata : Received.data x = []
  · -- `recv` failed, or found the end of the stream
    rw [if_pos (Received.result_of_nil hdata), Method.wp_pure, hdata, Int.toNat_natCast, writeAt_nil]
    exact hempty hdata
  · have hpos : 0 < (Received.data x).length := List.length_pos_iff.2 hdata
    have hres : toInt32 (Received.result x) = (Received.data x).length := by
      rw [Received.result_of_data hdata]
      exact toInt32_of_le (by omega) (by omega)
    have hcount : (c : ℤ) + toInt32 (Received.result x) = ((c + (Received.data x).length : ℕ) : ℤ) := by
      rw [hres]
      omega
    have hless : toUInt32 ((c + (Received.data x).length : ℕ) : ℤ) < n ↔ c + (Received.data x).length < n.toNat := by
      have := toNat_toUInt32 (i := ((c + (Received.data x).length : ℕ) : ℤ)) (by omega) (by omega)
      rw [UInt32.lt_iff_toNat_lt]
      omega
    rw [if_neg (by omega), if_neg (by omega)]
    simp only [hcount, hless, Int.toNat_natCast]
    rw [Method.wp_ite]
    constructor
    · intro hgo
      exact hmore hdata hgo
    · intro hgo
      rw [Method.wp_pure]
      exact hall hdata (by omega)

end Turn

section Specs

variable {S : Type} {P : Peer} {dm : DataModel} {fd : SOCKET} {flags : ℤ} {o : S} {s : Bytes}

theorem pollSocket_spec (timeout : ℤ) :
    (Socket.pollSocket fd timeout none).wp P.env (fun tr r o' s' => o' = o ∧ s' = s ∧ delivered tr = [] ∧
      ∃ x, r = .returned x ∧ (fd = -1 ∧ x = -1 ∨ fd ≠ -1 ∧ P.polls s x)) o s := by
  unfold Socket.pollSocket
  rw [Method.wp_ite]
  constructor
  · intro hfd
    rw [isInvalidSocket_iff] at hfd
    exact ⟨rfl, rfl, rfl, -1, rfl, Or.inl ⟨hfd, rfl⟩⟩
  · intro hfd
    rw [isInvalidSocket_iff] at hfd
    rw [wp_sys]
    rintro x s' ⟨hx, rfl⟩
    exact ⟨rfl, rfl, rfl, x, rfl, Or.inr ⟨hfd, hx⟩⟩

theorem ready_spec (timeout : ULong dm) :
    (ready dm fd timeout).wp P.env (fun tr r o' s' => o' = o ∧ s' = s ∧ delivered tr = [] ∧
      ∃ b, r = .returned b ∧ P.Answers fd s b) o s := by
  unfold ready
  rw [Method.wp_bind]
  refine Method.wp_mono (pollSocket_spec _) ?_
  rintro tr r o' s' ⟨rfl, rfl, htr, x, rfl, hx⟩
  rw [Method.after_returned, Method.wp_pure]
  refine ⟨rfl, rfl, by simpa using htr, decide (0 < x), rfl, ?_⟩
  rcases hx with ⟨rfl, rfl⟩ | ⟨hfd, hx⟩
  · exact Or.inl rfl
  · by_cases h : 0 < x
    · simpa [Peer.Answers, h] using ⟨hfd, x, h, hx⟩
    · simpa [Peer.Answers, h] using Or.inr ⟨x, by omega, hx⟩

/-- What the loop of `receiveAmount` has done when it starts a turn: it has stored what was delivered, less than was
asked for. -/
def Stored (n : UInt32) (buffer : Bytes) (o : S) (tr : List (Event Sys Ans Bytes)) (p : ℤ × Bytes) (o' : S) (_ : Bytes) :
    Prop :=
  p.1 = (delivered tr).length ∧ p.2 = delivered tr ++ buffer.drop (delivered tr).length ∧
    (delivered tr).length < n.toNat ∧ o' = o

/-- What it has done when it returns. -/
def Filled (P : Peer) (fd : SOCKET) (n : UInt32) (buffer : Bytes) (o : S) :
    Method.Post Sys Ans Bytes Exn S (ℤ × Bytes) := fun tr r o' s' =>
  r = .returned (((delivered tr).length : ℤ), delivered tr ++ buffer.drop (delivered tr).length) ∧
    (delivered tr).length ≤ n.toNat ∧ ((delivered tr).length = n.toNat ∨ P.Stops fd s') ∧ o' = o

theorem receiveAmountTurn_spec {n : UInt32} (hn : n.toNat < 2 ^ 31) (buffer : Bytes) {tr : List (Event Sys Ans Bytes)}
    {p : ℤ × Bytes} {o' : S} (h : Stored n buffer o tr p o' s) :
    (receiveAmountTurn dm fd n flags p).wp P.env (fun tr' => Method.Turn
      (fun tr p' o' s' => Stored n buffer o tr p' o' s' ∧ n.toNat - 1 - p'.1.toNat < n.toNat - 1 - p.1.toNat)
      (Filled P fd n buffer o) (tr ++ tr')) o' s := by
  obtain ⟨counter, buf⟩ := p
  obtain ⟨rfl, rfl, hlt, rfl⟩ := h
  have hask : toInt32 (n.toNat - ((delivered tr).length : ℤ)) = n.toNat - (delivered tr).length :=
    toInt32_of_le (by omega) (by omega)
  apply receiveAmountTurn_wp
  intro x s' hx
  have hfits : (delivered tr).length + x.data.length ≤ n.toNat := by
    rcases hx with ⟨hnil, -⟩ | ⟨-, hlen, -⟩
    · simpa [hnil] using hlt.le
    · rw [hask] at hlen
      omega
  rw [hask]
  refine ⟨hfits, by omega, ?_, ?_, ?_⟩
  · -- `recv` failed, or found the end of the stream
    intro hnil
    have hstop : P.Stops fd s' := by
      rcases hx with ⟨-, rfl, hempty⟩ | ⟨hdata, -⟩
      · exact Or.inr fun hd => hempty hd (by rw [hask]; omega)
      · exact absurd hnil hdata
    simp [Method.Turn, Filled, hnil, hstop, hlt.le]
  · intro _ hall
    rw [writeAt_append, ← List.length_append]
    refine ⟨?_, ?_, Or.inl ?_, rfl⟩
    · simp
    · simpa using hfits
    · simpa using hall
  · intro hdata hless
    have hpos : 0 < x.data.length := List.length_pos_iff.2 hdata
    unfold receiveAmountTest
    rw [writeAt_append, ← List.length_append, Method.wp_bind]
    refine Method.wp_mono (ready_spec _) ?_
    rintro tr' r o₁ s₁ ⟨rfl, rfl, hd, b, rfl, hb⟩
    cases b with
    | true =>
      rw [Method.after_returned, if_pos rfl, Method.wp_pure]
      refine ⟨⟨?_, ?_, ?_, rfl⟩, ?_⟩
      · simp [hd]
      · simp [hd]
      · simpa [hd] using hless
      · simp only [List.length_append, Int.toNat_natCast]
        omega
    | false =>
      have hstop : P.Stops fd s₁ := Or.inl hb
      rw [Method.after_returned, if_neg Bool.false_ne_true, Method.wp_pure]
      simpa [Method.Turn, Filled, hd, hstop] using hfits

theorem receiveAmountInto_spec {n : UInt32} (hn : n.toNat < 2 ^ 31) (buffer : Bytes) :
    (receiveAmountInto dm fd buffer n flags).wp P.env (Filled P fd n buffer o) o s := by
  unfold receiveAmountInto
  rw [Method.wp_ite]
  constructor
  · rintro rfl
    simp [Filled]
  · intro h0
    have hpos : 0 < n.toNat := UInt32.lt_iff_toNat_lt.1 (UInt32.pos_iff_ne_zero.2 h0)
    refine Method.wp_mono (Method.wp_iterate_variant _ (Stored n buffer o) (Filled P fd n buffer o)
      (fun p _ _ => n.toNat - 1 - p.1.toNat) (fun _ _ _ _ h => receiveAmountTurn_spec hn buffer h) n.toNat [] (0, buffer)
      o s ?_) ?_
    · simpa [Stored] using hpos
    · rintro tr r o' s' (h | ⟨-, h⟩)
      · exact h
      · simp at h
        omega

/-- **`receiveAmount(n)` hands over what was delivered**, at most `n` bytes, and fewer only if the reader had to stop. -/
theorem receiveAmount_spec {n : UInt32} (hn : n.toNat < 2 ^ 31) :
    (receiveAmount dm fd n flags).wp P.env (fun tr r o' s' => r = .returned (delivered tr) ∧
      (delivered tr).length ≤ n.toNat ∧ ((delivered tr).length = n.toNat ∨ P.Stops fd s') ∧ o' = o) o s := by
  unfold receiveAmount
  rw [Method.wp_bind]
  refine Method.wp_mono (receiveAmountInto_spec hn _) ?_
  rintro tr r o' s' ⟨rfl, hle, hstop, rfl⟩
  simpa using ⟨hle, hstop⟩

/-- `get()` hands over the one byte that was delivered, or nothing. -/
theorem get_spec :
    (ConnectionOrientedSocket.get dm fd flags).wp P.env (fun tr r o' s' => o' = o ∧
      ((∃ c, delivered tr = [c] ∧ r = .returned (some c)) ∨
        delivered tr = [] ∧ r = .returned none ∧ P.Stops fd s')) o s := by
  unfold ConnectionOrientedSocket.get
  rw [Method.wp_bind]
  refine Method.wp_mono (receiveAmount_spec (by decide)) ?_
  rintro tr r o' s' ⟨rfl, hle, hstop, rfl⟩
  simp only [Method.after_returned, Method.wp_pure, List.append_nil, true_and]
  rcases htr : delivered tr with _ | ⟨c, _ | ⟨c', t⟩⟩
  · right
    rw [htr] at hstop
    exact ⟨rfl, rfl, hstop.resolve_left (by decide)⟩
  · exact Or.inl ⟨c, rfl, rfl⟩
  · rw [htr] at hle
    simp at hle

/-- A byte that was delivered alone, where every call hands over a front part of the stream, is the first of it. -/
theorem head_of_delivered {tr : List (Event Sys Ans Bytes)} {c : UInt8} (hfront : ∀ e ∈ tr, handedOver e <+: s)
    (h : delivered tr = [c]) : s.head? = some c := by
  have hmem : c ∈ delivered tr := h ▸ List.mem_singleton_self c
  obtain ⟨e, he, hc⟩ := List.mem_flatMap.1 hmem
  have hsub : (handedOver e).Sublist [c] := by
    rw [← h, delivered, List.flatMap_def]
    exact List.sublist_flatten_of_mem (List.mem_map_of_mem he)
  have hone : handedOver e = [c] := by
    rcases List.sublist_singleton.1 hsub with hnil | hone
    · rw [hnil] at hc
      cases hc
    · exact hone
  obtain ⟨rest, rfl⟩ := hone ▸ hfront e he
  rfl

/-- If it peeks, that byte is the first of the stream, which stays what it is. -/
theorem get_peeking (hflags : Peeks flags) :
    (ConnectionOrientedSocket.get dm fd flags).wp P.env (fun tr r o' s' => o' = o ∧ s' = s ∧
      ((∃ c, delivered tr = [c] ∧ r = .returned (some c) ∧ s.head? = some c) ∨
        delivered tr = [] ∧ r = .returned none)) o s := by
  have hwithin : Method.Within Peeking (ConnectionOrientedSocket.get dm fd flags : M S (Option UInt8)) :=
    Steps.get_within (fun _ _ => trivial) fun _ _ => hflags
  refine Method.wp_mono (Peer.wp_peeked hwithin get_spec) ?_
  rintro tr r o' s' ⟨⟨rfl, ⟨c, htr, rfl⟩ | ⟨htr, rfl, -⟩⟩, rfl, hfront⟩
  · exact ⟨rfl, rfl, Or.inl ⟨c, htr, rfl, head_of_delivered hfront htr⟩⟩
  · exact ⟨rfl, rfl, Or.inr ⟨htr, rfl⟩⟩

end Specs

end SocketLibrary.Stream
