import SocketLibrary.Protocol.Threads
import SocketLibrary.Service.Network

/-!
# A network that answers

A system that computes its answers: it grants what the model of the network allows, makes a connection whenever a thread
connects a descriptor of its own, and hands it out to whoever accepts next. What it does is what a network may do
(`serve_network`).
-/

namespace SocketLibrary.Service

open SocketLibrary.Interaction SocketLibrary.Posix SocketLibrary.Model SocketLibrary.Exchange SocketLibrary.Protocol

namespace Network

variable {ι : Type}

/-- Before anything is opened. -/
def empty : Network ι where
  table _ := none
  ends _ := none
  lines _ := {}
  owner _ := none
  owned := by
    rintro fd e ⟨⟩
  single := by
    rintro fd fd' e ⟨⟩
  blank _ _ := rfl

variable (w : Network ι)

/-- Another table, in which the threads have the ends that they had. -/
def retable (table : Table ι)
    (h : ∀ fd i s, w.ends fd ≠ none → w.table fd = some (i, s) → ∃ s', table fd = some (i, s')) : Network ι :=
  { w with
    table := table
    owned := by
      intro fd e he
      obtain ⟨hvalid, i, s, howner, htable⟩ := w.owned fd e he
      obtain ⟨s', hs'⟩ := h fd i s (by simp [he]) htable
      exact ⟨hvalid, i, s', howner, hs'⟩ }

/-- A new descriptor. -/
def enter (fd : SOCKET) (i : ι) (s : Sock) (hfree : w.table fd = none) : Network ι :=
  w.retable (Function.update w.table fd (some (i, s))) <| by
    intro fd' j s' _ htable
    have hne : fd' ≠ fd := by
      rintro rfl
      rw [hfree] at htable
      cases htable
    exact ⟨s', by rw [Function.update_of_ne hne, htable]⟩

def advance (fd : SOCKET) (stage : Stage) : Network ι :=
  w.retable (w.table.advance fd stage) <| by
    intro fd' i s _ htable
    unfold Table.advance
    by_cases hfd : fd' = fd
    · subst hfd
      exact ⟨_, by rw [Function.update_self, htable, Option.map_some]⟩
    · exact ⟨s, by rw [Function.update_of_ne hfd, htable]⟩

theorem enter_owner (fd : SOCKET) (i : ι) (s : Sock) (hfree : w.table fd = none) :
    (w.enter fd i s hfree).owner = w.owner := rfl

theorem advance_owner (fd : SOCKET) (stage : Stage) : (w.advance fd stage).owner = w.owner := rfl

/-- The descriptor is the end `e` from now on. -/
def attach (i : ι) (fd : SOCKET) (e : End) (hvalid : fd ≠ -1) (hmine : (w.table fd).map Prod.fst = some i)
    (hnone : w.owner e = none) : Network ι where
  table := w.table
  ends := Function.update w.ends fd (some e)
  lines := w.lines
  owner := Function.update w.owner e (some i)
  owned := by
    intro fd' e' he'
    by_cases hfd : fd' = fd
    · subst hfd
      rw [Function.update_self] at he'
      obtain rfl := Option.some.inj he'
      obtain ⟨⟨j, s⟩, htable, rfl⟩ := Option.map_eq_some_iff.1 hmine
      exact ⟨hvalid, j, s, Function.update_self _ _ _, htable⟩
    · rw [Function.update_of_ne hfd] at he'
      obtain ⟨hvalid', j, s, howner, htable⟩ := w.owned fd' e' he'
      have hne : e' ≠ e := by
        rintro rfl
        rw [hnone] at howner
        cases howner
      exact ⟨hvalid', j, s, by rw [Function.update_of_ne hne, howner], htable⟩
  single := by
    have hother : ∀ fd', w.ends fd' ≠ some e := by
      intro fd' he
      obtain ⟨-, j, s, howner, -⟩ := w.owned fd' e he
      rw [hnone] at howner
      cases howner
    intro fd' fd'' e' he' he''
    by_cases hfd' : fd' = fd
    · by_cases hfd'' : fd'' = fd
      · rw [hfd', hfd'']
      · rw [hfd', Function.update_self] at he'
        rw [Function.update_of_ne hfd'', ← he'] at he''
        exact absurd he'' (hother fd'')
    · by_cases hfd'' : fd'' = fd
      · rw [hfd'', Function.update_self] at he''
        rw [Function.update_of_ne hfd', ← he''] at he'
        exact absurd he' (hother fd')
      · rw [Function.update_of_ne hfd'] at he'
        rw [Function.update_of_ne hfd''] at he''
        exact w.single _ _ _ he' he''
  blank := by
    intro n hn
    refine w.blank n fun side => ?_
    have hside := hn side
    by_cases he : (n, side) = e
    · rw [he, Function.update_self] at hside
      cases hside
    · rwa [Function.update_of_ne he] at hside

/-- The connection that the descriptor is an end of has become `d`. -/
def carry (fd : SOCKET) (d : Duplex) : Network ι :=
  { w with
    lines := match w.ends fd with
      | none => w.lines
      | some (n, _) => Function.update w.lines n d
    blank := by
      intro n hn
      cases hends : w.ends fd with
      | none => exact w.blank n hn
      | some e =>
        obtain ⟨m, side⟩ := e
        have hne : n ≠ m := by
          rintro rfl
          obtain ⟨-, i, s, howner, -⟩ := w.owned fd _ hends
          rw [hn side] at howner
          cases howner
        exact (Function.update_of_ne hne _ _).trans (w.blank n hn) }

/-- The descriptor is not open any more. -/
def remove (fd : SOCKET) : Network ι where
  table := Function.update w.table fd none
  ends := Function.update w.ends fd none
  lines := w.lines
  owner := w.owner
  owned := by
    intro fd' e he
    by_cases hfd : fd' = fd
    · rw [hfd, Function.update_self] at he
      cases he
    · rw [Function.update_of_ne hfd] at he ⊢
      exact w.owned fd' e he
  single := by
    intro fd' fd'' e he' he''
    have hne : ∀ {fd₁}, Function.update w.ends fd none fd₁ = some e → w.ends fd₁ = some e := by
      intro fd₁ he
      by_cases hfd : fd₁ = fd
      · rw [hfd, Function.update_self] at he
        cases he
      · rwa [Function.update_of_ne hfd] at he
    exact w.single _ _ _ (hne he') (hne he'')
  blank := w.blank

/-- The first connection that has not come about, and the first that has not been handed out. -/
def unusedLine : ℕ :=
  ([0, 1].find? fun n => (w.owner (n, .near)).isNone && (w.owner (n, .far)).isNone).getD 0

def waitingLine : ℕ :=
  ([0, 1].find? fun n => (w.owner (n, .near)).isSome && (w.owner (n, .far)).isNone).getD 0

/-- A call over a connection, if the descriptor is one. -/
def transmit (fd : SOCKET) (c : Sys) : Ans c × Network ι := match w.ends fd with
  | none => (refuse c, w)
  | some (n, side) => ((Exchange.serve fd side c (w.lines n)).1, w.carry fd (Exchange.serve fd side c (w.lines n)).2)

theorem valid_of_nonneg {fd : ℤ} (h : 0 ≤ fd) : fd ≠ -1 := by omega

variable [DecidableEq ι]

def serve (i : ι) (c : Sys) (w : Network ι) : Ans c × Network ι := match c with
  | .socket domain type _ =>
    if h : 0 ≤ unused w.table ∧ w.table (unused w.table) = none then
      (unused w.table, w.enter (unused w.table) i ⟨domain, type, .fresh⟩ h.2)
    else (-1, w)
  | .bind fd .. => if fd = -1 then (-1, w) else (0, w.advance fd .bound)
  | .listen fd _ => if fd = -1 then (-1, w) else (0, w.advance fd .listening)
  | .connect fd .. =>
    if h : fd ≠ -1 ∧ ((w.advance fd .connected).table fd).map Prod.fst = some i ∧
        w.owner (w.unusedLine, .near) = none ∧ w.owner (w.unusedLine, .far) = none then
      (0, (w.advance fd .connected).attach i fd (w.unusedLine, .near) h.1 h.2.1 (by rw [advance_owner, h.2.2.1]))
    else (-1, w)
  | .accept .. =>
    if h : 0 ≤ unused w.table ∧ w.table (unused w.table) = none ∧
        w.owner (w.waitingLine, .near) ≠ none ∧ w.owner (w.waitingLine, .far) = none then
      (⟨unused w.table, .zero, []⟩, (w.enter (unused w.table) i ⟨AF_UNIX, SOCK_STREAM, .connected⟩ h.2.1).attach i
        (unused w.table) (w.waitingLine, .far) (valid_of_nonneg h.1)
        (by simp [enter, retable]) (by rw [enter_owner, h.2.2.2]))
    else (⟨-1, .zero, []⟩, w)
  | .close fd => if fd = -1 then ((), w) else ((), (w.transmit fd (.close fd)).2.remove fd)
  | .send fd message length flags => w.transmit fd (.send fd message length flags)
  | .recv fd offset length flags => w.transmit fd (.recv fd offset length flags)
  | .select nfds fd t => w.transmit fd (.select nfds fd t)
  | .getaddrinfo .. => ((0, [.zero]), w)
  | .setsockopt .. => (0, w)
  -- the text "1"
  | .inet_ntop .. => (some [49], w)
  | c => (refuse c, w)

/-! ### What it does -/

variable {w} {truthful : Prop} {c : Sys} {fd : SOCKET}

omit [DecidableEq ι] in
/-- A call that is on no connection. -/
theorem transmits_of_same {w' : Network ι} {x : Ans c} (hcarrier : carrier c = none) (hfails : Fails c x)
    (howner : w'.owner = w.owner) (hends : w'.ends = w.ends) (hlines : w'.lines = w.lines) :
    w.Transmits truthful c x w' := by
  constructor
  · exact howner
  · cases c with
    | close fd => cases hcarrier
    | _ => exact hends
  · have hend : w.endOf c = none := by
      unfold endOf
      rw [hcarrier, Option.bind_none]
    rw [hend]
    exact ⟨hlines, hfails⟩

omit [DecidableEq ι] in
/-- A call over a connection changes nothing but the connection, as the end does there. -/
theorem transmit_spec (truthful : Prop) (w : Network ι) {c : Sys} (hcarrier : carrier c = some fd)
    (hfails : Fails c (refuse c)) :
    (w.transmit fd c).2.table = w.table ∧ (w.transmit fd c).2.owner = w.owner ∧ (w.transmit fd c).2.ends = w.ends ∧
      match w.endOf c with
      | none => (w.transmit fd c).2.lines = w.lines ∧ Fails c (w.transmit fd c).1
      | some (n, side) => ∃ fd' d, carrier c = some fd' ∧
        endpoint truthful fd' side c (w.lines n) (w.transmit fd c).1 d ∧
          (w.transmit fd c).2.lines = Function.update w.lines n d := by
  have hend : w.endOf c = w.ends fd := by
    unfold endOf
    rw [hcarrier, Option.bind_some]
  rw [hend]
  unfold transmit
  cases hends : w.ends fd with
  | none => exact ⟨rfl, rfl, rfl, rfl, hfails⟩
  | some e =>
    obtain ⟨n, side⟩ := e
    refine ⟨rfl, rfl, rfl, fd, _, hcarrier, serve_endpoint truthful fd side c (w.lines n), ?_⟩
    unfold carry
    simp only [hends]

/-- **What it does is what a network may do.** -/
theorem serve_network (truthful : Prop) (i : ι) (c : Sys) (w : Network ι) :
    network truthful i c w (serve i c w).1 (serve i c w).2 := by
  cases c with
  | socket domain type protocol =>
    unfold serve
    simp only
    split_ifs with h
    · exact ⟨Or.inr ⟨h.1, h.2, rfl⟩, transmits_of_same rfl trivial rfl rfl rfl⟩
    · exact ⟨Or.inl ⟨rfl, rfl⟩, transmits_of_same rfl trivial rfl rfl rfl⟩
  | bind fd address length =>
    unfold serve
    simp only
    split_ifs with h
    · exact ⟨Or.inl ⟨rfl, rfl⟩, transmits_of_same rfl trivial rfl rfl rfl⟩
    · exact ⟨Or.inr ⟨rfl, h, rfl⟩, transmits_of_same rfl trivial rfl rfl rfl⟩
  | listen fd backlog =>
    unfold serve
    simp only
    split_ifs with h
    · exact ⟨Or.inl ⟨rfl, rfl⟩, transmits_of_same rfl trivial rfl rfl rfl⟩
    · exact ⟨Or.inr ⟨rfl, h, rfl⟩, transmits_of_same rfl trivial rfl rfl rfl⟩
  | connect fd address length =>
    unfold serve
    simp only
    split_ifs with h
    · refine ⟨Or.inr ⟨rfl, h.1, rfl⟩, (if_pos rfl).mpr ⟨w.unusedLine, fun side => ?_, rfl, rfl, rfl⟩⟩
      cases side with
      | near => exact h.2.2.1
      | far => exact h.2.2.2
    · exact ⟨Or.inl ⟨rfl, rfl⟩, transmits_of_same rfl trivial rfl rfl rfl⟩
  | accept fd length =>
    unfold serve
    simp only
    split_ifs with h
    · refine ⟨Or.inr ⟨h.1, h.2.1, AF_UNIX, rfl⟩, ?_⟩
      exact (if_neg (valid_of_nonneg h.1)).mpr ⟨w.waitingLine, h.2.2, rfl, rfl, rfl⟩
    · exact ⟨Or.inl ⟨rfl, rfl⟩, transmits_of_same rfl trivial rfl rfl rfl⟩
  | close fd =>
    have hcarrier : carrier (.close fd) = some fd := rfl
    obtain ⟨htable, howner, hends, hlines⟩ := transmit_spec truthful w hcarrier trivial
    unfold serve
    simp only
    split_ifs with h
    · subst h
      refine ⟨(if_pos rfl).symm, rfl, ?_, ?_⟩
      · exact (Function.update_eq_self_iff.2 w.ends_none.symm).symm
      · have hend : w.endOf (.close (-1)) = none := w.ends_none
        rw [hend]
        exact ⟨rfl, trivial⟩
    · refine ⟨?_, howner, ?_, hlines⟩
      · show Function.update _ fd none = if fd = -1 then w.table else Function.update w.table fd none
        rw [if_neg h, htable]
      · show Function.update _ fd none = Function.update w.ends fd none
        rw [hends]
  | send fd message length flags =>
    have hcarrier : carrier (.send fd message length flags) = some fd := rfl
    obtain ⟨htable, howner, hends, hlines⟩ := transmit_spec truthful w hcarrier rfl
    exact ⟨htable, howner, hends, hlines⟩
  | recv fd offset length flags =>
    have hcarrier : carrier (.recv fd offset length flags) = some fd := rfl
    obtain ⟨htable, howner, hends, hlines⟩ := transmit_spec truthful w hcarrier rfl
    exact ⟨htable, howner, hends, hlines⟩
  | select nfds fd t =>
    have hcarrier : carrier (.select nfds fd t) = some fd := rfl
    obtain ⟨htable, howner, hends, hlines⟩ := transmit_spec truthful w hcarrier trivial
    exact ⟨htable, howner, hends, hlines⟩
  | _ => exact ⟨rfl, transmits_of_same rfl trivial rfl rfl rfl⟩

end Network

end SocketLibrary.Service
