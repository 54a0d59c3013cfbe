import SocketLibrary.Service.Accounts
import SocketLibrary.Service.Answers
import SocketLibrary.Service.Deeds

/-!
# What is said over all connections

The threads construct objects, make and accept connections, talk over them, send and receive datagrams, close and destroy
the objects, in any interleaving of their system calls. Over every connection that comes about, what the calls at the one
end have handed over, and what is unread, is what the calls at the other end have sent (`service_conserves`).

Seen from its end, a call is one of `Exchange` against the other side of a connection (`talks_on`), so that what is known
of a call there carries over to every end.
-/

namespace SocketLibrary.Service

open SocketLibrary.Interaction SocketLibrary.Posix SocketLibrary.Model SocketLibrary.Stream SocketLibrary.Exchange
open SocketLibrary.Protocol SocketLibrary.Descriptors

variable {ι : Type} {dm : DataModel} {truthful : Prop} {fuel : ℕ} {i : ι}

/-! ## A call, seen from its end -/

section Ends

variable {w w' : Network ι} {c : Sys} {x : Ans c} {fd : SOCKET} {n : ℕ} {side : Side} {place : Option End}

/-- A call that sends, receives or polls on `fd`. -/
def On (fd : SOCKET) : Sys → Prop
  | .send fd' .. | .recv fd' .. | .select _ fd' _ => fd' = fd
  | _ => False

theorem carrier_on (hc : On fd c) : Network.carrier c = some fd := by
  cases c with
  | send fd' message length flags => exact congrArg some hc
  | recv fd' offset length flags => exact congrArg some hc
  | select nfds fd' t => exact congrArg some hc
  | _ => exact hc.elim

theorem endOf_on (hc : On fd c) : w.endOf c = w.ends fd := by
  unfold Network.endOf
  rw [carrier_on hc, Option.bind_some]

theorem network_on (hc : On fd c) (h : network truthful i c w x w') :
    w'.table = w.table ∧ w'.ends = w.ends ∧ w.Transmits truthful c x w' := by
  cases c with
  | send fd' message length flags => exact ⟨h.1, h.2.ends, h.2⟩
  | recv fd' offset length flags => exact ⟨h.1, h.2.ends, h.2⟩
  | select nfds fd' t => exact ⟨h.1, h.2.ends, h.2⟩
  | _ => exact hc.elim

/-- The descriptor is none or one of the thread `i`, and the end `place`. -/
structure Keeps (i : ι) (fd : SOCKET) (place : Option End) (w : Network ι) : Prop where
  mine : fd = -1 ∨ ∃ s, w.table fd = some (i, s)
  ends : w.ends fd = place

theorem Keeps.on (hw : Keeps i fd place w) (hc : On fd c) (h : network truthful i c w x w') : Keeps i fd place w' := by
  obtain ⟨htable, hends, -⟩ := network_on hc h
  exact ⟨htable ▸ hw.mine, hends ▸ hw.ends⟩

variable [DecidableEq ι]

theorem Keeps.others (hw : Keeps i fd place w) (h : Undisturbed i w w') : Keeps i fd place w' := by
  obtain ⟨hmine, hends⟩ := hw
  rcases hmine with rfl | ⟨s, hs⟩
  · exact ⟨Or.inl rfl, by rw [w'.ends_none, ← hends, w.ends_none]⟩
  · exact ⟨Or.inr ⟨s, h.mine.2 hs⟩, (h.ends fd s hs).trans hends⟩

/-- A call on an end is one of this side, after what the other side may do. -/
theorem talks_on (hw : Keeps i fd (some (n, side)) w) (hc : On fd c)
    (h : (network truthful i).after (Undisturbed i) c w x w') :
    (endpoint truthful fd side).after (Duplex.Meanwhile side) c (w.lines n) x (w'.lines n) ∧
      Keeps i fd (some (n, side)) w' := by
  obtain ⟨w₁, hothers, hcall⟩ := h
  have hw₁ := hw.others hothers
  have hmine : ∃ s, w.table fd = some (i, s) := by
    refine hw.mine.resolve_left ?_
    rintro rfl
    have hends := hw.ends
    rw [w.ends_none] at hends
    cases hends
  obtain ⟨s, hs⟩ := hmine
  refine ⟨⟨w₁.lines n, hothers.lines fd s n side hs hw.ends, ?_⟩, hw₁.on hc hcall⟩
  obtain ⟨-, -, htransmit⟩ := network_on hc hcall
  have hlines := htransmit.lines
  rw [endOf_on hc, hw₁.ends] at hlines
  obtain ⟨fd', d, hcarrier, hd, hlines⟩ := hlines
  rw [carrier_on hc] at hcarrier
  rw [hlines, Function.update_self, Option.some.inj hcarrier]
  exact hd

/-- A call on what is no end is one on a connection over which nothing comes. -/
theorem talks_off (hw : Keeps i fd none w) (hc : On fd c) (h : (network truthful i).after (Undisturbed i) c w x w') :
    (endpoint False fd .near).after (Duplex.Meanwhile .near) c {} x {} ∧ Keeps i fd none w' := by
  obtain ⟨w₁, hothers, hcall⟩ := h
  have hw₁ := hw.others hothers
  refine ⟨⟨{}, (endpoint_relies False fun _ => fd).refl _ _, ?_⟩, hw₁.on hc hcall⟩
  obtain ⟨-, -, htransmit⟩ := network_on hc hcall
  have hlines := htransmit.lines
  rw [endOf_on hc, hw₁.ends] at hlines
  obtain ⟨-, hfails⟩ := hlines
  cases c with
  | send fd' message length flags => exact Or.inl ⟨hfails, rfl⟩
  | recv fd' offset length flags => exact Or.inl ⟨hfails, rfl⟩
  | select nfds fd' t => exact ⟨rfl, False.elim⟩
  | _ => exact hc.elim

end Ends

/-! ## A call of a method -/

section Talks

variable [DecidableEq ι] {S : Type} {k : Connection S} {o o' : S} {w w' : Network ι} {r : Outcome Exn Reply}
  {tr : List (Event Sys Ans (Network ι))} {place : Option End}

/-- What a call on a connection puts into it and takes out of it is what the caller learns; and all of it is at the end
that the object has. -/
structure Tells (place : Option End) (c : TalkCall dm) (tr : List (Event Sys Ans (Network ι))) (r : Outcome Exn Reply) :
    Prop where
  place : ∀ ev ∈ tr, ev.pre.endOf ev.call = place
  returned : ∃ reply, r = .returned reply ∧ put tr = said c reply ∧ taken tr = heard (taken tr) c reply

omit [DecidableEq ι] in
theorem tells_of_faithful {c : TalkCall dm} {d d' : Duplex} {tr' : List (Event Sys Ans Duplex)}
    (hplace : ∀ ev ∈ tr, ev.pre.endOf ev.call = place) (hacts : tr'.map Event.act = tr.map Event.act)
    (h : Faithful (⟨c, o, d, tr', r, o', d'⟩ : TalkVisit S dm)) : Tells place c tr r := by
  obtain ⟨⟨reply, hreturned⟩, hsaid, hheard⟩ := h
  obtain rfl : r = .returned reply := hreturned
  obtain ⟨hput, htaken⟩ := putTaken_of_acts hacts
  refine ⟨hplace, reply, rfl, ?_, ?_⟩
  · rw [← hput]
    exact hsaid
  · rw [← htaken]
    exact hheard

theorem tells_of_runs {c : TalkCall dm} (hc : c ≠ .close) (hw : Keeps i (k.socket o) place w)
    (hfuel : ∀ n side, ((w'.lines n).pipe side).written.length < fuel)
    (h : (c.perform k fuel).Runs ((network truthful i).after (Undisturbed i)) o w tr r o' w') : Tells place c tr r := by
  have hon : (c.perform k fuel o).Always (On (k.socket o)) fun p => p.2 = o :=
    talk_always (P := On (k.socket o)) (fun _ _ => rfl) (fun _ _ _ => rfl) (fun _ _ _ => rfl) hc
  have hplace : ∀ {ev : Event Sys Ans (Network ι)}, ev ∈ tr → Keeps i (k.socket o) place ev.pre →
      ev.pre.endOf ev.call = place := by
    intro ev hev hkeeps
    rw [endOf_on ((hon.runs h).1 ev hev), hkeeps.ends]
  cases place with
  | none =>
    obtain ⟨tr', d, hr, ⟨-, rfl⟩, hacts, hpre⟩ := Prog.Runs.simulate_forward
      (R := fun w (d : Duplex) => Keeps i (k.socket o) none w ∧ d = {}) (by
        rintro c w _ x w' hc ⟨hw, rfl⟩ hx
        obtain ⟨hstep, hw'⟩ := talks_off hw hc hx
        exact ⟨{}, hstep, hw', rfl⟩) hon h ⟨hw, rfl⟩
    refine tells_of_faithful (fun ev hev => ?_) hacts (faithful_of_runs c ?_ hr)
    · obtain ⟨_, hkeeps, -⟩ := hpre ev hev
      exact hplace hev hkeeps
    · exact Nat.zero_lt_of_lt (hfuel 0 .near)
  | some e =>
    obtain ⟨n, side⟩ := e
    obtain ⟨tr', d, hr, ⟨-, rfl⟩, hacts, hpre⟩ := Prog.Runs.simulate_forward
      (R := fun w d => Keeps i (k.socket o) (some (n, side)) w ∧ d = w.lines n) (by
        rintro c w _ x w' hc ⟨hw, rfl⟩ hx
        obtain ⟨hstep, hw'⟩ := talks_on hw hc hx
        exact ⟨_, hstep, hw', rfl⟩) hon h ⟨hw, rfl⟩
    refine tells_of_faithful (fun ev hev => ?_) hacts (faithful_of_runs c (hfuel n side.other) hr)
    obtain ⟨_, hkeeps, -⟩ := hpre ev hev
    exact hplace hev hkeeps

end Talks

/-! ## A deed -/

section Deeds

/-- A deed that was done. -/
abbrev DeedVisit (ι : Type) (dm : DataModel) := Visit Sys Ans (Network ι) Exn Store (Deed dm) Reply

/-- The end that the deed talks at, if it talks and the variable has an object that has one. -/
def placeOf (v : DeedVisit ι dm) : Option End := match v.call with
  | .act .. => none
  | .talk n _ => (v.obj n).bind fun e => v.world.ends e.stored

/-- What the caller learns: the bytes that were sent, and those that were handed over or dropped as a delimiter. -/
def saidBy (v : DeedVisit ι dm) : Bytes := match v.call, v.outcome with
  | .talk _ c, .returned reply => said c reply
  | _, _ => []

def heardBy (v : DeedVisit ι dm) : Bytes := match v.call, v.outcome with
  | .talk _ c, .returned reply => heard (taken v.trace) c reply
  | _, _ => []

/-- If the deed talks, it has returned; and what it has put in and taken out, it has at its end, and the caller learns. -/
structure Accounted (v : DeedVisit ι dm) : Prop where
  returned : ∀ n c, v.call = .talk n c → ∃ reply, v.outcome = .returned reply
  said : ∀ e, tally putBy e v.trace = if placeOf v = some e then saidBy v else []
  heard : ∀ e, tally takenBy e v.trace = if placeOf v = some e then heardBy v else []

theorem tally_of_place {f : (c : Sys) × Ans c → Bytes} {tr : List (Event Sys Ans (Network ι))} {place : Option End}
    (h : ∀ ev ∈ tr, ev.pre.endOf ev.call = place) (e : End) :
    tally f e tr = if place = some e then tr.flatMap fun ev => f ev.act else [] := by
  unfold tally
  rw [List.flatMap_congr fun ev hev => by rw [h ev hev]]
  split_ifs
  · rfl
  · exact List.flatMap_eq_nil_iff.2 fun _ _ => rfl

theorem tally_of_mute {tr : List (Event Sys Ans (Network ι))} (h : ∀ ev ∈ tr, Mute ev.call) (e : End) :
    tally putBy e tr = [] ∧ tally takenBy e tr = [] := by
  have hnone : ∀ {c : Sys} (x : Ans c), Mute c → putBy ⟨c, x⟩ = [] ∧ takenBy ⟨c, x⟩ = [] := by
    intro c x hc
    cases c with
    | send fd message length flags => exact hc.elim
    | recv fd offset length flags => exact hc.elim
    | _ => exact ⟨rfl, rfl⟩
  constructor
  · exact List.flatMap_eq_nil_iff.2 fun ev hev => by rw [Event.act, (hnone ev.answer (h ev hev)).1, ite_self]
  · exact List.flatMap_eq_nil_iff.2 fun ev hev => by rw [Event.act, (hnone ev.answer (h ev hev)).2, ite_self]

/-- A deed that neither sends nor receives. -/
theorem accounted_of_mute {v : DeedVisit ι dm} (hmute : ∀ ev ∈ v.trace, Mute ev.call)
    (hreturned : ∀ n c, v.call = .talk n c → v.outcome = .returned .done) : Accounted v := by
  have hnone : saidBy v = [] ∧ heardBy v = [] := by
    unfold saidBy heardBy
    cases hcall : v.call with
    | act a h => exact ⟨rfl, rfl⟩
    | talk n c =>
      rw [hreturned n c hcall]
      cases c <;> exact ⟨rfl, rfl⟩
  refine ⟨fun n c hcall => ⟨_, hreturned n c hcall⟩, fun e => ?_, fun e => ?_⟩
  · rw [(tally_of_mute hmute e).1, hnone.1, ite_self]
  · rw [(tally_of_mute hmute e).2, hnone.2, ite_self]

/-- A call over an object that is a connection, or nothing. -/
theorem talk_cases {σ : Type} {env : Env Sys Ans σ} {n : ℕ} {c : TalkCall dm} {t t' : Store} {w w' : σ}
    {tr : List (Event Sys Ans σ)} {r : Outcome Exn Reply}
    (h : ((Deed.talk n c).perform fuel).Runs env t w tr r t' w') : tr = [] ∧ r = .returned .done ∨
      ∃ d o k o', t n = some ⟨d, o⟩ ∧ connectionOf d = some k ∧ (c.perform k fuel).Runs env o w tr r o' w' := by
  unfold Method.Runs at h
  cases ht : t n with
  | none =>
    simp only [Deed.perform, ht] at h
    cases h
    exact Or.inl ⟨rfl, rfl⟩
  | some e =>
    obtain ⟨d, o⟩ := e
    cases hk : connectionOf d with
    | none =>
      simp only [Deed.perform, ht, hk] at h
      cases h
      exact Or.inl ⟨rfl, rfl⟩
    | some k =>
      simp only [Deed.perform, ht, hk] at h
      obtain ⟨⟨r', o'⟩, hr, hp⟩ := Prog.runs_wrap.1 h
      obtain ⟨rfl, -⟩ := Prod.mk.inj hp
      exact Or.inr ⟨d, o, k, o', rfl, hk, hr⟩

theorem close_mute {S : Type} {k : Connection S} (o : S) :
    ((TalkCall.close : TalkCall dm).perform k fuel).Always Mute o fun r _ => r = .returned .done := by
  unfold TalkCall.perform
  rw [k.close_eq]
  simp [Socket.close, Mute]

theorem connectionOf_socket {d : SocketClass} {o : d.Obj} {k : Connection d.Obj} (hk : connectionOf d = some k) :
    k.socket o = d.stored o := by
  cases d with
  | tcpSocket => cases hk; rfl
  | streamIPCSocket => cases hk; rfl
  | _ => cases hk

variable [DecidableEq ι] {a : Deed dm} {t t' : Store} {w w' : Network ι} {tr : List (Event Sys Ans (Network ι))}
  {r : Outcome Exn Reply}

/-- **One deed is accounted for**, if its fuel exceeds what will have been written anywhere. -/
theorem accounted_of_runs (ht : Orderly t (own i w.table))
    (hfuel : ∀ n side, ((w'.lines n).pipe side).written.length < fuel)
    (h : (a.perform fuel).Runs ((network truthful i).after (Undisturbed i)) t w tr r t' w') :
    Accounted (⟨a, t, w, tr, r, t', w'⟩ : DeedVisit ι dm) := by
  cases a with
  | act a hplain =>
    refine accounted_of_mute ((Method.Only.bind (plain_silent a hplain) (fun _ => .pure _) t).runs h).1 ?_
    rintro n c ⟨⟩
  | talk n c =>
    rcases talk_cases h with ⟨rfl, rfl⟩ | ⟨d, o, k, o', hn, hk, hr⟩
    · exact accounted_of_mute (by simp) fun _ _ _ => rfl
    · by_cases hc : c = .close
      · subst hc
        obtain ⟨hmute, rfl⟩ := (close_mute o).runs hr
        exact accounted_of_mute hmute fun _ _ _ => rfl
      · have hkeeps : Keeps i (k.socket o) (w.ends (d.stored o)) w := by
          rw [connectionOf_socket hk]
          refine ⟨(ht.owned n _ hn).imp_right ?_, rfl⟩
          rintro ⟨s, hs, -⟩
          exact ⟨s, own_eq_some.1 hs.mine⟩
        obtain ⟨hplace, reply, rfl, hsaid, hheard⟩ := tells_of_runs hc hkeeps hfuel hr
        have hat : placeOf (⟨.talk n c, t, w, tr, .returned reply, t', w'⟩ : DeedVisit ι dm) = w.ends (d.stored o) := by
          unfold placeOf
          simp only [hn, Option.bind_some]
          rfl
        have hput : tr.flatMap (fun ev => putBy ev.act) = said c reply := hsaid
        have htaken : tr.flatMap (fun ev => takenBy ev.act) = heard (taken tr) c reply := hheard
        refine ⟨fun _ _ _ => ⟨reply, rfl⟩, fun e => ?_, fun e => ?_⟩
        · rw [tally_of_place hplace, hat, hput]
          rfl
        · rw [tally_of_place hplace, hat, htaken]
          rfl

end Deeds

/-! ## A whole run -/

section Runs

variable [DecidableEq ι] {w₀ : Network ι} {is : List ι}
  {p : System ι Sys Ans (Network ι) Exn Store (Deed dm) Reply}

/-- The threads, on one network. -/
abbrev Serving (truthful : Prop) (dm : DataModel) (fuel : ℕ) :
    System ι Sys Ans (Network ι) Exn Store (Deed dm) Reply → List ι →
      System ι Sys Ans (Network ι) Exn Store (Deed dm) Reply → Prop :=
  Turns (fun i : ι => network truthful i) fun _ => Deed.perform fuel

/-- What the calls at an end tell, by the deeds that were done there and the calls of the one under way. -/
def toldAt (g : DeedVisit ι dm → Bytes) (f : (c : Sys) × Ans c → Bytes)
    (p : System ι Sys Ans (Network ι) Exn Store (Deed dm) Reply) (e : End) : Bytes := match p.2.owner e with
  | none => []
  | some i => ((p.1 i).visits.flatMap fun v => if placeOf v = some e then g v else []) ++ tally f e (p.1 i).underway

/-- What has been sent at an end. -/
def saidAt : System ι Sys Ans (Network ι) Exn Store (Deed dm) Reply → End → Bytes := toldAt saidBy putBy

/-- What has been handed over there, or dropped as a delimiter. -/
def heardAt : System ι Sys Ans (Network ι) Exn Store (Deed dm) Reply → End → Bytes := toldAt heardBy takenBy

theorem orderly_start (i : ι) (w : Network ι) : Orderly (fun _ => none) (own i w.table) := by
  constructor
  · rintro n e ⟨⟩
  · rintro n n' e e' - ⟨⟩

/-- The end that a thread talks at is its own. -/
theorem owner_of_placeOf {v : DeedVisit ι dm} (h : Orderly v.obj (own i v.world.table)) {e : End}
    (he : placeOf v = some e) : v.world.owner e = some i := by
  unfold placeOf at he
  cases hcall : v.call with
  | act a hplain =>
    rw [hcall] at he
    cases he
  | talk n c =>
    rw [hcall] at he
    obtain ⟨obj, hobj, hends⟩ := Option.bind_eq_some_iff.1 he
    obtain ⟨hvalid, j, s, howner, htable⟩ := v.world.owned _ _ hends
    obtain ⟨s', hs', -⟩ := (h.owned n obj hobj).resolve_left hvalid
    have hmine : v.world.table obj.stored = some (i, s') := own_eq_some.1 hs'.mine
    rw [htable] at hmine
    rw [howner]
    exact congrArg some (congrArg Prod.fst (Option.some.inj hmine))

/-- Every deed is accounted for, and is at an end of its thread. -/
theorem service_accounted (h : Serving truthful dm fuel (.start (fun _ _ => none) w₀) is p)
    (hfuel : ∀ n side, ((p.2.lines n).pipe side).written.length < fuel) (i : ι) :
    ∀ v ∈ (p.1 i).visits, Accounted v ∧ ∀ e, placeOf v = some e → p.2.owner e = some i := by
  intro v hv
  obtain ⟨horderly, hruns, hgrows⟩ := Turns.visits (I := fun i t w => Orderly t (own i w.table)) network_guarantees
    (fun i => orderly_start i w₀) (fun i a _ _ ht => deed_safe i a ht) h i hv
  have howned : ∀ {w w' : Network ι} {e : End}, Undisturbed i w w' → w.owner e = some i → w'.owner e = some i :=
    fun hothers he => hothers.owner _ _ he
  refine ⟨accounted_of_runs horderly (fun n side => ?_) hruns, fun e he => ?_⟩
  · have hwritten := hgrows (fun w w' => ((w.lines n).pipe side).written <+: ((w'.lines n).pipe side).written)
      (fun _ => List.prefix_rfl) (fun _ _ _ => List.IsPrefix.trans) (fun _ _ hothers => hothers.written n side)
      fun _ _ _ _ hc => written_step hc n side
    exact hwritten.length_le.trans_lt (hfuel n side)
  · have hbefore : v.world'.owner e = some i := by
      refine (Prog.Runs.invariant (I := fun w => w.owner e = some i) ?_ hruns (owner_of_placeOf horderly he)).1
      rintro c w x w' hw ⟨w₁, hothers, hc⟩
      exact owner_step hc (howned hothers hw)
    exact hgrows (fun w w' => w.owner e = some i → w'.owner e = some i) (fun _ h => h) (fun _ _ _ h h' hw => h' (h hw))
      (fun _ _ => howned) (fun _ _ _ _ hc => owner_step hc) hbefore

omit [DecidableEq ι] in
/-- What a thread has done at an end is what its deeds tell, and what the one under way has done there. -/
theorem tally_events {f : (c : Sys) × Ans c → Bytes} {g : DeedVisit ι dm → Bytes}
    {c : Client Sys Ans (Network ι) Exn Store (Deed dm) Reply} {e : End}
    (h : ∀ v ∈ c.visits, tally f e v.trace = if placeOf v = some e then g v else []) :
    tally f e c.events = (c.visits.flatMap fun v => if placeOf v = some e then g v else []) ++ tally f e c.underway := by
  unfold Client.events
  rw [tally_append]
  congr 1
  unfold tally at h ⊢
  rw [List.flatMap_assoc]
  exact List.flatMap_congr h

/-- **What is said at one end is heard at the other.** -/
theorem service_conserves (h : Serving truthful dm fuel (.start (fun _ _ => none) w₀) is p)
    (hstart : ∀ e, w₀.owner e = none) (hfuel : ∀ n side, ((p.2.lines n).pipe side).written.length < fuel) :
    (∀ i, ∀ v ∈ (p.1 i).visits, Accounted v ∧ ∀ e, placeOf v = some e → p.2.owner e = some i) ∧
      ∀ n side, saidAt p (n, side) = heardAt p (n, side.other) ++ ((p.2.lines n).pipe side).unread := by
  have haccounted := service_accounted h hfuel
  refine ⟨haccounted, fun n side => ?_⟩
  have hbalanced : Balanced p.2 fun i => (p.1 i).events :=
    Turns.account_lawful (I := fun i t w => Orderly t (own i w.table)) network_guarantees (fun i => orderly_start i w₀)
      (fun i a _ _ ht => deed_safe i a ht) h (Balanced.start hstart) fun _ _ _ _ _ _ _ hw hothers hlawful hc =>
        hw.step hothers hlawful hc
  have htold : ∀ (f : (c : Sys) × Ans c → Bytes) (g : DeedVisit ι dm → Bytes),
      (∀ i, ∀ v ∈ (p.1 i).visits, ∀ e, tally f e v.trace = if placeOf v = some e then g v else []) →
        ∀ e, tallyAt f p.2 (fun i => (p.1 i).events) e = toldAt g f p e := by
    intro f g hg e
    unfold tallyAt toldAt
    cases p.2.owner e with
    | none => rfl
    | some i => exact tally_events fun v hv => hg i v hv e
  have hunread := (hbalanced.lines n).unread side
  rw [htold putBy saidBy fun i v hv => (haccounted i v hv).1.said,
    htold takenBy heardBy fun i v hv => (haccounted i v hv).1.heard] at hunread
  exact hunread

end Runs

section Examples

/-- The run in which the threads take these turns, and one without a deed under way begins the one beside its name. -/
def converse (turns : List (Bool × Deed .lp64)) :
    System Bool Sys Ans (Network Bool) Exn Store (Deed .lp64) Reply :=
  System.exec Network.serve (fun _ => Deed.perform 8) turns (.start (fun _ _ => none) .empty)

theorem converse_turns (turns : List (Bool × Deed .lp64)) :
    Serving True .lp64 8 (.start (fun _ _ => none) .empty) (turns.map Prod.fst) (converse turns) :=
  System.exec_turns (Network.serve_network True) turns _

/-- One thread listens, with `n` turns, another one connects to it, with `m`, and the first one accepts, with `k`; the
second one sends two bytes, of which the first one reads one. -/
def listenAndRead (listen connect : Action .lp64) (hlisten : Plain listen) (hconnect : Plain connect) (n m k : ℕ) :
    List (Bool × Deed .lp64) :=
  List.replicate n (false, .act listen hlisten) ++ List.replicate m (true, .act connect hconnect) ++
    List.replicate k (false, .act (.accept 0 1 0) trivial) ++
    List.replicate 3 (true, .talk 0 (.send [104, 105] (by decide) 0)) ++
    List.replicate 3 (false, .talk 1 (.read (.get 0 (by decide))))

/-- At a path. -/
def pathTalk : List (Bool × Deed .lp64) :=
  listenAndRead (.construct 0 (.ipcServer [97] false 1 none) ⟨0, []⟩) (.construct 0 (.streamIPC [97]) ⟨0, []⟩) trivial trivial
    5 4 3

/-- At a port. -/
def portTalk : List (Bool × Deed .lp64) :=
  listenAndRead (.construct 0 (.tcpServer none 80 1 .IPV4 none) ⟨0, .Any, .zero, 0⟩)
    (.construct 0 (.tcpFromAddress .zero) ⟨0, [], 0, .Any, .zero⟩) trivial trivial 7 5 4

/-- Over one connection only. -/
theorem written_lt {w : Network Bool} (h : ∀ side, ((w.lines 0).pipe side).written.length < 8)
    (hblank : ∀ n, w.lines (n + 1) = {}) (n : ℕ) (side : Side) : ((w.lines n).pipe side).written.length < 8 := by
  cases n with
  | zero => exact h side
  | succ n =>
    rw [hblank]
    exact Nat.zero_lt_succ 7

theorem service_conserves_two :
    let p := converse pathTalk
    let q := converse portTalk
    (saidAt p (0, .near) = [104, 105] ∧ saidAt p (0, .near) = heardAt p (0, .far) ++ [105]) ∧
      saidAt q (0, .near) = [104, 105] ∧ saidAt q (0, .near) = heardAt q (0, .far) ++ [105] := by
  intro p q
  constructor
  · refine ⟨by decide +kernel, (service_conserves (converse_turns pathTalk) (fun _ => rfl) ?_).2 0 .near⟩
    exact written_lt (by rintro (_ | _) <;> decide +kernel) fun _ => rfl
  · refine ⟨by decide +kernel, (service_conserves (converse_turns portTalk) (fun _ => rfl) ?_).2 0 .near⟩
    exact written_lt (by rintro (_ | _) <;> decide +kernel) fun _ => rfl

end Examples

end SocketLibrary.Service
