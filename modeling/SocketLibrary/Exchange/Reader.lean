import SocketLibrary.Exchange.Transmission

/-!
# Reading as it is meant

The ideal reader has all that the other side ever sends in a list, and takes from its front a byte, an amount, or what
comes before a delimiter. As long as no poll of a reading call comes too early, the calls of a side return what the ideal
reader returns, whatever portions `send` and `recv` make of the bytes and however the two sides are interleaved
(`reads_refine`).
-/

namespace SocketLibrary.Exchange

open SocketLibrary.Interaction SocketLibrary.Posix SocketLibrary.Model SocketLibrary.Stream
open SocketLibrary.Model.ConnectionOrientedSocket

/-! ## The ideal reader -/

/-- What a call returns, and what it leaves; nothing as long as there is not enough. -/
def ideal : ReadCall → Bytes → Option (Bytes × Bytes)
  | .get _ _, s => if s = [] then none else some (s.take 1, s.drop 1)
  | .receiveAmount n _ _ _, s => if n.toNat ≤ s.length then some (s.take n.toNat, s.drop n.toNat) else none
  | .receiveToDelimiter d _ _ _, s => if d ∈ s then some (s.takeWhile (· != d), (s.dropWhile (· != d)).tail) else none

/-- One call after the other. -/
def idealRun : List ReadCall → Bytes → Option (List Bytes × Bytes)
  | [], s => some ([], s)
  | c :: cs, s => (ideal c s).bind fun p => (idealRun cs p.2).map fun q => (p.1 :: q.1, q.2)

theorem idealRun_append {cs cs' : List ReadCall} {s s' s'' : Bytes} {results results' : List Bytes}
    (h : idealRun cs s = some (results, s')) (h' : idealRun cs' s' = some (results', s'')) :
    idealRun (cs ++ cs') s = some (results ++ results', s'') := by
  induction cs generalizing s results with
  | nil =>
    obtain ⟨rfl, rfl⟩ := Prod.mk.inj (Option.some.inj h)
    exact h'
  | cons c cs ih =>
    obtain ⟨⟨data, s₁⟩, hdata, hrest⟩ := Option.bind_eq_some_iff.1 h
    obtain ⟨⟨results₁, s₂⟩, hresults, hpair⟩ := Option.map_eq_some_iff.1 hrest
    obtain ⟨rfl, rfl⟩ := Prod.mk.inj hpair
    rw [List.cons_append, idealRun, hdata, Option.bind_some, ih hresults]
    rfl

section Blocks

variable {flags : ℤ} (hflags : ¬ Peeks flags) (data rest : Bytes)

theorem ideal_get (c : UInt8) : ideal (.get flags hflags) ([c] ++ rest) = some ([c], rest) := rfl

theorem ideal_receiveAmount {n : UInt32} (hn : n.toNat < 2 ^ 31) (hlength : data.length = n.toNat) :
    ideal (.receiveAmount n hn flags hflags) (data ++ rest) = some (data, rest) := by
  have hle : n.toNat ≤ (data ++ rest).length := by
    rw [List.length_append]
    omega
  rw [ideal, if_pos hle, ← hlength, List.take_left, List.drop_left]

theorem ideal_receiveToDelimiter {d : UInt8} (hd : d ≠ 0) (hdata : d ∉ data) :
    ideal (.receiveToDelimiter d hd flags hflags) (data ++ [d] ++ rest) = some (data, rest) := by
  have hmem : d ∈ data ++ [d] ++ rest := by simp
  have hall : ∀ c ∈ data, (c != d) = true := by
    intro c hc
    simpa using fun h : c = d => hdata (h ▸ hc)
  rw [ideal, if_pos hmem, List.append_assoc, List.takeWhile_append_of_pos hall, List.dropWhile_append_of_pos hall]
  simp

end Blocks

/-! ## A reading call that is not cut short -/

/-- A poll found something, and a `recv` was handed something. -/
def Prompt : (c : Sys) × Ans c → Prop
  | ⟨.select .., x⟩ => 0 < (x : ℤ)
  | ⟨.recv .., x⟩ => x.data ≠ []
  | _ => True

/-- Every poll finds something, and `recv` delivers what is unread. -/
def punctual : Peer := ⟨fun _ x => 0 < x, True⟩

/-- Such a call is one on a punctual stream. -/
theorem punctual_step (c : Sys) (s : Bytes) (x : Ans c) (s' : Bytes) (hprompt : Prompt ⟨c, x⟩)
    (h : Peer.adverse.env c s x s') : punctual.env c s x s' := by
  cases c with
  | select nfds fd t => exact ⟨hprompt, h.2⟩
  | recv fd offset length flags =>
    rcases h with ⟨hnil, -⟩ | hdata
    · exact absurd hnil hprompt
    · exact Or.inr hdata
  | _ => exact h

/-- As long as there is something unread, a reader has no reason to stop. -/
theorem punctual_stops {fd : SOCKET} (hfd : fd ≠ -1) {s : Bytes} (h : punctual.Stops fd s) : s = [] := by
  rcases h with (h | ⟨x, hx, hpos⟩) | h
  · exact absurd h hfd
  · exact absurd (show (0 : ℤ) < x from hpos) (by omega)
  · exact h trivial

section Reader

variable {S : Type} {dm : DataModel} {truthful : Prop} {fd : SOCKET} {side : Side} {fuel : ℕ} {fd' : SOCKET} {o o' : S}
  {w w' : Duplex} {tr : List (Event Sys Ans Duplex)}

/-- On a punctual stream that is not read to its end, a call returns what the ideal reader does. -/
theorem ideal_of_punctual (hfd : fd' ≠ -1) (c : ReadCall) {s s' data : Bytes} {tr : List (Event Sys Ans Bytes)}
    (h : (c.perform dm fd' fuel).Runs punctual.env o s tr (.returned data) o' s') (hs' : s' ≠ []) (rest : Bytes) :
    ideal c (data ++ c.discarded tr ++ rest) = some (data, rest) := by
  have hgoes : ¬ punctual.Stops fd' s' := fun hstops => hs' (punctual_stops hfd hstops)
  cases c with
  | get flags hflags =>
    obtain ⟨tr₁, character, o₁, s₁, tr₂, hget, hreturn, rfl⟩ := Method.Runs.of_bind h
    cases hreturn
    obtain ⟨-, ⟨b, htr, hb⟩ | ⟨-, -, hstops⟩⟩ := hget.post get_spec
    · cases hb
      exact ideal_get hflags rest b
    · exact absurd hstops hgoes
  | receiveAmount n hn flags hflags =>
    obtain ⟨hdata, -, hlength | hstops, -⟩ := Method.Runs.post h (receiveAmount_spec hn)
    · cases hdata
      rw [show ReadCall.discarded tr (.receiveAmount n hn flags hflags) = [] from rfl, List.append_nil]
      exact ideal_receiveAmount hflags _ rest hn hlength
    · exact absurd hstops hgoes
  | receiveToDelimiter d hd flags hflags =>
    obtain ⟨hdata, hall | ⟨-, hstops⟩⟩ := receiveToDelimiter_field h
    · have hdiscarded : ReadCall.discarded tr (.receiveToDelimiter d hd flags hflags) = [d] := by
        simp [ReadCall.discarded, hall]
      rw [hdiscarded]
      exact ideal_receiveToDelimiter hflags data rest hd hdata
    · exact absurd hstops hgoes

/-- The side has read no more than was written for it. -/
def Duplex.Sound (side : Side) (w : Duplex) : Prop := (w.pipe side.other).read ≤ (w.pipe side.other).written.length

/-- What is said of a call in a run of two sides keeps the count of what was read. -/
theorem sound_step {c : Sys} {x : Ans c} (hw : w.Sound side)
    (h : (endpoint truthful fd side).after (Duplex.Meanwhile side) c w x w') : w'.Sound side := by
  obtain ⟨w₁, hothers, hc⟩ := h
  have hstep := endpoint_step hc
  have hwritten := hothers.written.length_le
  have hread := hothers.read
  have htaken := hstep.taken_prefix.length_le
  unfold Duplex.Sound at hw ⊢
  unfold Pipe.unread at htaken
  rw [List.length_drop] at htaken
  rw [hstep.written_other, hstep.read_other]
  omega

/-- A method that is not cut short is one on a punctual stream, of which something is left. -/
theorem punctual_of_prompt {α : Type} {m : M S α} {r : Outcome Exn α} (hm : Method.Within Consuming m)
    (hw : w.Sound side) (h : m.Runs ((endpoint truthful fd side).after (Duplex.Meanwhile side)) o w tr r o' w')
    (hprompt : ∀ e ∈ tr, Prompt e.act) :
    ∃ s tr' s', m.Runs punctual.env o s tr' r o' s' ∧ s' ≠ [] ∧ delivered tr' = taken tr := by
  -- a byte comes behind all that is ever written, and stays unread
  obtain ⟨tr', hr, hacts⟩ := run_on_stream (hm o) h (List.prefix_append _ [0])
  have hconsuming := ((hm o).runs hr).1
  have hprompt' : ∀ e ∈ tr', Prompt e.act := by
    intro e he
    have hmem := List.mem_map_of_mem (f := Event.act) he
    rw [hacts] at hmem
    obtain ⟨e', he', hact⟩ := List.mem_map.1 hmem
    rw [← hact]
    exact hprompt e' he'
  have hsound : w'.Sound side := (Prog.Runs.invariant (fun _ _ _ _ hw hc => sound_step hw hc) h hw).1
  have hleft : ((w'.pipe side.other).written ++ [0]).drop (w'.pipe side.other).read ≠ [] := by
    rw [List.drop_append_of_le_length hsound]
    simp
  refine ⟨_, tr', _, hr.restrict punctual_step hprompt', hleft, ?_⟩
  rw [delivered_eq_taken hconsuming, (putTaken_of_acts hacts).2]

/-- **A call that is not cut short** returns what the ideal reader does. -/
theorem ideal_of_prompt (hfd : fd' ≠ -1) (hw : w.Sound side) (c : ReadCall) {data : Bytes}
    (h : (c.perform dm fd' fuel).Runs ((endpoint truthful fd side).after (Duplex.Meanwhile side)) o w tr
      (.returned data) o' w') (hprompt : ∀ e ∈ tr, Prompt e.act) (rest : Bytes) :
    ideal c (data ++ dropped (taken tr) c ++ rest) = some (data, rest) := by
  obtain ⟨s, tr', s', hr, hleft, hdelivered⟩ := punctual_of_prompt (c.consuming fuel) hw h hprompt
  have hideal := ideal_of_punctual hfd c hr hleft rest
  rw [discarded_eq, hdelivered] at hideal
  exact hideal

end Reader

/-! ## A whole run -/

section Talk

variable {S : Type} {dm : DataModel} {k : Connection S} {fuel : ℕ}

/-- The reading call that a call makes. -/
def readsIn (v : TalkVisit S dm) : List ReadCall := match v.call with
  | .read c => [c]
  | _ => []

/-- What a reading call returned. -/
def fieldIn (v : TalkVisit S dm) : List Bytes := match v.call, v.outcome with
  | .read _, .returned (.received data) => [data]
  | _, _ => []

/-- A reading call is made on a connection that is open, and never finds nothing. -/
def Unhurried (k : Connection S) (v : TalkVisit S dm) : Prop := match v.call with
  | .read _ => k.socket v.obj ≠ -1 ∧ ∀ e ∈ v.trace, Prompt e.act
  | _ => True

/-- What a call did is what the ideal reader does. -/
def Ideally (v : TalkVisit S dm) : Prop :=
  ∀ rest, idealRun (readsIn v) (heardIn v ++ rest) = some (fieldIn v, rest)

theorem ideally_of_runs {truthful : Prop} {fd : SOCKET} {side : Side} {v : TalkVisit S dm} (hw : v.world.Sound side)
    (h : (v.call.perform k fuel).Runs ((endpoint truthful fd side).after (Duplex.Meanwhile side)) v.obj v.world v.trace
      v.outcome v.obj' v.world') (hreturned : ∃ reply, v.outcome = .returned reply) (hunhurried : Unhurried k v) :
    Ideally v := by
  obtain ⟨c, o, w, tr, r, o', w'⟩ := v
  obtain ⟨reply, rfl⟩ := hreturned
  cases c with
  | read c =>
    obtain ⟨hsocket, hprompt⟩ := hunhurried
    obtain ⟨tr₁, this, o₁, w₁, tr₂, hthis, hrest, rfl⟩ := Method.Runs.of_bind h
    cases hthis
    obtain ⟨tr₃, data, o₂, w₂, tr₄, hread, hreturn, rfl⟩ := Method.Runs.of_bind hrest
    cases hreturn
    rw [List.nil_append, List.append_nil] at hprompt
    intro rest
    have hideal := ideal_of_prompt hsocket hw c hread hprompt rest
    rw [List.append_assoc] at hideal
    simp [readsIn, fieldIn, heardIn, heard, idealRun, hideal]
  | send message hlength flags => exact fun rest => by cases reply <;> rfl
  | ready timeout => exact fun rest => by cases reply <;> rfl
  | connected timeout => exact fun rest => by cases reply <;> rfl
  | close => exact fun rest => by cases reply <;> rfl

theorem ideally_visits {visits : List (TalkVisit S dm)} (h : ∀ v ∈ visits, Ideally v) (rest : Bytes) :
    idealRun (visits.flatMap readsIn) (visits.flatMap heardIn ++ rest) = some (visits.flatMap fieldIn, rest) := by
  induction visits with
  | nil => rfl
  | cons v visits ih =>
    rw [List.forall_mem_cons] at h
    rw [List.flatMap_cons, List.flatMap_cons, List.flatMap_cons, List.append_assoc]
    exact idealRun_append (h.1 _) (ih h.2)

variable {truthful : Prop} {fd : Side → SOCKET} {obj : Side → S} {sides : List Side}
  {p : System Side Sys Ans Duplex Exn S (TalkCall dm) Reply}

/-- What is said of each call of a side that has read no more than was written for it. -/
theorem talk_sound (h : Talk k fuel truthful dm fd (.start obj {}) sides p) (side : Side) {G : TalkVisit S dm → Prop}
    (hG : ∀ v : TalkVisit S dm, v.world.Sound side →
      (v.call.perform k fuel).Runs ((endpoint truthful (fd side) side).after (Duplex.Meanwhile side)) v.obj v.world
        v.trace v.outcome v.obj' v.world' → G v) : ∀ v ∈ (p.1 side).visits, G v := by
  obtain ⟨w, hsession, -⟩ := (Turns.history (endpoint_relies truthful fd) h side).1.session (fun _ _ => True)
    (fun _ => trivial) (fun _ _ _ _ _ => trivial) fun _ _ _ _ _ => trivial
  have hstart : Duplex.Sound side {} := Nat.zero_le _
  refine (Session.invariant (I := fun _ w => w.Sound side) (G := G) ?_ hsession hstart).2
  intro c o w tr r o' w' hw hr
  exact ⟨(Prog.Runs.invariant (fun c w x w' hw hc => sound_step hw hc) hr hw).1, hG _ hw hr⟩

/-- **Reading is what it is meant to be**: on all that the other side has sent, the calls return what the ideal reader
returns, and what the ideal reader leaves is what the call under way has read and what is unread. -/
theorem reads_refine (h : Talk k fuel truthful dm fd (.start obj {}) sides p)
    (hfuel : ∀ side, (p.2.pipe side).written.length < fuel) (side : Side)
    (hunhurried : ∀ v ∈ (p.1 side.other).visits, Unhurried k v) :
    idealRun ((p.1 side.other).visits.flatMap readsIn)
        ((p.1 side).visits.flatMap saidIn ++ put (p.1 side).underway) =
      some ((p.1 side.other).visits.flatMap fieldIn, taken (p.1 side.other).underway ++ (p.2.pipe side).unread) := by
  have hfaithful := talk_faithful h hfuel side.other
  have hvisits : ∀ v ∈ (p.1 side.other).visits, Ideally v := fun v hv =>
    talk_sound h side.other (fun v hw hr => ideally_of_runs hw hr) v hv (hfaithful v hv).returned (hunhurried v hv)
  rw [talk_conserves h hfuel side, List.append_assoc]
  exact ideally_visits hvisits _

end Talk

section Examples

instance (a : (c : Sys) × Ans c) : Decidable (Prompt a) := match a with
  | ⟨.select .., x⟩ => inferInstanceAs (Decidable ((0 : ℤ) < x))
  | ⟨.recv .., x⟩ => inferInstanceAs (Decidable (Received.data x ≠ []))
  | ⟨.socket .., _⟩ | ⟨.setsockopt .., _⟩ | ⟨.connect .., _⟩ | ⟨.bind .., _⟩ | ⟨.listen .., _⟩ | ⟨.accept .., _⟩
  | ⟨.close .., _⟩ | ⟨.getsockname .., _⟩ | ⟨.send .., _⟩ | ⟨.sendto .., _⟩ | ⟨.recvfrom .., _⟩
  | ⟨.getaddrinfo .., _⟩ | ⟨.inet_ntop .., _⟩ | ⟨.strerror .., _⟩ | ⟨.callback .., _⟩ | ⟨.remove .., _⟩
  | ⟨.errno, _⟩ => .isTrue trivial

instance {S : Type} {dm : DataModel} (k : Connection S) (v : TalkVisit S dm) : Decidable (Unhurried k v) :=
  match v with
  | ⟨.read _, o, _, tr, _, _, _⟩ =>
    inferInstanceAs (Decidable (k.socket o ≠ -1 ∧ ∀ e ∈ tr, Prompt e.act))
  | ⟨.send .., _, _, _, _, _, _⟩ | ⟨.ready _, _, _, _, _, _, _⟩ | ⟨.connected _, _, _, _, _, _, _⟩
  | ⟨.close, _, _, _, _, _, _⟩ => .isTrue trivial

/-- One side sends three bytes in two portions, and the other reads one of them, then two more. -/
theorem reads_refine_three :
    let get : TalkCall .lp64 := .read (.get 0 (by decide))
    let receive : TalkCall .lp64 := .read (.receiveAmount 2 (by decide) 0 (by decide))
    let turns : List (Side × TalkCall .lp64) := List.flatten [List.replicate 3 (.near, .send [7, 8] (by decide) 0),
      List.replicate 3 (.far, get), List.replicate 2 (.far, receive), List.replicate 3 (.near, .send [9] (by decide) 0),
      List.replicate 3 (.far, receive)]
    ((talk turns).1 (.other .near)).visits.flatMap fieldIn = [[7], [8, 9]] ∧
      idealRun (((talk turns).1 (.other .near)).visits.flatMap readsIn)
          (((talk turns).1 .near).visits.flatMap saidIn ++ put ((talk turns).1 .near).underway) =
        some (((talk turns).1 (.other .near)).visits.flatMap fieldIn,
          taken ((talk turns).1 (.other .near)).underway ++ ((talk turns).2.pipe .near).unread) := by
  intro get receive turns
  refine ⟨by decide +kernel, ?_⟩
  exact reads_refine (talk_turns turns) (by rintro (_ | _) <;> decide +kernel) .near (by decide +kernel)

end Examples

end SocketLibrary.Exchange
