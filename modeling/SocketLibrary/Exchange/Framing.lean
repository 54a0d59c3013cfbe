import SocketLibrary.Exchange.Reader

/-!
# Messages with a delimiter, sent and read at the same time

One side sends messages, each with the delimiter behind it, in any portions; the other side reads up to the delimiter,
again and again, and meanwhile sends and polls as it likes. As long as no poll of its reading calls comes too early, the
fields that it reads are the messages, one for one and in their order, however the two sides are interleaved
(`fields_arrive`).
-/

namespace SocketLibrary.Exchange

open SocketLibrary.Interaction SocketLibrary.Posix SocketLibrary.Model SocketLibrary.Stream
open SocketLibrary.Model.ConnectionOrientedSocket

/-! ## A field -/

/-- A call that was not cut short has read the delimiter behind what it returned. -/
theorem field_of_prompt {S : Type} {dm : DataModel} {truthful : Prop} {fd fd' : SOCKET} {side : Side} {d : UInt8}
    {flags : ℤ} {fuel : ℕ} {o o' : S} {w w' : Duplex} {tr : List (Event Sys Ans Duplex)} {data : Bytes}
    (hflags : ¬ Peeks flags) (hfd : fd' ≠ -1) (hw : w.Sound side)
    (h : (receiveToDelimiter dm fd' fuel d flags).Runs ((endpoint truthful fd side).after (Duplex.Meanwhile side)) o w tr
      (.returned data) o' w') (hprompt : ∀ e ∈ tr, Prompt e.act) : taken tr = data ++ [d] ∧ d ∉ data := by
  have hwithin : Method.Within Consuming (receiveToDelimiter dm fd' fuel d flags : M S Bytes) :=
    Steps.receiveToDelimiter_within (fun _ _ => trivial) (fun _ _ => hflags) fuel d
  obtain ⟨s, tr', s', hr, hleft, hdelivered⟩ := punctual_of_prompt hwithin hw h hprompt
  obtain ⟨hd, hall | ⟨-, hstops⟩⟩ := receiveToDelimiter_field hr
  · exact ⟨hdelivered ▸ hall, hd⟩
  · exact absurd (punctual_stops hfd hstops) hleft

/-! ## The fields that a side reads -/

section Talk

variable {S : Type} {dm : DataModel} {k : Connection S} {fuel : ℕ} {d : UInt8}

/-- The delimiter up to which a call reads. -/
def delimiterOf : ReadCall → Option UInt8
  | .receiveToDelimiter d _ _ _ => some d
  | _ => none

/-- A call, if it is to read, reads up to `d`, and on a connection that does not make it stop early. -/
def Uncut (k : Connection S) (d : UInt8) (v : TalkVisit S dm) : Prop := match v.call with
  | .read c => delimiterOf c = some d ∧ k.socket v.obj ≠ -1 ∧ ∀ e ∈ v.trace, Prompt e.act
  | _ => True

/-- What a call has heard is what it returned, without the delimiter, and the delimiter. -/
def Framed (d : UInt8) (v : TalkVisit S dm) : Prop :=
  heardIn v = (fieldIn v).flatMap (· ++ [d]) ∧ ∀ f ∈ fieldIn v, d ∉ f

theorem framed_of_nil {v : TalkVisit S dm} (hheard : heardIn v = []) (hfield : fieldIn v = []) : Framed d v := by
  unfold Framed
  rw [hheard, hfield]
  exact ⟨rfl, by simp⟩

/-- **A call that is not cut short.** -/
theorem framed_of_runs {truthful : Prop} {fd : SOCKET} {side : Side} {v : TalkVisit S dm} (hw : v.world.Sound side)
    (h : (v.call.perform k fuel).Runs ((endpoint truthful fd side).after (Duplex.Meanwhile side)) v.obj v.world v.trace
      v.outcome v.obj' v.world') (huncut : Uncut k d v) : Framed d v := by
  obtain ⟨c, o, w, tr, r, o', w'⟩ := v
  cases r with
  | threw e => cases c <;> exact framed_of_nil rfl rfl
  | running => cases c <;> exact framed_of_nil rfl rfl
  | returned reply =>
    cases c with
    | read c =>
      obtain ⟨hdelimiter, hsocket, hprompt⟩ := huncut
      cases c with
      | get flags hflags => cases hdelimiter
      | receiveAmount n hn flags hflags => cases hdelimiter
      | receiveToDelimiter d' hd' flags hflags =>
        cases hdelimiter
        obtain ⟨tr₁, this, o₁, w₁, tr₂, hthis, hrest, rfl⟩ := Method.Runs.of_bind h
        cases hthis
        obtain ⟨tr₃, data, o₂, w₂, tr₄, hread, hreturn, rfl⟩ := Method.Runs.of_bind hrest
        cases hreturn
        rw [List.nil_append, List.append_nil] at hprompt
        obtain ⟨htaken, hd⟩ := field_of_prompt hflags hsocket hw hread hprompt
        unfold Framed
        simp [heardIn, fieldIn, heard, dropped, htaken, hd]
    | send message hlength flags => exact framed_of_nil (by cases reply <;> rfl) rfl
    | ready timeout => exact framed_of_nil (by cases reply <;> rfl) rfl
    | connected timeout => exact framed_of_nil (by cases reply <;> rfl) rfl
    | close => exact framed_of_nil (by cases reply <;> rfl) rfl

/-- The fields at the start of a text are its first messages. -/
theorem messages_of_fields {fields messages : List Bytes} {rest tail : Bytes} (hfields : ∀ f ∈ fields, d ∉ f)
    (hmessages : ∀ m ∈ messages, d ∉ m) (htail : d ∉ tail)
    (h : messages.flatMap (· ++ [d]) ++ tail = fields.flatMap (· ++ [d]) ++ rest) :
    ∃ later, messages = fields ++ later ∧ rest = later.flatMap (· ++ [d]) ++ tail := by
  induction fields generalizing messages with
  | nil => exact ⟨messages, rfl, h.symm⟩
  | cons f fields ih =>
    rw [List.forall_mem_cons] at hfields
    cases messages with
    | nil =>
      rw [List.flatMap_nil, List.nil_append] at h
      exact absurd (h ▸ by simp) htail
    | cons m messages =>
      rw [List.forall_mem_cons] at hmessages
      simp only [List.flatMap_cons, List.append_assoc, List.singleton_append] at h
      obtain ⟨rfl, hrest⟩ := append_cons_cancel hmessages.1 hfields.1 h
      obtain ⟨later, rfl, hlater⟩ := ih hfields.2 hmessages.2 hrest
      exact ⟨later, rfl, hlater⟩

variable {truthful : Prop} {fd : Side → SOCKET} {obj : Side → S} {sides : List Side}
  {p : System Side Sys Ans Duplex Exn S (TalkCall dm) Reply}

theorem talk_framed (h : Talk k fuel truthful dm fd (.start obj {}) sides p) (side : Side)
    (huncut : ∀ v ∈ (p.1 side).visits, Uncut k d v) : ∀ v ∈ (p.1 side).visits, Framed d v :=
  fun v hv => talk_sound h side (fun _ hw hr => framed_of_runs hw hr) v hv (huncut v hv)

/-- **The fields that are read are the messages that were sent**, without the last ones that have not arrived yet. -/
theorem fields_arrive (h : Talk k fuel truthful dm fd (.start obj {}) sides p)
    (hfuel : ∀ side, (p.2.pipe side).written.length < fuel) (side : Side) {messages : List Bytes} {tail : Bytes}
    (hmessages : ∀ m ∈ messages, d ∉ m) (htail : d ∉ tail)
    (hsent : (p.1 side).visits.flatMap saidIn ++ put (p.1 side).underway = messages.flatMap (· ++ [d]) ++ tail)
    (huncut : ∀ v ∈ (p.1 side.other).visits, Uncut k d v) :
    ∃ later, messages = (p.1 side.other).visits.flatMap fieldIn ++ later ∧
      taken (p.1 side.other).underway ++ (p.2.pipe side).unread = later.flatMap (· ++ [d]) ++ tail := by
  have hread := talk_framed h side.other huncut
  have hfields : (p.1 side.other).visits.flatMap heardIn =
      ((p.1 side.other).visits.flatMap fieldIn).flatMap (· ++ [d]) := by
    rw [List.flatMap_assoc]
    exact List.flatMap_congr fun v hv => (hread v hv).1
  have hall := talk_conserves h hfuel side
  rw [hsent, hfields, List.append_assoc] at hall
  refine messages_of_fields ?_ hmessages htail hall
  intro f hf
  obtain ⟨v, hv, hfv⟩ := List.mem_flatMap.1 hf
  exact (hread v hv).2 f hfv

end Talk

section Examples

instance {S : Type} {dm : DataModel} (k : Connection S) (d : UInt8) (v : TalkVisit S dm) : Decidable (Uncut k d v) :=
  match v with
  | ⟨.read c, o, _, tr, _, _, _⟩ =>
    inferInstanceAs (Decidable (delimiterOf c = some d ∧ k.socket o ≠ -1 ∧ ∀ e ∈ tr, Prompt e.act))
  | ⟨.send .., _, _, _, _, _, _⟩ | ⟨.ready _, _, _, _, _, _, _⟩ | ⟨.connected _, _, _, _, _, _, _⟩
  | ⟨.close, _, _, _, _, _, _⟩ => .isTrue trivial

/-- One side sends two messages at once, with `&` behind each, and then a part of a third; the other side reads the first
one. -/
theorem fields_arrive_first :
    let turns : List (Side × TalkCall .lp64) :=
      List.replicate 3 (.near, .send [97, 38, 98] (by decide) 0) ++
        List.replicate 6 (.far, .read (.receiveToDelimiter 38 (by decide) 0 (by decide))) ++
        List.replicate 3 (.near, .send [38, 99] (by decide) 0)
    ∃ later, [[97], [98]] = ((talk turns).1 .far).visits.flatMap fieldIn ++ later ∧
      taken ((talk turns).1 .far).underway ++ ((talk turns).2.pipe .near).unread =
        later.flatMap (· ++ [38]) ++ [99] := by
  intro turns
  exact fields_arrive (talk_turns turns) (by rintro (_ | _) <;> decide) .near (by decide) (by decide)
    (by decide) (by decide)

end Examples

end SocketLibrary.Exchange
