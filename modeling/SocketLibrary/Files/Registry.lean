import Mathlib.Tactic
import SocketLibrary.Posix.Kernel

/-!
# Names and who bound them

The file system as a register of names, beside the records of who bound which name and whether that binding still
stands: it ends when its owner closes, and when somebody clears the name. `Sound` is what ties the records to the
files; it is kept by clearing a name, by binding a free one, and by closing as long as the closing party's own binding
stands or its name is free (`Sound.removes_own_iff` says that this is exactly when closing removes no foreign file).
-/

namespace SocketLibrary.Files

open SocketLibrary.Posix

/-- A binding that was made: the name, the socket that was bound, and whether the binding still stands. -/
structure Record where
  name : Bytes
  id : ℕ
  stands : Bool

/-- The last binding of each party. -/
abbrev Records := ℕ → Option Record

namespace Records

variable (records : Records)

/-- Somebody clears the name: the bindings of the name stand no longer. -/
def supersede (name : Bytes) : Records := fun i =>
  (records i).map fun b => ⟨b.name, b.id, b.stands && b.name != name⟩

/-- The party `i` closes. -/
def retire (i : ℕ) : Records := Function.update records i ((records i).map fun b => ⟨b.name, b.id, false⟩)

/-- The party `i` has bound the name, with the socket `id`. -/
def bind (i : ℕ) (name : Bytes) (id : Option ℕ) : Records :=
  Function.update records i (id.map fun id => ⟨name, id, true⟩)

variable {records}

theorem of_supersede {name : Bytes} {i : ℕ} {b : Record} (h : records.supersede name i = some b) :
    ∃ c, records i = some c ∧ b.name = c.name ∧ b.id = c.id ∧ (b.stands = true ↔ c.stands = true ∧ c.name ≠ name) := by
  obtain ⟨c, hc, rfl⟩ := Option.map_eq_some_iff.1 h
  exact ⟨c, hc, rfl, rfl, by simp⟩

theorem of_retire {i j : ℕ} {b : Record} (h : records.retire i j = some b) :
    ∃ c, records j = some c ∧ b.name = c.name ∧ b.id = c.id ∧ (b.stands = true ↔ c.stands = true ∧ j ≠ i) := by
  by_cases hj : j = i
  · subst hj
    rw [retire, Function.update_self] at h
    obtain ⟨c, hc, rfl⟩ := Option.map_eq_some_iff.1 h
    exact ⟨c, hc, rfl, rfl, by simp⟩
  · rw [retire, Function.update_of_ne hj] at h
    exact ⟨b, h, rfl, rfl, by simp [hj]⟩

theorem bind_of_ne {i j : ℕ} {name : Bytes} {id : Option ℕ} (h : j ≠ i) : records.bind i name id j = records j :=
  Function.update_of_ne h _ _

theorem supersede_name {name : Bytes} {i : ℕ} {b : Record} (h : records i = some b) :
    ∃ b', records.supersede name i = some b' ∧ b'.name = b.name :=
  ⟨⟨b.name, b.id, b.stands && b.name != name⟩, by rw [supersede, h, Option.map_some], rfl⟩

theorem retire_name {i j : ℕ} {b : Record} (h : records j = some b) :
    ∃ b', records.retire i j = some b' ∧ b'.name = b.name := by
  by_cases hj : j = i
  · subst hj
    exact ⟨⟨b.name, b.id, false⟩, by rw [retire, Function.update_self, h, Option.map_some], rfl⟩
  · exact ⟨b, by rw [retire, Function.update_of_ne hj, h], rfl⟩

end Records

/-- Binding a free name; the empty name makes no file. -/
def Bound (files : Bytes → Option Owner) (name : Bytes) (id : ℕ) (files' : Bytes → Option Owner) : Prop :=
  name = [] ∧ files' = files ∨ name ≠ [] ∧ files name = none ∧ files' = Function.update files name (some (.socket id))

/-- The records fit the files. -/
structure Sound (files : Bytes → Option Owner) (fresh : ℕ) (records : Records) : Prop where
  file_lt : ∀ path id, files path = some (.socket id) → id < fresh
  record_lt : ∀ i b, records i = some b → b.id < fresh
  distinct : ∀ i j b c, records i = some b → records j = some c → b.id = c.id → i = j
  /-- A binding that stands has its file. -/
  own : ∀ i b, records i = some b → b.stands = true → b.name = [] ∨ files b.name = some (.socket b.id)
  /-- And no other file was made by it. -/
  only : ∀ i b path, records i = some b → files path = some (.socket b.id) → b.stands = true ∧ path = b.name

namespace Sound

variable {files files' : Bytes → Option Owner} {fresh fresh' : ℕ} {records : Records}

theorem mono (h : Sound files fresh records) (hle : fresh ≤ fresh') : Sound files fresh' records :=
  ⟨fun p id hp => (h.file_lt p id hp).trans_le hle, fun i b hi => (h.record_lt i b hi).trans_le hle, h.distinct, h.own,
    h.only⟩

theorem update_none {path name : Bytes} {w : Owner} (h : Function.update files name none path = some w) :
    path ≠ name ∧ files path = some w := by
  by_cases hp : path = name
  · simp [hp] at h
  · rw [Function.update_of_ne hp] at h
    exact ⟨hp, h⟩

/-- Clearing a name. -/
theorem supersede (h : Sound files fresh records) (name : Bytes) :
    Sound (Function.update files name none) fresh (records.supersede name) := by
  constructor
  · intro path id hp
    exact h.file_lt path id (update_none hp).2
  · intro i b hi
    obtain ⟨c, hc, -, hid, -⟩ := Records.of_supersede hi
    rw [hid]
    exact h.record_lt i c hc
  · intro i j b c hi hj hbc
    obtain ⟨b', hb, -, hid, -⟩ := Records.of_supersede hi
    obtain ⟨c', hc, -, hid', -⟩ := Records.of_supersede hj
    exact h.distinct i j b' c' hb hc (by rw [← hid, ← hid', hbc])
  · intro i b hi hs
    obtain ⟨c, hc, hname, hid, hstands⟩ := Records.of_supersede hi
    obtain ⟨hcs, hne⟩ := hstands.1 hs
    rw [hname, hid, Function.update_of_ne hne]
    exact h.own i c hc hcs
  · intro i b path hi hp
    obtain ⟨c, hc, hname, hid, hstands⟩ := Records.of_supersede hi
    obtain ⟨hne, hp⟩ := update_none hp
    rw [hid] at hp
    obtain ⟨hcs, rfl⟩ := h.only i c path hc hp
    exact ⟨hstands.2 ⟨hcs, hne⟩, hname.symm⟩

/-- Binding a free name with a new socket. -/
theorem bind (h : Sound files fresh records) {name : Bytes} (hb : Bound files name fresh files') (i : ℕ) :
    Sound files' (fresh + 1) (records.bind i name (some fresh)) := by
  -- a file is an old one, or the one that was just made
  have hfile : ∀ {path w}, files' path = some w → files path = some w ∨ path = name ∧ w = .socket fresh := by
    intro path w hp
    rcases hb with ⟨-, rfl⟩ | ⟨-, -, rfl⟩
    · exact Or.inl hp
    · by_cases hpath : path = name
      · subst hpath
        rw [Function.update_self, Option.some_inj] at hp
        exact Or.inr ⟨rfl, hp.symm⟩
      · rw [Function.update_of_ne hpath] at hp
        exact Or.inl hp
  -- and so is a record
  have hrecord : ∀ {j b}, records.bind i name (some fresh) j = some b →
      j = i ∧ b = ⟨name, fresh, true⟩ ∨ j ≠ i ∧ records j = some b := by
    intro j b hj
    by_cases hji : j = i
    · subst hji
      rw [Records.bind, Function.update_self, Option.map_some, Option.some_inj] at hj
      exact Or.inl ⟨rfl, hj.symm⟩
    · rw [Records.bind, Function.update_of_ne hji] at hj
      exact Or.inr ⟨hji, hj⟩
  constructor
  · intro path id hp
    rcases hfile hp with hp | ⟨-, hw⟩
    · exact (h.file_lt path id hp).trans (Nat.lt_succ_self _)
    · cases hw
      exact Nat.lt_succ_self _
  · intro j b hj
    rcases hrecord hj with ⟨-, rfl⟩ | ⟨-, hj⟩
    · exact Nat.lt_succ_self _
    · exact (h.record_lt j b hj).trans (Nat.lt_succ_self _)
  · intro j l b c hj hl hbc
    rcases hrecord hj with ⟨rfl, rfl⟩ | ⟨-, hj'⟩
    · rcases hrecord hl with ⟨rfl, rfl⟩ | ⟨-, hl⟩
      · rfl
      · exact absurd hbc.symm (h.record_lt l c hl).ne
    · rcases hrecord hl with ⟨-, rfl⟩ | ⟨-, hl⟩
      · exact absurd hbc (h.record_lt j b hj').ne
      · exact h.distinct j l b c hj' hl hbc
  · intro j b hj hs
    rcases hrecord hj with ⟨-, rfl⟩ | ⟨-, hj⟩
    · rcases hb with ⟨hnil, -⟩ | ⟨-, -, rfl⟩
      · exact Or.inl hnil
      · exact Or.inr (Function.update_self ..)
    · rcases h.own j b hj hs with hnil | hp
      · exact Or.inl hnil
      · right
        rcases hb with ⟨-, rfl⟩ | ⟨-, hnone, rfl⟩
        · exact hp
        · rw [Function.update_of_ne (fun he => by simp [← he, hp] at hnone)]
          exact hp
  · intro j b path hj hp
    rcases hrecord hj with ⟨-, rfl⟩ | ⟨-, hj⟩
    · rcases hfile hp with hp | ⟨hpath, -⟩
      · exact absurd (h.file_lt path fresh hp) (lt_irrefl _)
      · exact ⟨rfl, hpath⟩
    · rcases hfile hp with hp | ⟨-, hw⟩
      · exact h.only j b path hj hp
      · have hid : b.id = fresh := Owner.socket.inj hw
        exact absurd hid (h.record_lt j b hj).ne

/-- Closing removes no file that another party made, just if the own binding stands or the name is free. -/
theorem removes_own_iff (h : Sound files fresh records) (hnil : files [] = none) {i : ℕ} {b : Record}
    (hi : records i = some b) :
    (∀ w, files b.name = some w → w = .socket b.id) ↔ b.stands = true ∨ files b.name = none := by
  constructor
  · intro hown
    cases hp : files b.name with
    | none => exact Or.inr rfl
    | some w =>
      left
      rw [hown w hp] at hp
      exact (h.only i b b.name hi hp).1
  · rintro (hs | hnone) w hw
    · rcases h.own i b hi hs with hn | hp
      · rw [hn, hnil] at hw
        cases hw
      · rw [hp] at hw
        cases hw
        rfl
    · rw [hnone] at hw
      cases hw

/-- Closing under that condition. -/
theorem retire (h : Sound files fresh records) {i : ℕ} {b : Record} (hi : records i = some b)
    (hown : ∀ w, files b.name = some w → w = .socket b.id) :
    Sound (Function.update files b.name none) fresh (records.retire i) := by
  constructor
  · intro path id hp
    exact h.file_lt path id (update_none hp).2
  · intro j c hj
    obtain ⟨c', hc, -, hid, -⟩ := Records.of_retire hj
    rw [hid]
    exact h.record_lt j c' hc
  · intro j l c d hj hl hcd
    obtain ⟨c', hc, -, hid, -⟩ := Records.of_retire hj
    obtain ⟨d', hd, -, hid', -⟩ := Records.of_retire hl
    exact h.distinct j l c' d' hc hd (by rw [← hid, ← hid', hcd])
  · intro j c hj hs
    obtain ⟨c', hc, hname, hid, hstands⟩ := Records.of_retire hj
    obtain ⟨hcs, hne⟩ := hstands.1 hs
    rw [hname, hid]
    rcases h.own j c' hc hcs with hn | hp
    · exact Or.inl hn
    · right
      -- the removed file was the own one, so it is not this
      rw [Function.update_of_ne fun he => ?_]
      · exact hp
      · rw [he] at hp
        exact hne (h.distinct j i c' b hc hi (Owner.socket.inj (hown _ hp)))
  · intro j c path hj hp
    obtain ⟨c', hc, hname, hid, hstands⟩ := Records.of_retire hj
    obtain ⟨hne, hp⟩ := update_none hp
    rw [hid] at hp
    obtain ⟨hcs, rfl⟩ := h.only j c' path hc hp
    refine ⟨hstands.2 ⟨hcs, fun hji => ?_⟩, hname.symm⟩
    subst hji
    rw [hi] at hc
    cases hc
    exact hne rfl

end Sound

end SocketLibrary.Files
