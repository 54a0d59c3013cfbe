import Mathlib.Data.Set.Defs
import Mathlib.Logic.Function.Basic
import Mathlib.Tactic.SplitIfs
import SocketLibrary.Posix.Calls

/-!
# Descriptors and files as an environment

The state is the table of the open descriptors, each with the socket it stands for, and the files of the file system
with what made them. A socket is given by a number that is never used again, so that two uses of one descriptor number
can be told apart.

The environment is demonic: a call may fail at any time, a new descriptor takes any number that is not open, and the
answers that say nothing about descriptors and files are arbitrary. Three things are fixed, and the results rest on
them: `bind` fails at a path where a file lies and creates the file otherwise, `close` and `remove` do their work.
-/

namespace SocketLibrary.Posix

open SocketLibrary.Interaction

/-- What a file was made by: the `bind` of a socket, or something else. -/
inductive Owner where
  | socket (id : ℕ)
  | other
  deriving DecidableEq, Repr

/-- The open descriptors and the files. -/
structure Kernel where
  table : SOCKET → Option ℕ
  files : Bytes → Option Owner
  /-- The number of the next socket. -/
  fresh : ℕ
  table_valid : ∀ fd id, table fd = some id → 0 ≤ fd ∧ id < fresh
  files_valid : ∀ path id, files path = some (.socket id) → id < fresh
  files_nil : files [] = none

namespace Kernel

variable (k : Kernel)

/-- A new socket behind the descriptor `fd`. -/
def opened (fd : SOCKET) (h : 0 ≤ fd) : Kernel where
  table := Function.update k.table fd (some k.fresh)
  files := k.files
  fresh := k.fresh + 1
  table_valid := by
    intro fd' id hid
    by_cases hfd : fd' = fd
    · subst hfd
      rw [Function.update_self, Option.some_inj] at hid
      exact ⟨h, by omega⟩
    · rw [Function.update_of_ne hfd] at hid
      obtain ⟨h1, h2⟩ := k.table_valid fd' id hid
      exact ⟨h1, by omega⟩
  files_valid := fun path id h => Nat.lt_succ_of_lt (k.files_valid path id h)
  files_nil := k.files_nil

def closed (fd : SOCKET) : Kernel where
  table := Function.update k.table fd none
  files := k.files
  fresh := k.fresh
  table_valid := by
    intro fd' id hid
    by_cases hfd : fd' = fd
    · subst hfd
      simp at hid
    · rw [Function.update_of_ne hfd] at hid
      exact k.table_valid fd' id hid
  files_valid := k.files_valid
  files_nil := k.files_nil

/-- The socket `id` has made the file `path`. -/
def created (path : Bytes) (id : ℕ) (h : path ≠ []) (hid : id < k.fresh) : Kernel where
  table := k.table
  files := Function.update k.files path (some (.socket id))
  fresh := k.fresh
  table_valid := k.table_valid
  files_valid := by
    intro path' id' hid'
    by_cases hpath : path' = path
    · subst hpath
      rw [Function.update_self] at hid'
      cases hid'
      exact hid
    · rw [Function.update_of_ne hpath] at hid'
      exact k.files_valid path' id' hid'
  files_nil := by
    rw [Function.update_of_ne h.symm]
    exact k.files_nil

def removed (path : Bytes) : Kernel where
  table := k.table
  files := Function.update k.files path none
  fresh := k.fresh
  table_valid := k.table_valid
  files_valid := by
    intro path' id hid
    by_cases hpath : path' = path
    · subst hpath
      simp at hid
    · rw [Function.update_of_ne hpath] at hid
      exact k.files_valid path' id hid
  files_nil := by
    by_cases h : path = []
    · subst h
      simp
    · rw [Function.update_of_ne (Ne.symm h)]
      exact k.files_nil

/-- `socket` and `accept` answer `fd`. -/
def Opens (fd : SOCKET) (k' : Kernel) : Prop :=
  fd = -1 ∧ k' = k ∨ ∃ h : 0 ≤ fd, k.table fd = none ∧ k' = k.opened fd h

/-- The name of the file a `sockaddr_un` stands for; without a name no file is made. -/
def fileName : SockAddr → Bytes
  | .inet _ => []
  | .un sun_path => c_str sun_path

/-- `bind` answers `result`. -/
def Binds (fd : SOCKET) (address : SockAddr) (result : ℤ) (k' : Kernel) : Prop :=
  result = -1 ∧ k' = k ∨
  result = 0 ∧ ∃ id, ∃ hid : k.table fd = some id, fileName address = [] ∧ k' = k ∨
    ∃ h : fileName address ≠ [], k.files (fileName address) = none ∧
      k' = k.created (fileName address) id h (k.table_valid fd id hid).2

/-- The environment. An operation of the user neither opens nor closes descriptors nor touches files. -/
@[simp] def env : Env Sys Ans Kernel
  | .socket .., k, fd, k' => k.Opens fd k'
  | .accept .., k, accepted, k' => k.Opens accepted.fd k'
  | .close fd, k, _, k' => k' = k.closed fd
  | .bind fd address _, k, result, k' => k.Binds fd address result k'
  | .remove path, k, _, k' => k' = k.removed path
  | _, k, _, k' => k' = k

/-! ### Opening and closing -/

def openDescriptors : Set SOCKET := {fd | k.table fd ≠ none}

variable {k}

theorem table_neg_one : k.table (-1) = none := by
  by_contra h
  obtain ⟨id, hid⟩ := Option.ne_none_iff_exists'.1 h
  exact absurd (k.table_valid _ _ hid).1 (by decide)

@[simp] theorem opens_neg_one {k' : Kernel} : k.Opens (-1) k' ↔ k' = k := by
  constructor
  · rintro (⟨-, h⟩ | ⟨h, -⟩)
    · exact h
    · exact absurd h (by decide)
  · exact fun h => Or.inl ⟨rfl, h⟩

theorem Opens.of_ne {fd : SOCKET} {k' : Kernel} (h : k.Opens fd k') (hfd : fd ≠ -1) :
    ∃ h0 : 0 ≤ fd, k.table fd = none ∧ k' = k.opened fd h0 :=
  h.resolve_left fun h => hfd h.1

@[simp] theorem opened_table {fd : SOCKET} (h : 0 ≤ fd) :
    (k.opened fd h).table = Function.update k.table fd (some k.fresh) := rfl

@[simp] theorem closed_table (fd : SOCKET) : (k.closed fd).table = Function.update k.table fd none := rfl

@[simp] theorem created_table {path : Bytes} {id : ℕ} (h : path ≠ []) (hid : id < k.fresh) :
    (k.created path id h hid).table = k.table := rfl

@[simp] theorem removed_table (path : Bytes) : (k.removed path).table = k.table := rfl

theorem Binds.table {fd : SOCKET} {address : SockAddr} {result : ℤ} {k' : Kernel}
    (h : k.Binds fd address result k') : k'.table = k.table := by
  rcases h with ⟨-, rfl⟩ | ⟨-, id, -, ⟨-, rfl⟩ | ⟨h, -, rfl⟩⟩ <;> rfl

/-- A step makes no old socket reachable anew: what is open after it was open before, or is new. -/
theorem env_table {c : Sys} {k k' : Kernel} {x : Ans c} (h : env c k x k') :
    k.fresh ≤ k'.fresh ∧ ∀ fd id, k'.table fd = some id → k.table fd = some id ∨ k.fresh ≤ id := by
  have hopens : ∀ {fd}, k.Opens fd k' →
      k.fresh ≤ k'.fresh ∧ ∀ fd id, k'.table fd = some id → k.table fd = some id ∨ k.fresh ≤ id := by
    rintro fd (⟨-, rfl⟩ | ⟨h0, -, rfl⟩)
    · exact ⟨Nat.le_refl _, fun _ _ h => Or.inl h⟩
    · refine ⟨Nat.le_succ _, fun fd' id h => ?_⟩
      rw [opened_table] at h
      by_cases hfd : fd' = fd
      · subst hfd
        rw [Function.update_self, Option.some_inj] at h
        exact Or.inr (Nat.le_of_eq h)
      · rw [Function.update_of_ne hfd] at h
        exact Or.inl h
  cases c with
  | socket d t p => exact hopens h
  | accept fd l => exact hopens h
  | close fd =>
    obtain rfl : k' = k.closed fd := h
    refine ⟨Nat.le_refl _, fun fd' id h => Or.inl ?_⟩
    rw [closed_table] at h
    by_cases hfd : fd' = fd
    · subst hfd
      simp at h
    · rwa [Function.update_of_ne hfd] at h
  | bind fd address l =>
    rcases h with ⟨-, rfl⟩ | ⟨-, id, -, ⟨-, rfl⟩ | ⟨h, -, rfl⟩⟩ <;> exact ⟨Nat.le_refl _, fun _ _ h => Or.inl h⟩
  | remove path =>
    obtain rfl : k' = k.removed path := h
    exact ⟨Nat.le_refl _, fun _ _ h => Or.inl h⟩
  | _ =>
    obtain rfl : k' = k := h
    exact ⟨Nat.le_refl _, fun _ _ h => Or.inl h⟩

/-- And neither does a run. -/
theorem runs_table {α : Type} {m : Prog Sys Ans α} {k k' : Kernel} {tr : List (Event Sys Ans Kernel)} {a : α}
    (h : m.Runs env k tr a k') :
    k.fresh ≤ k'.fresh ∧ ∀ fd id, k'.table fd = some id → k.table fd = some id ∨ k.fresh ≤ id := by
  refine (h.invariant (I := fun k₁ => k.fresh ≤ k₁.fresh ∧
    ∀ fd id, k₁.table fd = some id → k.table fd = some id ∨ k.fresh ≤ id) ?_ ⟨Nat.le_refl _, fun _ _ h => Or.inl h⟩).1
  rintro c k₁ x k₂ ⟨hle, htable⟩ hc
  obtain ⟨hle', htable'⟩ := env_table hc
  refine ⟨Nat.le_trans hle hle', fun fd id hid => ?_⟩
  rcases htable' fd id hid with hid | hid
  · exact htable fd id hid
  · exact Or.inr (Nat.le_trans hle hid)

/-! ### An execution -/

/-- A system on which the calls `fails` go wrong, and the next descriptor is `next`. -/
def serve (fails : Sys → Bool) (next : SOCKET) (c : Sys) (k : Kernel) : Ans c × Kernel :=
  match c with
  | .socket .. =>
    if h : 0 ≤ next ∧ k.table next = none ∧ fails c = false then (next, k.opened next h.1) else (-1, k)
  | .accept .. =>
    if h : 0 ≤ next ∧ k.table next = none ∧ fails c = false then (⟨next, .zero, []⟩, k.opened next h.1)
    else (⟨-1, .zero, []⟩, k)
  | .close fd => ((), k.closed fd)
  | .bind fd address _ =>
    match hid : k.table fd with
    | none => (-1, k)
    | some id =>
      if fails c then (-1, k)
      else if h : fileName address = [] then (0, k)
      else if k.files (fileName address) = none then
        (0, k.created (fileName address) id h (k.table_valid fd id hid).2)
      else (-1, k)
  | .remove path => (if k.files path = none then -1 else 0, k.removed path)
  | .getsockname _ => ((if fails c then -1 else 0, .zero), k)
  | .recv .. => (.error, k)
  | .recvfrom .. => (⟨-1, [], .zero⟩, k)
  | .getaddrinfo .. => ((0, [.zero]), k)
  | .inet_ntop .. => (if fails c then none else some (text "10.0.0.1"), k)
  | .strerror _ => ([], k)
  | .callback .. => (if fails c then .threw else .returned, k)
  | .setsockopt .. | .connect .. | .listen .. | .select .. | .send .. | .sendto .. | .errno =>
    (if fails c then -1 else 0, k)

theorem serve_env (fails : Sys → Bool) (next : SOCKET) (c : Sys) (k : Kernel) :
    env c k (serve fails next c k).1 (serve fails next c k).2 := by
  cases c with
  | socket d t p =>
    simp only [serve, env]
    split
    case isTrue h => exact Or.inr ⟨h.1, h.2.1, rfl⟩
    case isFalse => exact Or.inl ⟨rfl, rfl⟩
  | accept fd l =>
    simp only [serve, env]
    split
    case isTrue h => exact Or.inr ⟨h.1, h.2.1, rfl⟩
    case isFalse => exact Or.inl ⟨rfl, rfl⟩
  | bind fd address l =>
    simp only [serve, env]
    split
    case h_1 => exact Or.inl ⟨rfl, rfl⟩
    case h_2 id hid =>
      split_ifs with h1 h2 h3
      · exact Or.inl ⟨rfl, rfl⟩
      · exact Or.inr ⟨rfl, id, hid, Or.inl ⟨h2, rfl⟩⟩
      · exact Or.inr ⟨rfl, id, hid, Or.inr ⟨h2, h3, rfl⟩⟩
      · exact Or.inl ⟨rfl, rfl⟩
  | _ => simp [serve]

/-- The run of a method on this system. -/
def execute {S α : Type} (fails : Sys → Bool) (next : SOCKET) (m : M S α) (o : S) (k : Kernel) :
    List (Event Sys Ans Kernel) × (Outcome Exn α × S) × Kernel :=
  (m o).exec (serve fails next) k

theorem execute_runs {S α : Type} (fails : Sys → Bool) (next : SOCKET) (m : M S α) (o : S) (k : Kernel) :
    m.Runs env o k (execute fails next m o k).1 (execute fails next m o k).2.1.1 (execute fails next m o k).2.1.2
      (execute fails next m o k).2.2 :=
  Prog.exec_runs (serve_env fails next) _ k

/-- Nothing is open, and the files with the names `names` were made by something else. -/
def boot (names : List Bytes) : Kernel where
  table := fun _ => none
  files := fun path => if path ∈ names ∧ path ≠ [] then some .other else none
  fresh := 0
  table_valid := by simp
  files_valid := by
    intro path id h
    split_ifs at h
    cases h
  files_nil := by simp

end Kernel

end SocketLibrary.Posix
