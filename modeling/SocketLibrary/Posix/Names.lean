import SocketLibrary.Posix.Kernel

/-!
# The names of sockets

`Net` adds to the kernel what each socket is bound to. A socket is bound at most once, and to what it was asked for,
with a port of the system's choice where none was given; `getsockname` tells. Whatever runs in this environment runs in
the one of the kernel alone (`Net.runs_kernel`), and a name once given stays (`Net.runs_names`).
-/

namespace SocketLibrary.Posix

open SocketLibrary.Interaction

/-- The kernel, and the name of each socket that is bound. -/
@[ext] structure Net where
  kernel : Kernel
  names : ℕ → Option SockAddr
  names_valid : ∀ id name, names id = some name → id < kernel.fresh

/-- The host part of an internet address. -/
def SocketAddress.host (a : SocketAddress) : Bytes := if a.sa_family = 10 then a.sin6_addr else a.sin_addr

/-- A socket that is bound to `address` may have the name `name`. -/
def Assigned : SockAddr → SockAddr → Prop
  | .inet a, .inet b => b.sa_family = a.sa_family ∧ b.host = a.host ∧ (a.sin_port ≠ 0 → b.sin_port = a.sin_port)
  | .un path, .un path' => path' = path
  | _, _ => False

namespace Net

variable (n : Net)

/-- The descriptor is open, and its socket has the name. -/
def Named (fd : SOCKET) (name : SockAddr) : Prop := ∃ id, n.kernel.table fd = some id ∧ n.names id = some name

/-- The descriptor is open, and its socket has no name. -/
def Unbound (fd : SOCKET) : Prop := ∃ id, n.kernel.table fd = some id ∧ n.names id = none

/-- The kernel goes on without a new name. -/
def goes (k' : Kernel) (h : n.kernel.fresh ≤ k'.fresh) : Net :=
  ⟨k', n.names, fun id name hid => Nat.lt_of_lt_of_le (n.names_valid id name hid) h⟩

/-- The socket `id` gets the name. -/
def named (k' : Kernel) (h : n.kernel.fresh ≤ k'.fresh) (id : ℕ) (hid : id < n.kernel.fresh) (name : SockAddr) : Net where
  kernel := k'
  names := Function.update n.names id (some name)
  names_valid := by
    intro id' name' h'
    by_cases hid' : id' = id
    · subst hid'
      exact Nat.lt_of_lt_of_le hid h
    · rw [Function.update_of_ne hid'] at h'
      exact Nat.lt_of_lt_of_le (n.names_valid id' name' h') h

/-- `bind` answers `result`. -/
def Binds (fd : SOCKET) (address : SockAddr) (result : ℤ) (n' : Net) : Prop :=
  result = -1 ∧ n' = n ∨
  result = 0 ∧ n.kernel.Binds fd address 0 n'.kernel ∧ ∃ id name, n.kernel.table fd = some id ∧ n.names id = none ∧
    Assigned address name ∧ n'.names = Function.update n.names id (some name)

/-- `getsockname` gives an answer. -/
def Tells (fd : SOCKET) : ℤ × SocketAddress → Prop
  | (result, address) => result = -1 ∨
    result = 0 ∧ ∃ id, n.kernel.table fd = some id ∧ ∀ a, n.names id = some (.inet a) → address = a

/-- The environment. -/
@[simp] def env : Env Sys Ans Net
  | .bind fd address _, n, result, n' => n.Binds fd address result n'
  | .getsockname fd, n, answer, n' => n.Tells fd answer ∧ n' = n
  | c, n, x, n' => Kernel.env c n.kernel x n'.kernel ∧ n'.names = n.names

variable {n}

/-- Each answer is one that the kernel can give. -/
theorem env_kernel {c : Sys} {n n' : Net} {x : Ans c} (h : env c n x n') : Kernel.env c n.kernel x n'.kernel := by
  cases c with
  | bind fd address l =>
    rcases h with ⟨rfl, rfl⟩ | ⟨rfl, hbind, -⟩
    · exact Or.inl ⟨rfl, rfl⟩
    · exact hbind
  | getsockname fd => exact congrArg Net.kernel h.2
  | _ => exact h.1

/-- A call takes no name away. -/
theorem env_names {c : Sys} {n n' : Net} {x : Ans c} (h : env c n x n') {id : ℕ} {name : SockAddr}
    (hid : n.names id = some name) : n'.names id = some name := by
  cases c with
  | bind fd address l =>
    rcases h with ⟨-, rfl⟩ | ⟨-, -, id', name', -, hnone, -, hnames⟩
    · exact hid
    · have hne : id ≠ id' := by
        rintro rfl
        rw [hnone] at hid
        cases hid
      rw [hnames, Function.update_of_ne hne, hid]
  | getsockname fd =>
    obtain rfl : n' = n := h.2
    exact hid
  | _ =>
    rw [h.2]
    exact hid

/-- Every run is one of the kernel. -/
theorem runs_kernel {α : Type} {m : Prog Sys Ans α} {n n' : Net} {tr : List (Event Sys Ans Net)} {a : α}
    (h : m.Runs env n tr a n') : ∃ tr', m.Runs Kernel.env n.kernel tr' a n'.kernel := by
  have hstep : ∀ c (n : Net) k x n', n.kernel = k → env c n x n' → ∃ k', Kernel.env c k x k' ∧ n'.kernel = k' := by
    rintro c n _ x n' rfl hc
    exact ⟨n'.kernel, env_kernel hc, rfl⟩
  obtain ⟨tr', k', hrun, rfl, -⟩ := h.simulate (R := fun n k => n.kernel = k) hstep rfl
  exact ⟨tr', hrun⟩

/-- And it takes no name away. -/
theorem runs_names {α : Type} {m : Prog Sys Ans α} {n n' : Net} {tr : List (Event Sys Ans Net)} {a : α}
    (h : m.Runs env n tr a n') {id : ℕ} {name : SockAddr} (hid : n.names id = some name) : n'.names id = some name :=
  (h.invariant (I := fun n => n.names id = some name) (fun _ _ _ _ hn hc => env_names hc hn) hid).1

/-! ### An execution -/

/-- The system of `Kernel.serve`, on which a socket gets just the name it asks for. -/
def serve (fails : Sys → Bool) (next : SOCKET) (c : Sys) (n : Net) : Ans c × Net :=
  match c with
  | .bind fd address l =>
    match hid : n.kernel.table fd with
    | none => (-1, n)
    | some id =>
      if (Kernel.serve fails next (.bind fd address l) n.kernel).1 = 0 ∧ n.names id = none then
        (0, n.named (Kernel.serve fails next (.bind fd address l) n.kernel).2
          (Kernel.env_table (Kernel.serve_env fails next _ n.kernel)).1 id (n.kernel.table_valid fd id hid).2 address)
      else (-1, n)
  | .getsockname fd =>
    match n.kernel.table fd with
    | none => ((-1, .zero), n)
    | some id =>
      if fails (.getsockname fd) then ((-1, .zero), n)
      else match n.names id with
        | some (.inet a) => ((0, a), n)
        | _ => ((0, .zero), n)
  | c =>
    ((Kernel.serve fails next c n.kernel).1,
      n.goes (Kernel.serve fails next c n.kernel).2 (Kernel.env_table (Kernel.serve_env fails next c n.kernel)).1)

theorem assigned_self (address : SockAddr) : Assigned address address := by
  cases address with
  | inet a => exact ⟨rfl, rfl, fun _ => rfl⟩
  | un path => rfl

theorem serve_env (fails : Sys → Bool) (next : SOCKET) (c : Sys) (n : Net) :
    env c n (serve fails next c n).1 (serve fails next c n).2 := by
  cases c with
  | bind fd address l =>
    simp only [serve, env]
    split
    case h_1 => exact Or.inl ⟨rfl, rfl⟩
    case h_2 id hid =>
      split_ifs with h
      · have hbind := Kernel.serve_env fails next (.bind fd address l) n.kernel
        rw [Kernel.env, h.1] at hbind
        exact Or.inr ⟨rfl, hbind, id, address, hid, h.2, assigned_self address, rfl⟩
      · exact Or.inl ⟨rfl, rfl⟩
  | getsockname fd =>
    simp only [serve, env]
    split
    case h_1 => exact ⟨Or.inl rfl, rfl⟩
    case h_2 id hid =>
      split_ifs with hfails
      · exact ⟨Or.inl rfl, rfl⟩
      · split
        case h_1 a hname =>
          refine ⟨Or.inr ⟨rfl, id, hid, fun b hb => ?_⟩, rfl⟩
          rw [hname] at hb
          cases hb
          rfl
        case h_2 hname => exact ⟨Or.inr ⟨rfl, id, hid, fun b hb => absurd hb (hname b)⟩, rfl⟩
  | _ => exact ⟨Kernel.serve_env fails next _ n.kernel, rfl⟩

/-- The run of a method on this system. -/
def execute {S α : Type} (fails : Sys → Bool) (next : SOCKET) (m : M S α) (o : S) (n : Net) :
    List (Event Sys Ans Net) × (Outcome Exn α × S) × Net :=
  (m o).exec (serve fails next) n

theorem execute_runs {S α : Type} (fails : Sys → Bool) (next : SOCKET) (m : M S α) (o : S) (n : Net) :
    m.Runs env o n (execute fails next m o n).1 (execute fails next m o n).2.1.1 (execute fails next m o n).2.1.2
      (execute fails next m o n).2.2 :=
  Prog.exec_runs (serve_env fails next) _ n

/-- Nothing is open, and there are no files. -/
def boot : Net := ⟨.boot [], fun _ => none, nofun⟩

end Net

end SocketLibrary.Posix
