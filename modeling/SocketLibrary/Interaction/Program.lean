import Mathlib.Data.Nat.Notation

/-!
# Programs that call their environment

A program is a tree: it ends in a value, or it makes a call `c` of a signature and goes on with the answer, a value
of the type `A c`. Nothing is said here about what the environment does; that is a relation on states, in
`SocketLibrary.Interaction.Run`.

A *method* is a program that reads and writes the fields of one object: it starts from the object, and ends in an
outcome together with the object as it is then, also when it ends by throwing. Loops take fuel; a method whose fuel
is used up ends in `Outcome.running`.
-/

namespace SocketLibrary.Interaction

/-- A program over the calls `C`, where the answer to the call `c` has type `A c`. -/
inductive Prog (C : Type) (A : C → Type) (α : Type) where
  | pure (a : α)
  | call (c : C) (k : A c → Prog C A α)

namespace Prog

variable {C : Type} {A : C → Type} {α β : Type}

/-- Sequencing: run `m`, and go on with `f` on its value. -/
def bind : Prog C A α → (α → Prog C A β) → Prog C A β
  | .pure a, f => f a
  | .call c k, f => .call c fun x => (k x).bind f

@[simp] theorem pure_bind (a : α) (f : α → Prog C A β) : (Prog.pure a : Prog C A α).bind f = f a := rfl

@[simp] theorem call_bind (c : C) (k : A c → Prog C A α) (f : α → Prog C A β) :
    (Prog.call c k).bind f = .call c fun x => (k x).bind f := rfl

end Prog

/-- How a method ends: with a value, by an exception, or not within its fuel. -/
inductive Outcome (E α : Type) where
  | returned (a : α)
  | threw (e : E)
  | running
  deriving DecidableEq, Repr

/-- The outcome is an exception. -/
def Outcome.Threw {E α : Type} : Outcome E α → Prop
  | .threw _ => True
  | _ => False

section OutcomeLemmas

variable {E α : Type}

@[simp] theorem Outcome.threw_threw (e : E) : (Outcome.threw e : Outcome E α).Threw := trivial
@[simp] theorem Outcome.not_threw_returned (a : α) : ¬ (Outcome.returned a : Outcome E α).Threw := fun h => h
@[simp] theorem Outcome.not_threw_running : ¬ (Outcome.running : Outcome E α).Threw := fun h => h

theorem Outcome.Threw.exists_eq {r : Outcome E α} (h : r.Threw) : ∃ e, r = .threw e := by
  cases r with
  | threw e => exact ⟨e, rfl⟩
  | returned a => exact h.elim
  | running => exact h.elim

end OutcomeLemmas

/-- A method of an object with fields `S`, throwing exceptions of type `E`. -/
def Method (C : Type) (A : C → Type) (E S α : Type) : Type := S → Prog C A (Outcome E α × S)

namespace Method

variable {C : Type} {A : C → Type} {E S α β γ : Type}

/-- What follows a method that ended in `r` with the object `o`: an exception, and a loop that is still running, pass
through. -/
def next (f : α → Method C A E S β) : Outcome E α × S → Prog C A (Outcome E β × S)
  | (.returned a, o) => f a o
  | (.threw e, o) => .pure (.threw e, o)
  | (.running, o) => .pure (.running, o)

instance : Monad (Method C A E S) where
  pure a := fun o => .pure (.returned a, o)
  bind m f := fun o => (m o).bind (next f)

/-- Throw the exception `e`. -/
def throw (e : E) : Method C A E S α := fun o => .pure (.threw e, o)

/-- The fuel of a loop is used up. -/
def stillRunning : Method C A E S α := fun o => .pure (.running, o)

/-- Call the environment. -/
def call (c : C) : Method C A E S (A c) := fun o => .call c fun x => .pure (.returned x, o)

/-- The object itself. -/
def this : Method C A E S S := fun o => .pure (.returned o, o)

/-- Write the fields of the object. -/
def modify (f : S → S) : Method C A E S Unit := fun o => .pure (.returned (), f o)

/-- A loop: `body` either goes on with the next value of the loop's variables, or leaves the loop with a result. -/
def iterate (body : β → Method C A E S (β ⊕ α)) : ℕ → β → Method C A E S α
  | 0, _ => stillRunning
  | n + 1, b => body b >>= Sum.elim (iterate body n) pure

end Method

end SocketLibrary.Interaction
